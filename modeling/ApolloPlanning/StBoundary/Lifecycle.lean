import ApolloPlanning.StBoundary.Transform

namespace ApolloPlanning.StBoundary

-- The calls that take a boundary a planner holds to the next one: `ExpandByS`, `ExpandByT` and
-- `CutOffByT` return a new boundary, `SetBoundaryType` retypes the one it is called on.
inductive Op (α : Type)
  | expandByS (s : α)
  | expandByT (t : α)
  | cutOffByT (t : α)
  | setBoundaryType (boundaryType : BoundaryType)
  deriving DecidableEq, Repr

variable {α : Type} [LinearOrderedField α]

namespace Op

def apply (sHighLimit : α) : Op α → StBoundary α → Option (StBoundary α)
  | expandByS s, b => StBoundary.expandByS sHighLimit b s
  | expandByT t, b => StBoundary.expandByT sHighLimit b t
  | cutOffByT t, b => StBoundary.cutOffByT sHighLimit b t
  | setBoundaryType ty, b => some (b.setBoundaryType ty)

-- The arguments the operations are meant for.
def Admissible : Op α → Prop
  | expandByS s => 0 ≤ s
  | expandByT t => kMinDeltaT < t
  | cutOffByT _ | setBoundaryType _ => True

instance : DecidablePred (Admissible (α := α))
  | expandByS s => inferInstanceAs (Decidable (0 ≤ s))
  | expandByT t => inferInstanceAs (Decidable (kMinDeltaT < t))
  | cutOffByT _ | setBoundaryType _ => inferInstanceAs (Decidable True)

-- A transformation builds a new boundary of the default type `UNKNOWN`.
def typeAfter : BoundaryType → Op α → BoundaryType
  | _, setBoundaryType ty => ty
  | _, _ => .unknown

end Op

-- A run of operations from a boundary; `none` if one of them aborts.
def applyOps (sHighLimit : α) : List (Op α) → StBoundary α → Option (StBoundary α)
  | [], b => some b
  | op :: ops, b => (op.apply sHighLimit b).bind (applyOps sHighLimit ops)

theorem applyOps_append (sHighLimit : α) (ops ops' : List (Op α)) (b : StBoundary α) :
    applyOps sHighLimit (ops ++ ops') b = (applyOps sHighLimit ops b).bind (applyOps sHighLimit ops') := by
  induction ops generalizing b with
  | nil => rfl
  | cons op ops ih =>
    show (op.apply sHighLimit b).bind (applyOps sHighLimit (ops ++ ops')) =
      ((op.apply sHighLimit b).bind (applyOps sHighLimit ops)).bind (applyOps sHighLimit ops')
    simp only [ih, Option.bind_assoc]

-- The boundaries a planner can hold: the constructor's result on valid retained pairs whose
-- polygon passes `BuildFromPoints`, or the default-constructed boundary, either of them retyped.
inductive WellFormed (sHighLimit : α) : StBoundary α → Prop
  | built {R : List (PointPair α)} (hR : Valid R) (harea : kMathEpsilon < signedArea (polygonOf R))
      (ty : BoundaryType) : WellFormed sHighLimit ((ofReducedPairs sHighLimit R).setBoundaryType ty)
  | empty (ty : BoundaryType) : WellFormed sHighLimit ((empty sHighLimit).setBoundaryType ty)

-- What the queries answer, read off the interpolants of the two chains.
def contains (b : StBoundary α) (p : STPoint α) : Bool :=
  decide (b.minT < p.t ∧ p.t < b.maxT ∧ piecewiseLinear b.lowerPoints p.t < p.s ∧
    p.s < piecewiseLinear b.upperPoints p.t)

-- At `min_t_` the ratio is `0 / 0` and the clamps return their bounds.
def boundarySRange (b : StBoundary α) (t : α) (sUpper sLower : Option α) : SRange α :=
  if t < b.minT ∨ t > b.maxT then ⟨false, sUpper, sLower⟩
  else if t = b.minT then ⟨true, some b.sHighLimit, some 0⟩
  else ⟨true, some (min (piecewiseLinear b.upperPoints t) b.sHighLimit),
    some (max (piecewiseLinear b.lowerPoints t) 0)⟩

-- `GetUnblockSRange` by type; `none` is the NaN it reports at `min_t_`.
def unblockSRange (b : StBoundary α) (t : α) : SRange α :=
  if t < b.minT ∨ t > b.maxT then ⟨true, some b.sHighLimit, some 0⟩
  else match b.boundaryType with
    | .stop | .yield | .follow =>
      ⟨true, if t = b.minT then none else some (piecewiseLinear b.lowerPoints t), some 0⟩
    | .overtake =>
      ⟨true, some b.sHighLimit, some (if t = b.minT then 0 else max (piecewiseLinear b.upperPoints t) 0)⟩
    | .keepClear | .unknown => ⟨false, some b.sHighLimit, some 0⟩

section Empty

variable {sHighLimit : α} {ty : BoundaryType}

theorem kDoubleMax_pos : (0 : α) < kDoubleMax := by
  norm_num [kDoubleMax]

theorem empty_maxT_lt_minT :
    ((empty sHighLimit).setBoundaryType ty).maxT < ((empty sHighLimit).setBoundaryType ty).minT := by
  show -kDoubleMax < (kDoubleMax : α)
  linarith [kDoubleMax_pos (α := α)]

theorem empty_exterior (t : α) :
    t < ((empty sHighLimit).setBoundaryType ty).minT ∨ t > ((empty sHighLimit).setBoundaryType ty).maxT :=
  (lt_or_le t _).imp_right fun h => empty_maxT_lt_minT.trans_le h

theorem contains_empty (p : STPoint α) : contains ((empty sHighLimit).setBoundaryType ty) p = false :=
  decide_eq_false fun h => absurd (h.1.trans h.2.1) (not_lt.mpr empty_maxT_lt_minT.le)

end Empty

theorem unblockSRange_not_contains {b : StBoundary α} {t up low s : α}
    (hu : unblockSRange b t = ⟨true, some up, some low⟩) (hs : low ≤ s) (hs' : s ≤ up) :
    contains b ⟨s, t⟩ = false := by
  refine decide_eq_false fun ⟨hmin, hmax, hlow, hup⟩ => ?_
  dsimp only at hmin hmax hlow hup
  rw [unblockSRange, if_neg (not_or.mpr ⟨not_lt.mpr hmin.le, not_lt.mpr hmax.le⟩)] at hu
  cases hty : b.boundaryType <;> simp only [hty, if_neg hmin.ne', SRange.mk.injEq, Option.some.injEq, true_and,
    Bool.false_eq_true, false_and] at hu
  case overtake => exact lt_irrefl _ (((le_max_left _ _).trans (hu.2.trans_le hs)).trans_lt hup)
  all_goals exact absurd hu.1 (hlow.trans_le hs').ne

section Queries

variable {b : StBoundary α} {R : List (PointPair α)} (hb : BuiltFrom b R)
include hb

theorem BuiltFrom.getBoundarySRange_eq (t : α) (sUpper sLower : Option α) :
    getBoundarySRange b t sUpper sLower = some (boundarySRange b t sUpper sLower) := by
  unfold boundarySRange
  split_ifs with h₁ h₂
  · exact getBoundarySRange_of_exterior h₁ _ _
  · subst h₂
    exact hb.getBoundarySRange_at_minT _ _
  · push_neg at h₁
    exact hb.getBoundarySRange_of_interior (h₁.1.lt_of_ne (Ne.symm h₂)) h₁.2 _ _

theorem BuiltFrom.getUnblockSRange_eq (t : α) : getUnblockSRange b t = some (unblockSRange b t) := by
  by_cases h₁ : t < b.minT ∨ t > b.maxT
  · rw [getUnblockSRange_of_exterior h₁, unblockSRange, if_pos h₁]
  · rw [unblockSRange, if_neg h₁]
    push_neg at h₁
    rcases h₁.1.lt_or_eq with h | rfl
    · rw [hb.getUnblockSRange_of_interior h h₁.2]
      rcases b.boundaryType <;> simp [h.ne']
    · rw [hb.getUnblockSRange_at_minT]
      rcases b.boundaryType <;> simp

end Queries

section Region

variable {b : StBoundary α} {R : List (PointPair α)}

theorem le_getLast_t {y : PointPair α} {R : List (PointPair α)} (h : (y :: R).Chain' GapOk) :
    y.1.t ≤ ((y :: R).getLast (List.cons_ne_nil _ _)).1.t := by
  rcases List.mem_cons.mp (List.getLast_mem (List.cons_ne_nil y R)) with h' | h'
  · rw [h']
  · have := ((List.pairwise_cons.mp (List.chain'_iff_pairwise.mp h)).1 _ h').lt
    linarith [kMinDeltaT_pos (α := α)]

theorem lineAt_lt_lineAt {a b a' b' : STPoint α} {t : α} (ha : a'.t = a.t) (hb : b'.t = b.t)
    (has : a.s ≤ a'.s) (hbs : b.s ≤ b'.s) (hlt : a.s < a'.s ∨ b.s < b'.s) (h₁ : a.t < t) (h₂ : t < b.t) :
    lineAt a b t < lineAt a' b' t := by
  simp only [lineAt, ha, hb]
  set r := (t - a.t) / (b.t - a.t)
  have hr₀ : 0 < r := div_pos (sub_pos.mpr h₁) (sub_pos.mpr (h₁.trans h₂))
  have hr₁ : 0 < 1 - r := sub_pos.mpr ((div_lt_one (sub_pos.mpr (h₁.trans h₂))).mpr (sub_lt_sub_right h₂ _))
  have key : a'.s + r * (b'.s - a'.s) - (a.s + r * (b.s - a.s)) = (1 - r) * (a'.s - a.s) + r * (b'.s - b.s) := by
    ring
  rw [← sub_pos, key]
  rcases hlt with h | h
  · exact add_pos_of_pos_of_nonneg (mul_pos hr₁ (sub_pos.mpr h)) (mul_nonneg hr₀.le (sub_nonneg.mpr hbs))
  · exact add_pos_of_nonneg_of_pos (mul_nonneg hr₁.le (sub_nonneg.mpr has)) (mul_pos hr₀ (sub_pos.mpr h))

theorem exists_interpolant_lt : ∀ {x y : PointPair α} {R : List (PointPair α)},
    (∀ p ∈ x :: y :: R, PairOk p) → (x :: y :: R).Chain' GapOk → (∃ z ∈ x :: y :: R, z.1.s < z.2.s) →
    ∃ t, x.1.t < t ∧ t < ((y :: R).getLast (List.cons_ne_nil _ _)).1.t ∧
      piecewiseLinear ((x :: y :: R).map lowerOf) t < piecewiseLinear ((x :: y :: R).map upperOf) t
  | x, y, R, hok, hgap, ⟨z, hz, hzw⟩ => by
    have hxy : x.1.t < y.1.t := by linarith only [(List.chain'_cons.mp hgap).1.lt, kMinDeltaT_pos (α := α)]
    by_cases hw : x.1.s < x.2.s ∨ y.1.s < y.2.s
    case pos =>
      have hmid := add_div_two_lt_right.mpr hxy
      refine ⟨(x.1.t + y.1.t) / 2, left_lt_add_div_two.mpr hxy,
        hmid.trans_le (le_getLast_t (List.chain'_cons.mp hgap).2), ?_⟩
      simp only [List.map_cons, piecewiseLinear, lowerOf_t, upperOf_t, hmid.le, if_true]
      exact lineAt_lt_lineAt rfl rfl (hok x (List.mem_cons_self _ _)).1
        (hok y (List.mem_cons_of_mem _ (List.mem_cons_self _ _))).1 hw (left_lt_add_div_two.mpr hxy) hmid
    case neg =>
      have hz' : z ∈ y :: R := (List.mem_cons.mp hz).resolve_left fun h => hw (.inl (h ▸ hzw))
      cases R with
      | nil => exact absurd (.inr (List.mem_singleton.mp hz' ▸ hzw)) hw
      | cons w R =>
        obtain ⟨t, h₁, h₂, h₃⟩ := exists_interpolant_lt (fun p hp => hok p (List.mem_cons_of_mem _ hp))
          (List.chain'_cons.mp hgap).2 ⟨z, hz', hzw⟩
        refine ⟨t, hxy.trans h₁, by rwa [List.getLast_cons (List.cons_ne_nil _ _)], ?_⟩
        rwa [List.map_cons lowerOf x, piecewiseLinear_cons_of_lt _ (by simp) h₁,
          List.map_cons upperOf x, piecewiseLinear_cons_of_lt _ (by simp) h₁]

theorem BuiltFrom.exists_contains_iff (hb : BuiltFrom b R) :
    (∃ p, isPointInBoundary b p = some true) ↔ ∃ z ∈ R, z.1.s < z.2.s := by
  simp only [hb.isPointInBoundary_eq_some_true]
  constructor
  · rintro ⟨p, h₁, h₂, hl, hu⟩
    rw [hb.minT_eq] at h₁
    rw [hb.maxT_eq] at h₂
    obtain ⟨k, hk, -, hk₁, hk₂, hpl⟩ := getIndexRange_of_interior hb.valid.ne_nil h₁ h₂.le
    rw [hb.lowerPoints_eq, hpl lowerOf fun _ => rfl] at hl
    rw [hb.upperPoints_eq, hpl upperOf fun _ => rfl] at hu
    by_contra hw
    push_neg at hw
    have : lineAt (upperOf R[k]) (upperOf R[k + 1]) p.t ≤ lineAt (lowerOf R[k]) (lowerOf R[k + 1]) p.t :=
      lineAt_le_lineAt rfl rfl (hw _ (List.getElem_mem _)) (hw _ (List.getElem_mem _)) hk₁ hk₂
    exact not_lt.mpr this (hl.trans hu)
  · intro hz
    have hV := hb.valid
    obtain ⟨x, y, R', rfl⟩ : ∃ x y R', R = x :: y :: R' := match R, hV.two_le with
      | x :: y :: R', _ => ⟨x, y, R', rfl⟩
    obtain ⟨t, h₁, h₂, h₃⟩ := exists_interpolant_lt hV.pair_ok hV.gap_ok hz
    rw [← hb.lowerPoints_eq, ← hb.upperPoints_eq] at h₃
    refine ⟨⟨(piecewiseLinear b.lowerPoints t + piecewiseLinear b.upperPoints t) / 2, t⟩,
      hb.minT_eq ▸ h₁, ?_, left_lt_add_div_two.mpr h₃, add_div_two_lt_right.mpr h₃⟩
    rw [hb.maxT_eq, List.getLast_cons (List.cons_ne_nil _ _)]
    exact h₂

theorem le_getLast_of_mem : ∀ {R : List (PointPair α)}, R.Chain' GapOk → ∀ {y : PointPair α} (hy : y ∈ R),
    y.1.t ≤ (R.getLast (List.ne_nil_of_mem hy)).1.t
  | _ :: R, h, y, hy => by
    rcases List.mem_cons.mp hy with rfl | hy
    · exact le_getLast_t h
    · rw [List.getLast_cons (List.ne_nil_of_mem hy)]
      exact le_getLast_of_mem h.tail hy

end Region

section TimeRange

variable {sHighLimit : α} {b : StBoundary α} {R : List (PointPair α)} (hb : BuiltFrom b R)
include hb

theorem BuiltFrom.expandByS_timeRange {s : α} (hs : 0 ≤ s) {b' : StBoundary α}
    (h : expandByS sHighLimit b s = some b') : b'.minT = b.minT ∧ b'.maxT = b.maxT := by
  have hW := hb.valid.widen hs
  obtain ⟨h₁, h₂⟩ := hW.simplify_minT_maxT sHighLimit
  obtain ⟨-, -, rfl⟩ := ofPairs_eq_some_iff.mp (hb.expandByS_eq s ▸ h)
  exact ⟨by rw [h₁, hb.minT_eq, List.head_map], by rw [h₂, hb.maxT_eq, List.getLast_map]⟩

theorem BuiltFrom.expandByT_timeRange {t : α} (ht : kMinDeltaT < t) :
    ∃ b', expandByT sHighLimit b t = some b' ∧ b'.minT = b.minT - t ∧ b'.maxT = b.maxT + t := by
  obtain ⟨front, back, heq, hf, hbk, hf₁, hf₂, hb₁, hb₂, hfw, -⟩ := hb.expandByT_eq sHighLimit t
  have hV := (hb.valid.extrapolated_iff hf hbk hf₁ hf₂ hb₁ hb₂).mpr ht
  obtain ⟨h₁, h₂⟩ := hV.simplify_minT_maxT sHighLimit
  refine ⟨_, by rw [heq, hV.ofPairs_of_wide_head rfl hfw], ?_, ?_⟩
  · rw [h₁, hb.minT_eq, ← hf₁]
    rfl
  · rw [h₂, hb.maxT_eq, ← hb₁, List.getLast_append_singleton]

theorem BuiltFrom.cutOffByT_timeRange (c : α) {b' : StBoundary α} (h : cutOffByT sHighLimit b c = some b') :
    b' = empty sHighLimit ∨ c ≤ b'.minT ∧ b'.maxT = b.maxT := by
  rw [hb.cutOffByT_eq] at h
  split at h
  case isTrue => exact .inl (Option.some.inj h).symm
  case isFalse hk =>
    have hV := hb.valid.filter_samplePair (not_lt.mp hk)
    obtain ⟨h₁, h₂⟩ := hV.simplify_minT_maxT sHighLimit
    obtain ⟨-, -, rfl⟩ := ofPairs_eq_some_iff.mp h
    have hF : R.filter (fun x => c ≤ x.1.t) ≠ [] := fun h => by simp [h] at hk
    obtain ⟨y, hy⟩ := List.exists_mem_of_ne_nil _ hF
    have hlast : decide (c ≤ (R.getLast hb.valid.ne_nil).1.t) = true := by
      have hy' := List.mem_filter.mp hy
      exact decide_eq_true ((of_decide_eq_true hy'.2).trans (le_getLast_of_mem hb.valid.gap_ok hy'.1))
    refine .inr ⟨?_, ?_⟩
    · rw [h₁, List.head_map]
      exact of_decide_eq_true (List.mem_filter.mp (List.head_mem hF)).2
    · rw [h₂, hb.maxT_eq, List.getLast_map, samplePair_fst, lowerOf_t,
        List.getLast_filter_of_pos (p := fun x => decide (c ≤ x.1.t)) hb.valid.ne_nil hlast]

end TimeRange

section Wide

variable {sHighLimit : α} {Q : List (PointPair α)}

theorem wide_zip_ofReducedPairs :
    Wide (List.zip (ofReducedPairs sHighLimit Q).lowerPoints (ofReducedPairs sHighLimit Q).upperPoints) ↔
      Wide Q := by
  rw [ofReducedPairs_lowerPoints, ofReducedPairs_upperPoints, List.zip_map']
  exact wide_map_samplePair

theorem wide_zip_of_ofPairs {P : List (PointPair α)} {B : StBoundary α} (hB : ofPairs sHighLimit P = some B)
    (hw : Wide P) : Wide (List.zip B.lowerPoints B.upperPoints) := by
  obtain ⟨-, -, rfl⟩ := ofPairs_eq_some_iff.mp hB
  exact wide_zip_ofReducedPairs.mpr (hw.sublist simplify_sublist)

theorem Valid.ofPairs_wide (hQ : Valid Q) (hw : Wide Q) :
    ∃ b', ofPairs sHighLimit Q = some b' ∧ Wide (List.zip b'.lowerPoints b'.upperPoints) :=
  ⟨_, ofPairs_eq_of_wide (isValid_iff.mpr hQ) hw, wide_zip_ofReducedPairs.mpr (hw.sublist simplify_sublist)⟩

theorem wide_nil : Wide ([] : List (PointPair α)) :=
  fun _ h => (List.not_mem_nil _ h).elim

theorem kMathEpsilon_div_le_kMinSEpsilon : kMathEpsilon / kMinDeltaT ≤ (kMinSEpsilon : α) := by
  norm_num [kMathEpsilon, kMinDeltaT, kMinSEpsilon]

end Wide

namespace WellFormed

variable {sHighLimit : α} {b b' : StBoundary α} {P : List (PointPair α)}

theorem of_ofPairs (hB : ofPairs sHighLimit P = some b) : WellFormed sHighLimit b := by
  obtain ⟨hP, harea, rfl⟩ := ofPairs_eq_some_iff.mp hB
  exact .built (isValid_iff.mp hP).valid_simplify harea .unknown

theorem sHighLimit_eq : WellFormed sHighLimit b → b.sHighLimit = sHighLimit
  | .built _ _ _ | .empty _ => rfl

theorem cases_builtFrom : WellFormed sHighLimit b →
    (∃ ty, b = (StBoundary.empty sHighLimit).setBoundaryType ty) ∨
      ∃ R, BuiltFrom b R ∧ RepInv b ∧ kMathEpsilon < signedArea b.points
  | @built _ _ _ R hR harea ty => .inr ⟨_, (builtFrom_ofReducedPairs hR).setBoundaryType ty,
      { (ofReducedPairs_repInv hR : RepInv (ofReducedPairs sHighLimit R)) with }, harea⟩
  | .empty ty => .inl ⟨ty, rfl⟩

theorem lowerPoints_ne_nil (hb : WellFormed sHighLimit b) (h : b.minT < b.maxT) : b.lowerPoints ≠ [] := by
  rcases hb.cases_builtFrom with ⟨ty, rfl⟩ | ⟨R, hR, -⟩
  · exact absurd h (not_lt.mpr empty_maxT_lt_minT.le)
  · rw [hR.lowerPoints_eq]
    simpa using hR.valid.ne_nil

theorem transform_cases (hb : WellFormed sHighLimit b) {op : Op α} (hop : ∀ ty, op ≠ .setBoundaryType ty)
    (h : op.apply sHighLimit b = some b') : b' = StBoundary.empty sHighLimit ∨ ∃ P, ofPairs sHighLimit P = some b' := by
  rcases hb with @⟨R, hR, -, ty⟩ | ty
  case built =>
    have hb := (builtFrom_ofReducedPairs hR : BuiltFrom (ofReducedPairs sHighLimit R) R).setBoundaryType ty
    cases op with
    | expandByS s =>
      rw [Op.apply, hb.expandByS_eq s] at h
      exact .inr ⟨_, h⟩
    | expandByT t =>
      obtain ⟨front, back, heq, -⟩ := hb.expandByT_eq sHighLimit t
      rw [Op.apply, heq] at h
      exact .inr ⟨_, h⟩
    | cutOffByT c =>
      simp only [Op.apply, hb.cutOffByT_eq] at h
      split at h
      case isTrue => exact .inl (Option.some.inj h).symm
      case isFalse => exact .inr ⟨_, h⟩
    | setBoundaryType ty' => exact absurd rfl (hop ty')
  case empty =>
    cases op with
    | setBoundaryType ty' => exact absurd rfl (hop ty')
    | _ => exact .inl (Option.some.inj h).symm

theorem of_transform_result (h : b' = StBoundary.empty sHighLimit ∨ ∃ P, ofPairs sHighLimit P = some b') :
    WellFormed sHighLimit b' ∧ b'.boundaryType = .unknown := by
  rcases h with rfl | ⟨P, hP⟩
  · exact ⟨.empty .unknown, rfl⟩
  · refine ⟨of_ofPairs hP, ?_⟩
    obtain ⟨-, -, rfl⟩ := ofPairs_eq_some_iff.mp hP
    rfl

theorem apply (hb : WellFormed sHighLimit b) {op : Op α} (h : op.apply sHighLimit b = some b') :
    WellFormed sHighLimit b' ∧ b'.boundaryType = op.typeAfter b.boundaryType := by
  by_cases hop : ∀ ty, op ≠ .setBoundaryType ty
  case pos =>
    obtain ⟨hw, hty⟩ := of_transform_result (hb.transform_cases hop h)
    refine ⟨hw, hty.trans ?_⟩
    cases op <;> first | rfl | exact absurd rfl (hop _)
  case neg =>
    push_neg at hop
    obtain ⟨ty', rfl⟩ := hop
    cases (Option.some.inj h)
    refine ⟨?_, rfl⟩
    cases hb
    · exact .built ‹_› ‹_› ty'
    · exact .empty ty'

theorem apply_wide (hb : WellFormed sHighLimit b) (hw : Wide (List.zip b.lowerPoints b.upperPoints))
    {op : Op α} (hop : op.Admissible) :
    ∃ b', op.apply sHighLimit b = some b' ∧ Wide (List.zip b'.lowerPoints b'.upperPoints) := by
  rcases hb with @⟨R, hR, -, ty⟩ | ty
  case built =>
    have hb := (builtFrom_ofReducedPairs hR : BuiltFrom (ofReducedPairs sHighLimit R) R).setBoundaryType ty
    have hwR : Wide R := wide_map_samplePair.mp (hb.zip_points ▸ hw)
    cases op with
    | expandByS s =>
      have hs : 0 ≤ s := hop
      rw [Op.apply, hb.expandByS_eq]
      exact (hR.widen hs).ofPairs_wide (wide_widen fun x hx => by linarith [hwR x hx])
    | expandByT t =>
      obtain ⟨front, back, heq, hf, hbk, hf₁, hf₂, hb₁, hb₂, hfw, hbw⟩ := hb.expandByT_eq sHighLimit t
      have hV := (hR.extrapolated_iff hf hbk hf₁ hf₂ hb₁ hb₂).mpr hop
      have hwL : Wide (front :: R.map samplePair ++ [back]) := by
        simp only [Wide, List.cons_append, List.mem_cons, List.mem_append, List.not_mem_nil, or_false]
        rintro x (rfl | hx | rfl)
        · exact kMathEpsilon_div_le_kMinSEpsilon.trans hfw
        · exact wide_map_samplePair.mpr hwR x hx
        · exact kMathEpsilon_div_le_kMinSEpsilon.trans hbw
      rw [Op.apply, heq]
      exact hV.ofPairs_wide hwL
    | cutOffByT c =>
      rw [Op.apply, hb.cutOffByT_eq]
      split
      case isTrue => exact ⟨_, rfl, wide_nil⟩
      case isFalse hk =>
        exact (hR.filter_samplePair (not_lt.mp hk)).ofPairs_wide
          (wide_map_samplePair.mpr (hwR.sublist (List.filter_sublist _)))
    | setBoundaryType ty' => exact ⟨_, rfl, hw⟩
  case empty => cases op <;> exact ⟨_, rfl, wide_nil⟩

theorem applyOps {ops : List (Op α)} (hb : WellFormed sHighLimit b)
    (h : StBoundary.applyOps sHighLimit ops b = some b') :
    WellFormed sHighLimit b' ∧ b'.boundaryType = ops.foldl Op.typeAfter b.boundaryType := by
  induction ops generalizing b with
  | nil => cases h; exact ⟨hb, rfl⟩
  | cons op ops ih =>
    obtain ⟨b₁, h₁, h₂⟩ := Option.bind_eq_some.mp h
    obtain ⟨hb₁, hty₁⟩ := hb.apply h₁
    rw [List.foldl_cons, ← hty₁]
    exact ih hb₁ h₂

theorem applyOps_wide {ops : List (Op α)} (hb : WellFormed sHighLimit b)
    (hw : Wide (List.zip b.lowerPoints b.upperPoints)) (hops : ∀ op ∈ ops, op.Admissible) :
    ∃ b', StBoundary.applyOps sHighLimit ops b = some b' ∧ Wide (List.zip b'.lowerPoints b'.upperPoints) := by
  induction ops generalizing b with
  | nil => exact ⟨b, rfl, hw⟩
  | cons op ops ih =>
    obtain ⟨b₁, h₁, hw₁⟩ := hb.apply_wide hw (hops op (List.mem_cons_self _ _))
    rw [StBoundary.applyOps, h₁, Option.some_bind]
    exact ih (hb.apply h₁).1 hw₁ fun op hop => hops op (List.mem_cons_of_mem _ hop)

theorem isPointInBoundary_eq (hb : WellFormed sHighLimit b) (p : STPoint α) :
    isPointInBoundary b p = some (contains b p) := by
  rcases hb with @⟨R, hR, -, ty⟩ | ty
  case built => exact ((builtFrom_ofReducedPairs hR).setBoundaryType ty).isPointInBoundary_eq p
  case empty =>
    rw [isPointInBoundary, if_pos ((empty_exterior p.t).imp le_of_lt le_of_lt), contains_empty]

theorem getBoundarySRange_eq (hb : WellFormed sHighLimit b) (t : α) (sUpper sLower : Option α) :
    getBoundarySRange b t sUpper sLower = some (boundarySRange b t sUpper sLower) := by
  rcases hb with @⟨R, hR, -, ty⟩ | ty
  case built => exact ((builtFrom_ofReducedPairs hR).setBoundaryType ty).getBoundarySRange_eq t _ _
  case empty =>
    rw [getBoundarySRange_of_exterior (empty_exterior t), boundarySRange, if_pos (empty_exterior t)]

theorem getUnblockSRange_eq (hb : WellFormed sHighLimit b) (t : α) :
    getUnblockSRange b t = some (unblockSRange b t) := by
  rcases hb with @⟨R, hR, -, ty⟩ | ty
  case built => exact ((builtFrom_ofReducedPairs hR).setBoundaryType ty).getUnblockSRange_eq t
  case empty =>
    rw [getUnblockSRange_of_exterior (empty_exterior t), unblockSRange, if_pos (empty_exterior t)]

theorem exists_contains_iff_area (hb : WellFormed sHighLimit b) :
    0 ≤ signedArea b.points ∧ ((∃ p, isPointInBoundary b p = some true) ↔ 0 < signedArea b.points) ∧
      (0 < signedArea b.points ↔ ∃ q ∈ List.zip b.lowerPoints b.upperPoints, q.1.s < q.2.s) ∧
      (0 < signedArea b.points → kMathEpsilon < signedArea b.points) := by
  rcases hb with @⟨R, hR, harea, ty⟩ | ty
  case built =>
    have hb : BuiltFrom ((ofReducedPairs sHighLimit _).setBoundaryType ty) _ :=
      (builtFrom_ofReducedPairs hR).setBoundaryType ty
    obtain ⟨x, y, R', rfl⟩ := hR.exists_eq_cons_cons
    have hpoly : signedArea ((ofReducedPairs sHighLimit (x :: y :: R')).setBoundaryType ty).points =
        trapezoidArea ((x :: y :: R').map lowerOf) ((x :: y :: R').map upperOf) :=
      signedArea_polygonOf _
    rw [signedArea_polygonOf] at harea
    have hpos := kMathEpsilon_pos.trans harea
    rw [hpoly, hb.zip_points, hb.exists_contains_iff, ← trapezoidArea_pos_iff hR.pair_ok hR.gap_ok]
    refine ⟨hpos.le, Iff.rfl, ⟨fun _ => ?_, fun _ => hpos⟩, fun _ => harea⟩
    obtain ⟨z, hz, hzw⟩ := (trapezoidArea_pos_iff hR.pair_ok hR.gap_ok).mp hpos
    exact ⟨_, List.mem_map_of_mem _ hz, hzw⟩
  case empty =>
    refine ⟨le_rfl, iff_of_false (fun ⟨p, hp⟩ => ?_) (lt_irrefl _), iff_of_false (lt_irrefl _) ?_,
      fun h => absurd h (lt_irrefl _)⟩
    · rw [(WellFormed.empty ty).isPointInBoundary_eq, contains_empty] at hp
      exact absurd hp (by decide)
    · rintro ⟨q, hq, -⟩
      exact List.not_mem_nil _ hq

end WellFormed

variable {sHighLimit : α} {P : List (PointPair α)} {B B' : StBoundary α}

theorem applyOps_boundaryType (hB : ofPairs sHighLimit P = some B) {ops : List (Op α)}
    (h : applyOps sHighLimit ops B = some B') :
    B'.boundaryType = ops.foldl Op.typeAfter .unknown ∧
      (B'.boundaryType = .unknown → ∀ t, B'.minT ≤ t → t ≤ B'.maxT →
        getUnblockSRange B' t = some ⟨false, some sHighLimit, some 0⟩) := by
  have hty₀ := (WellFormed.of_transform_result (.inr ⟨P, hB⟩)).2
  obtain ⟨hw, hty⟩ := (WellFormed.of_ofPairs hB).applyOps h
  refine ⟨hty.trans (by rw [hty₀]), fun hu t h₁ h₂ => ?_⟩
  rw [hw.getUnblockSRange_eq, unblockSRange, if_neg (by push_neg; exact ⟨h₁, h₂⟩), hu, hw.sHighLimit_eq]

theorem applyOps_boundaryType_specExample :
    let P : List (PointPair ℝ) := [(⟨0, 0⟩, ⟨2, 0⟩), (⟨1 / 2, 1⟩, ⟨5 / 2, 1⟩), (⟨1, 2⟩, ⟨3, 2⟩)]
    let ops : List (Op ℝ) := [.setBoundaryType .stop, .expandByS 1, .expandByT 1, .cutOffByT 0]
    ∃ B B', ofPairs 200 P = some B ∧ applyOps 200 ops B = some B' ∧
      B'.boundaryType = ops.foldl Op.typeAfter .unknown ∧
      (B'.boundaryType = .unknown → ∀ t, B'.minT ≤ t → t ≤ B'.maxT →
        getUnblockSRange B' t = some ⟨false, some 200, some 0⟩) := by
  intro P ops
  have hP : isValid P := by
    norm_num [P, isValid, isValidFrom, PairOk, GapOk, kStBoundaryEpsilon, kMinDeltaT]
  have hw : Wide P := by
    norm_num [Wide, P, kMathEpsilon, kMinDeltaT]
  have hops : ∀ op ∈ ops, op.Admissible := by norm_num [ops, Op.Admissible, kMinDeltaT]
  have hB : ofPairs 200 P = some _ := ofPairs_eq_of_wide hP hw
  obtain ⟨B', hB', -⟩ := (WellFormed.of_ofPairs hB).applyOps_wide (wide_zip_of_ofPairs hB hw) hops
  exact ⟨_, B', hB, hB', applyOps_boundaryType hB hB'⟩

theorem applyOps_queries (hB : ofPairs sHighLimit P = some B) {ops : List (Op α)}
    (h : applyOps sHighLimit ops B = some B') (p : STPoint α) (t : α) (sUpper sLower : Option α) :
    isPointInBoundary B' p = some (contains B' p) ∧
      getBoundarySRange B' t sUpper sLower = some (boundarySRange B' t sUpper sLower) ∧
      getUnblockSRange B' t = some (unblockSRange B' t) := by
  have hw := ((WellFormed.of_ofPairs hB).applyOps h).1
  exact ⟨hw.isPointInBoundary_eq p, hw.getBoundarySRange_eq t sUpper sLower, hw.getUnblockSRange_eq t⟩

theorem applyOps_queries_specExample :
    let P : List (PointPair ℝ) := [(⟨0, 0⟩, ⟨2, 0⟩), (⟨1 / 2, 1⟩, ⟨5 / 2, 1⟩), (⟨1, 2⟩, ⟨3, 2⟩)]
    let ops : List (Op ℝ) := [.setBoundaryType .stop, .expandByS 1, .expandByT 1, .cutOffByT 0]
    ∃ B B', ofPairs 200 P = some B ∧ applyOps 200 ops B = some B' ∧
      isPointInBoundary B' ⟨1, 1⟩ = some (contains B' ⟨1, 1⟩) ∧
      getBoundarySRange B' 1 none none = some (boundarySRange B' 1 none none) ∧
      getUnblockSRange B' 1 = some (unblockSRange B' 1) := by
  intro P ops
  have hP : isValid P := by
    norm_num [P, isValid, isValidFrom, PairOk, GapOk, kStBoundaryEpsilon, kMinDeltaT]
  have hw : Wide P := by
    norm_num [Wide, P, kMathEpsilon, kMinDeltaT]
  have hops : ∀ op ∈ ops, op.Admissible := by norm_num [ops, Op.Admissible, kMinDeltaT]
  have hB : ofPairs 200 P = some _ := ofPairs_eq_of_wide hP hw
  obtain ⟨B', hB', -⟩ := (WellFormed.of_ofPairs hB).applyOps_wide (wide_zip_of_ofPairs hB hw) hops
  exact ⟨_, B', hB, hB', applyOps_queries hB hB' ⟨1, 1⟩ 1 none none⟩

theorem applyOps_contains_iff_area (hB : ofPairs sHighLimit P = some B) {ops : List (Op α)}
    (h : applyOps sHighLimit ops B = some B') :
    0 ≤ signedArea B'.points ∧ ((∃ p, isPointInBoundary B' p = some true) ↔ 0 < signedArea B'.points) ∧
      (0 < signedArea B'.points ↔ ∃ q ∈ List.zip B'.lowerPoints B'.upperPoints, q.1.s < q.2.s) ∧
      (0 < signedArea B'.points → kMathEpsilon < signedArea B'.points) :=
  ((WellFormed.of_ofPairs hB).applyOps h).1.exists_contains_iff_area

theorem applyOps_contains_iff_area_specExample :
    let P : List (PointPair ℝ) := [(⟨0, 0⟩, ⟨2, 0⟩), (⟨1 / 2, 1⟩, ⟨5 / 2, 1⟩), (⟨1, 2⟩, ⟨3, 2⟩)]
    let ops : List (Op ℝ) := [.setBoundaryType .stop, .expandByS 1, .expandByT 1, .cutOffByT 0]
    ∃ B B', ofPairs 200 P = some B ∧ applyOps 200 ops B = some B' ∧ 0 ≤ signedArea B'.points ∧
      ((∃ p, isPointInBoundary B' p = some true) ↔ 0 < signedArea B'.points) ∧
      (0 < signedArea B'.points ↔ ∃ q ∈ List.zip B'.lowerPoints B'.upperPoints, q.1.s < q.2.s) ∧
      (0 < signedArea B'.points → kMathEpsilon < signedArea B'.points) := by
  intro P ops
  have hP : isValid P := by
    norm_num [P, isValid, isValidFrom, PairOk, GapOk, kStBoundaryEpsilon, kMinDeltaT]
  have hw : Wide P := by
    norm_num [Wide, P, kMathEpsilon, kMinDeltaT]
  have hops : ∀ op ∈ ops, op.Admissible := by norm_num [ops, Op.Admissible, kMinDeltaT]
  have hB : ofPairs 200 P = some _ := ofPairs_eq_of_wide hP hw
  obtain ⟨B', hB', -⟩ := (WellFormed.of_ofPairs hB).applyOps_wide (wide_zip_of_ofPairs hB hw) hops
  exact ⟨_, B', hB, hB', applyOps_contains_iff_area hB hB'⟩

theorem applyOps_timeRange (hB : ofPairs sHighLimit P = some B) {ops : List (Op α)}
    (h : applyOps sHighLimit ops B = some B') (hne : B'.lowerPoints ≠ []) :
    (∀ s, 0 ≤ s → ∀ B'', expandByS sHighLimit B' s = some B'' → B''.minT = B'.minT ∧ B''.maxT = B'.maxT) ∧
    (∀ t, kMinDeltaT < t →
      ∃ B'', expandByT sHighLimit B' t = some B'' ∧ B''.minT = B'.minT - t ∧ B''.maxT = B'.maxT + t) ∧
    ∀ c B'', cutOffByT sHighLimit B' c = some B'' →
      B'' = empty sHighLimit ∨ c ≤ B''.minT ∧ B''.maxT = B'.maxT := by
  rcases ((WellFormed.of_ofPairs hB).applyOps h).1.cases_builtFrom with ⟨ty, rfl⟩ | ⟨R, hb, -⟩
  · exact absurd rfl hne
  · exact ⟨fun _ hs _ => hb.expandByS_timeRange hs, fun _ ht => hb.expandByT_timeRange ht,
      fun c _ => hb.cutOffByT_timeRange c⟩

-- A run that lengthens a constructed boundary by `1` and retypes it.
theorem applyOps_expandByT_one (hB : ofPairs sHighLimit P = some B) :
    ∃ B', applyOps sHighLimit [.expandByT 1, .setBoundaryType .stop] B = some B' ∧
      B'.minT = B.minT - 1 ∧ B'.maxT = B.maxT + 1 := by
  obtain ⟨R, hb, -⟩ := exists_builtFrom_of_ofPairs_eq_some hB
  obtain ⟨B', hB', h₁, h₂⟩ : ∃ b', expandByT sHighLimit B 1 = some b' ∧ b'.minT = B.minT - 1 ∧
      b'.maxT = B.maxT + 1 := hb.expandByT_timeRange (by norm_num [kMinDeltaT])
  exact ⟨B'.setBoundaryType .stop, by simp only [applyOps, Op.apply, hB', Option.some_bind], h₁, h₂⟩

theorem applyOps_timeRange_specExample :
    let P : List (PointPair ℝ) := [(⟨0, 0⟩, ⟨2, 0⟩), (⟨1, 2⟩, ⟨3, 2⟩)]
    let ops : List (Op ℝ) := [.expandByT 1, .setBoundaryType .stop]
    ∃ B B', ofPairs 200 P = some B ∧ applyOps 200 ops B = some B' ∧ B'.lowerPoints ≠ [] ∧
      (∀ s, 0 ≤ s → ∀ B'', expandByS 200 B' s = some B'' → B''.minT = B'.minT ∧ B''.maxT = B'.maxT) ∧
      (∀ t, kMinDeltaT < t →
        ∃ B'', expandByT 200 B' t = some B'' ∧ B''.minT = B'.minT - t ∧ B''.maxT = B'.maxT + t) ∧
      ∀ c B'', cutOffByT 200 B' c = some B'' → B'' = empty 200 ∨ c ≤ B''.minT ∧ B''.maxT = B'.maxT := by
  intro P ops
  have hP : isValid P := by
    norm_num [P, isValid, isValidFrom, PairOk, GapOk, kStBoundaryEpsilon, kMinDeltaT]
  have hw : Wide P := by
    norm_num [Wide, P, kMathEpsilon, kMinDeltaT]
  have hB : ofPairs 200 P = some _ := ofPairs_eq_of_wide hP hw
  obtain ⟨R, hb, -⟩ := exists_builtFrom_of_ofPairs_eq_some hB
  obtain ⟨B', hrun, h₁, h₂⟩ := applyOps_expandByT_one hB
  have hne : B'.lowerPoints ≠ [] := ((WellFormed.of_ofPairs hB).applyOps hrun).1.lowerPoints_ne_nil (by
    rw [h₁, h₂]
    linarith [hb.minT_lt_maxT])
  exact ⟨_, _, hB, hrun, hne, applyOps_timeRange hB hrun hne⟩

theorem applyOps_unblock_free (hB : ofPairs sHighLimit P = some B) {ops : List (Op α)}
    (h : applyOps sHighLimit ops B = some B') (t : α) :
    (∀ up low, getUnblockSRange B' t = some ⟨true, some up, some low⟩ →
      ∀ s, low ≤ s → s ≤ up → isPointInBoundary B' ⟨s, t⟩ = some false) ∧
    (B'.minT < t → t < B'.maxT →
      ((B'.boundaryType = .stop ∨ B'.boundaryType = .yield ∨ B'.boundaryType = .follow) →
        getUnblockSRange B' t = some ⟨true, some (piecewiseLinear B'.lowerPoints t), some 0⟩) ∧
      (B'.boundaryType = .overtake →
        getUnblockSRange B' t = some ⟨true, some B'.sHighLimit, some (max (piecewiseLinear B'.upperPoints t) 0)⟩)) := by
  have hw := ((WellFormed.of_ofPairs hB).applyOps h).1
  refine ⟨fun up low hu s h₁ h₂ => ?_, fun ht₁ ht₂ => ?_⟩
  · rw [hw.getUnblockSRange_eq, Option.some.injEq] at hu
    rw [hw.isPointInBoundary_eq, unblockSRange_not_contains hu h₁ h₂]
  · have hin : ¬(t < B'.minT ∨ t > B'.maxT) := not_or.mpr ⟨not_lt.mpr ht₁.le, not_lt.mpr ht₂.le⟩
    rw [hw.getUnblockSRange_eq, unblockSRange, if_neg hin]
    refine ⟨?_, fun hty => by simp only [hty, if_neg ht₁.ne']⟩
    rintro (hty | hty | hty) <;> simp only [hty, if_neg ht₁.ne']

theorem applyOps_unblock_free_specExample :
    let P : List (PointPair ℝ) := [(⟨0, 0⟩, ⟨2, 0⟩), (⟨1, 2⟩, ⟨3, 2⟩)]
    let ops : List (Op ℝ) := [.expandByT 1, .setBoundaryType .stop]
    ∃ B B', ofPairs 200 P = some B ∧ applyOps 200 ops B = some B' ∧
      (∀ up low, getUnblockSRange B' 1 = some ⟨true, some up, some low⟩ →
        ∀ s, low ≤ s → s ≤ up → isPointInBoundary B' ⟨s, 1⟩ = some false) ∧
      (B'.minT < 1 → 1 < B'.maxT →
        ((B'.boundaryType = .stop ∨ B'.boundaryType = .yield ∨ B'.boundaryType = .follow) →
          getUnblockSRange B' 1 = some ⟨true, some (piecewiseLinear B'.lowerPoints 1), some 0⟩) ∧
        (B'.boundaryType = .overtake →
          getUnblockSRange B' 1 = some ⟨true, some B'.sHighLimit, some (max (piecewiseLinear B'.upperPoints 1) 0)⟩)) := by
  intro P ops
  have hP : isValid P := by
    norm_num [P, isValid, isValidFrom, PairOk, GapOk, kStBoundaryEpsilon, kMinDeltaT]
  have hw : Wide P := by
    norm_num [Wide, P, kMathEpsilon, kMinDeltaT]
  have hB : ofPairs 200 P = some _ := ofPairs_eq_of_wide hP hw
  obtain ⟨B', hrun, -⟩ := applyOps_expandByT_one hB
  exact ⟨_, _, hB, hrun, applyOps_unblock_free hB hrun 1⟩

theorem applyOps_boundarySRange_brackets (hB : ofPairs sHighLimit P = some B) {ops : List (Op α)}
    (h : applyOps sHighLimit ops B = some B') {t : α} (ht : B'.minT < t ∧ t < B'.maxT)
    (sUpper sLower : Option α) :
    ∃ up low, getBoundarySRange B' t sUpper sLower = some ⟨true, some up, some low⟩ ∧
      ∀ s, (low < s ∧ s < up → isPointInBoundary B' ⟨s, t⟩ = some true) ∧
        (isPointInBoundary B' ⟨s, t⟩ = some true → 0 ≤ s → s ≤ B'.sHighLimit → low ≤ s ∧ s ≤ up) := by
  have hw := ((WellFormed.of_ofPairs hB).applyOps h).1
  refine ⟨min (piecewiseLinear B'.upperPoints t) B'.sHighLimit, max (piecewiseLinear B'.lowerPoints t) 0, ?_,
    fun s => ⟨fun hs => ?_, fun hin h0 hhigh => ?_⟩⟩
  · rw [hw.getBoundarySRange_eq, boundarySRange,
      if_neg (not_or.mpr ⟨not_lt.mpr ht.1.le, not_lt.mpr ht.2.le⟩), if_neg ht.1.ne']
  · rw [hw.isPointInBoundary_eq, Option.some.injEq, contains, decide_eq_true_iff]
    exact ⟨ht.1, ht.2, (le_max_left _ _).trans_lt hs.1, hs.2.trans_le (min_le_left _ _)⟩
  · rw [hw.isPointInBoundary_eq, Option.some.injEq, contains, decide_eq_true_iff] at hin
    exact ⟨max_le hin.2.2.1.le h0, le_min hin.2.2.2.le hhigh⟩

theorem applyOps_boundarySRange_brackets_specExample :
    let P : List (PointPair ℝ) := [(⟨0, 0⟩, ⟨2, 0⟩), (⟨1, 2⟩, ⟨3, 2⟩)]
    let ops : List (Op ℝ) := [.expandByT 1, .setBoundaryType .stop]
    ∃ B B', ofPairs 200 P = some B ∧ applyOps 200 ops B = some B' ∧ (B'.minT < 1 ∧ 1 < B'.maxT) ∧
      ∃ up low, getBoundarySRange B' 1 none none = some ⟨true, some up, some low⟩ ∧
        ∀ s, (low < s ∧ s < up → isPointInBoundary B' ⟨s, 1⟩ = some true) ∧
          (isPointInBoundary B' ⟨s, 1⟩ = some true → 0 ≤ s → s ≤ B'.sHighLimit → low ≤ s ∧ s ≤ up) := by
  intro P ops
  have hP : isValid P := by
    norm_num [P, isValid, isValidFrom, PairOk, GapOk, kStBoundaryEpsilon, kMinDeltaT]
  have hw : Wide P := by
    norm_num [Wide, P, kMathEpsilon, kMinDeltaT]
  have hB : ofPairs 200 P = some _ := ofPairs_eq_of_wide hP hw
  have hne : P ≠ [] := List.cons_ne_nil _ _
  obtain ⟨B', hrun, h₁, h₂⟩ := applyOps_expandByT_one hB
  have ht : B'.minT < 1 ∧ 1 < B'.maxT := by
    rw [h₁, h₂, simplify_of_length_le_two (by simp [P]), ofReducedPairs_minT hne, ofReducedPairs_maxT hne]
    norm_num [P]
  exact ⟨_, _, hB, hrun, ht, applyOps_boundarySRange_brackets hB hrun ht none none⟩

end ApolloPlanning.StBoundary
