import ApolloPlanning.StBoundary.Query

namespace ApolloPlanning.StBoundary

variable {α : Type}

-- The loops of `ExpandByS` and `ExpandByT` over `lower_points_`, reading `upper_points_[i]`
-- alongside; a read past its end is `none`.
def zipPoints (f : STPoint α → STPoint α → PointPair α) :
    List (STPoint α) → List (STPoint α) → Option (List (PointPair α))
  | [], _ => some []
  | l :: lower, u :: upper => (zipPoints f lower upper).map (f l u :: ·)
  | _ :: _, [] => none

def samplePair (x : PointPair α) : PointPair α := (lowerOf x, upperOf x)

@[simp] theorem samplePair_fst (x : PointPair α) : (samplePair x).1 = lowerOf x :=
  rfl

@[simp] theorem samplePair_snd (x : PointPair α) : (samplePair x).2 = upperOf x :=
  rfl

theorem zipPoints_map (f : STPoint α → STPoint α → PointPair α) (R : List (PointPair α)) :
    zipPoints f (R.map lowerOf) (R.map upperOf) = some (R.map fun x => f (lowerOf x) (upperOf x)) := by
  induction R with
  | nil => rfl
  | cons x R ih => simp [zipPoints, ih]

variable [LinearOrderedField α]

def kMinSEpsilon : α := 1 / 1000

theorem kMinSEpsilon_pos : (0 : α) < kMinSEpsilon := by
  norm_num [kMinSEpsilon]

-- `ExpandByS`; the result comes from the one-argument constructor, so it has the default type.
def expandByS (sHighLimit : α) (b : StBoundary α) (s : α) : Option (StBoundary α) :=
  if b.lowerPoints.isEmpty then some (empty sHighLimit)
  else (zipPoints (fun l u => (⟨l.s - s, l.t⟩, ⟨u.s + s, u.t⟩)) b.lowerPoints b.upperPoints).bind
    (ofPairs sHighLimit)

-- The pair `ExpandByT` puts `t` before the first sample, the lower chain kept `kMinSEpsilon` below
-- the upper one.
def frontPairByT (l0 l1 u0 u1 : STPoint α) (t : α) : PointPair α :=
  let leftDeltaT := l1.t - l0.t
  let lowerLeftDeltaS := l1.s - l0.s
  let upperLeftDeltaS := u1.s - u0.s
  let upper : STPoint α := ⟨u0.s - t * upperLeftDeltaS / leftDeltaT, u0.t - t⟩
  (⟨min (upper.s - kMinSEpsilon) (l0.s - t * lowerLeftDeltaS / leftDeltaT), l0.t - t⟩, upper)

-- The pair `ExpandByT` puts `t` after the last sample. `ln`, `ln'` are `lower_points_[length - 1]`,
-- `[length - 2]`, and `lb`, `ub` the `back()` of the two chains.
def backPairByT (ln ln' un un' lb ub : STPoint α) (t : α) : PointPair α :=
  let rightDeltaT := ln.t - ln'.t
  let lowerRightDeltaS := ln.s - ln'.s
  let upperRightDeltaS := un.s - un'.s
  let lower : STPoint α := ⟨lb.s + t * lowerRightDeltaS / rightDeltaT, lb.t + t⟩
  (lower, ⟨max (ub.s + t * upperRightDeltaS / rightDeltaT) (lower.s + kMinSEpsilon), ub.t + t⟩)

section Extrapolated

variable (l0 l1 u0 u1 ln ln' un un' lb ub : STPoint α) (t : α)

@[simp] theorem frontPairByT_fst_t : (frontPairByT l0 l1 u0 u1 t).1.t = l0.t - t :=
  rfl

@[simp] theorem frontPairByT_snd_t : (frontPairByT l0 l1 u0 u1 t).2.t = u0.t - t :=
  rfl

@[simp] theorem backPairByT_fst_t : (backPairByT ln ln' un un' lb ub t).1.t = lb.t + t :=
  rfl

@[simp] theorem backPairByT_snd_t : (backPairByT ln ln' un un' lb ub t).2.t = ub.t + t :=
  rfl

theorem frontPairByT_s_le : (frontPairByT l0 l1 u0 u1 t).1.s ≤ (frontPairByT l0 l1 u0 u1 t).2.s :=
  (min_le_left _ _).trans (sub_le_self _ kMinSEpsilon_pos.le)

theorem backPairByT_s_le :
    (backPairByT ln ln' un un' lb ub t).1.s ≤ (backPairByT ln ln' un un' lb ub t).2.s :=
  le_max_of_le_right (le_add_of_nonneg_right kMinSEpsilon_pos.le)

theorem frontPairByT_width :
    kMinSEpsilon ≤ (frontPairByT l0 l1 u0 u1 t).2.s - (frontPairByT l0 l1 u0 u1 t).1.s :=
  le_sub_comm.mp (min_le_left _ _)

theorem backPairByT_width :
    kMinSEpsilon ≤ (backPairByT ln ln' un un' lb ub t).2.s - (backPairByT ln ln' un un' lb ub t).1.s :=
  le_sub_iff_add_le'.mpr (le_max_right _ _)

end Extrapolated

-- `ExpandByT`; `none` is also an element access out of range. Both time gaps it divides by exceed
-- `kMinDeltaT` on every constructed boundary.
def expandByT (sHighLimit : α) (b : StBoundary α) (t : α) : Option (StBoundary α) :=
  if b.lowerPoints.isEmpty then some (empty sHighLimit)
  else do
    let front := frontPairByT (← b.lowerPoints[0]?) (← b.lowerPoints[1]?) (← b.upperPoints[0]?)
      (← b.upperPoints[1]?) t
    let middle ← zipPoints Prod.mk b.lowerPoints b.upperPoints
    let length := b.lowerPoints.length
    let back := backPairByT (← b.lowerPoints[length - 1]?) (← b.lowerPoints[length - 2]?)
      (← b.upperPoints[length - 1]?) (← b.upperPoints[length - 2]?) (← b.lowerPoints.getLast?)
      (← b.upperPoints.getLast?) t
    ofPairs sHighLimit (front :: middle ++ [back])

-- `GenerateStBoundary`; its loop copies each point.
def generateStBoundary (sHighLimit : α) (lowerPoints upperPoints : List (STPoint α)) :
    Option (StBoundary α) :=
  if lowerPoints.length ≠ upperPoints.length ∨ lowerPoints.length < 2 then some (empty sHighLimit)
  else ofPairs sHighLimit (List.zip lowerPoints upperPoints)

def cutOffByT (sHighLimit : α) (b : StBoundary α) (t : α) : Option (StBoundary α) :=
  let kept := (List.zip b.lowerPoints b.upperPoints).filter fun p => !decide (p.1.t < t)
  generateStBoundary sHighLimit (kept.map Prod.fst) (kept.map Prod.snd)

variable {sHighLimit : α} {b : StBoundary α} {R : List (PointPair α)}

theorem Valid.map_of_t {f : PointPair α → PointPair α} (hR : Valid R) (h₁ : ∀ x, (f x).1.t = x.1.t)
    (h₂ : ∀ x, (f x).2.t = x.1.t) (hs : ∀ x ∈ R, (f x).1.s ≤ (f x).2.s) : Valid (R.map f) where
  two_le := by simpa using hR.two_le
  pair_ok := by
    simp only [List.forall_mem_map]
    exact fun x hx => pairOk_of_t_eq (hs x hx) (by rw [h₁, h₂])
  gap_ok := (List.chain'_map f).mpr <| hR.gap_ok.imp fun x y h => by
    simpa only [GapOk, h₁, h₂, max_self, min_self] using h.lt

theorem Valid.map_samplePair (hR : Valid R) : Valid (R.map samplePair) :=
  hR.map_of_t (fun _ => rfl) (fun _ => rfl) fun x hx => (hR.pair_ok x hx).1

theorem BuiltFrom.lowerPoints_isEmpty (hb : BuiltFrom b R) : b.lowerPoints.isEmpty = false := by
  simpa [hb.lowerPoints_eq] using hb.valid.ne_nil

theorem BuiltFrom.zip_points (hb : BuiltFrom b R) :
    List.zip b.lowerPoints b.upperPoints = R.map samplePair := by
  rw [hb.lowerPoints_eq, hb.upperPoints_eq, List.zip_map']
  rfl

theorem BuiltFrom.zipPoints_eq (hb : BuiltFrom b R) (f : STPoint α → STPoint α → PointPair α) :
    zipPoints f b.lowerPoints b.upperPoints = some (R.map fun x => f (lowerOf x) (upperOf x)) := by
  rw [hb.lowerPoints_eq, hb.upperPoints_eq, zipPoints_map]

section ExpandByS

theorem BuiltFrom.expandByS_eq (hb : BuiltFrom b R) (s : α) :
    expandByS sHighLimit b s =
      ofPairs sHighLimit (R.map fun x => (⟨x.1.s - s, x.1.t⟩, ⟨x.2.s + s, x.1.t⟩)) := by
  rw [expandByS, if_neg (by simp [hb.lowerPoints_isEmpty]), hb.zipPoints_eq]
  rfl

theorem Valid.widen (hR : Valid R) {s : α} (hs : 0 ≤ s) :
    Valid (R.map fun x => ((⟨x.1.s - s, x.1.t⟩, ⟨x.2.s + s, x.1.t⟩) : PointPair α)) :=
  hR.map_of_t (fun _ => rfl) (fun _ => rfl) fun x hx => by
    have := (hR.pair_ok x hx).1
    dsimp only
    linarith

theorem wide_widen {s : α} (h : ∀ x ∈ R, kMathEpsilon / kMinDeltaT ≤ x.2.s - x.1.s + 2 * s) :
    Wide (R.map fun x => ((⟨x.1.s - s, x.1.t⟩, ⟨x.2.s + s, x.1.t⟩) : PointPair α)) := by
  simp only [Wide, List.forall_mem_map]
  intro x hx
  linarith [h x hx]

theorem BuiltFrom.expandByS_isSome (hb : BuiltFrom b R) {s : α} (hs : kMathEpsilon / kMinDeltaT ≤ 2 * s) :
    (expandByS sHighLimit b s).isSome := by
  have hs₀ : 0 ≤ s := by linarith [div_pos (kMathEpsilon_pos (α := α)) kMinDeltaT_pos]
  rw [hb.expandByS_eq, ofPairs_eq_of_wide (isValid_iff.mpr (hb.valid.widen hs₀))
    (wide_widen fun x hx => by linarith [(hb.valid.pair_ok x hx).1])]
  rfl

end ExpandByS

section ExpandByT

theorem BuiltFrom.lowerPoints_getElem? (hb : BuiltFrom b R) {i : Nat} (h : i < R.length) :
    b.lowerPoints[i]? = some (lowerOf R[i]) := by
  simp [hb.lowerPoints_eq, List.getElem?_eq_getElem h]

theorem BuiltFrom.upperPoints_getElem? (hb : BuiltFrom b R) {i : Nat} (h : i < R.length) :
    b.upperPoints[i]? = some (upperOf R[i]) := by
  simp [hb.upperPoints_eq, List.getElem?_eq_getElem h]

theorem BuiltFrom.expandByT_eq (hb : BuiltFrom b R) (sHighLimit t : α) :
    ∃ front back, expandByT sHighLimit b t = ofPairs sHighLimit (front :: R.map samplePair ++ [back]) ∧
      PairOk front ∧ PairOk back ∧ front.1.t = (R.head hb.valid.ne_nil).1.t - t ∧
      front.2.t = front.1.t ∧ back.1.t = (R.getLast hb.valid.ne_nil).1.t + t ∧ back.2.t = back.1.t ∧
      kMinSEpsilon ≤ front.2.s - front.1.s ∧ kMinSEpsilon ≤ back.2.s - back.1.s := by
  have hn := hb.valid.two_le
  have hne := hb.valid.ne_nil
  have hlast : b.lowerPoints.getLast? = some (lowerOf (R.getLast hne)) := by
    simp [hb.lowerPoints_eq, List.getLast?_eq_getLast _ hne]
  have hlast' : b.upperPoints.getLast? = some (upperOf (R.getLast hne)) := by
    simp [hb.upperPoints_eq, List.getLast?_eq_getLast _ hne]
  have hlen : b.lowerPoints.length = R.length := by simp [hb.lowerPoints_eq]
  rw [expandByT, if_neg (by simp [hb.lowerPoints_isEmpty])]
  simp only [hb.lowerPoints_getElem? (show 0 < R.length by omega),
    hb.lowerPoints_getElem? (show 1 < R.length by omega), hb.upperPoints_getElem? (show 0 < R.length by omega),
    hb.upperPoints_getElem? (show 1 < R.length by omega), hlen,
    hb.lowerPoints_getElem? (show R.length - 1 < R.length by omega),
    hb.lowerPoints_getElem? (show R.length - 2 < R.length by omega),
    hb.upperPoints_getElem? (show R.length - 1 < R.length by omega),
    hb.upperPoints_getElem? (show R.length - 2 < R.length by omega), hlast, hlast',
    hb.zipPoints_eq, Option.bind_eq_bind, Option.some_bind, Option.pure_def]
  exact ⟨_, _, rfl, pairOk_of_t_eq (frontPairByT_s_le ..) (by simp),
    pairOk_of_t_eq (backPairByT_s_le ..) (by simp), by simp [List.head_eq_getElem], by simp, by simp,
    by simp, frontPairByT_width .., backPairByT_width ..⟩

theorem Valid.extrapolated_iff (hR : Valid R) {front back : PointPair α} {t : α} (hf : PairOk front)
    (hbk : PairOk back) (hf₁ : front.1.t = (R.head hR.ne_nil).1.t - t) (hf₂ : front.2.t = front.1.t)
    (hb₁ : back.1.t = (R.getLast hR.ne_nil).1.t + t) (hb₂ : back.2.t = back.1.t) :
    Valid (front :: R.map samplePair ++ [back]) ↔ kMinDeltaT < t := by
  have hne := hR.ne_nil
  have hM := hR.map_samplePair
  have hhead : (R.map samplePair ++ [back]).head? = some (samplePair (R.head hne)) := by
    simp [List.head?_eq_head hne]
  have hlast : (R.map samplePair).getLast? = some (samplePair (R.getLast hne)) := by
    simp [List.getLast?_eq_getLast _ hne]
  rw [List.cons_append]
  constructor
  case mp =>
    intro hV
    have h := (List.chain'_cons'.mp hV.gap_ok).1 _ hhead
    simp only [GapOk, hf₂, max_self, samplePair_fst, samplePair_snd, lowerOf_t, upperOf_t, min_self,
      hf₁] at h
    linarith
  case mpr =>
    intro ht
    refine ⟨by simp, ?_, ?_⟩
    · simp only [List.mem_cons, List.mem_append, List.not_mem_nil, or_false]
      rintro p (rfl | hp | rfl)
      exacts [hf, hM.pair_ok p hp, hbk]
    · rw [List.chain'_cons', List.chain'_append]
      refine ⟨?_, ⟨hM.gap_ok, List.chain'_singleton _, ?_⟩⟩
      · rw [hhead]
        rintro _ ⟨⟩
        simp only [GapOk, hf₂, max_self, samplePair_fst, samplePair_snd, lowerOf_t, upperOf_t,
          min_self, hf₁]
        linarith
      · rw [hlast]
        rintro _ ⟨⟩ _ ⟨⟩
        simp only [GapOk, hb₂, max_self, samplePair_fst, samplePair_snd, lowerOf_t, upperOf_t,
          min_self, hb₁]
        linarith

theorem Valid.ofPairs_of_wide_head {front : PointPair α} {L : List (PointPair α)} (hV : Valid L)
    (hL : L.head? = some front) (hf : kMinSEpsilon ≤ front.2.s - front.1.s) :
    ofPairs sHighLimit L = some (ofReducedPairs sHighLimit (simplify L)) := by
  refine ofPairs_eq (isValid_iff.mpr hV) ?_
  obtain ⟨x, y, R', hs⟩ := hV.valid_simplify.exists_eq_cons_cons
  obtain rfl : x = front := by simpa [hs, hL] using (simplify_head? (P := L))
  have hV' : Valid (x :: y :: R') := hs ▸ hV.valid_simplify
  have hy := (hV'.pair_ok y (by simp)).1
  rw [hs]
  refine hV'.kMathEpsilon_lt_area_of_first ?_
  calc 2 * kMathEpsilon ≤ (kMinDeltaT * kMinSEpsilon : α) := by norm_num [kMathEpsilon, kMinDeltaT, kMinSEpsilon]
    _ ≤ _ := mul_le_mul_of_nonneg_left (by linarith) kMinDeltaT_pos.le

theorem BuiltFrom.expandByT_valid_iff (hb : BuiltFrom b R) (sHighLimit t : α) :
    ∃ L, expandByT sHighLimit b t = ofPairs sHighLimit L ∧ (isValid L = true ↔ kMinDeltaT < t) := by
  obtain ⟨front, back, heq, hf, hbk, hf₁, hf₂, hb₁, hb₂, -⟩ := hb.expandByT_eq sHighLimit t
  exact ⟨_, heq, isValid_iff.trans (hb.valid.extrapolated_iff hf hbk hf₁ hf₂ hb₁ hb₂)⟩

theorem BuiltFrom.expandByT_isSome_iff (hb : BuiltFrom b R) (t : α) :
    (expandByT sHighLimit b t).isSome ↔ kMinDeltaT < t := by
  obtain ⟨front, back, heq, hf, hbk, hf₁, hf₂, hb₁, hb₂, hfw, -⟩ := hb.expandByT_eq sHighLimit t
  have hiff := hb.valid.extrapolated_iff hf hbk hf₁ hf₂ hb₁ hb₂
  refine ⟨fun h => hiff.mp (isValid_iff.mp (ofPairs_isSome.mp (heq ▸ h)).1), fun ht => ?_⟩
  rw [heq, (hiff.mpr ht).ofPairs_of_wide_head rfl hfw]
  rfl

-- A margin of zero puts the first extrapolated pair at the first sample's time, so the list
-- handed to the constructor fails `IsValid` and its `CHECK` aborts.
theorem expandByT_zero_specExample :
    let P : List (PointPair ℝ) := [(⟨0, 0⟩, ⟨2, 0⟩), (⟨1 / 2, 1⟩, ⟨5 / 2, 1⟩), (⟨1, 2⟩, ⟨3, 2⟩)]
    ∃ B L, ofPairs 200 P = some B ∧ expandByT 200 B 0 = ofPairs 200 L ∧ isValid L = false := by
  intro P
  have hP : isValid P := by
    norm_num [P, isValid, isValidFrom, PairOk, GapOk, kStBoundaryEpsilon, kMinDeltaT]
  have hb : BuiltFrom (ofReducedPairs 200 (simplify P)) (simplify P) :=
    builtFrom_ofReducedPairs (isValid_iff.mp (isValid_iff.mp hP).selection_simplify.valid)
  have hw : Wide P := by
    norm_num [Wide, P, kMathEpsilon, kMinDeltaT]
  obtain ⟨L, heq, hiff⟩ := hb.expandByT_valid_iff 200 0
  refine ⟨_, L, ofPairs_eq_of_wide hP hw, heq, ?_⟩
  exact Bool.eq_false_iff.mpr fun h => absurd (hiff.mp h) (by norm_num [kMinDeltaT])

end ExpandByT

section Containment

variable {p : STPoint α}

theorem Valid.simplify_minT_maxT {Q : List (PointPair α)} (hQ : Valid Q) (sHighLimit : α) :
    (ofReducedPairs sHighLimit (simplify Q)).minT = (Q.head hQ.ne_nil).1.t ∧
      (ofReducedPairs sHighLimit (simplify Q)).maxT = (Q.getLast hQ.ne_nil).1.t := by
  have hS := hQ.selection_simplify
  have hb : BuiltFrom (ofReducedPairs sHighLimit (simplify Q)) (simplify Q) :=
    builtFrom_ofReducedPairs (isValid_iff.mp hS.valid)
  have h₁ := hS.head?_eq
  have h₂ := hS.getLast?_eq
  rw [List.head?_eq_head hb.valid.ne_nil, List.head?_eq_head hQ.ne_nil, Option.some.injEq] at h₁
  rw [List.getLast?_eq_getLast _ hb.valid.ne_nil, List.getLast?_eq_getLast _ hQ.ne_nil,
    Option.some.injEq] at h₂
  rw [hb.minT_eq, hb.maxT_eq, h₁, h₂]
  exact ⟨rfl, rfl⟩

theorem BuiltFrom.widen_contains (hb : BuiltFrom b R) {s : α} (hs : 0 ≤ s)
    (hp : isPointInBoundary b p = some true) :
    isPointInBoundary (ofReducedPairs sHighLimit
      (R.map fun x => ((⟨x.1.s - s, x.1.t⟩, ⟨x.2.s + s, x.1.t⟩) : PointPair α))) p = some true := by
  have hne := hb.valid.ne_nil
  have hQ : BuiltFrom (ofReducedPairs sHighLimit _) _ := builtFrom_ofReducedPairs (hb.valid.widen hs)
  obtain ⟨h₁, h₂, hl, hu⟩ := hb.isPointInBoundary_eq_some_true.mp hp
  have hlo : piecewiseLinear (R.map fun x => (⟨x.1.s - s, x.1.t⟩ : STPoint α)) p.t =
      piecewiseLinear (R.map lowerOf) p.t + -s :=
    piecewiseLinear_map_shift (by intro; rfl) (by intro; exact sub_eq_add_neg _ _) hne
  have hup : piecewiseLinear (R.map fun x => (⟨x.2.s + s, x.1.t⟩ : STPoint α)) p.t =
      piecewiseLinear (R.map upperOf) p.t + s :=
    piecewiseLinear_map_shift (by intro; rfl) (by intro; rfl) hne
  rw [hb.minT_eq] at h₁
  rw [hb.maxT_eq] at h₂
  rw [hb.lowerPoints_eq] at hl
  rw [hb.upperPoints_eq] at hu
  rw [hQ.isPointInBoundary_eq_some_true, hQ.minT_eq, hQ.maxT_eq, List.head_map, List.getLast_map,
    ofReducedPairs_lowerPoints, ofReducedPairs_upperPoints, List.map_map, List.map_map]
  exact ⟨h₁, h₂, by simp only [Function.comp_def, lowerOf, hlo] at hl ⊢; linarith,
    by simp only [Function.comp_def, upperOf, hup] at hu ⊢; linarith⟩

theorem BuiltFrom.extrapolated_contains (hb : BuiltFrom b R) {front back : PointPair α} {t : α}
    (ht : kMinDeltaT < t) (hf : PairOk front) (hbk : PairOk back)
    (hf₁ : front.1.t = (R.head hb.valid.ne_nil).1.t - t) (hf₂ : front.2.t = front.1.t)
    (hb₁ : back.1.t = (R.getLast hb.valid.ne_nil).1.t + t) (hb₂ : back.2.t = back.1.t)
    (hp : isPointInBoundary b p = some true) :
    isPointInBoundary (ofReducedPairs sHighLimit (front :: R.map samplePair ++ [back])) p = some true := by
  have hne := hb.valid.ne_nil
  have hQ : BuiltFrom (ofReducedPairs sHighLimit _) _ :=
    builtFrom_ofReducedPairs ((hb.valid.extrapolated_iff hf hbk hf₁ hf₂ hb₁ hb₂).mpr ht)
  have ht0 : 0 < t := kMinDeltaT_pos.trans ht
  obtain ⟨h₁, h₂, hl, hu⟩ := hb.isPointInBoundary_eq_some_true.mp hp
  rw [hb.minT_eq] at h₁
  rw [hb.maxT_eq] at h₂
  rw [hb.lowerPoints_eq] at hl
  rw [hb.upperPoints_eq] at hu
  have hext : ∀ g : PointPair α → STPoint α, (∀ x, (g x).t = x.1.t) → g ∘ samplePair = g →
      piecewiseLinear ((front :: R.map samplePair ++ [back]).map g) p.t = piecewiseLinear (R.map g) p.t := by
    intro g hg hgs
    rw [List.map_append, List.map_cons, List.map_map, hgs, List.map_singleton]
    exact piecewiseLinear_extend (by simpa using hne) (by rw [hg, hf₁]; linarith)
      (by rw [List.head_map, hg]; exact h₁) (by rw [List.getLast_map, hg]; exact h₂.le)
  rw [hQ.isPointInBoundary_eq_some_true, hQ.maxT_eq, List.getLast_append_singleton,
    ofReducedPairs_lowerPoints, ofReducedPairs_upperPoints, hext lowerOf (fun _ => rfl) rfl,
    hext upperOf (fun _ => rfl) rfl]
  refine ⟨?_, by rw [hb₁]; linarith, hl, hu⟩
  show front.1.t < p.t
  rw [hf₁]
  linarith

variable {P : List (PointPair α)} {B : StBoundary α}

theorem expand_contains_point_before_resimplify (hB : ofPairs sHighLimit P = some B)
    (hp : isPointInBoundary B p = some true) :
    (∀ s, 0 ≤ s → ∃ Q : List (PointPair α),
      Q.map lowerOf = B.lowerPoints.map (fun q => ⟨q.s - s, q.t⟩) ∧
      Q.map upperOf = B.upperPoints.map (fun q => ⟨q.s + s, q.t⟩) ∧
      expandByS sHighLimit B s = (if kMathEpsilon < signedArea (polygonOf (simplify Q)) then
        some (ofReducedPairs sHighLimit (simplify Q)) else none) ∧
      isPointInBoundary (ofReducedPairs sHighLimit Q) p = some true ∧
      (ofReducedPairs sHighLimit (simplify Q)).minT = B.minT ∧
      (ofReducedPairs sHighLimit (simplify Q)).maxT = B.maxT) ∧
    (∀ t, kMinDeltaT < t → ∃ front back : PointPair α,
      front.1.t = B.minT - t ∧ back.1.t = B.maxT + t ∧
      expandByT sHighLimit B t = some (ofReducedPairs sHighLimit
        (simplify (front :: List.zip B.lowerPoints B.upperPoints ++ [back]))) ∧
      isPointInBoundary (ofReducedPairs sHighLimit
        (front :: List.zip B.lowerPoints B.upperPoints ++ [back])) p = some true ∧
      (ofReducedPairs sHighLimit
        (simplify (front :: List.zip B.lowerPoints B.upperPoints ++ [back]))).minT = B.minT - t ∧
      (ofReducedPairs sHighLimit
        (simplify (front :: List.zip B.lowerPoints B.upperPoints ++ [back]))).maxT = B.maxT + t) := by
  obtain ⟨R, hb, -⟩ := exists_builtFrom_of_ofPairs_eq_some hB
  refine ⟨fun s hs => ?_, fun t ht => ?_⟩
  · have hV := hb.valid.widen hs
    obtain ⟨hmin, hmax⟩ := hV.simplify_minT_maxT sHighLimit
    refine ⟨_, by rw [hb.lowerPoints_eq, List.map_map, List.map_map]; rfl,
      by rw [hb.upperPoints_eq, List.map_map, List.map_map]; rfl,
      by rw [hb.expandByS_eq, ofPairs_of_isValid (isValid_iff.mpr hV)], hb.widen_contains hs hp,
      by rw [hmin, hb.minT_eq, List.head_map], by rw [hmax, hb.maxT_eq, List.getLast_map]⟩
  · obtain ⟨front, back, heq, hf, hbk, hf₁, hf₂, hb₁, hb₂, hfw, -⟩ := hb.expandByT_eq sHighLimit t
    have hV := (hb.valid.extrapolated_iff hf hbk hf₁ hf₂ hb₁ hb₂).mpr ht
    obtain ⟨hmin, hmax⟩ := hV.simplify_minT_maxT sHighLimit
    rw [hb.zip_points]
    refine ⟨front, back, by rw [hf₁, hb.minT_eq], by rw [hb₁, hb.maxT_eq],
      by rw [heq, hV.ofPairs_of_wide_head rfl hfw], hb.extrapolated_contains ht hf hbk hf₁ hf₂ hb₁ hb₂ hp,
      by rw [hmin, hb.minT_eq]; exact hf₁, by rw [hmax, hb.maxT_eq, List.getLast_append_singleton, hb₁]⟩

theorem expand_contains_point_before_resimplify_specExample :
    let P : List (PointPair ℝ) := [(⟨0, 0⟩, ⟨2, 0⟩), (⟨1 / 2, 1⟩, ⟨5 / 2, 1⟩), (⟨1, 2⟩, ⟨3, 2⟩)]
    ∃ B, ofPairs 200 P = some B ∧ isPointInBoundary B ⟨3 / 2, 1⟩ = some true ∧
    (∀ s, 0 ≤ s → ∃ Q : List (PointPair ℝ),
      Q.map lowerOf = B.lowerPoints.map (fun q => ⟨q.s - s, q.t⟩) ∧
      Q.map upperOf = B.upperPoints.map (fun q => ⟨q.s + s, q.t⟩) ∧
      expandByS 200 B s = (if kMathEpsilon < signedArea (polygonOf (simplify Q)) then
        some (ofReducedPairs 200 (simplify Q)) else none) ∧
      isPointInBoundary (ofReducedPairs 200 Q) ⟨3 / 2, 1⟩ = some true ∧
      (ofReducedPairs 200 (simplify Q)).minT = B.minT ∧ (ofReducedPairs 200 (simplify Q)).maxT = B.maxT) ∧
    (∀ t, kMinDeltaT < t → ∃ front back : PointPair ℝ,
      front.1.t = B.minT - t ∧ back.1.t = B.maxT + t ∧
      expandByT 200 B t = some (ofReducedPairs 200
        (simplify (front :: List.zip B.lowerPoints B.upperPoints ++ [back]))) ∧
      isPointInBoundary (ofReducedPairs 200
        (front :: List.zip B.lowerPoints B.upperPoints ++ [back])) ⟨3 / 2, 1⟩ = some true ∧
      (ofReducedPairs 200
        (simplify (front :: List.zip B.lowerPoints B.upperPoints ++ [back]))).minT = B.minT - t ∧
      (ofReducedPairs 200
        (simplify (front :: List.zip B.lowerPoints B.upperPoints ++ [back]))).maxT = B.maxT + t) := by
  intro P
  have hP : isValid P := by
    norm_num [P, isValid, isValidFrom, PairOk, GapOk, kStBoundaryEpsilon, kMinDeltaT]
  have hs : simplify P = [(⟨0, 0⟩, ⟨2, 0⟩), (⟨1, 2⟩, ⟨3, 2⟩)] := by
    norm_num [P, simplify, simplifyFrom, isRedundant, isPointNear, LineSegment2d.distanceSquareTo,
      kMaxDist]
  have hV : Valid [((⟨0, 0⟩, ⟨2, 0⟩) : PointPair ℝ), (⟨1, 2⟩, ⟨3, 2⟩)] :=
    hs ▸ isValid_iff.mp (isValid_iff.mp hP).selection_simplify.valid
  have hp : isPointInBoundary (ofReducedPairs 200 (simplify P)) ⟨3 / 2, 1⟩ = some true := by
    rw [hs, isPointInBoundary_ofReducedPairs hV]
    simp only [List.map_cons, List.map_nil, lowerOf, upperOf, List.head_cons, List.getLast_cons_cons,
      List.getLast_singleton, piecewiseLinear]
    norm_num [lineAt]
  have hw : Wide P := by
    norm_num [Wide, P, kMathEpsilon, kMinDeltaT]
  exact ⟨_, ofPairs_eq_of_wide hP hw, hp, expand_contains_point_before_resimplify (ofPairs_eq_of_wide hP hw) hp⟩

-- The constructor keeps the samples at `t = 0, 5, 10` of these drifting pairs: the one at `t = 5`
-- is more than `kMaxDist` off the segment to `t = 6`, and the one at `t = 6` lies within it of the
-- segment from `t = 5` to `t = 10`.
theorem simplify_drifting_pairs :
    simplify ([(⟨2 / 100, 0⟩, ⟨102 / 100, 0⟩), (⟨11 / 100, 5⟩, ⟨111 / 100, 5⟩), (⟨0, 6⟩, ⟨1, 6⟩),
      (⟨2 / 100, 10⟩, ⟨102 / 100, 10⟩)] : List (PointPair ℝ)) =
      [(⟨2 / 100, 0⟩, ⟨102 / 100, 0⟩), (⟨11 / 100, 5⟩, ⟨111 / 100, 5⟩),
        (⟨2 / 100, 10⟩, ⟨102 / 100, 10⟩)] := by
  norm_num [simplify, simplifyFrom, isRedundant, isPointNear, LineSegment2d.distanceSquareTo, kMaxDist]

-- Expanding can lose a point the boundary contains. The boundary keeps the samples at `t = 0, 5, 10`
-- and contains `(s, t) = (1.05, 5)`. Widened by `0.01`, the sample at `t = 5` lies within `kMaxDist`
-- of the segment between its neighbours and is dropped, and the upper chain falls to `1.03`.
-- Lengthened by `1`, the extrapolated end pairs absorb every sample between them, and the upper
-- chain falls to `1.002`.
theorem expand_drops_contained_point :
    let P : List (PointPair ℝ) := [(⟨2 / 100, 0⟩, ⟨102 / 100, 0⟩), (⟨11 / 100, 5⟩, ⟨111 / 100, 5⟩),
      (⟨0, 6⟩, ⟨1, 6⟩), (⟨2 / 100, 10⟩, ⟨102 / 100, 10⟩)]
    ∃ B BS BT, ofPairs 200 P = some B ∧ isPointInBoundary B ⟨105 / 100, 5⟩ = some true ∧
      expandByS 200 B (1 / 100) = some BS ∧ isPointInBoundary BS ⟨105 / 100, 5⟩ = some false ∧
      expandByT 200 B 1 = some BT ∧ isPointInBoundary BT ⟨105 / 100, 5⟩ = some false := by
  intro P
  have hP : isValid P := by
    norm_num [P, isValid, isValidFrom, PairOk, GapOk, kStBoundaryEpsilon, kMinDeltaT]
  have hs : simplify P = [(⟨2 / 100, 0⟩, ⟨102 / 100, 0⟩), (⟨11 / 100, 5⟩, ⟨111 / 100, 5⟩),
      (⟨2 / 100, 10⟩, ⟨102 / 100, 10⟩)] := simplify_drifting_pairs
  have hS : expandByS 200 (ofReducedPairs 200 (simplify P)) (1 / 100) =
      ofPairs 200 [(⟨1 / 100, 0⟩, ⟨103 / 100, 0⟩), (⟨10 / 100, 5⟩, ⟨112 / 100, 5⟩),
        (⟨1 / 100, 10⟩, ⟨103 / 100, 10⟩)] := by
    rw [hs]
    norm_num [expandByS, zipPoints, lowerOf, upperOf]
  have hT : expandByT 200 (ofReducedPairs 200 (simplify P)) 1 =
      ofPairs 200 [(⟨1 / 500, -1⟩, ⟨501 / 500, -1⟩), (⟨2 / 100, 0⟩, ⟨102 / 100, 0⟩),
        (⟨11 / 100, 5⟩, ⟨111 / 100, 5⟩), (⟨2 / 100, 10⟩, ⟨102 / 100, 10⟩), (⟨1 / 500, 11⟩, ⟨501 / 500, 11⟩)] := by
    rw [hs]
    simp only [expandByT, ofReducedPairs_lowerPoints, ofReducedPairs_upperPoints, List.map_cons,
      List.map_nil, List.isEmpty_cons, Bool.false_eq_true, if_false, lowerOf, upperOf, List.length_cons,
      List.length_nil, List.getElem?_cons_zero, List.getElem?_cons_succ, List.getLast?_cons_cons,
      List.getLast?_singleton, zipPoints, Option.map_some', Option.bind_eq_bind, Option.some_bind,
      Option.pure_def]
    norm_num [frontPairByT, backPairByT, kMinSEpsilon]
  have hVS : isValid [((⟨1 / 100, 0⟩, ⟨103 / 100, 0⟩) : PointPair ℝ), (⟨10 / 100, 5⟩, ⟨112 / 100, 5⟩),
      (⟨1 / 100, 10⟩, ⟨103 / 100, 10⟩)] := by
    norm_num [isValid, isValidFrom, PairOk, GapOk, kStBoundaryEpsilon, kMinDeltaT]
  have hVT : isValid [((⟨1 / 500, -1⟩, ⟨501 / 500, -1⟩) : PointPair ℝ), (⟨2 / 100, 0⟩, ⟨102 / 100, 0⟩),
      (⟨11 / 100, 5⟩, ⟨111 / 100, 5⟩), (⟨2 / 100, 10⟩, ⟨102 / 100, 10⟩), (⟨1 / 500, 11⟩, ⟨501 / 500, 11⟩)] := by
    norm_num [isValid, isValidFrom, PairOk, GapOk, kStBoundaryEpsilon, kMinDeltaT]
  have hsS : simplify [((⟨1 / 100, 0⟩, ⟨103 / 100, 0⟩) : PointPair ℝ), (⟨10 / 100, 5⟩, ⟨112 / 100, 5⟩),
      (⟨1 / 100, 10⟩, ⟨103 / 100, 10⟩)] = [(⟨1 / 100, 0⟩, ⟨103 / 100, 0⟩), (⟨1 / 100, 10⟩, ⟨103 / 100, 10⟩)] := by
    norm_num [simplify, simplifyFrom, isRedundant, isPointNear, LineSegment2d.distanceSquareTo, kMaxDist]
  have hsT : simplify [((⟨1 / 500, -1⟩, ⟨501 / 500, -1⟩) : PointPair ℝ), (⟨2 / 100, 0⟩, ⟨102 / 100, 0⟩),
      (⟨11 / 100, 5⟩, ⟨111 / 100, 5⟩), (⟨2 / 100, 10⟩, ⟨102 / 100, 10⟩), (⟨1 / 500, 11⟩, ⟨501 / 500, 11⟩)] =
      [(⟨1 / 500, -1⟩, ⟨501 / 500, -1⟩), (⟨1 / 500, 11⟩, ⟨501 / 500, 11⟩)] := by
    have hr : ∀ p q : PointPair ℝ, (p = (⟨2 / 100, 0⟩, ⟨102 / 100, 0⟩) ∧ q = (⟨11 / 100, 5⟩, ⟨111 / 100, 5⟩)) ∨
        (p = (⟨11 / 100, 5⟩, ⟨111 / 100, 5⟩) ∧ q = (⟨2 / 100, 10⟩, ⟨102 / 100, 10⟩)) ∨
        (p = (⟨2 / 100, 10⟩, ⟨102 / 100, 10⟩) ∧ q = (⟨1 / 500, 11⟩, ⟨501 / 500, 11⟩)) →
        isRedundant (⟨1 / 500, -1⟩, ⟨501 / 500, -1⟩) p q = true := by
      rintro p q (⟨rfl, rfl⟩ | ⟨rfl, rfl⟩ | ⟨rfl, rfl⟩) <;>
        norm_num [isRedundant, isPointNear, LineSegment2d.distanceSquareTo, kMaxDist]
    rw [simplify, simplifyFrom, if_pos (hr _ _ (.inl ⟨rfl, rfl⟩)), simplifyFrom,
      if_pos (hr _ _ (.inr (.inl ⟨rfl, rfl⟩))), simplifyFrom, if_pos (hr _ _ (.inr (.inr ⟨rfl, rfl⟩))),
      simplifyFrom]
  have hV : Valid [((⟨2 / 100, 0⟩, ⟨102 / 100, 0⟩) : PointPair ℝ), (⟨11 / 100, 5⟩, ⟨111 / 100, 5⟩),
      (⟨2 / 100, 10⟩, ⟨102 / 100, 10⟩)] := hs ▸ isValid_iff.mp (isValid_iff.mp hP).selection_simplify.valid
  have hVS' : Valid [((⟨1 / 100, 0⟩, ⟨103 / 100, 0⟩) : PointPair ℝ), (⟨1 / 100, 10⟩, ⟨103 / 100, 10⟩)] :=
    hsS ▸ isValid_iff.mp (isValid_iff.mp hVS).selection_simplify.valid
  have hVT' : Valid [((⟨1 / 500, -1⟩, ⟨501 / 500, -1⟩) : PointPair ℝ), (⟨1 / 500, 11⟩, ⟨501 / 500, 11⟩)] :=
    hsT ▸ isValid_iff.mp (isValid_iff.mp hVT).selection_simplify.valid
  have hw : Wide P := by
    norm_num [Wide, P, kMathEpsilon, kMinDeltaT]
  have hwS : Wide [((⟨1 / 100, 0⟩, ⟨103 / 100, 0⟩) : PointPair ℝ), (⟨10 / 100, 5⟩, ⟨112 / 100, 5⟩),
      (⟨1 / 100, 10⟩, ⟨103 / 100, 10⟩)] := by
    norm_num [Wide, kMathEpsilon, kMinDeltaT]
  have hwT : Wide [((⟨1 / 500, -1⟩, ⟨501 / 500, -1⟩) : PointPair ℝ), (⟨2 / 100, 0⟩, ⟨102 / 100, 0⟩),
      (⟨11 / 100, 5⟩, ⟨111 / 100, 5⟩), (⟨2 / 100, 10⟩, ⟨102 / 100, 10⟩), (⟨1 / 500, 11⟩, ⟨501 / 500, 11⟩)] := by
    norm_num [Wide, kMathEpsilon, kMinDeltaT]
  refine ⟨_, _, _, ofPairs_eq_of_wide hP hw, ?_, hS.trans (ofPairs_eq_of_wide hVS hwS), ?_,
    hT.trans (ofPairs_eq_of_wide hVT hwT), ?_⟩
  · rw [hs, isPointInBoundary_ofReducedPairs hV]
    simp only [List.map_cons, List.map_nil, lowerOf, upperOf, List.head_cons, List.getLast_cons_cons,
      List.getLast_singleton, piecewiseLinear]
    norm_num [lineAt]
  · rw [hsS, isPointInBoundary_ofReducedPairs hVS']
    simp only [List.map_cons, List.map_nil, lowerOf, upperOf, List.head_cons, List.getLast_cons_cons,
      List.getLast_singleton, piecewiseLinear]
    norm_num [lineAt]
  · rw [hsT, isPointInBoundary_ofReducedPairs hVT']
    simp only [List.map_cons, List.map_nil, lowerOf, upperOf, List.head_cons, List.getLast_cons_cons,
      List.getLast_singleton, piecewiseLinear]
    norm_num [lineAt]

end Containment

section CutOffByT

theorem BuiltFrom.cutOffByT_eq (hb : BuiltFrom b R) (c : α) :
    cutOffByT sHighLimit b c =
      if (R.filter fun x => c ≤ x.1.t).length < 2 then some (empty sHighLimit)
      else ofPairs sHighLimit ((R.filter fun x => c ≤ x.1.t).map samplePair) := by
  have hkept : ((List.zip b.lowerPoints b.upperPoints).filter fun p => !decide (p.1.t < c)) =
      (R.filter fun x => c ≤ x.1.t).map samplePair := by
    rw [hb.zip_points, List.filter_map]
    congr 2
    funext x
    simp only [Function.comp, samplePair_fst, lowerOf_t, ← decide_not, not_lt]
  have hzip : ∀ l : List (PointPair α), List.zip (l.map Prod.fst) (l.map Prod.snd) = l := fun l => by
    rw [← List.unzip_fst, ← List.unzip_snd, List.zip_unzip]
  simp only [cutOffByT, generateStBoundary, hkept, List.length_map, ne_eq, not_true_eq_false,
    false_or, hzip]

theorem Valid.filter_samplePair (hR : Valid R) {c : α} (h : 2 ≤ (R.filter fun x => c ≤ x.1.t).length) :
    Valid ((R.filter fun x => c ≤ x.1.t).map samplePair) :=
  hR.map_samplePair.sublist ((List.filter_sublist R).map samplePair) (by simpa using h)

theorem wide_map_samplePair : Wide (R.map samplePair) ↔ Wide R := by
  simp only [Wide, List.forall_mem_map, samplePair_fst, samplePair_snd, lowerOf_s, upperOf_s]

variable {P : List (PointPair α)} {B : StBoundary α}

theorem cutOffByT_selection (hB : ofPairs sHighLimit P = some B) (c : α) :
    ∃ R : List (PointPair α), B.lowerPoints = R.map lowerOf ∧ B.upperPoints = R.map upperOf ∧
      (cutOffByT sHighLimit B c = none ↔ 2 ≤ (R.filter fun x => c ≤ x.1.t).length ∧
        signedArea (polygonOf (simplify ((R.filter fun x => c ≤ x.1.t).map samplePair))) ≤ kMathEpsilon) ∧
      ∀ B', cutOffByT sHighLimit B c = some B' →
        (B' = empty sHighLimit ↔ (R.filter fun x => c ≤ x.1.t).length < 2) ∧
        (2 ≤ (R.filter fun x => c ≤ x.1.t).length → ∃ Q,
          Selection ((R.filter fun x => c ≤ x.1.t).map samplePair) Q ∧
          B'.lowerPoints = Q.map lowerOf ∧ B'.upperPoints = Q.map upperOf) := by
  obtain ⟨R, hb, -⟩ := exists_builtFrom_of_ofPairs_eq_some hB
  refine ⟨R, hb.lowerPoints_eq, hb.upperPoints_eq, ?_⟩
  rw [hb.cutOffByT_eq]
  by_cases hk : (R.filter fun x => c ≤ x.1.t).length < 2
  case pos =>
    rw [if_pos hk]
    refine ⟨iff_of_false (Option.some_ne_none _) fun h => by omega, fun B' hB' => ?_⟩
    cases hB'
    exact ⟨iff_of_true rfl hk, fun h => by omega⟩
  case neg =>
    have hV := hb.valid.filter_samplePair (not_lt.mp hk)
    have hS := hV.selection_simplify
    rw [if_neg hk, ofPairs_of_isValid (isValid_iff.mpr hV)]
    split
    case isFalse harea =>
      exact ⟨iff_of_true rfl ⟨not_lt.mp hk, not_lt.mp harea⟩, fun B' hB' => absurd hB' (by simp)⟩
    case isTrue harea =>
      refine ⟨iff_of_false (Option.some_ne_none _) fun h => not_lt.mpr h.2 harea, fun B' hB' => ?_⟩
      cases hB'
      refine ⟨iff_of_false (fun h => ?_) hk, fun _ => ⟨_, hS, rfl, rfl⟩⟩
      have h₁ := congrArg StBoundary.lowerPoints h
      have h₂ := (isValid_iff.mp hS.valid).two_le
      simp only [ofReducedPairs_lowerPoints, empty, List.map_eq_nil_iff] at h₁
      simp [h₁] at h₂

theorem cutOffByT_selection_specExample :
    let P : List (PointPair ℝ) := [(⟨0, 0⟩, ⟨2, 0⟩), (⟨1 / 2, 1⟩, ⟨5 / 2, 1⟩), (⟨1, 2⟩, ⟨3, 2⟩)]
    ∃ B, ofPairs 200 P = some B ∧ ∃ R : List (PointPair ℝ), B.lowerPoints = R.map lowerOf ∧
      B.upperPoints = R.map upperOf ∧
      (cutOffByT 200 B 1 = none ↔ 2 ≤ (R.filter fun x => 1 ≤ x.1.t).length ∧
        signedArea (polygonOf (simplify ((R.filter fun x => 1 ≤ x.1.t).map samplePair))) ≤ kMathEpsilon) ∧
      ∀ B', cutOffByT 200 B 1 = some B' →
        (B' = empty 200 ↔ (R.filter fun x => 1 ≤ x.1.t).length < 2) ∧
        (2 ≤ (R.filter fun x => 1 ≤ x.1.t).length → ∃ Q,
          Selection ((R.filter fun x => 1 ≤ x.1.t).map samplePair) Q ∧
          B'.lowerPoints = Q.map lowerOf ∧ B'.upperPoints = Q.map upperOf) := by
  intro P
  have hP : isValid P := by
    norm_num [P, isValid, isValidFrom, PairOk, GapOk, kStBoundaryEpsilon, kMinDeltaT]
  have hw : Wide P := by
    norm_num [Wide, P, kMathEpsilon, kMinDeltaT]
  exact ⟨_, ofPairs_eq_of_wide hP hw, cutOffByT_selection (ofPairs_eq_of_wide hP hw) 1⟩

-- Cutting before the first sample rebuilds the boundary from all its samples, and the second
-- simplification drops a sample the first one kept: the sample at `t = 5` was kept against the
-- original neighbour at `t = 6`, and is dropped against the retained one at `t = 10`.
theorem cutOffByT_drops_retained_sample :
    let P : List (PointPair ℝ) := [(⟨2 / 100, 0⟩, ⟨102 / 100, 0⟩), (⟨11 / 100, 5⟩, ⟨111 / 100, 5⟩),
      (⟨0, 6⟩, ⟨1, 6⟩), (⟨2 / 100, 10⟩, ⟨102 / 100, 10⟩)]
    ∃ B B', ofPairs 200 P = some B ∧ B.lowerPoints = [⟨2 / 100, 0⟩, ⟨11 / 100, 5⟩, ⟨2 / 100, 10⟩] ∧
      cutOffByT 200 B 0 = some B' ∧ B'.lowerPoints = [⟨2 / 100, 0⟩, ⟨2 / 100, 10⟩] := by
  intro P
  have hP : isValid P := by
    norm_num [P, isValid, isValidFrom, PairOk, GapOk, kStBoundaryEpsilon, kMinDeltaT]
  have hs : simplify P = [(⟨2 / 100, 0⟩, ⟨102 / 100, 0⟩), (⟨11 / 100, 5⟩, ⟨111 / 100, 5⟩),
      (⟨2 / 100, 10⟩, ⟨102 / 100, 10⟩)] := simplify_drifting_pairs
  have hb : BuiltFrom (ofReducedPairs 200 (simplify P)) (simplify P) :=
    builtFrom_ofReducedPairs (isValid_iff.mp (isValid_iff.mp hP).selection_simplify.valid)
  have hcut : cutOffByT 200 (ofReducedPairs 200 (simplify P)) 0 = ofPairs 200 (simplify P) := by
    rw [hb.cutOffByT_eq, hs]
    norm_num [samplePair, lowerOf, upperOf]
  have hs' : simplify (simplify P) = [(⟨2 / 100, 0⟩, ⟨102 / 100, 0⟩), (⟨2 / 100, 10⟩, ⟨102 / 100, 10⟩)] := by
    rw [hs]
    norm_num [simplify, simplifyFrom, isRedundant, isPointNear, LineSegment2d.distanceSquareTo, kMaxDist]
  have hw : Wide P := by
    norm_num [Wide, P, kMathEpsilon, kMinDeltaT]
  refine ⟨_, _, ofPairs_eq_of_wide hP hw, by rw [ofReducedPairs_lowerPoints, hs]; rfl,
    hcut.trans (ofPairs_eq_of_wide (isValid_iff.mpr (isValid_iff.mp hP).valid_simplify)
      (hw.sublist simplify_sublist)),
    by rw [ofReducedPairs_lowerPoints, hs']; rfl⟩

end CutOffByT

variable {P : List (PointPair α)} {B : StBoundary α}

theorem transforms_isSome (hB : ofPairs sHighLimit P = some B) :
    (∀ t, (expandByT sHighLimit B t).isSome ↔ kMinDeltaT < t) ∧
      ∀ s, kMathEpsilon / kMinDeltaT ≤ 2 * s → (expandByS sHighLimit B s).isSome := by
  obtain ⟨R, hb, -⟩ := exists_builtFrom_of_ofPairs_eq_some hB
  exact ⟨hb.expandByT_isSome_iff, fun _ hs => hb.expandByS_isSome hs⟩

theorem transforms_isSome_specExample :
    let P : List (PointPair ℝ) := [(⟨0, 0⟩, ⟨2, 0⟩), (⟨1 / 2, 1⟩, ⟨5 / 2, 1⟩), (⟨1, 2⟩, ⟨3, 2⟩)]
    ∃ B, ofPairs 200 P = some B ∧ (∀ t, (expandByT 200 B t).isSome ↔ kMinDeltaT < t) ∧
      ∀ s, kMathEpsilon / kMinDeltaT ≤ 2 * s → (expandByS 200 B s).isSome := by
  intro P
  have hP : isValid P := by
    norm_num [P, isValid, isValidFrom, PairOk, GapOk, kStBoundaryEpsilon, kMinDeltaT]
  have hw : Wide P := by
    norm_num [Wide, P, kMathEpsilon, kMinDeltaT]
  exact ⟨_, ofPairs_eq_of_wide hP hw, transforms_isSome (ofPairs_eq_of_wide hP hw)⟩

end ApolloPlanning.StBoundary
