import ApolloPlanning.StBoundary.Polygon

namespace ApolloPlanning.StBoundary

variable {α : Type} [LinearOrderedField α]

-- `common::math::kMathEpsilon`.
def kMathEpsilon : α := 1 / 10000000000

theorem kMathEpsilon_pos : (0 : α) < kMathEpsilon := by
  norm_num [kMathEpsilon]

/-- Modelled from the spec: `Polygon2d::BuildFromPoints` (in `common/math`, not among the sources)
checks that there are at least three vertices, reverses a clockwise vertex list, and checks that
the enclosed area exceeds `kMathEpsilon`; `none` is the abort of either `CHECK`. -/
def buildFromPoints (points : List (STPoint α)) : Option (List (STPoint α)) :=
  if points.length < 3 then none
  else if kMathEpsilon < |signedArea points| then
    some (if signedArea points < 0 then points.reverse else points)
  else none

-- `StBoundary(point_pairs)`; `none` is the abort of `CHECK(IsValid(point_pairs))` or of a `CHECK`
-- in `BuildFromPoints`.
def ofPairs (sHighLimit : α) (pointPairs : List (PointPair α)) : Option (StBoundary α) :=
  if isValid pointPairs then
    (removeRedundantPoints pointPairs).bind fun reducedPairs =>
      let b := ofReducedPairs sHighLimit reducedPairs
      (buildFromPoints b.points).map fun points => { b with points := points }
  else none

-- Every pair is at least `kMathEpsilon / kMinDeltaT` wide: two such samples more than `kMinDeltaT`
-- apart already enclose more than `kMathEpsilon`.
def Wide (R : List (PointPair α)) : Prop :=
  ∀ x ∈ R, kMathEpsilon / kMinDeltaT ≤ x.2.s - x.1.s

instance : DecidablePred (Wide (α := α)) :=
  fun R => inferInstanceAs (Decidable (∀ x ∈ R, _))

section Area

variable {x y : PointPair α} {R Q : List (PointPair α)}

theorem Valid.signedArea_nonneg (hR : Valid R) : 0 ≤ signedArea (polygonOf R) :=
  signedArea_polygonOf R ▸ trapezoidArea_nonneg hR.pair_ok hR.gap_ok

theorem buildFromPoints_polygonOf (hR : Valid R) :
    buildFromPoints (polygonOf R) =
      if kMathEpsilon < signedArea (polygonOf R) then some (polygonOf R) else none := by
  have hlen : ¬(polygonOf R).length < 3 := by
    have := hR.two_le
    simp only [polygonOf, List.length_append, List.length_reverse, List.length_map]
    omega
  rw [buildFromPoints, if_neg hlen, abs_of_nonneg hR.signedArea_nonneg,
    if_neg (not_lt.mpr hR.signedArea_nonneg)]

theorem Valid.exists_eq_cons_cons (hR : Valid R) : ∃ x y R', R = x :: y :: R' :=
  match R, hR.two_le with
  | x :: y :: R', _ => ⟨x, y, R', rfl⟩

-- The first trapezoid alone: its time side exceeds `kMinDeltaT`, so two sides of total width `w`
-- with `2 * kMathEpsilon ≤ kMinDeltaT * w` already enclose more than `kMathEpsilon`.
theorem Valid.kMathEpsilon_lt_area_of_first (hR : Valid (x :: y :: R))
    (hw : 2 * kMathEpsilon ≤ kMinDeltaT * ((x.2.s - x.1.s) + (y.2.s - y.1.s))) :
    kMathEpsilon < signedArea (polygonOf (x :: y :: R)) := by
  have hdt : kMinDeltaT < y.1.t - x.1.t := by linarith only [(List.chain'_cons.mp hR.gap_ok).1.lt]
  have hpos : 0 < (x.2.s - x.1.s) + (y.2.s - y.1.s) :=
    pos_of_mul_pos_right (hw.trans_lt' (by linarith [kMathEpsilon_pos (α := α)])) kMinDeltaT_pos.le
  have hrest := trapezoidArea_nonneg (fun p hp => hR.pair_ok p (List.mem_cons_of_mem _ hp))
    (List.chain'_cons.mp hR.gap_ok).2
  rw [signedArea_polygonOf, trapezoidArea_cons_cons]
  calc kMathEpsilon ≤ kMinDeltaT * ((x.2.s - x.1.s) + (y.2.s - y.1.s)) / 2 := by linarith
    _ < (y.1.t - x.1.t) * ((x.2.s - x.1.s) + (y.2.s - y.1.s)) / 2 := by gcongr
    _ ≤ _ := le_add_of_nonneg_right hrest

theorem Wide.sublist (hw : Wide R) (h : Q.Sublist R) : Wide Q :=
  fun x hx => hw x (h.subset hx)

theorem Valid.kMathEpsilon_lt_area (hR : Valid R) (hw : Wide R) :
    kMathEpsilon < signedArea (polygonOf R) := by
  obtain ⟨x, y, R', rfl⟩ := hR.exists_eq_cons_cons
  refine hR.kMathEpsilon_lt_area_of_first ?_
  calc 2 * kMathEpsilon = kMinDeltaT * (kMathEpsilon / kMinDeltaT + kMathEpsilon / kMinDeltaT) := by
        rw [mul_add, mul_div_cancel₀ _ kMinDeltaT_pos.ne', two_mul]
    _ ≤ _ := mul_le_mul_of_nonneg_left (add_le_add (hw x (by simp)) (hw y (by simp))) kMinDeltaT_pos.le

theorem Valid.valid_simplify (hR : Valid R) : Valid (simplify R) :=
  isValid_iff.mp hR.selection_simplify.valid

end Area

section Constructor

variable {sHighLimit : α} {P : List (PointPair α)} {B : StBoundary α}

-- On a list `IsValid` accepts, the constructor returns exactly when the polygon of the retained
-- pairs encloses more than `kMathEpsilon`; it is counter-clockwise, so never reversed.
theorem ofPairs_of_isValid (hP : isValid P = true) :
    ofPairs sHighLimit P = if kMathEpsilon < signedArea (polygonOf (simplify P)) then
      some (ofReducedPairs sHighLimit (simplify P)) else none := by
  rw [ofPairs, if_pos hP, removeRedundantPoints_eq, Option.some_bind]
  show Option.map _ (buildFromPoints (polygonOf (simplify P))) = _
  rw [buildFromPoints_polygonOf (isValid_iff.mp hP).valid_simplify]
  split <;> rfl

theorem ofPairs_eq (hP : isValid P = true) (harea : kMathEpsilon < signedArea (polygonOf (simplify P))) :
    ofPairs sHighLimit P = some (ofReducedPairs sHighLimit (simplify P)) := by
  rw [ofPairs_of_isValid hP, if_pos harea]

theorem ofPairs_eq_of_wide (hP : isValid P = true) (hw : Wide P) :
    ofPairs sHighLimit P = some (ofReducedPairs sHighLimit (simplify P)) :=
  ofPairs_eq hP ((isValid_iff.mp hP).valid_simplify.kMathEpsilon_lt_area (hw.sublist simplify_sublist))

theorem ofPairs_eq_some_iff :
    ofPairs sHighLimit P = some B ↔ isValid P = true ∧
      kMathEpsilon < signedArea (polygonOf (simplify P)) ∧ ofReducedPairs sHighLimit (simplify P) = B := by
  by_cases hP : isValid P = true
  · rw [ofPairs_of_isValid hP]
    split <;> simp [hP, *]
  · simp [ofPairs, hP]

theorem ofPairs_isSome :
    (ofPairs sHighLimit P).isSome ↔ isValid P = true ∧ kMathEpsilon < signedArea (polygonOf (simplify P)) := by
  simp only [Option.isSome_iff_exists, ofPairs_eq_some_iff, exists_and_left, exists_eq', and_true]

theorem exists_builtFrom_of_ofPairs_eq_some (hB : ofPairs sHighLimit P = some B) :
    ∃ R, BuiltFrom B R ∧ kMathEpsilon < signedArea (polygonOf R) := by
  obtain ⟨hP, harea, rfl⟩ := ofPairs_eq_some_iff.mp hB
  exact ⟨_, builtFrom_ofReducedPairs (isValid_iff.mp hP).valid_simplify, harea⟩

theorem ofPairs_repInv (hP : isValid P = true) :
    ((ofPairs sHighLimit P).isSome ↔ kMathEpsilon < signedArea (polygonOf (simplify P))) ∧
      ∀ b, ofPairs sHighLimit P = some b → ∃ R, Selection P R ∧ b.lowerPoints.length ≤ P.length ∧
        b.lowerPoints = R.map lowerOf ∧ b.upperPoints = R.map upperOf ∧ RepInv b := by
  have hS := (isValid_iff.mp hP).selection_simplify
  refine ⟨by rw [ofPairs_isSome, and_iff_right hP], fun b hb => ?_⟩
  obtain ⟨-, -, rfl⟩ := ofPairs_eq_some_iff.mp hb
  refine ⟨simplify P, hS, ?_, rfl, rfl, ofReducedPairs_repInv (isValid_iff.mp hS.valid)⟩
  simpa using hS.sublist.length_le

theorem ofPairs_repInv_specExample :
    let P : List (PointPair ℝ) := [(⟨0, 0⟩, ⟨2, 0⟩), (⟨1 / 2, 1⟩, ⟨5 / 2, 1⟩), (⟨1, 2⟩, ⟨3, 2⟩)]
    isValid P ∧ (((ofPairs 200 P).isSome ↔ kMathEpsilon < signedArea (polygonOf (simplify P))) ∧
      ∀ b, ofPairs 200 P = some b → ∃ R, Selection P R ∧ b.lowerPoints.length ≤ P.length ∧
        b.lowerPoints = R.map lowerOf ∧ b.upperPoints = R.map upperOf ∧ RepInv b) := by
  intro P
  have hP : isValid P := by
    norm_num [P, isValid, isValidFrom, PairOk, GapOk, kStBoundaryEpsilon, kMinDeltaT]
  exact ⟨hP, ofPairs_repInv hP⟩

-- Pairs only `1e-11` wide pass the gate, but their polygon encloses `1e-11`, and `BuildFromPoints`
-- aborts.
theorem ofPairs_aborts_on_thin_pairs :
    let P : List (PointPair ℝ) := [(⟨0, 0⟩, ⟨1 / 10 ^ 11, 0⟩), (⟨0, 1⟩, ⟨1 / 10 ^ 11, 1⟩)]
    isValid P ∧ 0 < signedArea (polygonOf (simplify P)) ∧ ofPairs 200 P = none := by
  intro P
  have hP : isValid P := by
    norm_num [P, isValid, isValidFrom, PairOk, GapOk, kStBoundaryEpsilon, kMinDeltaT]
  have harea : signedArea (polygonOf (simplify P)) = 1 / 10 ^ 11 := by
    rw [simplify_of_length_le_two (by simp [P]), signedArea_polygonOf]
    norm_num [P, trapezoidArea, lowerOf, upperOf]
  refine ⟨hP, by rw [harea]; norm_num, ?_⟩
  rw [ofPairs_of_isValid hP, if_neg (by rw [harea]; norm_num [kMathEpsilon])]

-- The gate lets through pairs whose two points coincide; their polygon encloses no area, and
-- `BuildFromPoints` aborts.
theorem ofPairs_polygon_degenerate :
    let P : List (PointPair ℝ) := [(⟨0, 0⟩, ⟨0, 0⟩), (⟨0, 1⟩, ⟨0, 1⟩)]
    isValid P ∧ signedArea (polygonOf (simplify P)) = 0 ∧ ofPairs 200 P = none := by
  intro P
  have hP : isValid P := by
    norm_num [P, isValid, isValidFrom, PairOk, GapOk, kStBoundaryEpsilon, kMinDeltaT]
  have harea : signedArea (polygonOf (simplify P)) = 0 := by
    rw [simplify_of_length_le_two (by simp [P]), signedArea_polygonOf]
    norm_num [P, trapezoidArea, lowerOf, upperOf]
  refine ⟨hP, harea, ?_⟩
  rw [ofPairs_of_isValid hP, if_neg (by rw [harea]; exact not_lt.mpr kMathEpsilon_pos.le)]

theorem ofPairs_within_tolerance (P : List (PointPair α)) :
    ∃ blocks, P = flattenBlocks blocks ∧ removeRedundantPoints P = some (blocks.map Prod.fst) ∧
      BlocksOk blocks ∧ ∀ b, ofPairs sHighLimit P = some b →
        b.lowerPoints = blocks.map (lowerOf ∘ Prod.fst) ∧ b.upperPoints = blocks.map (upperOf ∘ Prod.fst) := by
  obtain ⟨blocks, hP, hs, hb⟩ := simplify_blocks P
  refine ⟨blocks, hP, by rw [removeRedundantPoints_eq, hs], hb, fun b hB => ?_⟩
  obtain ⟨-, -, rfl⟩ := ofPairs_eq_some_iff.mp hB
  simp [ofReducedPairs, hs]

-- The tolerance is not a bound on the distance to the retained polyline: the second pair is
-- dropped against the third, the third against the last, and only the end pairs remain.
theorem ofPairs_not_within_tolerance_of_polyline :
    let P : List (PointPair ℝ) :=
      [(⟨0, 0⟩, ⟨1, 0⟩), (⟨14 / 100, 1⟩, ⟨114 / 100, 1⟩), (⟨9 / 100, 2⟩, ⟨109 / 100, 2⟩), (⟨0, 3⟩, ⟨1, 3⟩)]
    isValid P ∧ ∃ b, ofPairs 200 P = some b ∧
      ∃ p ∈ P, ∀ a c, List.IsInfix [a, c] b.lowerPoints →
        kMaxDist * kMaxDist < (LineSegment2d.mk a c).distanceSquareTo p.1 := by
  intro P
  have hP : isValid P := by
    norm_num [P, isValid, isValidFrom, PairOk, GapOk, kStBoundaryEpsilon, kMinDeltaT]
  have hw : Wide P := by
    norm_num [Wide, P, kMathEpsilon, kMinDeltaT]
  refine ⟨hP, _, ofPairs_eq_of_wide hP hw, (⟨14 / 100, 1⟩, ⟨114 / 100, 1⟩), by simp [P], fun a c h => ?_⟩
  have hs : simplify P = [(⟨0, 0⟩, ⟨1, 0⟩), (⟨0, 3⟩, ⟨1, 3⟩)] := by
    norm_num [P, simplify, simplifyFrom, isRedundant, isPointNear, LineSegment2d.distanceSquareTo,
      kMaxDist]
  rw [hs, ofReducedPairs_lowerPoints] at h
  obtain ⟨rfl, rfl⟩ : a = ⟨0, 0⟩ ∧ c = ⟨0, 3⟩ := by
    simpa only [List.map_cons, List.map_nil, List.cons.injEq, and_true] using h.eq_of_length rfl
  norm_num [LineSegment2d.distanceSquareTo, kMaxDist]

end Constructor

end ApolloPlanning.StBoundary
