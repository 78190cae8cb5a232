import ApolloPlanning.StBoundary.Construct

namespace ApolloPlanning.StBoundary

variable {α : Type} [LinearOrderedField α]

-- Vertices as vectors from the origin, with `x = t` and `y = s`.
def cross (a b : STPoint α) : α := a.t * b.s - b.t * a.s

def crossSum : List (STPoint α) → α
  | a :: b :: rest => cross a b + crossSum (b :: rest)
  | _ => 0

/-- Modelled from the spec: the shoelace signed area of the closed polygon through `points`
(`Polygon2d::BuildFromPoints`, in `common/math`, is not among the sources), with `x = t` and
`y = s`; a counter-clockwise polygon has a positive area. -/
def signedArea : List (STPoint α) → α
  | [] => 0
  | p :: rest => crossSum (p :: rest ++ [p]) / 2

-- The trapezoid sum over the samples of a boundary: `(t_{i+1} - t_i) * (w_i + w_{i+1}) / 2` with
-- `w_i = upper_i.s - lower_i.s`.
def trapezoidArea : List (STPoint α) → List (STPoint α) → α
  | l₀ :: l₁ :: lower, u₀ :: u₁ :: upper =>
    (l₁.t - l₀.t) * ((u₀.s - l₀.s) + (u₁.s - l₁.s)) / 2 + trapezoidArea (l₁ :: lower) (u₁ :: upper)
  | _, _ => 0

section Shoelace

-- The vertices `points_` the constructor assembles from retained pairs.
def polygonOf (R : List (PointPair α)) : List (STPoint α) :=
  R.map lowerOf ++ (R.map upperOf).reverse

omit [LinearOrderedField α] in
theorem polygonOf_cons (x : PointPair α) (R : List (PointPair α)) :
    polygonOf (x :: R) = lowerOf x :: (polygonOf R ++ [upperOf x]) := by
  simp [polygonOf]

theorem crossSum_concat (b : STPoint α) :
    ∀ (M : List (STPoint α)) (h : M ≠ []), crossSum (M ++ [b]) = crossSum M + cross (M.getLast h) b
  | [m], _ => by simp [crossSum]
  | m :: m' :: rest, _ => by
    rw [List.cons_append, List.cons_append, crossSum, ← List.cons_append,
      crossSum_concat b (m' :: rest) (List.cons_ne_nil _ _), crossSum, List.getLast_cons_cons, add_assoc]

omit [LinearOrderedField α] in
theorem polygonOf_getLast (x : PointPair α) (R : List (PointPair α)) :
    (polygonOf (x :: R)).getLast (by simp [polygonOf]) = upperOf x := by
  simp [polygonOf]

-- The open path from the first lower vertex round to the first upper vertex: twice the trapezoid
-- sum, plus the cross term of the first sample, which the closing edge cancels.
theorem crossSum_polygonOf (x : PointPair α) :
    ∀ R : List (PointPair α), crossSum (polygonOf (x :: R)) =
      2 * trapezoidArea ((x :: R).map lowerOf) ((x :: R).map upperOf) + x.1.t * (x.2.s - x.1.s)
  | [] => by simp [polygonOf, crossSum, cross, trapezoidArea, lowerOf, upperOf]; ring
  | y :: R => by
    rw [polygonOf_cons x, polygonOf_cons y, List.cons_append, crossSum, ← List.cons_append,
      ← polygonOf_cons, crossSum_concat _ _ (by simp [polygonOf]), polygonOf_getLast,
      crossSum_polygonOf y R]
    simp only [List.map_cons, trapezoidArea, cross, lowerOf, upperOf]
    ring

theorem signedArea_polygonOf (R : List (PointPair α)) :
    signedArea (polygonOf R) = trapezoidArea (R.map lowerOf) (R.map upperOf) := by
  cases R with
  | nil => rfl
  | cons x R =>
    rw [polygonOf_cons, signedArea, ← polygonOf_cons,
      crossSum_concat _ _ (by simp [polygonOf]), polygonOf_getLast, crossSum_polygonOf]
    simp only [cross, lowerOf, upperOf]
    ring

end Shoelace

section Positive

theorem trapezoidArea_cons_cons (x y : PointPair α) (R : List (PointPair α)) :
    trapezoidArea ((x :: y :: R).map lowerOf) ((x :: y :: R).map upperOf) =
      (y.1.t - x.1.t) * ((x.2.s - x.1.s) + (y.2.s - y.1.s)) / 2 +
        trapezoidArea ((y :: R).map lowerOf) ((y :: R).map upperOf) :=
  rfl

theorem add_pos_iff_of_nonneg {a b : α} (ha : 0 ≤ a) (hb : 0 ≤ b) : 0 < a + b ↔ 0 < a ∨ 0 < b :=
  ⟨fun h => (lt_or_le 0 a).imp_right fun ha' => by linarith,
    fun h => h.elim (add_pos_of_pos_of_nonneg · hb) (add_pos_of_nonneg_of_pos ha ·)⟩

theorem trapezoid_nonneg_and_pos_iff {x y : PointPair α} (hx : PairOk x) (hy : PairOk y)
    (hxy : GapOk x y) :
    0 ≤ (y.1.t - x.1.t) * ((x.2.s - x.1.s) + (y.2.s - y.1.s)) / 2 ∧
      (0 < (y.1.t - x.1.t) * ((x.2.s - x.1.s) + (y.2.s - y.1.s)) / 2 ↔ x.1.s < x.2.s ∨ y.1.s < y.2.s) := by
  have hdt : 0 < y.1.t - x.1.t := by linarith only [hxy.lt, kMinDeltaT_pos (α := α)]
  have hwx := sub_nonneg.mpr hx.1
  have hwy := sub_nonneg.mpr hy.1
  refine ⟨by positivity, ?_⟩
  rw [div_pos_iff_of_pos_right two_pos, mul_pos_iff_of_pos_left hdt, add_pos_iff_of_nonneg hwx hwy,
    sub_pos, sub_pos]

theorem trapezoidArea_nonneg :
    ∀ {R : List (PointPair α)}, (∀ p ∈ R, PairOk p) → R.Chain' GapOk →
      0 ≤ trapezoidArea (R.map lowerOf) (R.map upperOf)
  | [], _, _ | [_], _, _ => le_rfl
  | x :: y :: R, hok, hgap => by
    rw [trapezoidArea_cons_cons]
    exact add_nonneg
      (trapezoid_nonneg_and_pos_iff (hok x (by simp)) (hok y (by simp)) (List.chain'_cons.mp hgap).1).1
      (trapezoidArea_nonneg (fun p hp => hok p (List.mem_cons_of_mem _ hp)) (List.chain'_cons.mp hgap).2)

theorem trapezoidArea_pos_iff :
    ∀ {x y : PointPair α} {R : List (PointPair α)}, (∀ p ∈ x :: y :: R, PairOk p) →
      (x :: y :: R).Chain' GapOk →
      (0 < trapezoidArea ((x :: y :: R).map lowerOf) ((x :: y :: R).map upperOf) ↔
        ∃ z ∈ x :: y :: R, z.1.s < z.2.s)
  | x, y, R, hok, hgap => by
    have hok' : ∀ p ∈ y :: R, PairOk p := fun p hp => hok p (List.mem_cons_of_mem _ hp)
    have hgap' := (List.chain'_cons.mp hgap).2
    obtain ⟨h₀, hiff⟩ :=
      trapezoid_nonneg_and_pos_iff (hok x (by simp)) (hok y (by simp)) (List.chain'_cons.mp hgap).1
    rw [trapezoidArea_cons_cons, add_pos_iff_of_nonneg h₀ (trapezoidArea_nonneg hok' hgap'), hiff]
    cases R with
    | nil =>
      simp only [List.map_cons, List.map_nil, trapezoidArea, lt_irrefl, or_false, List.exists_mem_cons_iff,
        List.not_mem_nil, false_and, exists_false]
    | cons z R =>
      rw [trapezoidArea_pos_iff hok' hgap']
      simp only [List.exists_mem_cons_iff, or_assoc, or_self_left]

end Positive

end ApolloPlanning.StBoundary
