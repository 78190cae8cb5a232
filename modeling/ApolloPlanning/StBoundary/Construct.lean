import ApolloPlanning.StBoundary.Simplify

namespace ApolloPlanning

inductive BoundaryType
  | follow
  | keepClear
  | overtake
  | stop
  | yield
  | unknown
  deriving DecidableEq, Repr

-- The state of an `StBoundary`. Its `Polygon2d` base keeps the vertex list `points`; the area and
-- edges `BuildFromPoints` derives from it are read by no modelled query. The header's default
-- member values are the arguments of `StBoundary.empty`.
structure StBoundary (α : Type) where
  boundaryType : BoundaryType
  upperPoints : List (STPoint α)
  lowerPoints : List (STPoint α)
  points : List (STPoint α)
  sHighLimit : α
  minS : α
  maxS : α
  minT : α
  maxT : α

namespace StBoundary

variable {α : Type}

def setBoundaryType (b : StBoundary α) (boundaryType : BoundaryType) : StBoundary α :=
  { b with boundaryType := boundaryType }

def typeName : BoundaryType → String
  | .follow => "FOLLOW"
  | .keepClear => "KEEP_CLEAR"
  | .overtake => "OVERTAKE"
  | .stop => "STOP"
  | .yield => "YIELD"
  | .unknown => "UNKNOWN"

-- Both points of a retained pair take the lower point's time.
def lowerOf (item : PointPair α) : STPoint α := ⟨item.1.s, item.1.t⟩

def upperOf (item : PointPair α) : STPoint α := ⟨item.2.s, item.1.t⟩

section Fields

variable {b : StBoundary α} {ty : BoundaryType}

@[simp] theorem setBoundaryType_lowerPoints : (b.setBoundaryType ty).lowerPoints = b.lowerPoints :=
  rfl

@[simp] theorem setBoundaryType_upperPoints : (b.setBoundaryType ty).upperPoints = b.upperPoints :=
  rfl

@[simp] theorem setBoundaryType_minT : (b.setBoundaryType ty).minT = b.minT :=
  rfl

@[simp] theorem setBoundaryType_maxT : (b.setBoundaryType ty).maxT = b.maxT :=
  rfl

@[simp] theorem setBoundaryType_sHighLimit : (b.setBoundaryType ty).sHighLimit = b.sHighLimit :=
  rfl

@[simp] theorem setBoundaryType_boundaryType : (b.setBoundaryType ty).boundaryType = ty :=
  rfl

@[simp] theorem lowerOf_t (x : PointPair α) : (lowerOf x).t = x.1.t :=
  rfl

@[simp] theorem upperOf_t (x : PointPair α) : (upperOf x).t = x.1.t :=
  rfl

@[simp] theorem lowerOf_s (x : PointPair α) : (lowerOf x).s = x.1.s :=
  rfl

@[simp] theorem upperOf_s (x : PointPair α) : (upperOf x).s = x.2.s :=
  rfl

end Fields

variable [LinearOrderedField α]

-- `std::numeric_limits<double>::max()`; `lowest()` is its negation.
def kDoubleMax : α := 2 ^ 1024 - 2 ^ 971

-- `StBoundary()`, with the configured `s_high_limit_`.
def empty (sHighLimit : α) : StBoundary α where
  boundaryType := .unknown
  upperPoints := []
  lowerPoints := []
  points := []
  sHighLimit := sHighLimit
  minS := kDoubleMax
  maxS := -kDoubleMax
  minT := kDoubleMax
  maxT := -kDoubleMax

-- The body of the constructor after `RemoveRedundantPoints`, before `BuildFromPoints`; the caches
-- fold `fmin`/`fmax` from the header's `numeric_limits` values.
def ofReducedPairs (sHighLimit : α) (reducedPairs : List (PointPair α)) : StBoundary α :=
  let lowerPoints := reducedPairs.map lowerOf
  let upperPoints := reducedPairs.map upperOf
  { boundaryType := .unknown
    upperPoints := upperPoints
    lowerPoints := lowerPoints
    points := lowerPoints ++ upperPoints.reverse
    sHighLimit := sHighLimit
    minS := lowerPoints.foldl (fun m p => min m p.s) kDoubleMax
    maxS := upperPoints.foldl (fun m p => max m p.s) (-kDoubleMax)
    minT := (lowerPoints.head?.map STPoint.t).getD kDoubleMax
    maxT := (lowerPoints.getLast?.map STPoint.t).getD (-kDoubleMax) }

section Fields

variable {sHighLimit : α} {R : List (PointPair α)}

@[simp] theorem ofReducedPairs_lowerPoints :
    (ofReducedPairs sHighLimit R).lowerPoints = R.map lowerOf :=
  rfl

@[simp] theorem ofReducedPairs_upperPoints :
    (ofReducedPairs sHighLimit R).upperPoints = R.map upperOf :=
  rfl

@[simp] theorem ofReducedPairs_sHighLimit : (ofReducedPairs sHighLimit R).sHighLimit = sHighLimit :=
  rfl

theorem ofReducedPairs_minT (hne : R ≠ []) : (ofReducedPairs sHighLimit R).minT = (R.head hne).1.t := by
  simp [ofReducedPairs, List.head?_eq_head hne, lowerOf]

theorem ofReducedPairs_maxT (hne : R ≠ []) :
    (ofReducedPairs sHighLimit R).maxT = (R.getLast hne).1.t := by
  simp [ofReducedPairs, List.getLast?_eq_getLast _ hne, lowerOf]

end Fields

def TGap (p q : STPoint α) : Prop :=
  p.t + kMinDeltaT < q.t

instance : IsTrans (STPoint α) TGap :=
  ⟨fun _ _ _ h₁ h₂ => by have := kMinDeltaT_pos (α := α); simp only [TGap] at *; linarith⟩

structure RepInv (b : StBoundary α) : Prop where
  length_eq : b.lowerPoints.length = b.upperPoints.length
  two_le_length : 2 ≤ b.lowerPoints.length
  t_eq : ∀ i (h₁ : i < b.lowerPoints.length) (h₂ : i < b.upperPoints.length),
    b.lowerPoints[i].t = b.upperPoints[i].t
  s_le : ∀ i (h₁ : i < b.lowerPoints.length) (h₂ : i < b.upperPoints.length),
    b.lowerPoints[i].s ≤ b.upperPoints[i].s
  t_gap : b.lowerPoints.Chain' TGap
  minT_eq : b.lowerPoints.head?.map STPoint.t = some b.minT
  maxT_eq : b.lowerPoints.getLast?.map STPoint.t = some b.maxT
  minT_lt_maxT : b.minT < b.maxT
  minS_le : ∀ p ∈ b.lowerPoints, b.minS ≤ p.s
  le_maxS : ∀ p ∈ b.upperPoints, p.s ≤ b.maxS
  minS_attained : ∃ p ∈ b.lowerPoints, b.minS = min kDoubleMax p.s
  maxS_attained : ∃ p ∈ b.upperPoints, b.maxS = max (-kDoubleMax) p.s
  minS_le_maxS : b.minS ≤ b.maxS
  points_eq : b.points = b.lowerPoints ++ b.upperPoints.reverse

section Caches

variable {β : Type} (f : β → α)

theorem foldl_min_le (l : List β) (a : α) :
    l.foldl (fun m x => min m (f x)) a ≤ a ∧ ∀ x ∈ l, l.foldl (fun m x => min m (f x)) a ≤ f x := by
  induction l generalizing a with
  | nil => simp
  | cons x l ih =>
    obtain ⟨h₁, h₂⟩ := ih (min a (f x))
    exact ⟨h₁.trans (min_le_left _ _), by simpa [h₁.trans (min_le_right _ _)] using h₂⟩

theorem foldl_min_attained (l : List β) (a : α) (h : l ≠ []) :
    ∃ x ∈ l, l.foldl (fun m x => min m (f x)) a = min a (f x) := by
  induction l generalizing a with
  | nil => contradiction
  | cons x l ih =>
    by_cases hl : l = []
    case pos => exact ⟨x, by simp [hl]⟩
    case neg =>
      obtain ⟨y, hy, he⟩ := ih (min a (f x)) hl
      rcases le_total (f x) (f y) with hxy | hxy
      case inl => exact ⟨x, by simp, by simp [he, min_assoc, min_eq_left hxy]⟩
      case inr => exact ⟨y, by simp [hy], by simp [he, min_assoc, min_eq_right hxy]⟩

theorem foldl_max_ge (l : List β) (a : α) :
    a ≤ l.foldl (fun m x => max m (f x)) a ∧ ∀ x ∈ l, f x ≤ l.foldl (fun m x => max m (f x)) a := by
  induction l generalizing a with
  | nil => simp
  | cons x l ih =>
    obtain ⟨h₁, h₂⟩ := ih (max a (f x))
    exact ⟨(le_max_left _ _).trans h₁, by simpa [(le_max_right _ _).trans h₁] using h₂⟩

theorem foldl_max_attained (l : List β) (a : α) (h : l ≠ []) :
    ∃ x ∈ l, l.foldl (fun m x => max m (f x)) a = max a (f x) := by
  induction l generalizing a with
  | nil => contradiction
  | cons x l ih =>
    by_cases hl : l = []
    case pos => exact ⟨x, by simp [hl]⟩
    case neg =>
      obtain ⟨y, hy, he⟩ := ih (max a (f x)) hl
      rcases le_total (f x) (f y) with hxy | hxy
      case inl => exact ⟨y, by simp [hy], by simp [he, max_assoc, max_eq_right hxy]⟩
      case inr => exact ⟨x, by simp, by simp [he, max_assoc, max_eq_left hxy]⟩

end Caches

section Construction

variable {sHighLimit : α} {R : List (PointPair α)}

theorem TGap.head_lt_getLast {l : List (STPoint α)} (hl : l.Chain' TGap) {p q : STPoint α}
    (hp : l.head? = some p) (hq : l.getLast? = some q) (h : 2 ≤ l.length) : p.t < q.t := by
  match l, hl, hp, hq, h with
  | a :: b :: rest, hl, hp, hq, _ =>
    cases Option.some.inj hp
    have hmem := List.mem_of_getLast?_eq_some (List.getLast?_cons_cons ▸ hq)
    have hgap : TGap p q := (List.pairwise_cons.mp (List.chain'_iff_pairwise.mp hl)).1 q hmem
    have := kMinDeltaT_pos (α := α)
    simp only [TGap] at hgap
    linarith

theorem Valid.t_gap (hR : Valid R) : (R.map lowerOf).Chain' TGap :=
  (List.chain'_map lowerOf).mpr (hR.gap_ok.imp fun _ _ h => GapOk.lt h)

theorem Valid.ne_nil (hR : Valid R) : R ≠ [] :=
  List.ne_nil_of_length_pos (by have := hR.two_le; omega)

theorem ofReducedPairs_repInv (hR : Valid R) : RepInv (ofReducedPairs sHighLimit R) := by
  obtain ⟨r, hr⟩ := List.exists_mem_of_ne_nil _ hR.ne_nil
  have hl : (R.map lowerOf).head? = some (lowerOf (R.head hR.ne_nil)) := by
    simp [List.head?_eq_head hR.ne_nil]
  have hu : (R.map lowerOf).getLast? = some (lowerOf (R.getLast hR.ne_nil)) := by
    simp [List.getLast?_eq_getLast _ hR.ne_nil]
  have hne : R.map lowerOf ≠ [] := by simpa using hR.ne_nil
  have hne' : R.map upperOf ≠ [] := by simpa using hR.ne_nil
  have hrs : (lowerOf r).s ≤ (upperOf r).s := (hR.pair_ok r hr).1
  have hmin := (foldl_min_le STPoint.s (R.map lowerOf) kDoubleMax).2 _ (List.mem_map_of_mem _ hr)
  have hmax := (foldl_max_ge STPoint.s (R.map upperOf) (-kDoubleMax)).2 _ (List.mem_map_of_mem _ hr)
  exact {
    length_eq := by simp [ofReducedPairs]
    two_le_length := by simpa [ofReducedPairs] using hR.two_le
    t_eq := fun i _ _ => by simp [ofReducedPairs, lowerOf, upperOf]
    s_le := fun i h₁ _ => by
      simpa [ofReducedPairs, lowerOf, upperOf] using (hR.pair_ok _ (List.getElem_mem _)).1
    t_gap := hR.t_gap
    minT_eq := by simp [ofReducedPairs, hl]
    maxT_eq := by simp [ofReducedPairs, hu]
    minT_lt_maxT := by
      simpa [ofReducedPairs, hl, hu] using
        TGap.head_lt_getLast hR.t_gap hl hu (by simpa using hR.two_le)
    minS_le := (foldl_min_le STPoint.s _ _).2
    le_maxS := (foldl_max_ge STPoint.s _ _).2
    minS_attained := foldl_min_attained STPoint.s _ _ hne
    maxS_attained := foldl_max_attained STPoint.s _ _ hne'
    minS_le_maxS := hmin.trans (hrs.trans hmax)
    points_eq := rfl }

variable {P : List (PointPair α)}

-- `b` has the chains and the time caches the constructor builds from the valid retained pairs `R`;
-- the queries read nothing else of it but its type and `s_high_limit_`.
structure BuiltFrom (b : StBoundary α) (R : List (PointPair α)) : Prop where
  valid : Valid R
  lowerPoints_eq : b.lowerPoints = R.map lowerOf
  upperPoints_eq : b.upperPoints = R.map upperOf
  minT_eq : b.minT = (R.head valid.ne_nil).1.t
  maxT_eq : b.maxT = (R.getLast valid.ne_nil).1.t

theorem builtFrom_ofReducedPairs {R : List (PointPair α)} (hR : Valid R) :
    BuiltFrom (ofReducedPairs sHighLimit R) R where
  valid := hR
  lowerPoints_eq := rfl
  upperPoints_eq := rfl
  minT_eq := ofReducedPairs_minT hR.ne_nil
  maxT_eq := ofReducedPairs_maxT hR.ne_nil

theorem BuiltFrom.setBoundaryType {b : StBoundary α} {R : List (PointPair α)} (hb : BuiltFrom b R)
    (ty : BoundaryType) : BuiltFrom (b.setBoundaryType ty) R :=
  ⟨hb.valid, hb.lowerPoints_eq, hb.upperPoints_eq, hb.minT_eq, hb.maxT_eq⟩

theorem Valid.head_lt_getLast (hR : Valid R) : (R.head hR.ne_nil).1.t < (R.getLast hR.ne_nil).1.t := by
  simpa using TGap.head_lt_getLast hR.t_gap (p := lowerOf (R.head hR.ne_nil))
    (q := lowerOf (R.getLast hR.ne_nil)) (by simp [List.head?_eq_head hR.ne_nil])
    (by simp [List.getLast?_eq_getLast _ hR.ne_nil]) (by simpa using hR.two_le)

theorem BuiltFrom.minT_lt_maxT {b : StBoundary α} {R : List (PointPair α)} (hb : BuiltFrom b R) :
    b.minT < b.maxT := by
  rw [hb.minT_eq, hb.maxT_eq]
  exact hb.valid.head_lt_getLast

structure Selection (P R : List (PointPair α)) : Prop where
  sublist : R.Sublist P
  head?_eq : R.head? = P.head?
  getLast?_eq : R.getLast? = P.getLast?
  valid : isValid R = true

theorem Valid.selection_simplify (hV : Valid P) : Selection P (simplify P) :=
  ⟨simplify_sublist, simplify_head?, simplify_getLast?,
    isValid_iff.mpr (hV.sublist simplify_sublist (two_le_length_simplify hV.two_le))⟩

end Construction

end StBoundary
end ApolloPlanning
