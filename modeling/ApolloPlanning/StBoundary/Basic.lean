import Mathlib

namespace ApolloPlanning

-- An `STPoint` is a `Vec2d` whose `x` is the time `t` and whose `y` is the arc length `s`. As in
-- the source, its constructor takes `s` first. Coordinates are exact: every finite double is a
-- value of any linear ordered field containing the rationals.
structure STPoint (α : Type) where
  s : α
  t : α
  deriving DecidableEq, Repr

-- One time sample of an obstacle, `std::pair<STPoint, STPoint>` with the lower point first.
abbrev PointPair (α : Type) := STPoint α × STPoint α

-- `common::math::LineSegment2d`, stored by its two end points.
structure LineSegment2d (α : Type) where
  start : STPoint α
  end_ : STPoint α

namespace LineSegment2d

variable {α : Type} [LinearOrderedField α]

/-- Modelled from the spec: `LineSegment2d::DistanceSquareTo` (in `common/math`, not among the
sources), the squared Euclidean distance from `point` to the closed segment `seg`. -/
def distanceSquareTo (seg : LineSegment2d α) (point : STPoint α) : α :=
  let dx := seg.end_.t - seg.start.t
  let dy := seg.end_.s - seg.start.s
  let x0 := point.t - seg.start.t
  let y0 := point.s - seg.start.s
  let proj := x0 * dx + y0 * dy
  let length2 := dx * dx + dy * dy
  if length2 = 0 ∨ proj ≤ 0 then x0 * x0 + y0 * y0
  else if length2 ≤ proj then
    (point.t - seg.end_.t) * (point.t - seg.end_.t) + (point.s - seg.end_.s) * (point.s - seg.end_.s)
  else (x0 * dy - y0 * dx) * (x0 * dy - y0 * dx) / length2

end LineSegment2d

namespace StBoundary

variable {α : Type} [LinearOrderedField α]

def kStBoundaryEpsilon : α := 1 / 1000000000

def kMinDeltaT : α := 1 / 1000000

def kMaxDist : α := 1 / 10

theorem kMinDeltaT_pos : (0 : α) < kMinDeltaT := by
  norm_num [kMinDeltaT]

-- The two checks `IsValid` makes on each pair.
def PairOk (p : PointPair α) : Prop :=
  p.1.s ≤ p.2.s ∧ |p.1.t - p.2.t| ≤ kStBoundaryEpsilon

-- The check `IsValid` makes between a pair and the next one.
def GapOk (p q : PointPair α) : Prop :=
  max p.1.t p.2.t + kMinDeltaT < min q.1.t q.2.t

theorem pairOk_of_t_eq {p : PointPair α} (hs : p.1.s ≤ p.2.s) (ht : p.1.t = p.2.t) : PairOk p :=
  ⟨hs, by norm_num [ht, kStBoundaryEpsilon]⟩

instance : DecidablePred (PairOk (α := α)) :=
  fun _ => inferInstanceAs (Decidable (_ ∧ _))

instance (p q : PointPair α) : Decidable (GapOk p q) :=
  inferInstanceAs (Decidable (_ < _))

-- `IsValid` scans the pairs in order and returns `false` at the first failed check; only the
-- verdict is observable, so the scan is a conjunction.
def isValidFrom : List (PointPair α) → Bool
  | [] => true
  | [p] => decide (PairOk p)
  | p :: q :: rest => decide (PairOk p) && decide (GapOk p q) && isValidFrom (q :: rest)

def isValid (pointPairs : List (PointPair α)) : Bool :=
  decide (2 ≤ pointPairs.length) && isValidFrom pointPairs

structure Valid (P : List (PointPair α)) : Prop where
  two_le : 2 ≤ P.length
  pair_ok : ∀ p ∈ P, PairOk p
  gap_ok : P.Chain' GapOk

theorem isValidFrom_iff {P : List (PointPair α)} :
    isValidFrom P = true ↔ (∀ p ∈ P, PairOk p) ∧ P.Chain' GapOk := by
  induction P using isValidFrom.induct with
  | case1 => simp [isValidFrom]
  | case2 p => simp [isValidFrom]
  | case3 p q rest ih =>
    simp only [isValidFrom, Bool.and_eq_true, decide_eq_true_eq, ih, List.forall_mem_cons,
      List.chain'_cons]
    tauto

theorem isValid_iff {P : List (PointPair α)} : isValid P = true ↔ Valid P := by
  simp only [isValid, Bool.and_eq_true, decide_eq_true_eq, isValidFrom_iff]
  exact ⟨fun ⟨h₁, h₂, h₃⟩ => ⟨h₁, h₂, h₃⟩, fun ⟨h₁, h₂, h₃⟩ => ⟨h₁, h₂, h₃⟩⟩

theorem GapOk.lt {p q : PointPair α} (h : GapOk p q) : p.1.t + kMinDeltaT < q.1.t := by
  have := (le_max_left p.1.t p.2.t)
  have := min_le_left q.1.t q.2.t
  simp only [GapOk] at h
  linarith

theorem GapOk.trans {p q r : PointPair α} (h₁ : GapOk p q) (h₂ : GapOk q r) : GapOk p r := by
  have := min_le_max (a := q.1.t) (b := q.2.t)
  have := kMinDeltaT_pos (α := α)
  simp only [GapOk] at *
  linarith

instance : IsTrans (PointPair α) GapOk :=
  ⟨fun _ _ _ => GapOk.trans⟩

theorem Valid.sublist {P Q : List (PointPair α)} (hP : Valid P) (h : Q.Sublist P) (hQ : 2 ≤ Q.length) :
    Valid Q where
  two_le := hQ
  pair_ok p hp := hP.pair_ok p (h.subset hp)
  gap_ok := hP.gap_ok.sublist h

def isPointNear (seg : LineSegment2d α) (point : STPoint α) (maxDist : α) : Bool :=
  seg.distanceSquareTo point < maxDist * maxDist


end StBoundary
end ApolloPlanning
