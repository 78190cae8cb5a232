import ApolloPlanning.StBoundary.Build

namespace ApolloPlanning.StBoundary

variable {α : Type} [LinearOrderedField α]

/-- Modelled from the spec: `common::math::CrossProd(start, end_1, end_2)` (in `common/math`, not
among the sources), the cross product of `end_1 - start` and `end_2 - start` with `x = t`, `y = s`. -/
def crossProd (startPoint endPoint1 endPoint2 : STPoint α) : α :=
  (endPoint1.t - startPoint.t) * (endPoint2.s - startPoint.s) -
    (endPoint1.s - startPoint.s) * (endPoint2.t - startPoint.t)

-- `std::lower_bound(points.begin(), points.end(), t, comp)` with `comp(p, t) = p.t() < t`, as the
-- standard specifies it on a range partitioned by `comp`: the index of the first point not
-- before `t`, or the size when there is none.
def lowerBound (points : List (STPoint α)) (t : α) : Nat :=
  points.findIdx fun p => !decide (p.t < t)

-- The loop of libstdc++'s `std::__lower_bound`, the search `std::lower_bound` runs: the answer is
-- sought in `[first, first + len]`, and each step tests the point `len / 2` past `first` and keeps
-- one half. A read past the end is `none`.
def lowerBoundLoop (points : List (STPoint α)) (t : α) (first len : Nat) : Option Nat :=
  if len = 0 then some first
  else
    match points[first + len / 2]? with
    | none => none
    | some middle =>
      if middle.t < t then lowerBoundLoop points t (first + len / 2 + 1) (len - len / 2 - 1)
      else lowerBoundLoop points t first (len / 2)
termination_by len
decreasing_by all_goals omega

def lowerBoundSearch (points : List (STPoint α)) (t : α) : Option Nat :=
  lowerBoundLoop points t 0 points.length

-- `GetIndexRange`; `none` is its `false`. Both callers compare the time with `min_t_` and
-- `max_t_` first, so `front()` and `back()` of an empty vector are never reached.
def getIndexRange (points : List (STPoint α)) (t : α) : Option (Nat × Nat) :=
  match points.head?, points.getLast? with
  | some front, some back =>
    if t < front.t ∨ t > back.t then none
    else
      let index := lowerBound points t
      if index = 0 then some (0, 0)
      else if index = points.length then some (points.length - 1, points.length - 1)
      else some (index - 1, index)
  | _, _ => none

-- `IsPointInBoundary`; an element access out of range is `none`.
def isPointInBoundary (b : StBoundary α) (stPoint : STPoint α) : Option Bool :=
  if stPoint.t ≤ b.minT ∨ stPoint.t ≥ b.maxT then some false
  else
    match getIndexRange b.lowerPoints stPoint.t with
    | none => some false
    | some (left, right) => do
      let checkUpper := crossProd stPoint (← b.upperPoints[left]?) (← b.upperPoints[right]?)
      let checkLower := crossProd stPoint (← b.lowerPoints[left]?) (← b.lowerPoints[right]?)
      pure (decide (checkUpper * checkLower < 0))

-- A double that may be NaN, `none`. The range queries divide by `t_right - t_left`; on a
-- degenerate bracket (`left = right`) numerator and slope are zero as well, and IEEE arithmetic
-- makes the quotient and every value computed from it NaN.
def fdiv (a b : α) : Option α :=
  if b = 0 then none else some (a / b)

-- `std::fmin(x, y)` and `std::fmax(x, y)` with `y` a number: a NaN `x` is ignored.
def fmin (x : Option α) (y : α) : α :=
  match x with
  | none => y
  | some x => min x y

def fmax (x : Option α) (y : α) : α :=
  match x with
  | none => y
  | some x => max x y

-- The result of a range query: the returned `bool` and the values left in `*s_upper` and
-- `*s_lower`.
structure SRange (α : Type) where
  ok : Bool
  sUpper : Option α
  sLower : Option α

-- The interpolation both range queries share: `r` from the upper chain's times, then both chains.
def crossS (b : StBoundary α) (left right : Nat) (currTime : α) : Option (Option α × Option α) := do
  let ul ← b.upperPoints[left]?
  let ur ← b.upperPoints[right]?
  let ll ← b.lowerPoints[left]?
  let lr ← b.lowerPoints[right]?
  let r := fdiv (currTime - ul.t) (ur.t - ul.t)
  pure (r.map fun r => ul.s + r * (ur.s - ul.s), r.map fun r => ll.s + r * (lr.s - ll.s))

-- `GetUnblockSRange`; the outputs start as `s_high_limit_` and `0`.
def getUnblockSRange (b : StBoundary α) (currTime : α) : Option (SRange α) :=
  if currTime < b.minT ∨ currTime > b.maxT then some ⟨true, some b.sHighLimit, some 0⟩
  else
    match getIndexRange b.lowerPoints currTime with
    | none => some ⟨false, some b.sHighLimit, some 0⟩
    | some (left, right) => do
      let (upperCrossS, lowerCrossS) ← crossS b left right currTime
      match b.boundaryType with
      | .stop | .yield | .follow => pure ⟨true, lowerCrossS, some 0⟩
      | .overtake => pure ⟨true, some b.sHighLimit, some (fmax upperCrossS 0)⟩
      | .keepClear | .unknown => pure ⟨false, some b.sHighLimit, some 0⟩

-- `GetBoundarySRange`; on `false` the caller's `sUpper` and `sLower` are left as they were.
def getBoundarySRange (b : StBoundary α) (currTime : α) (sUpper sLower : Option α) :
    Option (SRange α) :=
  if currTime < b.minT ∨ currTime > b.maxT then some ⟨false, sUpper, sLower⟩
  else
    match getIndexRange b.lowerPoints currTime with
    | none => some ⟨false, sUpper, sLower⟩
    | some (left, right) => do
      let (upperCrossS, lowerCrossS) ← crossS b left right currTime
      pure ⟨true, some (fmin upperCrossS b.sHighLimit), some (fmax lowerCrossS 0)⟩

-- The value at time `t` of the line through `p` and `q`.
def lineAt (p q : STPoint α) (t : α) : α :=
  p.s + (t - p.t) / (q.t - p.t) * (q.s - p.s)

-- The piecewise-linear interpolant through samples sorted by time: on `[p.t, q.t]` the line
-- through `p` and `q`, before the first sample the first segment's line.
def piecewiseLinear : List (STPoint α) → α → α
  | p :: q :: rest, t => if t ≤ q.t then lineAt p q t else piecewiseLinear (q :: rest) t
  | [p], _ => p.s
  | [], _ => 0

section Bracket

variable {t : α} {p : STPoint α} {l : List (STPoint α)}

theorem lowerBound_cons_of_lt (h : p.t < t) : lowerBound (p :: l) t = lowerBound l t + 1 := by
  simp [lowerBound, List.findIdx_cons, h]

theorem lowerBound_cons_of_le (h : t ≤ p.t) : lowerBound (p :: l) t = 0 := by
  simp [lowerBound, List.findIdx_cons, not_lt.mpr h]

-- `std::lower_bound` stops right after the segment whose line the interpolant takes.
theorem bracket {R : List (PointPair α)} (hne : R ≠ []) (h₁ : (R.head hne).1.t < t)
    (h₂ : t ≤ (R.getLast hne).1.t) :
    ∃ k, ∃ hk : k + 1 < R.length, lowerBound (R.map lowerOf) t = k + 1 ∧ R[k].1.t < t ∧
      t ≤ R[k + 1].1.t ∧ ∀ f : PointPair α → STPoint α, (∀ x, (f x).t = x.1.t) →
        piecewiseLinear (R.map f) t = lineAt (f R[k]) (f R[k + 1]) t := by
  induction R with
  | nil => contradiction
  | cons a rest ih =>
    cases rest with
    | nil => simp at h₁ h₂; exact absurd h₂ (not_le.mpr h₁)
    | cons b rest =>
      by_cases hb : t ≤ b.1.t
      case pos =>
        refine ⟨0, by simp, ?_, h₁, hb, fun f hf => by simp [piecewiseLinear, hf, hb]⟩
        simp only [List.map_cons]
        rw [lowerBound_cons_of_lt (p := lowerOf a) h₁, lowerBound_cons_of_le (p := lowerOf b) hb]
      case neg =>
        obtain ⟨k, hk, hlb, hk₁, hk₂, hpl⟩ :=
          ih (List.cons_ne_nil _ _) (by simpa using not_le.mp hb) (by simpa using h₂)
        refine ⟨k + 1, by simpa using hk, ?_, by simpa using hk₁, by simpa using hk₂, fun f hf => ?_⟩
        · simp only [List.map_cons] at hlb ⊢
          rw [lowerBound_cons_of_lt (p := lowerOf a) h₁, hlb]
        · simp only [List.map_cons] at hpl ⊢
          simp [piecewiseLinear, hf, hb, hpl f hf]

end Bracket

section Interpolant

variable {β : Type} {t : α}

theorem piecewiseLinear_map_shift {f g : β → STPoint α} {c : α} (ht : ∀ x, (g x).t = (f x).t)
    (hs : ∀ x, (g x).s = (f x).s + c) :
    ∀ {l : List β}, l ≠ [] → piecewiseLinear (l.map g) t = piecewiseLinear (l.map f) t + c
  | [_], _ => by simp [piecewiseLinear, hs]
  | x :: y :: rest, _ => by
    simp only [List.map_cons, piecewiseLinear, ht]
    split_ifs
    · simp only [lineAt, hs, ht]
      ring
    · exact piecewiseLinear_map_shift ht hs (List.cons_ne_nil _ _)

theorem piecewiseLinear_cons_of_lt (a : STPoint α) :
    ∀ {l : List (STPoint α)} (hne : l ≠ []), (l.head hne).t < t →
      piecewiseLinear (a :: l) t = piecewiseLinear l t
  | _ :: _, _, h => by
    rw [piecewiseLinear]
    exact if_neg (not_le.mpr h)

theorem piecewiseLinear_append_of_le (b : STPoint α) :
    ∀ {l : List (STPoint α)} (hne : l ≠ []), (l.head hne).t < t → t ≤ (l.getLast hne).t →
      piecewiseLinear (l ++ [b]) t = piecewiseLinear l t
  | [_], _, h₁, h₂ => absurd h₂ (not_le.mpr h₁)
  | p :: q :: rest, _, h₁, h₂ => by
    have ih : ¬t ≤ q.t → piecewiseLinear (q :: rest ++ [b]) t = piecewiseLinear (q :: rest) t :=
      fun hq => piecewiseLinear_append_of_le b (List.cons_ne_nil _ _) (not_le.mp hq) (by simpa using h₂)
    rw [List.cons_append, List.cons_append, piecewiseLinear, piecewiseLinear]
    split_ifs with hq
    · rfl
    · exact ih hq

theorem piecewiseLinear_extend {a b : STPoint α} {l : List (STPoint α)} (hne : l ≠ []) (h₀ : a.t < t)
    (h₁ : (l.head hne).t < t) (h₂ : t ≤ (l.getLast hne).t) :
    piecewiseLinear (a :: l ++ [b]) t = piecewiseLinear l t := by
  rw [piecewiseLinear_append_of_le b (List.cons_ne_nil a l) h₀ (by rwa [List.getLast_cons hne]),
    piecewiseLinear_cons_of_lt a hne h₁]

end Interpolant

theorem crossProd_eq_mul (point a b : STPoint α) (h : a.t ≠ b.t) :
    crossProd point a b = (b.t - a.t) * (point.s - lineAt a b point.t) := by
  have : b.t - a.t ≠ 0 := sub_ne_zero.mpr h.symm
  simp only [crossProd, lineAt]
  field_simp
  ring

theorem lineAt_le_lineAt {a b a' b' : STPoint α} {t : α} (ha : a'.t = a.t) (hb : b'.t = b.t)
    (has : a.s ≤ a'.s) (hbs : b.s ≤ b'.s) (h₁ : a.t < t) (h₂ : t ≤ b.t) :
    lineAt a b t ≤ lineAt a' b' t := by
  simp only [lineAt, ha, hb]
  set r := (t - a.t) / (b.t - a.t)
  have hr₀ : 0 ≤ r := div_nonneg (by linarith) (by linarith)
  have hr₁ : r ≤ 1 := (div_le_one (by linarith)).mpr (by linarith)
  linarith [mul_nonneg hr₀ (sub_nonneg.mpr hbs), mul_nonneg (sub_nonneg.mpr hr₁) (sub_nonneg.mpr has)]

-- The sign test of `IsPointInBoundary`.
theorem cross_mul_neg_iff {d s l u : α} (hd : 0 < d) (hlu : l ≤ u) :
    d * (s - u) * (d * (s - l)) < 0 ↔ l < s ∧ s < u := by
  have hd2 : 0 < d * d := mul_pos hd hd
  have : d * (s - u) * (d * (s - l)) = d * d * ((s - u) * (s - l)) := by ring
  rw [this]
  constructor
  case mp =>
    intro h
    rcases mul_neg_iff.mp (neg_of_mul_neg_right h hd2.le) with ⟨h₁, h₂⟩ | ⟨h₁, h₂⟩
    · exact absurd hlu (by linarith)
    · exact ⟨by linarith, by linarith⟩
  case mpr =>
    rintro ⟨h₁, h₂⟩
    exact mul_neg_of_pos_of_neg hd2 (mul_neg_of_neg_of_pos (by linarith) (by linarith))

section Interior

variable {b : StBoundary α} {R : List (PointPair α)} {t : α}

theorem getIndexRange_eq {points : List (STPoint α)} (hne : points ≠ []) :
    getIndexRange points t =
      if t < (points.head hne).t ∨ t > (points.getLast hne).t then none
      else if lowerBound points t = 0 then some (0, 0)
      else if lowerBound points t = points.length then some (points.length - 1, points.length - 1)
      else some (lowerBound points t - 1, lowerBound points t) := by
  simp [getIndexRange, List.head?_eq_head hne, List.getLast?_eq_getLast _ hne]

theorem getIndexRange_of_interior (hne : R ≠ []) (h₁ : (R.head hne).1.t < t)
    (h₂ : t ≤ (R.getLast hne).1.t) :
    ∃ k, ∃ hk : k + 1 < R.length, getIndexRange (R.map lowerOf) t = some (k, k + 1) ∧
      R[k].1.t < t ∧ t ≤ R[k + 1].1.t ∧ ∀ f : PointPair α → STPoint α, (∀ x, (f x).t = x.1.t) →
        piecewiseLinear (R.map f) t = lineAt (f R[k]) (f R[k + 1]) t := by
  obtain ⟨k, hk, hlb, hk₁, hk₂, hpl⟩ := bracket hne h₁ h₂
  refine ⟨k, hk, ?_, hk₁, hk₂, hpl⟩
  rw [getIndexRange_eq (by simpa using hne), if_neg (by simp; exact ⟨h₁.le, h₂⟩), hlb,
    if_neg (by omega), if_neg (by simp; omega)]
  rfl

theorem getIndexRange_of_eq_head (hne : R ≠ []) (h : t = (R.head hne).1.t)
    (h₂ : t ≤ (R.getLast hne).1.t) : getIndexRange (R.map lowerOf) t = some (0, 0) := by
  obtain ⟨a, rest, rfl⟩ := List.exists_cons_of_ne_nil hne
  have hlb : lowerBound ((a :: rest).map lowerOf) t = 0 :=
    lowerBound_cons_of_le (p := lowerOf a) (by simp_all)
  rw [getIndexRange_eq (by simp), List.getLast_map, List.head_map,
    if_neg (by simp only [lowerOf_t]; push_neg; exact ⟨h.ge, h₂⟩), if_pos hlb]

theorem crossS_of_lt {k : Nat} (hk : k + 1 < R.length)
    (hlo : b.lowerPoints = R.map lowerOf) (hup : b.upperPoints = R.map upperOf)
    (hlt : R[k].1.t < R[k + 1].1.t) :
    crossS b k (k + 1) t = some (some (lineAt (upperOf R[k]) (upperOf R[k + 1]) t),
      some (lineAt (lowerOf R[k]) (lowerOf R[k + 1]) t)) := by
  have hne : R[k + 1].1.t - R[k].1.t ≠ 0 := sub_ne_zero.mpr hlt.ne'
  simp [crossS, hlo, hup, fdiv, hne, lineAt, List.getElem?_eq_getElem (show k < R.length by omega), List.getElem?_eq_getElem hk]

theorem BuiltFrom.interior_values (hb : BuiltFrom b R) (h₁ : b.minT < t) (h₂ : t ≤ b.maxT) :
    ∃ k, ∃ hk : k + 1 < R.length, getIndexRange b.lowerPoints t = some (k, k + 1) ∧
      b.lowerPoints[k]? = some (lowerOf R[k]) ∧ b.lowerPoints[k + 1]? = some (lowerOf R[k + 1]) ∧
      b.upperPoints[k]? = some (upperOf R[k]) ∧ b.upperPoints[k + 1]? = some (upperOf R[k + 1]) ∧
      R[k].1.t < R[k + 1].1.t ∧
      crossS b k (k + 1) t = some (some (piecewiseLinear b.upperPoints t),
        some (piecewiseLinear b.lowerPoints t)) ∧
      piecewiseLinear b.lowerPoints t = lineAt (lowerOf R[k]) (lowerOf R[k + 1]) t ∧
      piecewiseLinear b.upperPoints t = lineAt (upperOf R[k]) (upperOf R[k + 1]) t ∧
      piecewiseLinear b.lowerPoints t ≤ piecewiseLinear b.upperPoints t := by
  rw [hb.minT_eq] at h₁
  rw [hb.maxT_eq] at h₂
  obtain ⟨k, hk, hidx, hk₁, hk₂, hpl⟩ := getIndexRange_of_interior hb.valid.ne_nil h₁ h₂
  have hlo := hpl lowerOf (fun _ => rfl)
  have hup := hpl upperOf (fun _ => rfl)
  have hk' : k < R.length := by omega
  have hs : R[k].1.s ≤ R[k].2.s := (hb.valid.pair_ok _ (List.getElem_mem _)).1
  have hs' : R[k + 1].1.s ≤ R[k + 1].2.s := (hb.valid.pair_ok _ (List.getElem_mem _)).1
  refine ⟨k, hk, ?_⟩
  rw [crossS_of_lt hk hb.lowerPoints_eq hb.upperPoints_eq (hk₁.trans_le hk₂), hb.lowerPoints_eq,
    hb.upperPoints_eq, hlo, hup]
  exact ⟨hidx, by simp [List.getElem?_eq_getElem hk'], by simp [List.getElem?_eq_getElem hk],
    by simp [List.getElem?_eq_getElem hk'], by simp [List.getElem?_eq_getElem hk],
    hk₁.trans_le hk₂, rfl, rfl, rfl, lineAt_le_lineAt rfl rfl hs hs' hk₁ hk₂⟩

-- At `min_t_` the bracket is `(0, 0)` and the ratio `0 / 0`.
theorem BuiltFrom.crossS_at_minT (hb : BuiltFrom b R) :
    getIndexRange b.lowerPoints b.minT = some (0, 0) ∧ crossS b 0 0 b.minT = some (none, none) := by
  have hne := hb.valid.ne_nil
  refine ⟨?_, ?_⟩
  · rw [hb.lowerPoints_eq]
    exact getIndexRange_of_eq_head hne hb.minT_eq (hb.maxT_eq ▸ hb.minT_lt_maxT.le)
  · obtain ⟨a, rest, rfl⟩ := List.exists_cons_of_ne_nil hne
    simp [crossS, hb.lowerPoints_eq, hb.upperPoints_eq, fdiv]

section Queries

variable (hb : BuiltFrom b R)
include hb

theorem BuiltFrom.isPointInBoundary_eq (point : STPoint α) :
    isPointInBoundary b point = some (decide (b.minT < point.t ∧ point.t < b.maxT ∧
      piecewiseLinear b.lowerPoints point.t < point.s ∧
      point.s < piecewiseLinear b.upperPoints point.t)) := by
  by_cases h : b.minT < point.t ∧ point.t < b.maxT
  case neg =>
    have h' : point.t ≤ b.minT ∨ point.t ≥ b.maxT := by
      rw [not_and_or, not_lt, not_lt] at h
      exact h
    rw [isPointInBoundary, if_pos h', decide_eq_false fun hc => h ⟨hc.1, hc.2.1⟩]
  case pos =>
    obtain ⟨k, hk, hidx, hl₀, hl₁, hu₀, hu₁, hlt, -, hlo, hup, hle⟩ := hb.interior_values h.1 h.2.le
    rw [isPointInBoundary, if_neg (by push_neg; exact h), hidx]
    simp only [hl₀, hl₁, hu₀, hu₁, Option.bind_eq_bind, Option.some_bind, Option.pure_def]
    rw [crossProd_eq_mul _ _ _ (show (upperOf R[k]).t ≠ (upperOf R[k + 1]).t from hlt.ne),
      crossProd_eq_mul _ _ _ (show (lowerOf R[k]).t ≠ (lowerOf R[k + 1]).t from hlt.ne)]
    simp only [lowerOf_t, upperOf_t]
    rw [← hlo, ← hup]
    simp only [cross_mul_neg_iff (sub_pos.mpr hlt) hle, h, true_and]

theorem BuiltFrom.isPointInBoundary_eq_some_true {point : STPoint α} :
    isPointInBoundary b point = some true ↔ b.minT < point.t ∧ point.t < b.maxT ∧
      piecewiseLinear b.lowerPoints point.t < point.s ∧ point.s < piecewiseLinear b.upperPoints point.t := by
  rw [hb.isPointInBoundary_eq, Option.some.injEq, decide_eq_true_iff]

theorem BuiltFrom.getBoundarySRange_of_interior (h₁ : b.minT < t) (h₂ : t ≤ b.maxT)
    (sUpper sLower : Option α) :
    getBoundarySRange b t sUpper sLower = some ⟨true,
      some (min (piecewiseLinear b.upperPoints t) b.sHighLimit),
      some (max (piecewiseLinear b.lowerPoints t) 0)⟩ := by
  obtain ⟨k, hk, hidx, -, -, -, -, -, hcross, -⟩ := hb.interior_values h₁ h₂
  rw [getBoundarySRange, if_neg (by push_neg; exact ⟨h₁.le, h₂⟩), hidx]
  simp [hcross, fmin, fmax]

theorem BuiltFrom.getUnblockSRange_of_interior (h₁ : b.minT < t) (h₂ : t ≤ b.maxT) :
    getUnblockSRange b t =
      match b.boundaryType with
      | .stop | .yield | .follow => some ⟨true, some (piecewiseLinear b.lowerPoints t), some 0⟩
      | .overtake => some ⟨true, some b.sHighLimit, some (max (piecewiseLinear b.upperPoints t) 0)⟩
      | .keepClear | .unknown => some ⟨false, some b.sHighLimit, some 0⟩ := by
  obtain ⟨k, hk, hidx, -, -, -, -, -, hcross, -⟩ := hb.interior_values h₁ h₂
  rw [getUnblockSRange, if_neg (by push_neg; exact ⟨h₁.le, h₂⟩), hidx]
  cases b.boundaryType <;> simp [hcross, fmax]

theorem BuiltFrom.getBoundarySRange_at_minT (sUpper sLower : Option α) :
    getBoundarySRange b b.minT sUpper sLower = some ⟨true, some b.sHighLimit, some 0⟩ := by
  obtain ⟨hidx, hcross⟩ := hb.crossS_at_minT
  rw [getBoundarySRange, if_neg (by push_neg; exact ⟨le_rfl, hb.minT_lt_maxT.le⟩), hidx]
  simp [hcross, fmin, fmax]

-- No clamp removes a blocking boundary's NaN at `min_t_`.
theorem BuiltFrom.getUnblockSRange_at_minT :
    getUnblockSRange b b.minT =
      match b.boundaryType with
      | .stop | .yield | .follow => some ⟨true, none, some 0⟩
      | .overtake => some ⟨true, some b.sHighLimit, some 0⟩
      | .keepClear | .unknown => some ⟨false, some b.sHighLimit, some 0⟩ := by
  obtain ⟨hidx, hcross⟩ := hb.crossS_at_minT
  rw [getUnblockSRange, if_neg (by push_neg; exact ⟨le_rfl, hb.minT_lt_maxT.le⟩), hidx]
  cases b.boundaryType <;> simp [hcross, fmax]

end Queries

theorem isPointInBoundary_ofReducedPairs (hR : Valid R) (sHighLimit : α) (p : STPoint α) :
    isPointInBoundary (ofReducedPairs sHighLimit R) p = some (decide ((R.head hR.ne_nil).1.t < p.t ∧
      p.t < (R.getLast hR.ne_nil).1.t ∧ piecewiseLinear (R.map lowerOf) p.t < p.s ∧
      p.s < piecewiseLinear (R.map upperOf) p.t)) := by
  rw [(builtFrom_ofReducedPairs hR).isPointInBoundary_eq, ofReducedPairs_minT hR.ne_nil,
    ofReducedPairs_maxT hR.ne_nil]
  rfl

-- At the first sample time the queries do not return the sample's clamped values.
theorem getBoundarySRange_at_minT_specExample :
    let P : List (PointPair ℝ) := [(⟨0, 0⟩, ⟨2, 0⟩), (⟨1 / 2, 1⟩, ⟨5 / 2, 1⟩), (⟨1, 2⟩, ⟨3, 2⟩)]
    ∃ B, ofPairs 200 P = some B ∧ B.minT = 0 ∧ getIndexRange B.lowerPoints 0 = some (0, 0) ∧
      min (piecewiseLinear B.upperPoints 0) 200 = 2 ∧ max (piecewiseLinear B.lowerPoints 0) 0 = 0 ∧
      getBoundarySRange B 0 (some 0) (some 0) = some ⟨true, some 200, some 0⟩ ∧
      piecewiseLinear B.lowerPoints 0 = 0 ∧
      getUnblockSRange (B.setBoundaryType .stop) 0 = some ⟨true, none, some 0⟩ := by
  intro P
  have hP : isValid P := by
    norm_num [P, isValid, isValidFrom, PairOk, GapOk, kStBoundaryEpsilon, kMinDeltaT]
  have hs : simplify P = [(⟨0, 0⟩, ⟨2, 0⟩), (⟨1, 2⟩, ⟨3, 2⟩)] := by
    norm_num [P, simplify, simplifyFrom, isRedundant, isPointNear, LineSegment2d.distanceSquareTo,
      kMaxDist]
  have hw : Wide P := by
    norm_num [Wide, P, kMathEpsilon, kMinDeltaT]
  rw [ofPairs_eq_of_wide hP hw, hs]
  have hb : BuiltFrom (ofReducedPairs (200 : ℝ) _) _ :=
    builtFrom_ofReducedPairs (hs ▸ isValid_iff.mp (isValid_iff.mp hP).selection_simplify.valid)
  have hL : piecewiseLinear (ofReducedPairs (200 : ℝ) [(⟨0, 0⟩, ⟨2, 0⟩), (⟨1, 2⟩, ⟨3, 2⟩)]).lowerPoints 0 = 0 := by
    norm_num [piecewiseLinear, lineAt, lowerOf]
  refine ⟨_, rfl, rfl, hb.crossS_at_minT.1, by norm_num [piecewiseLinear, lineAt, upperOf],
    by rw [hL, max_self], hb.getBoundarySRange_at_minT _ _, hL,
    (hb.setBoundaryType .stop).getUnblockSRange_at_minT⟩

theorem getUnblockSRange_of_exterior (h : t < b.minT ∨ t > b.maxT) :
    getUnblockSRange b t = some ⟨true, some b.sHighLimit, some 0⟩ := by
  simp [getUnblockSRange, h]

theorem getBoundarySRange_of_exterior (h : t < b.minT ∨ t > b.maxT) (sUpper sLower : Option α) :
    getBoundarySRange b t sUpper sLower = some ⟨false, sUpper, sLower⟩ := by
  simp [getBoundarySRange, h]

end Interior

section Search

variable {points : List (STPoint α)} {t : α} {first len k : Nat}

-- What the search keeps true.
structure SearchInv (points : List (STPoint α)) (t : α) (first len : Nat) : Prop where
  le_length : first + len ≤ points.length
  before : ∀ i (h : i < points.length), i < first → points[i].t < t
  not_before : ∀ i (h : i < points.length), first + len ≤ i → ¬points[i].t < t

theorem SearchInv.init : SearchInv points t 0 points.length :=
  ⟨by simp, fun _ _ h => absurd h (Nat.not_lt_zero _), fun _ h h' => absurd h (by omega)⟩

theorem SearchInv.step (hs : points.Pairwise fun a b => a.t < b.t) (hinv : SearchInv points t first len)
    (hlen : len ≠ 0) :
    ∃ hm : first + len / 2 < points.length,
      (points[first + len / 2].t < t → SearchInv points t (first + len / 2 + 1) (len - len / 2 - 1)) ∧
      (¬points[first + len / 2].t < t → SearchInv points t first (len / 2)) := by
  have hm : first + len / 2 < points.length := by have := hinv.le_length; omega
  have hlt : ∀ i (hi : i < points.length), i < first + len / 2 → points[i].t < points[first + len / 2].t :=
    fun i hi h => List.pairwise_iff_getElem.mp hs i _ hi hm h
  refine ⟨hm, fun h => ⟨by have := hinv.le_length; omega, fun i hi h' => ?_, fun i hi h' =>
    hinv.not_before i hi (by omega)⟩, fun h => ⟨by have := hinv.le_length; omega, hinv.before,
    fun i hi h' hi' => ?_⟩⟩
  · rcases Nat.lt_or_ge i (first + len / 2) with h'' | h''
    · exact (hlt i hi h'').trans h
    · have : i = first + len / 2 := by omega
      subst this
      exact h
  · rcases Nat.lt_or_ge (first + len / 2) i with h'' | h''
    · exact h ((List.pairwise_iff_getElem.mp hs _ i hm hi h'').trans hi')
    · have : i = first + len / 2 := by omega
      subst this
      exact h hi'

theorem SearchInv.lowerBoundLoop (hs : points.Pairwise fun a b => a.t < b.t)
    (hinv : SearchInv points t first len) :
    ∃ k, lowerBoundLoop points t first len = some k ∧ SearchInv points t k 0 := by
  induction len using Nat.strong_induction_on generalizing first with
  | _ len ih =>
    rw [lowerBoundLoop]
    by_cases hlen : len = 0
    · subst hlen
      exact ⟨first, rfl, hinv⟩
    · obtain ⟨hm, hlt, hge⟩ := hinv.step hs hlen
      rw [if_neg hlen, List.getElem?_eq_getElem hm]
      dsimp only
      split_ifs with h
      · exact ih _ (by omega) (hlt h)
      · exact ih _ (by omega) (hge h)

theorem SearchInv.lowerBound_eq (hinv : SearchInv points t k 0) : lowerBound points t = k := by
  rcases Nat.lt_or_ge k points.length with hk | hk
  · exact (List.findIdx_eq hk).mpr ⟨by simpa using hinv.not_before k hk (by omega),
      fun j hj => by simpa using hinv.before j _ hj⟩
  · obtain rfl : k = points.length := le_antisymm (by simpa using hinv.le_length) hk
    refine List.findIdx_eq_length.mpr fun x hx => ?_
    obtain ⟨i, hi, rfl⟩ := List.getElem_of_mem hx
    simpa using hinv.before i hi hi

theorem lowerBoundSearch_eq (hs : points.Chain' fun a b => a.t < b.t) :
    lowerBoundSearch points t = some (lowerBound points t) := by
  have : IsTrans (STPoint α) fun a b => a.t < b.t := ⟨fun _ _ _ => lt_trans⟩
  obtain ⟨k, hk, hinv⟩ := SearchInv.init.lowerBoundLoop (List.chain'_iff_pairwise.mp hs)
  rw [lowerBoundSearch, hk, hinv.lowerBound_eq]

theorem getIndexRange_brackets (points : List (STPoint α)) (hne : points ≠ [])
    (hs : points.Chain' fun a b => a.t < b.t) (t : α) :
    lowerBoundSearch points t = some (lowerBound points t) ∧
      (t < (points.head hne).t ∨ t > (points.getLast hne).t → getIndexRange points t = none) ∧
      (¬(t < (points.head hne).t ∨ t > (points.getLast hne).t) →
        lowerBound points t < points.length ∧ ∃ left right, getIndexRange points t = some (left, right) ∧
          ∃ (hl : left < points.length) (hr : right < points.length),
            (t = (points.head hne).t ∧ left = 0 ∧ right = 0) ∨
              (right = left + 1 ∧ points[left].t < t ∧ t ≤ points[right].t)) := by
  refine ⟨lowerBoundSearch_eq hs, fun h => by rw [getIndexRange_eq hne, if_pos h], fun h => ?_⟩
  have hle : ¬(points.getLast hne).t < t := fun h' => h (.inr h')
  have hk : lowerBound points t < points.length :=
    List.findIdx_lt_length_of_exists ⟨_, List.getLast_mem hne, by simpa using hle⟩
  have hat : ¬points[lowerBound points t].t < t := by
    simpa using List.findIdx_getElem (w := hk)
  rw [getIndexRange_eq hne, if_neg h]
  refine ⟨hk, ?_⟩
  by_cases h0 : lowerBound points t = 0
  · refine ⟨0, 0, if_pos h0, by omega, by omega, .inl ⟨?_, rfl, rfl⟩⟩
    have hfirst : ¬t < (points.head hne).t := fun h' => h (.inl h')
    simp only [h0] at hat
    rw [List.head_eq_getElem] at hfirst ⊢
    exact le_antisymm (not_lt.mp hat) (not_lt.mp hfirst)
  · refine ⟨_, _, by rw [if_neg h0, if_neg hk.ne], by omega, hk, .inr ⟨by omega, ?_, not_lt.mp hat⟩⟩
    simpa using List.not_of_lt_findIdx (show lowerBound points t - 1 < lowerBound points t by omega)

theorem getIndexRange_brackets_specExample :
    let points : List (STPoint ℚ) := [⟨0, 0⟩, ⟨1, 1⟩, ⟨3, 2⟩]
    ∃ hne : points ≠ [], points.Chain' (fun a b => a.t < b.t) ∧
      lowerBoundSearch points (3 / 2) = some (lowerBound points (3 / 2)) ∧
      ((3 / 2 : ℚ) < (points.head hne).t ∨ (3 / 2 : ℚ) > (points.getLast hne).t →
        getIndexRange points (3 / 2) = none) ∧
      (¬((3 / 2 : ℚ) < (points.head hne).t ∨ (3 / 2 : ℚ) > (points.getLast hne).t) →
        lowerBound points (3 / 2) < points.length ∧
          ∃ left right, getIndexRange points (3 / 2) = some (left, right) ∧
            ∃ (hl : left < points.length) (hr : right < points.length),
              ((3 / 2 : ℚ) = (points.head hne).t ∧ left = 0 ∧ right = 0) ∨
                (right = left + 1 ∧ points[left].t < 3 / 2 ∧ 3 / 2 ≤ points[right].t)) := by
  intro points
  have hs : points.Chain' (fun a b => a.t < b.t) := by norm_num [points]
  exact ⟨List.cons_ne_nil _ _, hs, getIndexRange_brackets points _ hs _⟩

end Search

variable {sHighLimit : α} {P : List (PointPair α)} {B : StBoundary α}

theorem isPointInBoundary_iff_between (hB : ofPairs sHighLimit P = some B) (ty : BoundaryType)
    (p : STPoint α) :
    isPointInBoundary (B.setBoundaryType ty) p = some (decide (B.minT < p.t ∧ p.t < B.maxT ∧
      piecewiseLinear B.lowerPoints p.t < p.s ∧ p.s < piecewiseLinear B.upperPoints p.t)) ∧
    ((ty = .stop ∨ ty = .yield ∨ ty = .follow ∨ ty = .overtake) →
      isPointInBoundary (B.setBoundaryType ty) p = some true →
      ∃ r, getUnblockSRange (B.setBoundaryType ty) p.t = some r ∧ r.ok = true ∧
        ¬∃ lo hi, r.sLower = some lo ∧ r.sUpper = some hi ∧ lo ≤ p.s ∧ p.s ≤ hi) := by
  obtain ⟨R, hb, -⟩ := exists_builtFrom_of_ofPairs_eq_some hB
  replace hb := hb.setBoundaryType ty
  have hin := hb.isPointInBoundary_eq p
  simp only [setBoundaryType_minT, setBoundaryType_maxT, setBoundaryType_lowerPoints,
    setBoundaryType_upperPoints] at hin
  refine ⟨hin, fun hty hp => ?_⟩
  rw [hin, Option.some.injEq, decide_eq_true_eq] at hp
  obtain ⟨h₁, h₂, hl, hu⟩ := hp
  have hU := hb.getUnblockSRange_of_interior h₁ h₂.le
  simp only [setBoundaryType_boundaryType, setBoundaryType_lowerPoints,
    setBoundaryType_upperPoints, setBoundaryType_sHighLimit] at hU
  rcases hty with rfl | rfl | rfl | rfl
  all_goals
    refine ⟨_, hU, rfl, ?_⟩
    rintro ⟨lo, hi, hlo, hhi, h₃, h₄⟩
    simp only [Option.some.injEq] at hlo hhi
    subst hlo hhi
  · exact absurd h₄ (not_le.mpr hl)
  · exact absurd h₄ (not_le.mpr hl)
  · exact absurd h₄ (not_le.mpr hl)
  · exact absurd (hu.trans_le (le_max_left _ _)) (not_lt.mpr h₃)

theorem isPointInBoundary_iff_between_specExample :
    let P : List (PointPair ℝ) := [(⟨0, 0⟩, ⟨2, 0⟩), (⟨1 / 2, 1⟩, ⟨5 / 2, 1⟩), (⟨1, 2⟩, ⟨3, 2⟩)]
    ∃ B, ofPairs 200 P = some B ∧
      (isPointInBoundary (B.setBoundaryType .stop) ⟨1, 1⟩ = some (decide (B.minT < 1 ∧ 1 < B.maxT ∧
        piecewiseLinear B.lowerPoints 1 < 1 ∧ 1 < piecewiseLinear B.upperPoints 1)) ∧
      ((BoundaryType.stop = .stop ∨ BoundaryType.stop = .yield ∨ BoundaryType.stop = .follow ∨
          BoundaryType.stop = .overtake) →
        isPointInBoundary (B.setBoundaryType .stop) ⟨1, 1⟩ = some true →
        ∃ r, getUnblockSRange (B.setBoundaryType .stop) 1 = some r ∧ r.ok = true ∧
          ¬∃ lo hi, r.sLower = some lo ∧ r.sUpper = some hi ∧ lo ≤ 1 ∧ 1 ≤ hi)) := by
  intro P
  have hP : isValid P := by
    norm_num [P, isValid, isValidFrom, PairOk, GapOk, kStBoundaryEpsilon, kMinDeltaT]
  have hw : Wide P := by
    norm_num [Wide, P, kMathEpsilon, kMinDeltaT]
  exact ⟨_, ofPairs_eq_of_wide hP hw, isPointInBoundary_iff_between (ofPairs_eq_of_wide hP hw) .stop ⟨1, 1⟩⟩

end ApolloPlanning.StBoundary
