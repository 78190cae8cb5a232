import ApolloPlanning.StBoundary.Basic

namespace ApolloPlanning.StBoundary

variable {α : Type} [LinearOrderedField α]

-- The test in the loop of `RemoveRedundantPoints`: pair `cur` lies near both the lower and the
-- upper segment from the last kept pair `last` to the pair `next` after `cur`.
def isRedundant (last cur next : PointPair α) : Bool :=
  isPointNear ⟨last.1, next.1⟩ cur.1 kMaxDist && isPointNear ⟨last.2, next.2⟩ cur.2 kMaxDist

-- The `while` loop of `RemoveRedundantPoints` on the vector `v`, with `i` the slot of the last
-- kept pair and `j` the candidate. A kept candidate is copied down to slot `i + 1`. An `at` out of
-- range would throw, which is `none` here.
def removeRedundantPointsLoop (v : List (PointPair α)) (i j : Nat) :
    Option (List (PointPair α) × Nat) :=
  if h : i < v.length ∧ j + 1 < v.length then
    if !isRedundant v[i] v[j] v[j + 1] then
      if i + 1 ≠ j then
        if i + 1 < v.length then removeRedundantPointsLoop (v.set (i + 1) v[j]) (i + 1) (j + 1)
        else none
      else removeRedundantPointsLoop v (i + 1) (j + 1)
    else removeRedundantPointsLoop v i (j + 1)
  else some (v, i)
termination_by v.length - j
decreasing_by all_goals (try simp only [List.length_set]); omega

-- After the loop, `point_pairs->at(++i) = point_pairs->back()` and `resize(i + 1)`.
def removeRedundantPoints (v : List (PointPair α)) : Option (List (PointPair α)) :=
  if v.length ≤ 2 then some v
  else
    match removeRedundantPointsLoop v 0 1 with
    | none => none
    | some (w, i) =>
      if h : i + 1 < w.length then some ((w.set (i + 1) w[w.length - 1]).take (i + 2))
      else none

-- The filter the loop computes, over the input `rest` still to scan and the last kept pair.
def simplifyFrom (last : PointPair α) : List (PointPair α) → List (PointPair α)
  | [] => []
  | [q] => [q]
  | p :: q :: rest =>
    if isRedundant last p q then simplifyFrom last (q :: rest) else p :: simplifyFrom p (q :: rest)

def simplify : List (PointPair α) → List (PointPair α)
  | [] => []
  | p :: rest => p :: simplifyFrom p rest

section Refinement

variable {P : List (PointPair α)}

theorem take_set_succ {β : Type} {l : List β} {k : Nat} (h : k < l.length) (a : β) :
    (l.set k a).take (k + 1) = l.take k ++ [a] := by
  rw [List.take_succ, List.set_take, List.set_eq_of_length_le (by simp), List.getElem?_set_self h]
  rfl

-- The loop invariant: slots `0..i` hold the kept pairs `K`, slots from `j` on are untouched, and
-- the loop then yields the pairs `simplifyFrom` keeps from slot `j` on.
theorem removeRedundantPointsLoop_spec (v : List (PointPair α)) (i j : Nat) (K : List (PointPair α))
    (hlen : v.length = P.length) (hij : i < j) (hj : j < P.length)
    (hK : v.take (i + 1) = K) (hdrop : v.drop j = P.drop j) :
    ∃ w i', removeRedundantPointsLoop v i j = some (w, i') ∧ w.length = P.length ∧
      i' + 1 < P.length ∧ w.drop (P.length - 1) = P.drop (P.length - 1) ∧
      w.take (i' + 1) ++ P.drop (P.length - 1) = K ++ simplifyFrom v[i] (P.drop j) := by
  have hvj : ∀ k (hk : j ≤ k) (hk' : k < P.length), v[k] = P[k] := fun k hk hk' => by
    have := congrArg (·[k - j]?) hdrop
    simp only [List.getElem?_drop, Nat.add_sub_cancel' hk] at this
    simpa [List.getElem?_eq_getElem (hlen ▸ hk'), List.getElem?_eq_getElem hk'] using this
  rw [removeRedundantPointsLoop]
  by_cases hg : i < v.length ∧ j + 1 < v.length
  case neg =>
    have hjn : j = P.length - 1 := by omega
    subst hjn
    refine ⟨v, i, by simp [hg], hlen, by omega, hdrop, ?_⟩
    rw [hK, List.drop_eq_getElem_cons (by omega), List.drop_of_length_le (by omega)]
    simp [simplifyFrom]
  case pos =>
    have hj1 : j + 1 < P.length := hlen ▸ hg.2
    have hdrop' : v.drop (j + 1) = P.drop (j + 1) := by
      rw [← List.drop_drop, hdrop, List.drop_drop]
    have hPj : P.drop j = P[j] :: P.drop (j + 1) := List.drop_eq_getElem_cons (by omega)
    have hPj1 : P.drop (j + 1) = P[j + 1] :: P.drop (j + 2) := List.drop_eq_getElem_cons hj1
    simp only [dif_pos hg, hPj, hPj1, simplifyFrom, hvj j le_rfl (by omega), hvj (j + 1) (by omega) hj1]
    rw [← hPj1]
    cases hr : isRedundant v[i] P[j] P[j + 1]
    case true =>
      simpa only [Bool.not_true, Bool.false_eq_true, ↓reduceIte] using
        removeRedundantPointsLoop_spec v i (j + 1) K hlen (by omega) hj1 hK hdrop'
    case false =>
      by_cases hij' : i + 1 = j
      case pos =>
        subst hij'
        have hK' : v.take (i + 1 + 1) = K ++ [P[i + 1]] := by
          rw [List.take_succ, hK, List.getElem?_eq_getElem (by omega), hvj (i + 1) le_rfl (by omega)]
          rfl
        simpa only [Bool.not_false, ↓reduceIte, ne_eq, not_true_eq_false, Bool.false_eq_true,
          hvj (i + 1) le_rfl (by omega), List.append_assoc, List.singleton_append] using
          removeRedundantPointsLoop_spec v (i + 1) (i + 1 + 1) _ hlen (by omega) hj1 hK' hdrop'
      case neg =>
        have hK' : (v.set (i + 1) P[j]).take (i + 1 + 1) = K ++ [P[j]] := by
          rw [take_set_succ (by omega), hK]
        have hdrop'' : (v.set (i + 1) P[j]).drop (j + 1) = P.drop (j + 1) := by
          rw [List.drop_set_of_lt _ _ (by omega), hdrop']
        have hlen' : (v.set (i + 1) P[j]).length = P.length := by simp [hlen]
        simpa [hij', show i + 1 < v.length by omega] using
          removeRedundantPointsLoop_spec _ (i + 1) (j + 1) _ hlen' (by omega) hj1 hK' hdrop''
  termination_by P.length - j
  decreasing_by all_goals omega

theorem simplify_of_length_le_two (h : P.length ≤ 2) : simplify P = P := by
  match P, h with
  | [], _ | [_], _ | [_, _], _ => rfl

theorem removeRedundantPoints_eq (P : List (PointPair α)) :
    removeRedundantPoints P = some (simplify P) := by
  rw [removeRedundantPoints]
  split
  case isTrue h => rw [simplify_of_length_le_two h]
  case isFalse h =>
    obtain ⟨p, rest, rfl⟩ : ∃ p rest, P = p :: rest := List.exists_cons_of_length_pos (by omega)
    obtain ⟨w, i, hloop, hlen, hi, hlast, heq⟩ :=
      removeRedundantPointsLoop_spec (p :: rest) 0 1 [p] rfl (by omega) (by simp at h ⊢; omega)
        rfl rfl
    have hw : w[w.length - 1] = (p :: rest)[rest.length] := by
      have := congrArg (·[0]?) hlast
      simp only [List.getElem?_drop] at this
      simpa [hlen, List.getElem?_eq_getElem, show rest.length < (p :: rest).length by simp] using this
    have hd : (p :: rest).drop ((p :: rest).length - 1) = [(p :: rest)[rest.length]] := by
      rw [List.drop_eq_getElem_cons (by simp), List.drop_of_length_le (by simp)]
      simp
    simp only [hloop, dif_pos (show i + 1 < w.length by omega),
      take_set_succ (show i + 1 < w.length by omega), hw, ← hd, heq]
    rfl

end Refinement

section Filter

variable {last : PointPair α} {rest P : List (PointPair α)}

theorem simplifyFrom_sublist : (simplifyFrom last rest).Sublist rest := by
  induction last, rest using simplifyFrom.induct with
  | case1 | case2 => simp [simplifyFrom]
  | case3 last p q rest hr ih => simpa [simplifyFrom, hr] using ih.cons p
  | case4 last p q rest hr ih => simpa [simplifyFrom, hr] using ih.cons₂ p

theorem simplify_sublist : (simplify P).Sublist P := by
  cases P with
  | nil => simp [simplify]
  | cons p rest => exact simplifyFrom_sublist.cons₂ p

theorem simplifyFrom_getLast? (last : PointPair α) (rest : List (PointPair α)) :
    (simplifyFrom last rest).getLast? = rest.getLast? := by
  induction last, rest using simplifyFrom.induct with
  | case1 | case2 => simp [simplifyFrom]
  | case3 last p q rest hr ih => simp [simplifyFrom, hr, ih]
  | case4 last p q rest hr ih =>
    rw [simplifyFrom, if_neg hr, List.getLast?_cons, ih]
    simp [List.getLast?_cons]

theorem simplifyFrom_ne_nil (last : PointPair α) (h : rest ≠ []) : simplifyFrom last rest ≠ [] := by
  intro he
  simpa [he, h] using (simplifyFrom_getLast? last rest).symm

theorem simplify_getLast? : (simplify P).getLast? = P.getLast? := by
  cases P with
  | nil => rfl
  | cons p rest =>
    cases rest with
    | nil => rfl
    | cons q rest =>
      rw [simplify, List.getLast?_cons, simplifyFrom_getLast?]
      simp [List.getLast?_cons]

theorem simplify_head? : (simplify P).head? = P.head? := by
  cases P <;> rfl

theorem two_le_length_simplify (h : 2 ≤ P.length) : 2 ≤ (simplify P).length := by
  obtain ⟨p, q, rest, rfl⟩ : ∃ p q rest, P = p :: q :: rest := by
    match P, h with
    | p :: q :: rest, _ => exact ⟨p, q, rest, rfl⟩
  have := simplifyFrom_ne_nil p (List.cons_ne_nil q rest)
  simp only [simplify, List.length_cons]
  have := List.length_pos_of_ne_nil this
  omega

-- The input cut into blocks, each a retained pair followed by the pairs dropped after it. Every
-- dropped pair is redundant between its block's retained pair and the input pair right after it,
-- and the last block drops nothing.
def BlocksOk : List (PointPair α × List (PointPair α)) → Prop
  | [] => True
  | [b] => b.2 = []
  | b :: b' :: rest => (b.2 ++ [b'.1]).Chain' (fun p q => isRedundant b.1 p q) ∧ BlocksOk (b' :: rest)

def flattenBlocks (blocks : List (PointPair α × List (PointPair α))) : List (PointPair α) :=
  blocks.flatMap fun b => b.1 :: b.2

omit [LinearOrderedField α] in
@[simp] theorem flattenBlocks_nil : flattenBlocks ([] : List (PointPair α × List (PointPair α))) = [] :=
  rfl

omit [LinearOrderedField α] in
@[simp] theorem flattenBlocks_cons (b : PointPair α × List (PointPair α)) (blocks) :
    flattenBlocks (b :: blocks) = b.1 :: (b.2 ++ flattenBlocks blocks) :=
  rfl

theorem simplifyFrom_blocks (last : PointPair α) (h : rest ≠ []) :
    ∃ mid blocks, rest = mid ++ flattenBlocks blocks ∧ simplifyFrom last rest = blocks.map Prod.fst ∧
      BlocksOk (((last, mid) : PointPair α × List (PointPair α)) :: blocks) := by
  induction last, rest using simplifyFrom.induct with
  | case1 => contradiction
  | case2 last q => exact ⟨[], [(q, [])], rfl, rfl, by simp [BlocksOk]⟩
  | case3 last p q rest hr ih =>
    obtain ⟨mid, blocks, hrest, hsimp, hb⟩ := ih (List.cons_ne_nil q rest)
    refine ⟨p :: mid, blocks, by simp [hrest], by simp [simplifyFrom, hr, hsimp], ?_⟩
    match blocks, hb with
    | b :: blocks, ⟨hc, hb⟩ =>
      have hhead : (mid ++ [b.1]).head? = some q := by
        have := congrArg List.head? hrest
        simp only [flattenBlocks_cons, List.head?_append, List.head?_cons] at this ⊢
        exact this.symm
      exact ⟨List.chain'_cons'.mpr ⟨by simpa [hhead] using hr, hc⟩, hb⟩
  | case4 last p q rest hr ih =>
    obtain ⟨mid, blocks, hrest, hsimp, hb⟩ := ih (List.cons_ne_nil q rest)
    exact ⟨[], (p, mid) :: blocks, by simp [hrest], by simp [simplifyFrom, hr, hsimp],
      List.chain'_singleton _, hb⟩

theorem simplify_blocks (P : List (PointPair α)) :
    ∃ blocks, P = flattenBlocks blocks ∧ simplify P = blocks.map Prod.fst ∧ BlocksOk blocks := by
  match P with
  | [] => exact ⟨[], rfl, rfl, trivial⟩
  | [p] => exact ⟨[(p, [])], rfl, rfl, rfl⟩
  | p :: q :: rest =>
    obtain ⟨mid, blocks, hrest, hsimp, hb⟩ := simplifyFrom_blocks p (List.cons_ne_nil q rest)
    exact ⟨(p, mid) :: blocks, by simp [← hrest], by simp [simplify, hsimp], hb⟩

theorem removeRedundantPoints_refines (P : List (PointPair α)) :
    (P.length ≤ 2 → removeRedundantPoints P = some P) ∧
      (2 < P.length → removeRedundantPoints P = some (simplify P) ∧
        (simplify P).head? = P.head? ∧ (simplify P).getLast? = P.getLast? ∧
        2 ≤ (simplify P).length ∧ (simplify P).length ≤ P.length) :=
  ⟨fun h => by rw [removeRedundantPoints_eq, simplify_of_length_le_two h],
    fun h => ⟨removeRedundantPoints_eq P, simplify_head?, simplify_getLast?, two_le_length_simplify h.le,
      simplify_sublist.length_le⟩⟩

end Filter

end ApolloPlanning.StBoundary
