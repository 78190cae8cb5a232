import ApolloPlanning.Planning.State

namespace ApolloPlanning

variable {α : Type} (isNewRouting : RoutingResponse α → RoutingResponse α → Bool)

-- `ResetPullOver` on `last_routing_` and the pull-over status.
def resetPullOver (lastRouting : RoutingResponse α) (pullOver : PullOverStatus)
    (response : RoutingResponse α) : RoutingResponse α × PullOverStatus :=
  if lastRouting.header.isNone then (response, {})
  else if !pullOver.inPullOver then (lastRouting, pullOver)
  else if isNewRouting lastRouting response then (response, {})
  else (lastRouting, pullOver)

theorem resetPullOver_eq (lastRouting : RoutingResponse α) (pullOver : PullOverStatus)
    (response : RoutingResponse α) :
    resetPullOver isNewRouting lastRouting pullOver response =
      if lastRouting.header.isNone ∨
          (pullOver.inPullOver ∧ isNewRouting lastRouting response) then (response, {})
      else (lastRouting, pullOver) := by
  unfold resetPullOver
  by_cases h₁ : lastRouting.header.isNone <;> by_cases h₂ : pullOver.inPullOver <;>
    by_cases h₃ : isNewRouting lastRouting response <;> simp [h₁, h₂, h₃]

-- A new routing that arrives while no pull-over is in progress does not replace `last_routing_`,
-- so a pull-over begun under that routing is cleared the next time the same routing is passed in.
theorem resetPullOver_clears_under_current_routing :
    let isNew : RoutingResponse ℚ → RoutingResponse ℚ → Bool := fun a b => decide (a ≠ b)
    let r₁ : RoutingResponse ℚ := ⟨some ⟨some 1⟩⟩
    let r₂ : RoutingResponse ℚ := ⟨some ⟨some 2⟩⟩
    let first := resetPullOver isNew {} {} r₁
    let second := resetPullOver isNew first.1 first.2 r₂
    let third := resetPullOver isNew second.1 ⟨true⟩ r₂
    isNew r₂ r₂ = false ∧ second.1 = r₁ ∧ third.2.inPullOver = false := by
  decide

end ApolloPlanning
