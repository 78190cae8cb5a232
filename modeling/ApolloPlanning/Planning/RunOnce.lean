import ApolloPlanning.Planning.PullOver
import ApolloPlanning.Planning.Publish

namespace ApolloPlanning

namespace Planning

variable {α : Type} [LinearOrderedField α] (flags : Flags α) (lib : Library α)

-- `IsVehicleStateValid`.
def isVehicleStateValid (vs : VehicleState α) : Bool :=
  !(lib.isnan vs.x || lib.isnan vs.y || lib.isnan vs.z || lib.isnan vs.heading ||
    lib.isnan vs.kappa || lib.isnan vs.linearVelocity || lib.isnan vs.linearAcceleration)

-- `ComputeVehicleConfigFromLocalization`; a missing pose reads as the default one, which has no
-- position.
def computeVehicleConfigFromLocalization (localization : LocalizationEstimate α) :
    VehicleConfig α :=
  match localization.pose with
  | none => .invalid
  | some pose =>
    match pose.position with
    | none => .invalid
    | some position =>
      let orientation := pose.orientation.getD ⟨0, 0, 0, 0⟩
      { x := position.x
        y := position.y
        theta := match pose.heading with
          | some heading => heading
          | none =>
            lib.quaternionToHeading orientation.qw orientation.qx orientation.qy orientation.qz
        isValid := true }

/-- Modelled from the spec: `TrajectoryStitcher::TransformLastPublishedTrajectory` (in
`planning/common/trajectory`, not among the sources) moves every point by the rigid map
`q ↦ R(-θ)(q - (x, y))` and turns its heading by `-θ`. -/
def transformLastPublishedTrajectory (xDiff yDiff thetaDiff : α) (traj : PublishableTrajectory α) :
    PublishableTrajectory α :=
  let c := lib.cos thetaDiff
  let s := lib.sin thetaDiff
  { traj with points := traj.points.map fun p =>
      { p with pathPoint := { p.pathPoint with
          x := c * (p.pathPoint.x - xDiff) + s * (p.pathPoint.y - yDiff)
          y := -s * (p.pathPoint.x - xDiff) + c * (p.pathPoint.y - yDiff)
          theta := p.pathPoint.theta - thetaDiff } } }

-- The retained trajectory moved from the frame of the last vehicle pose into the frame of the new
-- one, when both are valid.
def rebasedTrajectory (last vehicleConfig : VehicleConfig α) (traj : Option (PublishableTrajectory α)) :
    Option (PublishableTrajectory α) :=
  if last.isValid && vehicleConfig.isValid then
    let xDiffMap := vehicleConfig.x - last.x
    let yDiffMap := vehicleConfig.y - last.y
    let cosMapVeh := lib.cos last.theta
    let sinMapVeh := lib.sin last.theta
    let xDiffVeh := cosMapVeh * xDiffMap + sinMapVeh * yDiffMap
    let yDiffVeh := -sinMapVeh * xDiffMap + cosMapVeh * yDiffMap
    let thetaDiff := vehicleConfig.theta - last.theta
    traj.map (transformLastPublishedTrajectory lib xDiffVeh yDiffVeh thetaDiff)
  else traj

-- The navigation-mode block of `RunOnce`: the retained trajectory is re-based and the new vehicle
-- pose is kept.
def rebaseOnVehicleConfig (s : Planning α) (localization : LocalizationEstimate α) : Planning α :=
  let vehicleConfig := computeVehicleConfigFromLocalization lib localization
  { s with
    lastPublishableTrajectory :=
      rebasedTrajectory lib s.lastVehicleConfig vehicleConfig s.lastPublishableTrajectory
    lastVehicleConfig := vehicleConfig }

-- The vehicle state the tick plans from: the provider's, moved to the estimated position at the
-- tick's start when its timestamp is less than 20 ms older.
def currentVehicleState (provider : VehicleStateProvider α) (startTimestamp : α) : VehicleState α :=
  let vs := provider.vehicleState
  if flags.estimateCurrentVehicleState && decide (startTimestamp - vs.timestamp < 1 / 50) then
    let (x, y) := provider.estimateFuturePosition lib (startTimestamp - vs.timestamp)
    { vs with x, y, timestamp := startTimestamp }
  else vs

-- The readiness gate of `RunOnce`.
def notReadyReason (input : TickInput α) : Option String :=
  if input.localization.isNone then some "localization not ready"
  else if input.chassis.isNone then some "chassis not ready"
  else if !flags.useNavigationMode && input.routing.isNone then some "routing not ready"
  else if !input.mapReady then some "map not ready"
  else none

variable [FloorRing α]

-- How `RunOnce` goes up to `Plan`: the state and the message of one of its early returns, or the
-- state it calls `Plan` with.
inductive Reached (α : Type)
  | published (s : Planning α) (msg : ADCTrajectory α)
  | plan (s : Planning α)

def Reached.state {α : Type} : Reached α → Planning α
  | .published s _ => s
  | .plan s => s

-- `RunOnce` up to `Plan`; `none` is an abort in `VehicleStateProvider::Update`. `InitFrame` always
-- sets `frame_`, so the `!frame_` return is left out.
def runUntilPlan (s : Planning α) (input : TickInput α) : Option (Reached α) := do
  let publish := fun provider pb => publishPlanningPb flags input provider pb input.startTimestamp
  match notReadyReason flags input with
  | some reason => pure (.published s (publish s.provider { notReadyReason := some reason }))
  | none =>
    let localization := input.localization.getD {}
    let (provider, status) ←
      s.provider.update flags lib localization (input.chassis.getD {})
    let s := { s with provider }
    let s := if flags.useNavigationMode then rebaseOnVehicleConfig lib s localization else s
    let vehicleState := currentVehicleState flags lib provider input.startTimestamp
    if !status.ok || !isVehicleStateValid lib vehicleState then
      pure (.published s (publish provider
        { notReadyReason := some "Update VehicleStateProvider failed", headerStatus := some status }))
    else if !flags.useNavigationMode && !input.routingUpdated then
      pure (.published s (publish provider
        { notReadyReason := some "Failed to update routing in reference line provider"
          headerStatus := some status }))
    else
      let s := if !flags.useNavigationMode then
          let (lastRouting, pullOver) :=
            resetPullOver lib.isNewRouting s.lastRouting s.pullOver (input.routing.getD {})
          { s with lastRouting, pullOver }
        else s
      let status := input.frameStatus
      if !status.ok then
        if flags.publishEstop then
          pure (.published s (publish provider
            { estop := some ⟨true, some status.errorMessage⟩, headerStatus := some status }))
        else
          pure (.published s (publish provider
            { notReadyReason := some status.toString, headerStatus := some status }))
      else pure (.plan s)

-- `Plan` from the planner's result on: the status it returns, the retained trajectory it leaves
-- and the message. The new trajectory is the stitching prefix without its last point followed by
-- the candidate's trajectory, as `PrependTrajectoryPoints` builds it.
def plan (input : TickInput α) (last : Option (PublishableTrajectory α)) (pb : ADCTrajectory α) :
    Status × Option (PublishableTrajectory α) × ADCTrajectory α :=
  match input.bestReferenceLine with
  | none => (⟨.planningError, "planner failed to make a driving plan"⟩, last.map (·.clear), pb)
  | some best =>
    let pb := { pb with notReadyReason := best.notReadyReason }
    let traj : PublishableTrajectory α :=
      ⟨input.startTimestamp, input.stitching.points.dropLast ++ best.trajectory⟩
    (input.plannerStatus, some traj, traj.populateTrajectoryProtobuf pb)

-- `RunOnce`: the state after the tick and the messages it publishes; `none` is an abort.
def runOnce (s : Planning α) (input : TickInput α) : Option (Planning α × List (ADCTrajectory α)) := do
  match ← runUntilPlan flags lib s input with
  | .published s msg => pure (s, [msg])
  | .plan s =>
    let (status, last, pb) := plan input s.lastPublishableTrajectory {}
    let s := { s with lastPublishableTrajectory := last }
    let pb := if !status.ok then
        let pb := { pb with headerStatus := some status }
        if flags.publishEstop then { pb with estop := some ⟨true, some status.errorMessage⟩ } else pb
      else pb
    let pb := { pb with isReplan := some input.stitching.isReplan }
    pure (s, [publishPlanningPb flags input s.provider pb input.startTimestamp])

-- A run of ticks: the final state and every published message; `none` if a tick aborts.
def run : Planning α → List (TickInput α) → Option (Planning α × List (ADCTrajectory α))
  | s, [] => some (s, [])
  | s, input :: inputs => do
    let (s, msgs) ← runOnce flags lib s input
    let (s, rest) ← run s inputs
    pure (s, msgs ++ rest)

section Tick

variable {s s' s₁ : Planning α} {input : TickInput α} {msgs : List (ADCTrajectory α)}

theorem runUntilPlan_of_notReadyReason {reason : String} (h : notReadyReason flags input = some reason) :
    runUntilPlan flags lib s input = some (.published s
      (publishPlanningPb flags input s.provider { notReadyReason := some reason } input.startTimestamp)) := by
  rw [runUntilPlan, h]
  rfl

theorem runUntilPlan_frame {r : Reached α} (h : runUntilPlan flags lib s input = some r)
    (hgate : notReadyReason flags input = none) :
    r.state.lastPublishableTrajectory = (if flags.useNavigationMode then
        rebaseOnVehicleConfig lib s (input.localization.getD {}) else s).lastPublishableTrajectory ∧
      r.state.lastVehicleConfig = (if flags.useNavigationMode then
        rebaseOnVehicleConfig lib s (input.localization.getD {}) else s).lastVehicleConfig := by
  rw [runUntilPlan, hgate] at h
  obtain ⟨⟨provider, status⟩, -, h⟩ := Option.bind_eq_some.mp h
  cases hnav : flags.useNavigationMode <;>
    simp only [hnav, Bool.not_false, Bool.not_true, if_true, if_false, Bool.false_eq_true] at h ⊢ <;>
    split_ifs at h <;> cases h <;> exact ⟨rfl, rfl⟩

theorem runOnce_cases (h : runOnce flags lib s input = some (s', msgs)) :
    (∃ msg, runUntilPlan flags lib s input = some (.published s' msg) ∧ msgs = [msg]) ∨
      (∃ s₁, runUntilPlan flags lib s input = some (.plan s₁) ∧
        s' = { s₁ with lastPublishableTrajectory := (plan input s₁.lastPublishableTrajectory {}).2.1 } ∧
        msgs.length = 1) := by
  unfold runOnce at h
  obtain ⟨r, hr, h⟩ := Option.bind_eq_some.mp h
  cases r with
  | published s₁ msg =>
    cases h
    exact .inl ⟨msg, hr, rfl⟩
  | plan s₁ =>
    cases h
    exact .inr ⟨s₁, hr, rfl, rfl⟩

theorem runOnce_of_published {msg : ADCTrajectory α}
    (h : runUntilPlan flags lib s input = some (.published s₁ msg)) :
    runOnce flags lib s input = some (s₁, [msg]) := by
  rw [runOnce, h]
  rfl

section Reasons

variable {msg : ADCTrajectory α}

omit [LinearOrderedField α] [FloorRing α] in
theorem notReadyReason_ne_empty {reason : String} (h : notReadyReason flags input = some reason) :
    reason ≠ "" := by
  unfold notReadyReason at h
  split_ifs at h <;> cases h <;> decide

theorem runOnce_early_reason (h : runUntilPlan flags lib s input = some (.published s₁ msg)) :
    runOnce flags lib s input = some (s₁, [msg]) ∧
      ((∃ reason, msg.notReadyReason = some reason ∧ reason ≠ "") ∨
        (flags.publishEstop = true ∧ ∃ e, msg.estop = some e ∧ e.isEstop = true)) := by
  refine ⟨runOnce_of_published flags lib h, ?_⟩
  unfold runUntilPlan at h
  split at h
  case h_1 reason hr =>
    cases h
    exact .inl ⟨reason, (publishPlanningPb_reasons ..).1, notReadyReason_ne_empty flags hr⟩
  case h_2 =>
    obtain ⟨⟨provider, status⟩, -, h⟩ := Option.bind_eq_some.mp h
    cases hnav : flags.useNavigationMode <;>
      simp only [hnav, Bool.not_false, Bool.not_true, if_true, if_false, Bool.false_eq_true] at h <;>
      split_ifs at h <;> cases h
    -- the vehicle-state, routing and frame-initialisation returns, without and with navigation mode
    all_goals first
      | exact .inl ⟨_, (publishPlanningPb_reasons ..).1, by decide⟩
      | exact .inl ⟨_, (publishPlanningPb_reasons ..).1, Status.toString_ne_empty _⟩
      | exact .inr ⟨‹_›, _, (publishPlanningPb_reasons ..).2.1, rfl⟩

end Reasons

end Tick

end Planning

end ApolloPlanning

namespace ApolloPlanning.Planning

-- A vehicle at rest with every input present and a one-point stitching prefix.
def examplePose : Pose ℚ :=
  { angularVelocity := some ⟨0, 0, 0⟩, linearAcceleration := some ⟨0, 0, 0⟩ }

def exampleFlags : Flags ℚ := ⟨false, false, false, false, false, true, 0⟩

def exampleLibrary : Library ℚ :=
  ⟨fun _ => 1, fun _ => 0, fun _ => false, fun _ _ _ _ => 0, fun _ _ _ _ => (0, 0, 0), fun _ => "",
    fun a b => decide (a ≠ b)⟩

def exampleTick (bestReferenceLine : Option (ReferenceLineResult ℚ)) : TickInput ℚ :=
  { localization := some { pose := some examplePose }
    chassis := some {}
    routing := some {}
    mapReady := true
    planning := none
    startTimestamp := 1
    publishTimestamp := 1
    routingUpdated := true
    stitching := ⟨[⟨⟨0, 0, 0, 0⟩, 0, 0, 0⟩], List.cons_ne_nil _ _, false⟩
    frameStatus := Status.okStatus
    plannerStatus := Status.okStatus
    bestReferenceLine }

theorem runOnce_plan_failure_without_reason :
    ∃ s msg, runOnce exampleFlags exampleLibrary Planning.init (exampleTick none) = some (s, [msg]) ∧
      msg.headerStatus = some ⟨.planningError, "planner failed to make a driving plan"⟩ ∧
      msg.notReadyReason = none ∧ msg.estop = none :=
  ⟨_, _, rfl, rfl, rfl, rfl⟩

end ApolloPlanning.Planning
