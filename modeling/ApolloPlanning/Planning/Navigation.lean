import ApolloPlanning.Planning.RunOnce

namespace ApolloPlanning.Planning

-- What the navigation-mode re-basing is for: a retained trajectory stored in the body frame of the
-- stored vehicle pose stands for a path in world coordinates, and moving it into the frame of the
-- next pose must not move that path.

section World

variable {α : Type} [LinearOrderedField α] (lib : Library α)

-- The world coordinates of a point given in the body frame of the pose `c`.
def toWorld (c : VehicleConfig α) (p : α × α) : α × α :=
  (c.x + lib.cos c.theta * p.1 - lib.sin c.theta * p.2,
    c.y + lib.sin c.theta * p.1 + lib.cos c.theta * p.2)

-- The world-frame path the retained trajectory stands for, read through the stored pose.
def worldPositions (s : Planning α) : Option (List (α × α)) :=
  s.lastPublishableTrajectory.map fun traj =>
    traj.points.map fun p => toWorld lib s.lastVehicleConfig (p.pathPoint.x, p.pathPoint.y)

-- The stored pose is valid whenever there is a retained trajectory.
def Anchored (s : Planning α) : Prop :=
  s.lastVehicleConfig.isValid = true ∨ s.lastPublishableTrajectory = none

-- Every localization the tick reads has a position.
def HasPosition (input : TickInput α) : Prop :=
  ∀ localization ∈ input.localization, ∃ pose ∈ localization.pose, pose.position.isSome

theorem computeVehicleConfigFromLocalization_isValid {input : TickInput α} (h : HasPosition input)
    (hl : input.localization.isSome) :
    (computeVehicleConfigFromLocalization lib (input.localization.getD {})).isValid = true := by
  obtain ⟨localization, hloc⟩ := Option.isSome_iff_exists.mp hl
  obtain ⟨pose, hpose, hpos⟩ := h localization hloc
  obtain ⟨position, hposition⟩ := Option.isSome_iff_exists.mp hpos
  simp [computeVehicleConfigFromLocalization, hloc, Option.mem_def.mp hpose, hposition]

end World

section Rigid

variable (lib : Library ℝ) (hcos : lib.cos = Real.cos) (hsin : lib.sin = Real.sin)
include hcos hsin

-- The map `TransformLastPublishedTrajectory` applies, with the offsets `RunOnce` computes from the
-- two poses, takes body coordinates of `last` to body coordinates of `c` of the same world point:
-- the per-tick transforms compose to the change of frame.
theorem toWorld_transform (last c : VehicleConfig ℝ) (p : TrajectoryPoint ℝ) :
    let xDiffVeh := lib.cos last.theta * (c.x - last.x) + lib.sin last.theta * (c.y - last.y)
    let yDiffVeh := -lib.sin last.theta * (c.x - last.x) + lib.cos last.theta * (c.y - last.y)
    let thetaDiff := c.theta - last.theta
    toWorld lib c
        (lib.cos thetaDiff * (p.pathPoint.x - xDiffVeh) + lib.sin thetaDiff * (p.pathPoint.y - yDiffVeh),
          -lib.sin thetaDiff * (p.pathPoint.x - xDiffVeh) + lib.cos thetaDiff * (p.pathPoint.y - yDiffVeh)) =
      toWorld lib last (p.pathPoint.x, p.pathPoint.y) := by
  simp only [toWorld, hcos, hsin, Real.cos_sub, Real.sin_sub]
  have ha := Real.cos_sq_add_sin_sq last.theta
  have hb := Real.cos_sq_add_sin_sq c.theta
  set ca := Real.cos last.theta
  set sa := Real.sin last.theta
  set cb := Real.cos c.theta
  set sb := Real.sin c.theta
  ext
  · linear_combination
      (ca * p.pathPoint.x - sa * p.pathPoint.y - (c.x - last.x) * (ca ^ 2 + sa ^ 2)) * hb -
        (c.x - last.x) * ha
  · linear_combination
      (sa * p.pathPoint.x + ca * p.pathPoint.y - (c.y - last.y) * (ca ^ 2 + sa ^ 2)) * hb -
        (c.y - last.y) * ha

theorem worldPositions_rebase (s : Planning ℝ) {c : VehicleConfig ℝ} (hs : Anchored s)
    (hc : c.isValid = true) :
    worldPositions lib { s with
      lastPublishableTrajectory := rebasedTrajectory lib s.lastVehicleConfig c s.lastPublishableTrajectory
      lastVehicleConfig := c } = worldPositions lib s := by
  rcases hs with hl | hn
  case inl =>
    simp only [worldPositions, rebasedTrajectory, hl, hc, Bool.and_self, if_true, Option.map_map]
    congr 1
    funext traj
    simp only [Function.comp, transformLastPublishedTrajectory, List.map_map]
    exact List.map_congr_left fun p _ => toWorld_transform lib hcos hsin _ _ p
  case inr => simp [worldPositions, rebasedTrajectory, hn]

end Rigid

section Run

variable {α : Type} [LinearOrderedField α] [FloorRing α] (flags : Flags α) (lib : Library α)
variable {s s' : Planning α} {input : TickInput α} {msgs : List (ADCTrajectory α)}

omit [LinearOrderedField α] [FloorRing α] in
theorem localization_isSome_of_notReadyReason (h : notReadyReason flags input = none) :
    input.localization.isSome := by
  unfold notReadyReason at h
  split_ifs at h with h₁
  exact Option.ne_none_iff_isSome.mp (by simpa using h₁)

theorem runUntilPlan_navigation (hnav : flags.useNavigationMode = true) {r : Reached α}
    (h : runUntilPlan flags lib s input = some r) (hgate : notReadyReason flags input = none) :
    r.state.lastPublishableTrajectory = rebasedTrajectory lib s.lastVehicleConfig
        (computeVehicleConfigFromLocalization lib (input.localization.getD {}))
        s.lastPublishableTrajectory ∧
      r.state.lastVehicleConfig =
        computeVehicleConfigFromLocalization lib (input.localization.getD {}) := by
  simpa only [hnav, if_true] using runUntilPlan_frame flags lib h hgate

theorem runOnce_anchored (hnav : flags.useNavigationMode = true) (hs : Anchored s)
    (hinput : HasPosition input) (h : runOnce flags lib s input = some (s', msgs)) : Anchored s' := by
  cases hgate : notReadyReason flags input with
  | some reason =>
    rw [runOnce_of_published flags lib (runUntilPlan_of_notReadyReason flags lib hgate)] at h
    cases h
    exact hs
  | none =>
    have hc := computeVehicleConfigFromLocalization_isValid lib hinput
      (localization_isSome_of_notReadyReason flags hgate)
    rcases runOnce_cases flags lib h with ⟨msg, hr, -⟩ | ⟨s₁, hr, rfl, -⟩
    · exact .inl ((runUntilPlan_navigation flags lib hnav hr hgate).2 ▸ hc)
    · exact .inl ((runUntilPlan_navigation flags lib hnav hr hgate).2 ▸ hc)

theorem run_anchored (hnav : flags.useNavigationMode = true) :
    ∀ {ticks : List (TickInput α)} {s s' : Planning α} {msgs : List (ADCTrajectory α)},
      (∀ input ∈ ticks, HasPosition input) → Anchored s → run flags lib s ticks = some (s', msgs) →
        Anchored s'
  | [], _, _, _, _, hs, h => by
    cases h
    exact hs
  | input :: ticks, s, s', msgs, hticks, hs, h => by
    obtain ⟨⟨s₁, msgs₁⟩, h₁, h⟩ := Option.bind_eq_some.mp h
    obtain ⟨⟨s₂, msgs₂⟩, h₂, h⟩ := Option.bind_eq_some.mp h
    cases h
    exact run_anchored hnav (fun i hi => hticks i (List.mem_cons_of_mem _ hi))
      (runOnce_anchored flags lib hnav hs (hticks input (List.mem_cons_self _ _)) h₁) h₂

end Run

section Refinement

variable (flags : Flags ℝ) (lib : Library ℝ) (hnav : flags.useNavigationMode = true)
  (hcos : lib.cos = Real.cos) (hsin : lib.sin = Real.sin)
variable {s s' : Planning ℝ} {input : TickInput ℝ} {msgs : List (ADCTrajectory ℝ)}
include hnav hcos hsin

theorem runOnce_worldPositions (hs : Anchored s) (hinput : HasPosition input)
    (h : runOnce flags lib s input = some (s', msgs)) :
    (∃ msg, runUntilPlan flags lib s input = some (.published s' msg) ∧
      worldPositions lib s' = worldPositions lib s) ∨
    (∃ s₁, runUntilPlan flags lib s input = some (.plan s₁) ∧ input.bestReferenceLine = none ∧
      ∀ w ∈ worldPositions lib s', w = []) ∨
    (∃ s₁ best, runUntilPlan flags lib s input = some (.plan s₁) ∧
      input.bestReferenceLine = some best ∧ s'.lastVehicleConfig.isValid = true ∧
      worldPositions lib s' = some ((input.stitching.points.dropLast ++ best.trajectory).map fun p =>
        toWorld lib s'.lastVehicleConfig (p.pathPoint.x, p.pathPoint.y))) := by
  cases hgate : notReadyReason flags input with
  | some reason =>
    have hr := runUntilPlan_of_notReadyReason flags lib (s := s) hgate
    rw [runOnce_of_published flags lib hr] at h
    cases h
    exact .inl ⟨_, hr, rfl⟩
  | none =>
    have hc := computeVehicleConfigFromLocalization_isValid lib hinput
      (localization_isSome_of_notReadyReason flags hgate)
    rcases runOnce_cases flags lib h with ⟨msg, hr, -⟩ | ⟨s₁, hr, rfl, -⟩
    · obtain ⟨htraj, hconfig⟩ := runUntilPlan_navigation flags lib hnav hr hgate
      refine .inl ⟨msg, hr, ?_⟩
      rw [← worldPositions_rebase lib hcos hsin s hs hc]
      simp only [worldPositions, Reached.state] at htraj hconfig ⊢
      rw [htraj, hconfig]
    · obtain ⟨-, hconfig⟩ := runUntilPlan_navigation flags lib hnav hr hgate
      simp only [Reached.state] at hconfig
      refine .inr ?_
      cases hb : input.bestReferenceLine with
      | none =>
        refine .inl ⟨s₁, hr, rfl, fun w hw => ?_⟩
        simp only [worldPositions, plan, hb, Option.map_map, Option.mem_def, Option.map_eq_some'] at hw
        obtain ⟨traj, -, rfl⟩ := hw
        rfl
      | some best =>
        refine .inr ⟨s₁, best, hr, rfl, hconfig ▸ hc, ?_⟩
        simp [worldPositions, plan, hb]

-- The world-frame path a retained trajectory stands for changes only when a tick plans: the
-- trajectory stays in the body frame of `last_vehicle_config_`.
theorem run_retained_in_vehicle_frame {ticks : List (TickInput ℝ)} {msgs₀ : List (ADCTrajectory ℝ)}
    (hticks : ∀ i ∈ ticks, HasPosition i) (hrun : run flags lib Planning.init ticks = some (s, msgs₀))
    (hinput : HasPosition input) (h : runOnce flags lib s input = some (s', msgs)) :
    Anchored s ∧ Anchored s' ∧
      ((∃ msg, runUntilPlan flags lib s input = some (.published s' msg) ∧
        worldPositions lib s' = worldPositions lib s) ∨
      (∃ s₁, runUntilPlan flags lib s input = some (.plan s₁) ∧ input.bestReferenceLine = none ∧
        ∀ w ∈ worldPositions lib s', w = []) ∨
      (∃ s₁ best, runUntilPlan flags lib s input = some (.plan s₁) ∧
        input.bestReferenceLine = some best ∧ s'.lastVehicleConfig.isValid = true ∧
        worldPositions lib s' = some ((input.stitching.points.dropLast ++ best.trajectory).map fun p =>
          toWorld lib s'.lastVehicleConfig (p.pathPoint.x, p.pathPoint.y)))) := by
  have hs := run_anchored flags lib hnav hticks (.inr rfl) hrun
  exact ⟨hs, runOnce_anchored flags lib hnav hs hinput h,
    runOnce_worldPositions flags lib hnav hcos hsin hs hinput h⟩

end Refinement

-- A trajectory planned at `x = 0` is retained; the next tick, at `x = 5`, fails frame
-- initialisation after re-basing it into the frame of the new pose.
theorem run_retained_in_vehicle_frame_specExample :
    let lib : Library ℝ := ⟨Real.cos, Real.sin, fun _ => false, fun _ _ _ _ => 0,
      fun _ _ _ _ => (0, 0, 0), fun _ => "", fun _ _ => false⟩
    let flags : Flags ℝ := ⟨true, false, false, false, false, true, 0⟩
    let tick : ℝ → Status → TickInput ℝ := fun x frameStatus =>
      { localization := some { pose := some { position := some ⟨x, 0, 0⟩, heading := some 0 } }
        chassis := some {}
        routing := none
        mapReady := true
        planning := none
        startTimestamp := 0
        publishTimestamp := 0
        routingUpdated := false
        stitching := ⟨[⟨⟨0, 0, 0, 0⟩, 0, 0, 0⟩], List.cons_ne_nil _ _, false⟩
        frameStatus
        plannerStatus := Status.okStatus
        bestReferenceLine := some ⟨[⟨⟨1, 0, 0, 0⟩, 0, 0, 0⟩], none⟩ }
    let frameError : Status := ⟨.planningError, "frame"⟩
    flags.useNavigationMode = true ∧ lib.cos = Real.cos ∧ lib.sin = Real.sin ∧
      (∀ i ∈ [tick 0 Status.okStatus], HasPosition i) ∧ HasPosition (tick 5 frameError) ∧
      ∃ s msgs₀ s' msgs, run flags lib Planning.init [tick 0 Status.okStatus] = some (s, msgs₀) ∧
        s.lastVehicleConfig = ⟨0, 0, 0, true⟩ ∧
        s.lastPublishableTrajectory = some ⟨0, [⟨⟨1, 0, 0, 0⟩, 0, 0, 0⟩]⟩ ∧
        runOnce flags lib s (tick 5 frameError) = some (s', msgs) ∧
        Anchored s ∧ Anchored s' ∧
        ((∃ msg, runUntilPlan flags lib s (tick 5 frameError) = some (.published s' msg) ∧
          worldPositions lib s' = worldPositions lib s) ∨
        (∃ s₁, runUntilPlan flags lib s (tick 5 frameError) = some (.plan s₁) ∧
          (tick 5 frameError).bestReferenceLine = none ∧ ∀ w ∈ worldPositions lib s', w = []) ∨
        (∃ s₁ best, runUntilPlan flags lib s (tick 5 frameError) = some (.plan s₁) ∧
          (tick 5 frameError).bestReferenceLine = some best ∧ s'.lastVehicleConfig.isValid = true ∧
          worldPositions lib s' = some (((tick 5 frameError).stitching.points.dropLast ++ best.trajectory).map
            fun p => toWorld lib s'.lastVehicleConfig (p.pathPoint.x, p.pathPoint.y)))) := by
  intro lib flags tick frameError
  have hticks : ∀ i ∈ [tick 0 Status.okStatus], HasPosition i := by simp [HasPosition, tick]
  have hpos : HasPosition (tick 5 frameError) := by simp [HasPosition, tick]
  exact ⟨rfl, rfl, rfl, hticks, hpos, _, _, _, _, rfl, rfl, rfl, rfl,
    run_retained_in_vehicle_frame flags lib rfl rfl rfl hticks rfl hpos rfl⟩

-- A localization without a position in between makes the stored pose invalid, and the next valid
-- pose is stored without re-basing: the trajectory planned at `x = 0` stays as it was while the
-- stored pose moves to `x = 5`, so read through that pose it stands for a path 5 m ahead.
theorem run_retained_not_in_vehicle_frame :
    let lib : Library ℝ := ⟨Real.cos, Real.sin, fun _ => false, fun _ _ _ _ => 0,
      fun _ _ _ _ => (0, 0, 0), fun _ => "", fun _ _ => false⟩
    let flags : Flags ℝ := ⟨true, false, false, false, false, true, 0⟩
    let tick : Option (Pose ℝ) → Status → Option (ReferenceLineResult ℝ) → TickInput ℝ :=
      fun pose frameStatus bestReferenceLine =>
        { localization := some { pose }
          chassis := some {}
          routing := none
          mapReady := true
          planning := none
          startTimestamp := 0
          publishTimestamp := 0
          routingUpdated := false
          stitching := ⟨[⟨⟨0, 0, 0, 0⟩, 0, 0, 0⟩], List.cons_ne_nil _ _, false⟩
          frameStatus
          plannerStatus := Status.okStatus
          bestReferenceLine }
    let poseAt : ℝ → Pose ℝ := fun x => { position := some ⟨x, 0, 0⟩, heading := some 0 }
    let frameError : Status := ⟨.planningError, "frame"⟩
    let planned : TrajectoryPoint ℝ := ⟨⟨1, 0, 0, 0⟩, 0, 0, 0⟩
    ∃ s msgs, run flags lib Planning.init [tick (some (poseAt 0)) Status.okStatus (some ⟨[planned], none⟩),
        tick (some {}) frameError none, tick (some (poseAt 5)) frameError none] = some (s, msgs) ∧
      s.lastVehicleConfig = ⟨5, 0, 0, true⟩ ∧ s.lastPublishableTrajectory = some ⟨0, [planned]⟩ ∧
      toWorld lib ⟨0, 0, 0, true⟩ (1, 0) = (1, 0) ∧ worldPositions lib s = some [(6, 0)] := by
  intro lib flags tick poseAt frameError planned
  obtain ⟨s, msgs, hrun, hconfig, htraj⟩ : ∃ s msgs, run flags lib Planning.init
      [tick (some (poseAt 0)) Status.okStatus (some ⟨[planned], none⟩), tick (some {}) frameError none,
        tick (some (poseAt 5)) frameError none] = some (s, msgs) ∧
      s.lastVehicleConfig = ⟨5, 0, 0, true⟩ ∧ s.lastPublishableTrajectory = some ⟨0, [planned]⟩ :=
    ⟨_, _, rfl, rfl, rfl⟩
  refine ⟨s, msgs, hrun, hconfig, htraj, by simp [toWorld, lib], ?_⟩
  simp only [worldPositions, hconfig, htraj, toWorld, lib, planned, Option.map_some', List.map_cons,
    List.map_nil, Real.cos_zero, Real.sin_zero]
  norm_num

end ApolloPlanning.Planning
