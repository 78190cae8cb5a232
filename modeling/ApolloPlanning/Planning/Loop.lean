import ApolloPlanning.Planning.Navigation

namespace ApolloPlanning.Planning

variable {α : Type} [LinearOrderedField α] [FloorRing α] (flags : Flags α) (lib : Library α)

section Tick

variable {s s' s₁ : Planning α} {input : TickInput α} {msgs : List (ADCTrajectory α)}
  {msg : ADCTrajectory α}

theorem runUntilPlan_cases {r : Reached α} (h : runUntilPlan flags lib s input = some r) :
    (r.state.provider = s.provider ∨ ∃ status,
      s.provider.update flags lib (input.localization.getD {}) (input.chassis.getD {}) =
        some (r.state.provider, status)) ∧
    ∀ s₁ msg, r = .published s₁ msg →
      ∃ pb, msg = publishPlanningPb flags input r.state.provider pb input.startTimestamp := by
  unfold runUntilPlan at h
  split at h
  case h_1 =>
    cases h
    exact ⟨.inl rfl, fun _ _ h => by cases h; exact ⟨_, rfl⟩⟩
  case h_2 =>
    obtain ⟨⟨provider, status⟩, hup, h⟩ := Option.bind_eq_some.mp h
    cases hnav : flags.useNavigationMode <;>
      simp only [hnav, Bool.not_false, Bool.not_true, if_true, if_false, Bool.false_eq_true] at h <;>
      split_ifs at h <;> cases h <;>
      exact ⟨.inr ⟨status, hup⟩, fun _ _ h => by cases h <;> exact ⟨_, rfl⟩⟩

theorem runOnce_headerTimestamps (h : runOnce flags lib s input = some (s', msgs)) :
    msgs.map ADCTrajectory.headerTimestamp = [some input.startTimestamp] := by
  unfold runOnce at h
  obtain ⟨r, hr, h⟩ := Option.bind_eq_some.mp h
  cases r with
  | published s₁ msg =>
    obtain ⟨pb, hpb⟩ := (runUntilPlan_cases flags lib hr).2 _ _ rfl
    cases h
    rw [List.map_singleton, hpb, publishPlanningPb_headerTimestamp]
  | plan s₁ =>
    cases h
    rw [List.map_singleton, publishPlanningPb_headerTimestamp]

theorem runOnce_provider (h : runOnce flags lib s input = some (s', msgs)) :
    s'.provider = s.provider ∨ ∃ status,
      s.provider.update flags lib (input.localization.getD {}) (input.chassis.getD {}) =
        some (s'.provider, status) := by
  rcases runOnce_cases flags lib h with ⟨msg, hr, -⟩ | ⟨s₁, hr, rfl, -⟩
  · exact (runUntilPlan_cases flags lib hr).1
  · exact (runUntilPlan_cases flags lib hr).1

theorem runUntilPlan_eq_none_iff : runUntilPlan flags lib s input = none ↔
    notReadyReason flags input = none ∧
      s.provider.update flags lib (input.localization.getD {}) (input.chassis.getD {}) = none := by
  unfold runUntilPlan
  split
  · simp [*]
  · cases hup : s.provider.update flags lib (input.localization.getD {}) (input.chassis.getD {}) with
    | none => simp [*]
    | some r =>
      simp only [hup, Option.bind_eq_bind, Option.some_bind, Option.pure_def, apply_ite (· = none),
        reduceCtorEq, ite_self, and_false]

theorem runOnce_eq_none_iff : runOnce flags lib s input = none ↔
    flags.useNavigationMode = false ∧ flags.enableMapReferenceUnify = false ∧ notReadyReason flags input = none ∧
      ∃ pose, (input.localization.getD {}).pose = some pose ∧
        (pose.angularVelocity = none ∨ pose.linearAcceleration = none) := by
  have hplan : runOnce flags lib s input = none ↔ runUntilPlan flags lib s input = none := by
    cases h : runUntilPlan flags lib s input with
    | none => simp [runOnce, h]
    | some r => cases r <;> simp [runOnce, h]
  rw [hplan, runUntilPlan_eq_none_iff, VehicleStateProvider.update_eq_none_iff,
    VehicleStateProvider.constructExceptLinearVelocity_eq_none_iff]
  constructor
  · rintro ⟨hgate, pose, hpose, hnav, hunify, hmissing⟩
    exact ⟨hnav, hunify, hgate, pose, hpose, hmissing⟩
  · rintro ⟨hnav, hunify, hgate, pose, hpose, hmissing⟩
    exact ⟨hgate, pose, hpose, hnav, hunify, hmissing⟩

theorem runOnce_isSome_of_navigation (hnav : flags.useNavigationMode = true) :
    (runOnce flags lib s input).isSome := by
  rw [Option.isSome_iff_ne_none, Ne, runOnce_eq_none_iff, hnav]
  exact fun h => Bool.noConfusion h.1

end Tick

theorem run_headerTimestamps {s s' : Planning α} {ticks : List (TickInput α)} {msgs : List (ADCTrajectory α)}
    (h : run flags lib s ticks = some (s', msgs)) :
    msgs.map ADCTrajectory.headerTimestamp = ticks.map fun input => some input.startTimestamp := by
  induction ticks generalizing s msgs with
  | nil =>
    cases h
    rfl
  | cons input ticks ih =>
    obtain ⟨⟨s₁, msgs₁⟩, h₁, h⟩ := Option.bind_eq_some.mp h
    obtain ⟨⟨s₂, msgs₂⟩, h₂, h⟩ := Option.bind_eq_some.mp h
    cases h
    rw [List.map_append, runOnce_headerTimestamps flags lib h₁, ih h₂, List.map_cons]
    rfl

-- Whatever the states the earlier ticks leave, a run aborts only on the tick that aborts alone.
theorem run_eq_none_iff : ∀ (s : Planning α) (ticks : List (TickInput α)),
    run flags lib s ticks = none ↔
      flags.useNavigationMode = false ∧ flags.enableMapReferenceUnify = false ∧
        ∃ input ∈ ticks, notReadyReason flags input = none ∧
          ∃ pose, (input.localization.getD {}).pose = some pose ∧
            (pose.angularVelocity = none ∨ pose.linearAcceleration = none)
  | s, [] => by simp [run]
  | s, input :: ticks => by
    cases h : runOnce flags lib s input with
    | none =>
      obtain ⟨hnav, hunify, hbad⟩ := (runOnce_eq_none_iff flags lib).mp h
      simp only [run, h, Option.bind_eq_bind, Option.none_bind, true_iff]
      exact ⟨hnav, hunify, input, List.mem_cons_self _ _, hbad⟩
    | some r =>
      obtain ⟨s₁, msgs₁⟩ := r
      have hne : runOnce flags lib s input ≠ none := by simp [h]
      have hok := (runOnce_eq_none_iff flags lib).not.mp hne
      have hrest : run flags lib s (input :: ticks) = none ↔ run flags lib s₁ ticks = none := by
        cases hr : run flags lib s₁ ticks <;> simp only [run, h, hr, Option.bind_eq_bind, Option.some_bind, Option.none_bind, Option.pure_def, reduceCtorEq]
      rw [hrest, run_eq_none_iff s₁ ticks]
      constructor
      · rintro ⟨hnav, hunify, i, hi, hbad⟩
        exact ⟨hnav, hunify, i, List.mem_cons_of_mem _ hi, hbad⟩
      · rintro ⟨hnav, hunify, i, hi, hbad⟩
        rcases List.mem_cons.mp hi with rfl | hi
        · exact absurd ⟨hnav, hunify, hbad⟩ hok
        · exact ⟨hnav, hunify, i, hi, hbad⟩

-- In navigation mode each `Update` skips the localization.
theorem run_navigation_vehicleState (hnav : flags.useNavigationMode = true) :
    ∀ (s : Planning α) (ticks : List (TickInput α)), ∃ s' msgs, run flags lib s ticks = some (s', msgs) ∧
      ∃ timestamp linearVelocity gear drivingMode, s'.provider.vehicleState =
        { s.provider.vehicleState with timestamp, linearVelocity, gear, drivingMode }
  | s, [] => ⟨s, [], rfl, _, _, _, _, rfl⟩
  | s, input :: ticks => by
    obtain ⟨⟨s₁, msgs₁⟩, h₁⟩ := Option.isSome_iff_exists.mp
      (runOnce_isSome_of_navigation flags lib hnav : (runOnce flags lib s input).isSome)
    obtain ⟨s', msgs, h, timestamp, linearVelocity, gear, drivingMode, hvs⟩ :=
      run_navigation_vehicleState hnav s₁ ticks
    refine ⟨s', msgs₁ ++ msgs, by simp [run, h₁, h],
      timestamp, linearVelocity, gear, drivingMode, hvs.trans ?_⟩
    rcases runOnce_provider flags lib h₁ with hp | ⟨status, hup⟩
    · rw [hp]
    · obtain ⟨provider', status', hup', _, _, _, _, hvs'⟩ := VehicleStateProvider.update_of_navigation flags lib
        hnav s.provider (input.localization.getD {}) (input.chassis.getD {})
      rw [hup, Option.some.injEq, Prod.mk.injEq] at hup'
      rw [hup'.1, hvs']

-- `Δt = start - timestamp` is bounded only from above, so a state stamped after the start is moved
-- back along its circle by `|v Δt|` however large.
theorem currentVehicleState_shift (flags : Flags ℝ) (lib : Library ℝ) (hcos : lib.cos = Real.cos)
    (hsin : lib.sin = Real.sin) (provider : VehicleStateProvider ℝ) (startTimestamp : ℝ)
    (hyaw : ∀ q ∈ provider.vehicleState.pose.bind (·.orientation),
      q.qx = 0 ∧ q.qy = 0 ∧ q.qw ^ 2 + q.qz ^ 2 = 1) :
    let vs := provider.vehicleState
    let cur := currentVehicleState flags lib provider startTimestamp
    (flags.estimateCurrentVehicleState = true → startTimestamp - vs.timestamp < 1 / 50 →
      cur = { vs with x := cur.x, y := cur.y, timestamp := startTimestamp } ∧
        (cur.x - vs.x) ^ 2 + (cur.y - vs.y) ^ 2 ≤ (vs.linearVelocity * (startTimestamp - vs.timestamp)) ^ 2) ∧
    (flags.estimateCurrentVehicleState = false ∨ 1 / 50 ≤ startTimestamp - vs.timestamp → cur = vs) := by
  intro vs cur
  constructor
  · intro hflag hdt
    have hcur : cur =
        { vs with
          x := (provider.estimateFuturePosition lib (startTimestamp - vs.timestamp)).1
          y := (provider.estimateFuturePosition lib (startTimestamp - vs.timestamp)).2
          timestamp := startTimestamp } := by
      show (if _ then _ else _) = _
      rw [if_pos (by rw [hflag, decide_eq_true hdt]; rfl)]
      rfl
    rw [hcur]
    exact ⟨rfl, VehicleStateProvider.estimateFuturePosition_dist_sq_le lib hcos hsin provider _ hyaw⟩
  · intro h
    show (if _ then _ else _) = _
    refine if_neg fun hif => ?_
    rcases h with hflag | hdt
    · rw [hflag] at hif
      exact Bool.false_ne_true hif
    · rw [decide_eq_false (not_lt.mpr hdt), Bool.and_false] at hif
      exact Bool.false_ne_true hif

theorem currentVehicleState_shift_specExample :
    let lib : Library ℝ := ⟨Real.cos, Real.sin, fun _ => false, fun _ _ _ _ => 0, fun _ _ _ _ => (0, 0, 0),
      fun _ => "", fun _ _ => false⟩
    let flags : Flags ℝ := { exampleFlags with estimateCurrentVehicleState := true }
    let provider : VehicleStateProvider ℝ := ⟨{ VehicleState.default with
      timestamp := 10, linearVelocity := 2, angularVelocity := 1,
      pose := some { orientation := some ⟨0, 0, 0, 1⟩ } }, {}⟩
    lib.cos = Real.cos ∧ lib.sin = Real.sin ∧ (∀ q ∈ provider.vehicleState.pose.bind (·.orientation),
      q.qx = 0 ∧ q.qy = 0 ∧ q.qw ^ 2 + q.qz ^ 2 = 1) ∧
    let vs := provider.vehicleState
    let cur := currentVehicleState flags lib provider 4
    (flags.estimateCurrentVehicleState = true → 4 - vs.timestamp < 1 / 50 →
      cur = { vs with x := cur.x, y := cur.y, timestamp := 4 } ∧
        (cur.x - vs.x) ^ 2 + (cur.y - vs.y) ^ 2 ≤ (vs.linearVelocity * (4 - vs.timestamp)) ^ 2) ∧
    (flags.estimateCurrentVehicleState = false ∨ 1 / 50 ≤ 4 - vs.timestamp → cur = vs) := by
  intro lib flags provider
  have hyaw : ∀ q ∈ provider.vehicleState.pose.bind (·.orientation),
      q.qx = 0 ∧ q.qy = 0 ∧ q.qw ^ 2 + q.qz ^ 2 = 1 := by
    rintro q ⟨⟩
    norm_num
  exact ⟨rfl, rfl, hyaw, currentVehicleState_shift flags lib rfl rfl provider 4 hyaw⟩

end ApolloPlanning.Planning
