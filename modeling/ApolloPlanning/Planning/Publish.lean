import ApolloPlanning.Planning.State

namespace ApolloPlanning

variable {α : Type} [LinearOrderedField α] [FloorRing α]

-- The cruise point `SetFallbackTrajectory` adds at time `t` at speed `v`: `MakePathPoint(s, ...)`
-- with `s = t * v`, which also sets `x` to `s`.
def cruisePoint (v t : α) : TrajectoryPoint α :=
  ⟨⟨t * v, 0, 0, t * v⟩, v, 0, t⟩

section Double

-- Rounding to the nearest integer, ties to even.
def roundHalfEven (m : α) : ℤ :=
  if m - ⌊m⌋ < 1 / 2 then ⌊m⌋
  else if 1 / 2 < m - ⌊m⌋ then ⌊m⌋ + 1
  else if ⌊m⌋ % 2 = 0 then ⌊m⌋ else ⌊m⌋ + 1

-- The `double` an IEEE 754 binary64 operation returns for the exact value `x`: rounded to nearest,
-- ties to even, on the grid of spacing `2 ^ e` of its binade (`2 ^ -1074` below the normal range).
-- Overflow is not modelled.
def roundDouble (x : α) : α :=
  if x = 0 then 0
  else
    let e := max (Int.log 2 |x| - 52) (-1074)
    (roundHalfEven (x / 2 ^ e) : α) * 2 ^ e

-- The times of the loop `for (double t = 0.0; t < cruise_time; t += 0.1)`, with `t` and the literal
-- `0.1` doubles; `fuel` bounds the iterations.
def cruiseTimesFrom (cruiseTime : α) : Nat → α → List α
  | 0, _ => []
  | fuel + 1, t =>
    if t < cruiseTime then t :: cruiseTimesFrom cruiseTime fuel (roundDouble (t + roundDouble (1 / 10)))
    else []

-- Each iteration adds more than `1 / 40` (`cruiseTimesFrom_eq_cruiseTimes`).
def cruiseTimes (cruiseTime : α) : List α :=
  cruiseTimesFrom cruiseTime (⌈40 * cruiseTime⌉₊ + 1) 0

theorem roundHalfEven_ge (m : α) : m - 1 / 2 ≤ roundHalfEven m := by
  have h₁ := Int.floor_le m
  have h₂ := Int.lt_floor_add_one m
  unfold roundHalfEven
  split_ifs <;> push_cast <;> linarith

theorem zpow_binade_div_two_le {x : α} (hx : 0 < x) :
    (2 : α) ^ max (Int.log 2 x - 52) (-1074) / 2 ≤ max (x / 2 ^ 53) (2 ^ (-1075 : ℤ)) := by
  rcases le_total (Int.log 2 x - 52) (-1074) with h | h
  · rw [max_eq_right h, show (-1075 : ℤ) = -1074 - 1 by norm_num, zpow_sub_one₀ two_ne_zero, div_eq_mul_inv]
    exact le_max_right _ _
  · have hlog : (2 : α) ^ Int.log 2 x ≤ x := by
      simpa using Int.zpow_log_le_self (R := α) one_lt_two hx
    rw [max_eq_left h, zpow_sub₀ two_ne_zero, div_div, zpow_ofNat]
    exact le_max_of_le_left (by gcongr; norm_num)

-- A rounded positive value is below the exact one by at most half its grid spacing.
theorem roundDouble_ge {x : α} (hx : 0 < x) :
    x - max (x / 2 ^ 53) (2 ^ (-1075 : ℤ)) ≤ roundDouble x := by
  have hstep := zpow_binade_div_two_le hx
  rw [roundDouble, if_neg hx.ne', abs_of_pos hx]
  have hpos : (0 : α) < 2 ^ max (Int.log 2 x - 52) (-1074) := zpow_pos two_pos _
  calc x - max (x / 2 ^ 53) (2 ^ (-1075 : ℤ))
      ≤ (x / 2 ^ max (Int.log 2 x - 52) (-1074) - 1 / 2) * 2 ^ max (Int.log 2 x - 52) (-1074) := by
        rw [sub_mul, div_mul_cancel₀ _ hpos.ne']
        linarith
    _ ≤ _ := mul_le_mul_of_nonneg_right (roundHalfEven_ge _) hpos.le

-- The grid spacing of the subnormal range, halved, is far below `0.1`.
omit [FloorRing α] in
theorem two_zpow_neg_1075_le : (2 : α) ^ (-1075 : ℤ) ≤ 1 / 40 := by
  rw [zpow_neg, zpow_ofNat, one_div]
  exact inv_anti₀ (by norm_num) (by norm_num)

theorem one_twentieth_le_step : (1 / 20 : α) ≤ roundDouble (1 / 10) := by
  refine le_trans ?_ (roundDouble_ge (by norm_num))
  have h₁ : (1 / 10 : α) / 2 ^ 53 ≤ 1 / 20 := by norm_num
  linarith [max_le h₁ (two_zpow_neg_1075_le.trans (by norm_num))]

-- Up to `10 ^ 14` an iteration of the loop adds at least half of `0.1`.
theorem roundDouble_step {t : α} (ht : 0 ≤ t) (htB : t ≤ 10 ^ 14) :
    t + roundDouble (1 / 10) / 2 ≤ roundDouble (t + roundDouble (1 / 10)) := by
  have hd := one_twentieth_le_step (α := α)
  refine le_trans ?_ (roundDouble_ge (by linarith))
  have h₁ : (t + roundDouble (1 / 10)) / 2 ^ 53 ≤ roundDouble (1 / 10) / 2 := by
    rw [div_le_div_iff₀ (by norm_num) (by norm_num)]
    nlinarith
  have h₂ : (2 : α) ^ (-1075 : ℤ) ≤ roundDouble (1 / 10) / 2 := by
    linarith [two_zpow_neg_1075_le (α := α)]
  linarith [max_le h₁ h₂]

-- Induction on the iterations left: once `t + n / 40` reaches `cruiseTime`, `n + 1` iterations
-- run the loop to its end.
theorem cruiseTimesFrom_stable {cruiseTime : α} (hc : cruiseTime ≤ 10 ^ 14) :
    ∀ (n : Nat) (t : α) (m : Nat), 0 ≤ t → cruiseTime ≤ t + n / 40 → n < m →
      cruiseTimesFrom cruiseTime m t = cruiseTimesFrom cruiseTime (n + 1) t
  | _, _, 0, _, _, hm => absurd hm (Nat.not_lt_zero _)
  | 0, t, m + 1, _, hn, _ => by
    have hlt : ¬t < cruiseTime := by push_cast at hn; linarith
    simp only [cruiseTimesFrom, if_neg hlt]
  | n + 1, t, m + 1, ht, hn, hm => by
    by_cases hlt : t < cruiseTime
    case pos =>
      have hd := one_twentieth_le_step (α := α)
      have hstep := roundDouble_step ht (hlt.le.trans hc)
      simp only [cruiseTimesFrom, if_pos hlt]
      congr 1
      exact cruiseTimesFrom_stable hc n _ m (by linarith) (by push_cast at hn; linarith) (by omega)
    case neg => simp only [cruiseTimesFrom, if_neg hlt]

-- The loop ends on `t >= cruise_time` before the fuel runs out: more fuel gives the same times.
theorem cruiseTimesFrom_eq_cruiseTimes {cruiseTime : α} (hc : cruiseTime ≤ 10 ^ 14) {m : Nat}
    (hm : ⌈40 * cruiseTime⌉₊ + 1 ≤ m) : cruiseTimesFrom cruiseTime m 0 = cruiseTimes cruiseTime :=
  cruiseTimesFrom_stable hc _ 0 m le_rfl (by linarith [Nat.le_ceil (40 * cruiseTime)]) (by omega)

end Double

variable (flags : Flags α) (input : TickInput α) (provider : VehicleStateProvider α)

-- `SetFallbackTrajectory`: in navigation mode a cruise at the current speed, otherwise the last
-- planning message's points re-timed to this message's header time.
def setFallbackTrajectory (pb : ADCTrajectory α) : ADCTrajectory α :=
  if flags.useNavigationMode then
    let v := provider.vehicleState.linearVelocity
    { pb with trajectoryPoint :=
        pb.trajectoryPoint ++ (cruiseTimes flags.navigationFallbackCruiseTime).map (cruisePoint v) }
  else
    match input.planning with
    | some traj =>
      let currentTimeStamp := pb.headerTimestamp.getD 0
      let preTimeStamp := traj.headerTimestamp.getD 0
      { pb with trajectoryPoint := pb.trajectoryPoint ++ traj.trajectoryPoint.map fun p =>
          { p with relativeTime := p.relativeTime + preTimeStamp - currentTimeStamp } }
    | none => pb

-- `PublishPlanningPb`.
def publishPlanningPb (pb : ADCTrajectory α) (timestamp : α) : ADCTrajectory α :=
  let pb := { pb with headerTimestamp := some timestamp, gear := some .gearDrive }
  let pb := match input.routing with
    | some routing => { pb with routingHeader := some (routing.header.getD {}) }
    | none => pb
  let pb := if flags.usePlanningFallback && pb.trajectoryPoint.isEmpty then
      setFallbackTrajectory flags input provider pb
    else pb
  if !flags.planningTestMode then
    let dt := timestamp - input.publishTimestamp
    { pb with trajectoryPoint := pb.trajectoryPoint.map fun p =>
        { p with relativeTime := p.relativeTime + dt } }
  else pb

section Frame

variable {pb : ADCTrajectory α} {timestamp : α}

theorem setFallbackTrajectory_frame :
    (setFallbackTrajectory flags input provider pb).headerTimestamp = pb.headerTimestamp ∧
      (setFallbackTrajectory flags input provider pb).notReadyReason = pb.notReadyReason ∧
      (setFallbackTrajectory flags input provider pb).estop = pb.estop ∧
      (setFallbackTrajectory flags input provider pb).headerStatus = pb.headerStatus := by
  unfold setFallbackTrajectory
  split
  · exact ⟨rfl, rfl, rfl, rfl⟩
  · split <;> exact ⟨rfl, rfl, rfl, rfl⟩

theorem publishPlanningPb_reasons :
    (publishPlanningPb flags input provider pb timestamp).notReadyReason = pb.notReadyReason ∧
      (publishPlanningPb flags input provider pb timestamp).estop = pb.estop ∧
      (publishPlanningPb flags input provider pb timestamp).headerStatus = pb.headerStatus := by
  unfold publishPlanningPb
  cases input.routing <;> dsimp only <;> split_ifs <;>
    simp [setFallbackTrajectory_frame]

theorem publishPlanningPb_headerTimestamp :
    (publishPlanningPb flags input provider pb timestamp).headerTimestamp = some timestamp := by
  unfold publishPlanningPb
  cases input.routing <;> dsimp only <;> split_ifs <;>
    simp [setFallbackTrajectory_frame]

end Frame

end ApolloPlanning
