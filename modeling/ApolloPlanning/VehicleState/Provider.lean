import ApolloPlanning.Common.Messages

namespace ApolloPlanning

-- The members of the `VehicleStateProvider` singleton.
structure VehicleStateProvider (α : Type) where
  vehicleState : VehicleState α
  originalLocalization : LocalizationEstimate α

namespace VehicleStateProvider

variable {α : Type} [LinearOrderedField α] (flags : Flags α) (lib : Library α)

-- The tail of `ConstructExceptLinearVelocity`: the curvature from the velocities the state holds,
-- then roll, pitch and yaw.
def setKappaAndEulerAngles (pose : Pose α) (orientation : PoseOrientation α) (vs : VehicleState α) :
    VehicleState α :=
  let vs := { vs with
    kappa := if ¬(0 < vs.linearVelocity) then 0 else vs.angularVelocity / vs.linearVelocity }
  match pose.eulerAngles with
  | some e => { vs with roll := e.x, pitch := e.y, yaw := e.z }
  | none =>
    let (roll, pitch, yaw) :=
      lib.eulerAnglesZXY orientation.qw orientation.qx orientation.qy orientation.qz
    { vs with roll, pitch, yaw }

section Fields

variable {pose : Pose α} {orientation : PoseOrientation α} {vs : VehicleState α}

@[simp] theorem setKappaAndEulerAngles_kappa :
    (setKappaAndEulerAngles lib pose orientation vs).kappa =
      if ¬(0 < vs.linearVelocity) then 0 else vs.angularVelocity / vs.linearVelocity := by
  unfold setKappaAndEulerAngles; cases pose.eulerAngles <;> rfl

@[simp] theorem setKappaAndEulerAngles_angularVelocity :
    (setKappaAndEulerAngles lib pose orientation vs).angularVelocity = vs.angularVelocity := by
  unfold setKappaAndEulerAngles; cases pose.eulerAngles <;> rfl

@[simp] theorem setKappaAndEulerAngles_linearVelocity :
    (setKappaAndEulerAngles lib pose orientation vs).linearVelocity = vs.linearVelocity := by
  unfold setKappaAndEulerAngles; cases pose.eulerAngles <;> rfl

@[simp] theorem setKappaAndEulerAngles_pose :
    (setKappaAndEulerAngles lib pose orientation vs).pose = vs.pose := by
  unfold setKappaAndEulerAngles; cases pose.eulerAngles <;> rfl

end Fields

-- `ConstructExceptLinearVelocity`: its result and the vehicle state it leaves, which keeps what
-- was set before a failed check; `none` is the abort of a failed `CHECK`.
def constructExceptLinearVelocity (vs : VehicleState α) (localization : LocalizationEstimate α) :
    Option (Bool × VehicleState α) :=
  match localization.pose with
  | none => some (false, vs)
  | some pose =>
    if flags.useNavigationMode then some (true, vs)
    else
      let orientation := pose.orientation.getD ⟨0, 0, 0, 0⟩
      let vs := { vs with pose := some pose }
      let vs := match pose.position with
        | some p => { vs with x := p.x, y := p.y, z := p.z }
        | none => vs
      let vs := { vs with heading := match pose.heading with
        | some heading => heading
        | none => lib.quaternionToHeading orientation.qw orientation.qx orientation.qy orientation.qz }
      if flags.enableMapReferenceUnify then
        match pose.angularVelocityVrf with
        | none => some (false, vs)
        | some w =>
          let vs := { vs with angularVelocity := w.z }
          match pose.linearAccelerationVrf with
          | none => some (false, vs)
          | some a =>
            some (true, setKappaAndEulerAngles lib pose orientation { vs with linearAcceleration := a.y })
      else
        match pose.angularVelocity, pose.linearAcceleration with
        | some w, some a =>
          some (true, setKappaAndEulerAngles lib pose orientation
            { vs with angularVelocity := w.z, linearAcceleration := a.y })
        | _, _ => none

section Construct

variable {vs vs' : VehicleState α} {localization : LocalizationEstimate α} {ok : Bool}

theorem constructExceptLinearVelocity_cases
    (h : constructExceptLinearVelocity flags lib vs localization = some (ok, vs')) :
    (localization.pose = none ∧ ok = false ∧ vs' = vs) ∨
      (localization.pose.isSome ∧ flags.useNavigationMode = true ∧ ok = true ∧ vs' = vs) ∨
      ∃ pose, localization.pose = some pose ∧ flags.useNavigationMode = false ∧ vs'.pose = some pose ∧
        vs'.linearVelocity = vs.linearVelocity ∧ (ok = false → flags.enableMapReferenceUnify = true) ∧
        (ok = true → vs'.kappa =
          if ¬(0 < vs.linearVelocity) then 0 else vs'.angularVelocity / vs.linearVelocity) := by
  unfold constructExceptLinearVelocity at h
  split at h
  · cases h; exact .inl ⟨‹_›, rfl, rfl⟩
  · rename_i pose hpose
    split_ifs at h with hnav hunify
    · cases h; exact .inr (.inl ⟨by simp [hpose], hnav, rfl, rfl⟩)
    all_goals
      refine .inr (.inr ⟨pose, hpose, by simpa using hnav, ?_⟩)
      cases hpos : pose.position <;> simp only [hpos] at h <;> (repeat' split at h) <;> cases h <;>
        simp only [setKappaAndEulerAngles_pose, setKappaAndEulerAngles_linearVelocity,
          setKappaAndEulerAngles_kappa, setKappaAndEulerAngles_angularVelocity, hunify, true_and, and_true,
          and_self, Bool.false_eq_true, Bool.true_eq_false, imp_self, false_implies, implies_true]

theorem constructExceptLinearVelocity_eq_none_iff :
    constructExceptLinearVelocity flags lib vs localization = none ↔
      ∃ pose, localization.pose = some pose ∧ flags.useNavigationMode = false ∧
        flags.enableMapReferenceUnify = false ∧
        (pose.angularVelocity = none ∨ pose.linearAcceleration = none) := by
  unfold constructExceptLinearVelocity
  split
  · simp [*]
  · rename_i pose hpose
    simp only [hpose, Option.some.injEq, exists_eq_left']
    split_ifs with hnav hunify
    · simp [hnav]
    · (repeat' split) <;> simp_all
    · cases pose.angularVelocity <;> cases pose.linearAcceleration <;> simp [hnav, hunify]

end Construct

def updateErrorMessage (localization : LocalizationEstimate α) : String :=
  "Fail to update because ConstructExceptLinearVelocity error." ++ "localization:\n" ++
    lib.debugString localization

-- `Update`; `none` is the abort of a failed `CHECK`.
def update (provider : VehicleStateProvider α) (localization : LocalizationEstimate α)
    (chassis : Chassis α) : Option (VehicleStateProvider α × Status) := do
  let provider := { provider with originalLocalization := localization }
  let (ok, vs) ← constructExceptLinearVelocity flags lib provider.vehicleState localization
  if !ok then
    pure ({ provider with vehicleState := vs },
      ⟨.localizationError, updateErrorMessage lib localization⟩)
  else
    let vs := match localization.header.bind (·.timestampSec), chassis.header.bind (·.timestampSec) with
      | some t, _ => { vs with timestamp := t }
      | none, some t => { vs with timestamp := t }
      | none, none => vs
    let vs := match chassis.speedMps with
      | some v => { vs with linearVelocity := v }
      | none => vs
    let vs := { vs with
      gear := chassis.gearLocation.getD .gearNone
      drivingMode := chassis.drivingMode.getD .completeManual }
    pure ({ provider with vehicleState := vs }, Status.okStatus)

section Update

variable {provider provider' : VehicleStateProvider α} {localization : LocalizationEstimate α}
  {chassis : Chassis α} {status : Status}

theorem update_cases (h : update flags lib provider localization chassis = some (provider', status)) :
    ∃ ok vs, constructExceptLinearVelocity flags lib provider.vehicleState localization = some (ok, vs) ∧
      provider'.originalLocalization = localization ∧
      (ok = false → status = ⟨.localizationError, updateErrorMessage lib localization⟩ ∧
        provider'.vehicleState = vs) ∧
      (ok = true → status = Status.okStatus ∧
        provider'.vehicleState.linearVelocity = chassis.speedMps.getD vs.linearVelocity ∧
        provider'.vehicleState.kappa = vs.kappa ∧ provider'.vehicleState.angularVelocity = vs.angularVelocity) := by
  cases hc : constructExceptLinearVelocity flags lib provider.vehicleState localization with
  | none => simp [update, hc] at h
  | some r =>
    obtain ⟨ok, vs⟩ := r
    refine ⟨ok, vs, rfl, ?_⟩
    cases ok <;> simp [update, hc] at h <;> obtain ⟨rfl, rfl⟩ := h
    · simp
    · split <;> split <;> simp_all

theorem update_eq_none_iff :
    update flags lib provider localization chassis = none ↔
      constructExceptLinearVelocity flags lib provider.vehicleState localization = none := by
  cases hc : constructExceptLinearVelocity flags lib provider.vehicleState localization with
  | none => simp [update, hc]
  | some r => obtain ⟨_ | _, _⟩ := r <;> simp [update, hc]

theorem update_of_navigation (hnav : flags.useNavigationMode = true) (provider : VehicleStateProvider α)
    (localization : LocalizationEstimate α) (chassis : Chassis α) :
    ∃ provider' status, update flags lib provider localization chassis = some (provider', status) ∧
      ∃ timestamp linearVelocity gear drivingMode, provider'.vehicleState =
        { provider.vehicleState with timestamp, linearVelocity, gear, drivingMode } := by
  unfold update constructExceptLinearVelocity
  cases localization.pose with
  | none => exact ⟨_, _, rfl, _, _, _, _, rfl⟩
  | some pose =>
    simp only [hnav, if_true, Option.pure_def, Option.bind_eq_bind, Option.some_bind, Bool.not_true]
    refine ⟨_, _, rfl, ?_⟩
    split <;> split <;> exact ⟨_, _, _, _, rfl⟩

end Update

theorem update_failure_not_atomic (provider : VehicleStateProvider α)
    (localization : LocalizationEstimate α) (chassis : Chassis α) :
    (update flags lib provider localization chassis = none ↔
      ∃ pose, localization.pose = some pose ∧ flags.useNavigationMode = false ∧
        flags.enableMapReferenceUnify = false ∧
        (pose.angularVelocity = none ∨ pose.linearAcceleration = none)) ∧
    ∀ provider' status, update flags lib provider localization chassis = some (provider', status) →
      status.code ≠ .ok →
        provider'.originalLocalization = localization ∧
        status = ⟨.localizationError, updateErrorMessage lib localization⟩ ∧
        (localization.pose = none → provider'.vehicleState = provider.vehicleState) ∧
        ∀ pose, localization.pose = some pose →
          flags.enableMapReferenceUnify = true ∧ provider'.vehicleState.pose = some pose := by
  refine ⟨(update_eq_none_iff flags lib).trans (constructExceptLinearVelocity_eq_none_iff flags lib), ?_⟩
  intro provider' status h hs
  obtain ⟨ok, vs, hc, hloc, hfail, hok⟩ := update_cases flags lib h
  cases ok with
  | true => exact absurd (by rw [(hok rfl).1]; rfl) hs
  | false =>
    obtain ⟨rfl, rfl⟩ := hfail rfl
    refine ⟨hloc, rfl, ?_⟩
    rcases constructExceptLinearVelocity_cases flags lib hc with
      ⟨hp, -, hvs⟩ | ⟨-, -, h, -⟩ | ⟨pose, hp, -, hpose, -, hunify, -⟩
    · exact ⟨fun _ => hvs, fun pose h => by simp [hp] at h⟩
    · cases h
    · refine ⟨fun h => by simp [hp] at h, fun pose' h => ?_⟩
      rw [hp, Option.some.injEq] at h
      exact ⟨hunify rfl, h ▸ hpose⟩

-- In the unified frame, a pose without `angular_velocity_vrf` fails after the pose is stored; in the
-- other frame, a pose without `angular_velocity` aborts.
theorem update_failure_not_atomic_specExample :
    let lib : Library ℚ := ⟨fun _ => 1, fun _ => 0, fun _ => false, fun _ _ _ _ => 0,
      fun _ _ _ _ => (0, 0, 0), fun _ => "", fun _ _ => false⟩
    let provider : VehicleStateProvider ℚ := ⟨.default, {}⟩
    let localization : LocalizationEstimate ℚ := { pose := some {} }
    update ⟨false, false, false, false, false, false, 0⟩ lib provider localization {} = none ∧
      ∃ provider' status,
        update ⟨false, true, false, false, false, false, 0⟩ lib provider localization {} =
          some (provider', status) ∧ status.code ≠ .ok ∧
        provider'.originalLocalization ≠ provider.originalLocalization ∧
        provider'.vehicleState ≠ provider.vehicleState := by
  intro lib provider localization
  have h : update ⟨false, true, false, false, false, false, 0⟩ lib provider localization {} =
      some (_, ⟨.localizationError, _⟩) := rfl
  obtain ⟨hloc, -, -, hpose⟩ := (update_failure_not_atomic _ lib provider localization {}).2 _ _ h nofun
  refine ⟨(update_failure_not_atomic _ lib provider localization {}).1.mpr ⟨_, rfl, rfl, rfl, .inl rfl⟩,
    _, _, h, nofun, fun he => ?_, fun he => ?_⟩
  · rw [hloc] at he
    exact absurd he (by decide)
  · have h' := (hpose _ rfl).2
    rw [he] at h'
    cases h'

-- `ConstructExceptLinearVelocity` computes the curvature before `Update` stores the chassis speed.
theorem update_kappa_uses_previous_speed {provider provider' : VehicleStateProvider α}
    {localization : LocalizationEstimate α} {chassis : Chassis α}
    (h : update flags lib provider localization chassis = some (provider', Status.okStatus)) :
    provider'.vehicleState.linearVelocity = chassis.speedMps.getD provider.vehicleState.linearVelocity ∧
    (flags.useNavigationMode = false → provider'.vehicleState.kappa =
      if 0 < provider.vehicleState.linearVelocity then
        provider'.vehicleState.angularVelocity / provider.vehicleState.linearVelocity else 0) ∧
    (flags.useNavigationMode = true → provider'.vehicleState.kappa = provider.vehicleState.kappa ∧
      provider'.vehicleState.angularVelocity = provider.vehicleState.angularVelocity) := by
  obtain ⟨ok, vs, hc, -, hfail, hok⟩ := update_cases flags lib h
  cases ok with
  | false => exact absurd (congrArg Status.code (hfail rfl).1) (by simp [Status.okStatus])
  | true =>
    obtain ⟨-, hlv, hkappa, hw⟩ := hok rfl
    rcases constructExceptLinearVelocity_cases flags lib hc with
      ⟨-, h, -⟩ | ⟨-, hnav, -, rfl⟩ | ⟨pose, -, hnav, -, hlv', -, hk⟩
    · cases h
    · exact ⟨hlv, fun h => by simp [hnav] at h, fun _ => ⟨hkappa, hw⟩⟩
    · refine ⟨hlv'.symm ▸ hlv, fun _ => ?_, fun h => by simp [hnav] at h⟩
      rw [hkappa, hk rfl, hw, ite_not]

-- A vehicle at rest turning at 1 rad/s that the chassis reports at 2 m/s: the update stores both
-- velocities but keeps the curvature of the resting state, not 1/2.
theorem update_kappa_uses_previous_speed_specExample :
    let flags : Flags ℚ := ⟨false, false, false, false, false, false, 0⟩
    let lib : Library ℚ := ⟨fun _ => 1, fun _ => 0, fun _ => false, fun _ _ _ _ => 0,
      fun _ _ _ _ => (0, 0, 0), fun _ => "", fun _ _ => false⟩
    let provider : VehicleStateProvider ℚ := ⟨.default, {}⟩
    let localization : LocalizationEstimate ℚ :=
      { pose := some { angularVelocity := some ⟨0, 0, 1⟩, linearAcceleration := some ⟨0, 0, 0⟩ } }
    let chassis : Chassis ℚ := { speedMps := some 2 }
    ∃ provider', update flags lib provider localization chassis = some (provider', Status.okStatus) ∧
      provider'.vehicleState.linearVelocity = 2 ∧ provider'.vehicleState.angularVelocity = 1 ∧
      provider'.vehicleState.kappa = 0 := by
  intro flags lib provider localization chassis
  have h : update flags lib provider localization chassis = some (_, Status.okStatus) := rfl
  obtain ⟨hlv, hk, -⟩ := update_kappa_uses_previous_speed flags lib h
  exact ⟨_, h, hlv, rfl, (hk rfl).trans (if_neg (lt_irrefl _))⟩

-- `EstimateFuturePosition`: the position after `t` seconds on the circle (or line) the current
-- velocities describe, rotated by the pose's orientation when there is one.
def estimateFuturePosition (provider : VehicleStateProvider α) (t : α) : α × α :=
  let vs := provider.vehicleState
  let v := if vs.gear = .gearReverse then -vs.linearVelocity else vs.linearVelocity
  let (d0, d1) : α × α :=
    if |vs.angularVelocity| < 1 / 10000 then (0, v * t)
    else (-v / vs.angularVelocity * (1 - lib.cos (vs.angularVelocity * t)),
      lib.sin (vs.angularVelocity * t) * v / vs.angularVelocity)
  match vs.pose.bind (·.orientation) with
  | some q =>
    -- rows 0 and 1 of Eigen's `toRotationMatrix` applied to `(d0, d1, 0)`
    let tx := 2 * q.qx
    let ty := 2 * q.qy
    let tz := 2 * q.qz
    (((1 - (ty * q.qy + tz * q.qz)) * d0 + (ty * q.qx - tz * q.qw) * d1) + vs.x,
      ((ty * q.qx + tz * q.qw) * d0 + (1 - (tx * q.qx + tz * q.qz)) * d1) + vs.y)
  | none => (d0 + vs.x, d1 + vs.y)

-- `ComputeCOMPosition`: the point `rear_to_com_distance` ahead of the position along the body's
-- longitudinal axis, the vector `(0, rear_to_com_distance, 0)` rotated by the pose's orientation
-- when there is one.
def computeCOMPosition (provider : VehicleStateProvider α) (rearToComDistance : α) : α × α :=
  let vs := provider.vehicleState
  match vs.pose.bind (·.orientation) with
  | some q =>
    let tx := 2 * q.qx
    let ty := 2 * q.qy
    let tz := 2 * q.qz
    (((1 - (ty * q.qy + tz * q.qz)) * 0 + (ty * q.qx - tz * q.qw) * rearToComDistance) + vs.x,
      ((ty * q.qx + tz * q.qw) * 0 + (1 - (tx * q.qx + tz * q.qz)) * rearToComDistance) + vs.y)
  | none => (0 + vs.x, rearToComDistance + vs.y)

section Kinematics

theorem rotate_sq {q : PoseOrientation α} (hx : q.qx = 0) (hy : q.qy = 0) (hq : q.qw ^ 2 + q.qz ^ 2 = 1)
    (d0 d1 : α) :
    ((1 - (2 * q.qy * q.qy + 2 * q.qz * q.qz)) * d0 + (2 * q.qy * q.qx - 2 * q.qz * q.qw) * d1) ^ 2 +
      ((2 * q.qy * q.qx + 2 * q.qz * q.qw) * d0 + (1 - (2 * q.qx * q.qx + 2 * q.qz * q.qz)) * d1) ^ 2 =
        d0 ^ 2 + d1 ^ 2 := by
  rw [hx, hy]
  linear_combination (4 * q.qz ^ 2 * (d0 ^ 2 + d1 ^ 2)) * hq

theorem chord_sq (v w θ : ℝ) :
    (-v / w * (1 - Real.cos θ)) ^ 2 + (Real.sin θ * v / w) ^ 2 = (2 * v / w * Real.sin (θ / 2)) ^ 2 := by
  obtain ⟨h, rfl⟩ : ∃ h, θ = 2 * h := ⟨θ / 2, by ring⟩
  rw [mul_div_cancel_left₀ h two_ne_zero, Real.cos_two_mul, Real.sin_two_mul]
  linear_combination (-4 * (v / w) ^ 2 * (1 - Real.cos h ^ 2)) * Real.sin_sq_add_cos_sq h

theorem chord_sq_le (v w t : ℝ) : (2 * v / w * Real.sin (w * t / 2)) ^ 2 ≤ (v * t) ^ 2 := by
  rcases eq_or_ne w 0 with rfl | hw0
  · rw [div_zero, zero_mul, sq, zero_mul]
    exact sq_nonneg _
  calc (2 * v / w * Real.sin (w * t / 2)) ^ 2 = (2 * v / w) ^ 2 * Real.sin (w * t / 2) ^ 2 := by ring
    _ ≤ (2 * v / w) ^ 2 * (w * t / 2) ^ 2 := mul_le_mul_of_nonneg_left Real.sin_sq_le_sq (sq_nonneg _)
    _ = (v * t) ^ 2 := by
      rw [← mul_pow, div_mul_div_comm, mul_mul_mul_comm, mul_comm w,
        mul_div_cancel_left₀ _ (mul_ne_zero two_ne_zero hw0)]

theorem eq_of_hasDerivAt {p f u : ℝ → ℝ × ℝ} (hp : ∀ τ, HasDerivAt p (u τ) τ)
    (hf : ∀ τ, HasDerivAt f (u τ) τ) (h0 : p 0 = f 0) : p = f := by
  have hd : ∀ τ, HasDerivAt (p - f) 0 τ := fun τ => by simpa using (hp τ).sub (hf τ)
  funext τ
  have h := is_const_of_deriv_eq_zero (fun τ => (hd τ).differentiableAt) (fun τ => (hd τ).deriv) τ 0
  rwa [Pi.sub_apply, Pi.sub_apply, h0, sub_self, sub_eq_zero] at h

-- Below the yaw-rate threshold the unicycle runs along the line of its heading `ψ + π / 2`.
theorem hasDerivAt_line (x y v ψ τ : ℝ) :
    HasDerivAt (fun τ => (x - v * τ * Real.sin ψ, y + v * τ * Real.cos ψ))
      (v * Real.cos (ψ + Real.pi / 2 + 0 * τ), v * Real.sin (ψ + Real.pi / 2 + 0 * τ)) τ := by
  have hvτ : HasDerivAt (fun τ => v * τ) (v * 1) τ := (hasDerivAt_id τ).const_mul v
  refine ((hvτ.mul_const _).const_sub x).prod ((hvτ.mul_const _).const_add y) |>.congr_deriv ?_
  rw [zero_mul, add_zero, Real.cos_add_pi_div_two, Real.sin_add_pi_div_two, mul_one, mul_neg]

-- Above it the unicycle runs on the circle of radius `v / ω`, its heading turning at `ω`.
theorem hasDerivAt_circle (x y v ψ τ : ℝ) {ω : ℝ} (hω : ω ≠ 0) :
    HasDerivAt (fun τ => (x + v / ω * (Real.cos (ψ + ω * τ) - Real.cos ψ),
        y + v / ω * (Real.sin (ψ + ω * τ) - Real.sin ψ)))
      (v * Real.cos (ψ + Real.pi / 2 + ω * τ), v * Real.sin (ψ + Real.pi / 2 + ω * τ)) τ := by
  have harg : HasDerivAt (fun τ => ψ + ω * τ) (ω * 1) τ := ((hasDerivAt_id τ).const_mul ω).const_add ψ
  refine (((harg.cos.sub_const _).const_mul _).const_add x).prod
    (((harg.sin.sub_const _).const_mul _).const_add y) |>.congr_deriv ?_
  rw [add_right_comm ψ, Real.cos_add_pi_div_two, Real.sin_add_pi_div_two, mul_one, mul_comm _ ω, mul_comm _ ω,
    ← mul_assoc, ← mul_assoc, div_mul_cancel₀ v hω]

variable (lib : Library ℝ) (hcos : lib.cos = Real.cos) (hsin : lib.sin = Real.sin)
include hcos hsin

theorem estimateFuturePosition_dist_sq (provider : VehicleStateProvider ℝ) (t : ℝ)
    (hyaw : ∀ q ∈ provider.vehicleState.pose.bind (·.orientation),
      q.qx = 0 ∧ q.qy = 0 ∧ q.qw ^ 2 + q.qz ^ 2 = 1) :
    ((provider.estimateFuturePosition lib t).1 - provider.vehicleState.x) ^ 2 +
        ((provider.estimateFuturePosition lib t).2 - provider.vehicleState.y) ^ 2 =
      if |provider.vehicleState.angularVelocity| < 1 / 10000 then (provider.vehicleState.linearVelocity * t) ^ 2
      else (2 * provider.vehicleState.linearVelocity / provider.vehicleState.angularVelocity *
        Real.sin (provider.vehicleState.angularVelocity * t / 2)) ^ 2 := by
  unfold estimateFuturePosition
  dsimp only
  generalize hv : (if provider.vehicleState.gear = .gearReverse then -provider.vehicleState.linearVelocity
    else provider.vehicleState.linearVelocity) = v
  have hv2 : v ^ 2 = provider.vehicleState.linearVelocity ^ 2 := by
    rw [← hv]
    split_ifs <;> ring
  -- the displacement in the body frame, before the rotation
  generalize hd : (if |provider.vehicleState.angularVelocity| < 1 / 10000 then ((0 : ℝ), v * t)
    else (-v / provider.vehicleState.angularVelocity * (1 - lib.cos (provider.vehicleState.angularVelocity * t)),
      lib.sin (provider.vehicleState.angularVelocity * t) * v / provider.vehicleState.angularVelocity)) = d
  have hd2 : d.1 ^ 2 + d.2 ^ 2 = if |provider.vehicleState.angularVelocity| < 1 / 10000 then
      (provider.vehicleState.linearVelocity * t) ^ 2
      else (2 * provider.vehicleState.linearVelocity / provider.vehicleState.angularVelocity *
        Real.sin (provider.vehicleState.angularVelocity * t / 2)) ^ 2 := by
    rw [← hd]
    split_ifs
    · simp [mul_pow, hv2]
    · rw [hcos, hsin, chord_sq]
      simp only [mul_pow, div_pow, hv2]
  rw [← hd2]
  split
  · next q hq =>
    obtain ⟨hx, hy, hn⟩ := hyaw q hq
    rw [add_sub_cancel_right, add_sub_cancel_right]
    exact rotate_sq hx hy hn _ _
  · rw [add_sub_cancel_right, add_sub_cancel_right]

theorem estimateFuturePosition_dist_sq_le (provider : VehicleStateProvider ℝ) (t : ℝ)
    (hyaw : ∀ q ∈ provider.vehicleState.pose.bind (·.orientation),
      q.qx = 0 ∧ q.qy = 0 ∧ q.qw ^ 2 + q.qz ^ 2 = 1) :
    ((provider.estimateFuturePosition lib t).1 - provider.vehicleState.x) ^ 2 +
        ((provider.estimateFuturePosition lib t).2 - provider.vehicleState.y) ^ 2 ≤
      (provider.vehicleState.linearVelocity * t) ^ 2 := by
  rw [estimateFuturePosition_dist_sq lib hcos hsin provider t hyaw]
  split_ifs
  · exact le_rfl
  · exact chord_sq_le _ _ _

-- `EstimateFuturePosition` moves the vehicle along its turning circle for `t` seconds.
theorem estimateFuturePosition_chord (provider : VehicleStateProvider ℝ) (t : ℝ)
    (hyaw : ∀ q ∈ provider.vehicleState.pose.bind (·.orientation),
      q.qx = 0 ∧ q.qy = 0 ∧ q.qw ^ 2 + q.qz ^ 2 = 1) :
    ((provider.estimateFuturePosition lib t).1 - provider.vehicleState.x) ^ 2 +
        ((provider.estimateFuturePosition lib t).2 - provider.vehicleState.y) ^ 2 =
      (if |provider.vehicleState.angularVelocity| < 1 / 10000 then (provider.vehicleState.linearVelocity * t) ^ 2
      else (2 * provider.vehicleState.linearVelocity / provider.vehicleState.angularVelocity *
        Real.sin (provider.vehicleState.angularVelocity * t / 2)) ^ 2) ∧
    ((provider.estimateFuturePosition lib t).1 - provider.vehicleState.x) ^ 2 +
        ((provider.estimateFuturePosition lib t).2 - provider.vehicleState.y) ^ 2 ≤
      (provider.vehicleState.linearVelocity * t) ^ 2 :=
  ⟨estimateFuturePosition_dist_sq lib hcos hsin provider t hyaw,
    estimateFuturePosition_dist_sq_le lib hcos hsin provider t hyaw⟩

theorem estimateFuturePosition_of_yaw (provider : VehicleStateProvider ℝ) {ψ : ℝ}
    (hψ : (provider.vehicleState.pose.bind (·.orientation)).getD ⟨1, 0, 0, 0⟩ =
      ⟨Real.cos (ψ / 2), 0, 0, Real.sin (ψ / 2)⟩) (t : ℝ) :
    provider.estimateFuturePosition lib t =
      let vs := provider.vehicleState
      let v := if vs.gear = .gearReverse then -vs.linearVelocity else vs.linearVelocity
      if |vs.angularVelocity| < 1 / 10000 then (vs.x - v * t * Real.sin ψ, vs.y + v * t * Real.cos ψ)
      else (vs.x + v / vs.angularVelocity * (Real.cos (ψ + vs.angularVelocity * t) - Real.cos ψ),
        vs.y + v / vs.angularVelocity * (Real.sin (ψ + vs.angularVelocity * t) - Real.sin ψ)) := by
  obtain ⟨a, rfl⟩ : ∃ a, ψ = 2 * a := ⟨ψ / 2, by ring⟩
  rw [mul_div_cancel_left₀ a two_ne_zero] at hψ
  unfold estimateFuturePosition
  dsimp only
  generalize (if provider.vehicleState.gear = .gearReverse then -provider.vehicleState.linearVelocity
    else provider.vehicleState.linearVelocity) = v
  generalize provider.vehicleState.angularVelocity = w
  generalize provider.vehicleState.x = x
  generalize provider.vehicleState.y = y
  rw [hcos, hsin, Real.cos_two_mul, Real.sin_two_mul, Real.cos_add, Real.sin_add, Real.cos_two_mul,
    Real.sin_two_mul]
  have hn := Real.sin_sq_add_cos_sq a
  rcases hq : provider.vehicleState.pose.bind (·.orientation) with _ | q
  · -- no orientation: the identity, yaw 0
    rw [hq, Option.getD_none, PoseOrientation.mk.injEq] at hψ
    obtain ⟨hc, -, -, hs⟩ := hψ
    rw [← hc, ← hs]
    split_ifs <;> ext <;> simp only <;> ring
  · -- the rotation by the yaw `2 a`, its matrix entries in the half angle
    rw [hq, Option.getD_some] at hψ
    subst hψ
    split_ifs <;> ext <;> simp only
    · ring
    · linear_combination (-2 * (v * t)) * hn
    · linear_combination (2 * (v / w) * (1 - Real.cos (w * t))) * hn
    · linear_combination (-2 * (v / w) * Real.sin (w * t)) * hn

-- `EstimateFuturePosition` is the unicycle model's prediction, with the yaw rate taken as 0 below
-- `1e-4`.
theorem estimateFuturePosition_unicycle (provider : VehicleStateProvider ℝ) {ψ : ℝ}
    (hψ : (provider.vehicleState.pose.bind (·.orientation)).getD ⟨1, 0, 0, 0⟩ =
      ⟨Real.cos (ψ / 2), 0, 0, Real.sin (ψ / 2)⟩) :
    let vs := provider.vehicleState
    let v := if vs.gear = .gearReverse then -vs.linearVelocity else vs.linearVelocity
    let ω := if |vs.angularVelocity| < 1 / 10000 then 0 else vs.angularVelocity
    let velocity := fun τ : ℝ =>
      (v * Real.cos (ψ + Real.pi / 2 + ω * τ), v * Real.sin (ψ + Real.pi / 2 + ω * τ))
    provider.estimateFuturePosition lib 0 = (vs.x, vs.y) ∧
      (∀ τ, HasDerivAt (provider.estimateFuturePosition lib) (velocity τ) τ) ∧
      ∀ p : ℝ → ℝ × ℝ, p 0 = (vs.x, vs.y) → (∀ τ, HasDerivAt p (velocity τ) τ) →
        p = provider.estimateFuturePosition lib := by
  intro vs v ω velocity
  have heq := estimateFuturePosition_of_yaw lib hcos hsin provider hψ
  have h0 : provider.estimateFuturePosition lib 0 = (vs.x, vs.y) := by
    rw [heq]
    dsimp only
    split_ifs <;> simp
  have hf : ∀ τ, HasDerivAt (provider.estimateFuturePosition lib) (velocity τ) τ := by
    intro τ
    by_cases hω : |vs.angularVelocity| < 1 / 10000
    · rw [show provider.estimateFuturePosition lib = _ from funext fun τ => (heq τ).trans (if_pos hω)]
      simpa only [velocity, ω, if_pos hω] using hasDerivAt_line vs.x vs.y v ψ τ
    · have hω0 : vs.angularVelocity ≠ 0 := fun h => hω (by norm_num [h])
      rw [show provider.estimateFuturePosition lib = _ from funext fun τ => (heq τ).trans (if_neg hω)]
      simpa only [velocity, ω, if_neg hω] using hasDerivAt_circle vs.x vs.y v ψ τ hω0
  exact ⟨h0, hf, fun p hp0 hp => eq_of_hasDerivAt hp hf (hp0.trans h0.symm)⟩

end Kinematics

theorem estimateFuturePosition_chord_specExample :
    let lib : Library ℝ := ⟨Real.cos, Real.sin, fun _ => false, fun _ _ _ _ => 0, fun _ _ _ _ => (0, 0, 0),
      fun _ => "", fun _ _ => false⟩
    let provider : VehicleStateProvider ℝ := ⟨{ VehicleState.default with
      linearVelocity := 2, angularVelocity := 1, pose := some { orientation := some ⟨0, 0, 0, 1⟩ } }, {}⟩
    lib.cos = Real.cos ∧ lib.sin = Real.sin ∧ (∀ q ∈ provider.vehicleState.pose.bind (·.orientation),
      q.qx = 0 ∧ q.qy = 0 ∧ q.qw ^ 2 + q.qz ^ 2 = 1) ∧
    (((provider.estimateFuturePosition lib 1).1 - provider.vehicleState.x) ^ 2 +
        ((provider.estimateFuturePosition lib 1).2 - provider.vehicleState.y) ^ 2 =
      (if |provider.vehicleState.angularVelocity| < 1 / 10000 then (provider.vehicleState.linearVelocity * 1) ^ 2
      else (2 * provider.vehicleState.linearVelocity / provider.vehicleState.angularVelocity *
        Real.sin (provider.vehicleState.angularVelocity * 1 / 2)) ^ 2) ∧
    ((provider.estimateFuturePosition lib 1).1 - provider.vehicleState.x) ^ 2 +
        ((provider.estimateFuturePosition lib 1).2 - provider.vehicleState.y) ^ 2 ≤
      (provider.vehicleState.linearVelocity * 1) ^ 2) := by
  intro lib provider
  have hyaw : ∀ q ∈ provider.vehicleState.pose.bind (·.orientation),
      q.qx = 0 ∧ q.qy = 0 ∧ q.qw ^ 2 + q.qz ^ 2 = 1 := by
    rintro q ⟨⟩
    norm_num
  exact ⟨rfl, rfl, hyaw, estimateFuturePosition_chord lib rfl rfl provider 1 hyaw⟩

theorem estimateFuturePosition_unicycle_specExample :
    let lib : Library ℝ := ⟨Real.cos, Real.sin, fun _ => false, fun _ _ _ _ => 0, fun _ _ _ _ => (0, 0, 0),
      fun _ => "", fun _ _ => false⟩
    let provider : VehicleStateProvider ℝ := ⟨{ VehicleState.default with
      linearVelocity := 2, angularVelocity := 1, pose := some { orientation := some ⟨0, 0, 0, 1⟩ } }, {}⟩
    lib.cos = Real.cos ∧ lib.sin = Real.sin ∧
    (provider.vehicleState.pose.bind (·.orientation)).getD ⟨1, 0, 0, 0⟩ =
      ⟨Real.cos (Real.pi / 2), 0, 0, Real.sin (Real.pi / 2)⟩ ∧
    let vs := provider.vehicleState
    let v := if vs.gear = .gearReverse then -vs.linearVelocity else vs.linearVelocity
    let ω := if |vs.angularVelocity| < 1 / 10000 then 0 else vs.angularVelocity
    let velocity := fun τ : ℝ =>
      (v * Real.cos (Real.pi + Real.pi / 2 + ω * τ), v * Real.sin (Real.pi + Real.pi / 2 + ω * τ))
    provider.estimateFuturePosition lib 0 = (vs.x, vs.y) ∧
      (∀ τ, HasDerivAt (provider.estimateFuturePosition lib) (velocity τ) τ) ∧
      ∀ p : ℝ → ℝ × ℝ, p 0 = (vs.x, vs.y) → (∀ τ, HasDerivAt p (velocity τ) τ) →
        p = provider.estimateFuturePosition lib := by
  intro lib provider
  have hψ : (provider.vehicleState.pose.bind (·.orientation)).getD ⟨1, 0, 0, 0⟩ =
      ⟨Real.cos (Real.pi / 2), 0, 0, Real.sin (Real.pi / 2)⟩ := by
    simp [provider, Real.cos_pi_div_two, Real.sin_pi_div_two]
  exact ⟨rfl, rfl, hψ, estimateFuturePosition_unicycle lib rfl rfl provider hψ⟩

end VehicleStateProvider

end ApolloPlanning
