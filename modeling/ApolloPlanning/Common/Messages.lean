import Mathlib

namespace ApolloPlanning

-- The messages the planning tick and `VehicleStateProvider` read and write, with the fields the
-- modelled code touches. An optional scalar field that is unset is `none`; an unset message field
-- reads as its default instance, which the readers below write out.

structure Header (α : Type) where
  timestampSec : Option α := none
  deriving DecidableEq, Repr

structure Point3D (α : Type) where
  x : α
  y : α
  z : α
  deriving DecidableEq, Repr

-- `common::Quaternion`.
structure PoseOrientation (α : Type) where
  qw : α
  qx : α
  qy : α
  qz : α
  deriving DecidableEq, Repr

-- `localization::Pose`.
structure Pose (α : Type) where
  position : Option (Point3D α) := none
  orientation : Option (PoseOrientation α) := none
  heading : Option α := none
  angularVelocityVrf : Option (Point3D α) := none
  linearAccelerationVrf : Option (Point3D α) := none
  angularVelocity : Option (Point3D α) := none
  linearAcceleration : Option (Point3D α) := none
  eulerAngles : Option (Point3D α) := none
  deriving DecidableEq, Repr

structure LocalizationEstimate (α : Type) where
  header : Option (Header α) := none
  pose : Option (Pose α) := none
  deriving DecidableEq, Repr

-- `canbus::Chassis::GearPosition`, in the order of its values.
inductive GearPosition
  | gearNeutral | gearDrive | gearReverse | gearParking | gearLow | gearInvalid | gearNone
  deriving DecidableEq, Repr

-- `canbus::Chassis::DrivingMode`, in the order of its values.
inductive DrivingMode
  | completeManual | completeAutoDrive | autoSteerOnly | autoSpeedOnly | emergencyMode
  deriving DecidableEq, Repr

structure Chassis (α : Type) where
  header : Option (Header α) := none
  speedMps : Option α := none
  gearLocation : Option GearPosition := none
  drivingMode : Option DrivingMode := none
  deriving DecidableEq, Repr

-- `common::VehicleState`; every field reads as its default until it is set.
structure VehicleState (α : Type) where
  x : α
  y : α
  z : α
  timestamp : α
  roll : α
  pitch : α
  yaw : α
  heading : α
  kappa : α
  linearVelocity : α
  angularVelocity : α
  linearAcceleration : α
  gear : GearPosition
  drivingMode : DrivingMode
  pose : Option (Pose α)
  deriving DecidableEq, Repr

def VehicleState.default {α : Type} [Zero α] : VehicleState α :=
  ⟨0, 0, 0, 0, 0, 0, 0, 0, 0, 0, 0, 0, .gearNeutral, .completeManual, none⟩

inductive ErrorCode
  | ok | localizationError | planningError
  -- any other code a collaborator returns
  | other (code : Nat)
  deriving DecidableEq, Repr

-- `common::Status`.
structure Status where
  code : ErrorCode
  errorMessage : String
  deriving DecidableEq, Repr

namespace Status

def okStatus : Status := ⟨.ok, ""⟩

def ok (status : Status) : Bool := status.code = .ok

def errorCodeName : ErrorCode → String
  | .ok => "OK"
  | .localizationError => "LOCALIZATION_ERROR"
  | .planningError => "PLANNING_ERROR"
  | .other _ => "ERROR"

/-- Modelled on `common::Status::ToString` (in `common/status`, not among the sources): `"OK"`, or
the code's name, a comma and the message. -/
def toString (status : Status) : String :=
  if status.ok then "OK" else errorCodeName status.code ++ ", " ++ status.errorMessage

theorem toString_ne_empty (status : Status) : status.toString ≠ "" := by
  unfold toString
  split
  · decide
  · intro h
    have h' := congrArg String.length h
    simp only [String.length_append] at h'
    have : ", ".length = 2 := rfl
    have : "".length = 0 := rfl
    omega

end Status

-- The gflags the modelled code reads.
structure Flags (α : Type) where
  useNavigationMode : Bool
  enableMapReferenceUnify : Bool
  publishEstop : Bool
  usePlanningFallback : Bool
  estimateCurrentVehicleState : Bool
  planningTestMode : Bool
  navigationFallbackCruiseTime : α

-- `routing::RoutingResponse`; the modelled code reads only whether it has a header and copies the
-- header into the trajectory it publishes.
structure RoutingResponse (α : Type) where
  header : Option (Header α) := none
  deriving DecidableEq, Repr

-- The library functions the modelled code calls that are not among the sources: `<cmath>`,
-- `common::math`, protobuf's `DebugString` and `hdmap::PncMap::IsNewRouting`. `eulerAnglesZXY`
-- gives `(roll, pitch, yaw)`.
structure Library (α : Type) where
  cos : α → α
  sin : α → α
  isnan : α → Bool
  quaternionToHeading : α → α → α → α → α
  eulerAnglesZXY : α → α → α → α → α × α × α
  debugString : LocalizationEstimate α → String
  isNewRouting : RoutingResponse α → RoutingResponse α → Bool

end ApolloPlanning
