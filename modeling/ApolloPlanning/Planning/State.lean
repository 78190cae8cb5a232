import ApolloPlanning.VehicleState.Provider

namespace ApolloPlanning

-- `common::PathPoint`, with the fields the tick reads or writes.
structure PathPoint (α : Type) where
  x : α
  y : α
  theta : α
  s : α
  deriving DecidableEq, Repr

-- `common::TrajectoryPoint`.
structure TrajectoryPoint (α : Type) where
  pathPoint : PathPoint α
  v : α
  a : α
  relativeTime : α
  deriving DecidableEq, Repr

-- `PublishableTrajectory`: a header time and the points.
structure PublishableTrajectory (α : Type) where
  headerTime : α
  points : List (TrajectoryPoint α)
  deriving DecidableEq, Repr

structure EStop where
  isEstop : Bool
  reason : Option String
  deriving DecidableEq, Repr

-- `ADCTrajectory`, the message a tick publishes. `notReadyReason` is
-- `decision.main_decision.not_ready.reason`; `headerStatus` is what `Status::Save` writes.
structure ADCTrajectory (α : Type) where
  headerTimestamp : Option α := none
  headerStatus : Option Status := none
  gear : Option GearPosition := none
  routingHeader : Option (Header α) := none
  trajectoryPoint : List (TrajectoryPoint α) := []
  notReadyReason : Option String := none
  estop : Option EStop := none
  isReplan : Option Bool := none
  deriving DecidableEq, Repr

-- `Planning::VehicleConfig`.
structure VehicleConfig (α : Type) where
  x : α
  y : α
  theta : α
  isValid : Bool
  deriving DecidableEq, Repr

def VehicleConfig.invalid {α : Type} [Zero α] : VehicleConfig α := ⟨0, 0, 0, false⟩

-- `planning_status.planning_state.pull_over`; `Clear` resets it to the default.
structure PullOverStatus where
  inPullOver : Bool := false
  deriving DecidableEq, Repr

-- The state a tick reads and writes: the members of `Planning`, the pull-over status of
-- `util::GetPlanningStatus()` and the `VehicleStateProvider` singleton.
structure Planning (α : Type) where
  lastPublishableTrajectory : Option (PublishableTrajectory α)
  lastVehicleConfig : VehicleConfig α
  lastRouting : RoutingResponse α
  pullOver : PullOverStatus
  provider : VehicleStateProvider α

def Planning.init {α : Type} [Zero α] : Planning α :=
  ⟨none, .invalid, {}, {}, ⟨.default, {}⟩⟩

-- What `TrajectoryStitcher::ComputeStitchingTrajectory` returns: the prefix, which always holds
-- the planning start point, and the replan flag.
structure Stitching (α : Type) where
  points : List (TrajectoryPoint α)
  points_ne_nil : points ≠ []
  isReplan : Bool

-- What the tick reads of `frame_->FindDriveReferenceLineInfo()`: its trajectory and the not-ready
-- reason its `ExportDecision` leaves in the decision.
structure ReferenceLineResult (α : Type) where
  trajectory : List (TrajectoryPoint α)
  notReadyReason : Option String

-- Everything a tick reads that the modelled code does not compute: the adapters' latest messages
-- (`none` when an adapter is empty), the clock, and the results of the collaborators.
structure TickInput (α : Type) where
  localization : Option (LocalizationEstimate α)
  chassis : Option (Chassis α)
  routing : Option (RoutingResponse α)
  mapReady : Bool
  planning : Option (ADCTrajectory α)
  startTimestamp : α
  publishTimestamp : α
  routingUpdated : Bool
  stitching : Stitching α
  frameStatus : Status
  plannerStatus : Status
  bestReferenceLine : Option (ReferenceLineResult α)

namespace PublishableTrajectory

variable {α : Type}

/-- Modelled from the spec: `PublishableTrajectory::Clear` (in `planning/common/trajectory`, not
among the sources) empties the points. -/
def clear (traj : PublishableTrajectory α) : PublishableTrajectory α := { traj with points := [] }

/-- Modelled from the spec: `PopulateTrajectoryProtobuf` copies the header time and the points
into the message. -/
def populateTrajectoryProtobuf (traj : PublishableTrajectory α) (pb : ADCTrajectory α) :
    ADCTrajectory α :=
  { pb with headerTimestamp := some traj.headerTime, trajectoryPoint := traj.points }

end PublishableTrajectory

end ApolloPlanning
