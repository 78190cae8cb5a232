import ApolloPlanning.Common.Messages

namespace ApolloPlanning.Planning

-- The adapters `Init` checks with `CHECK_ADAPTER` and `CHECK_ADAPTER_IF`.
inductive Adapter
  | localization | chassis | routingResponse | routingRequest | relativeMap | perceptionObstacles
  | prediction | trafficLightDetection
  deriving DecidableEq, Repr

namespace Adapter

-- `#NAME`, the text the macro puts in its message.
def name : Adapter → String
  | localization => "Localization"
  | chassis => "Chassis"
  | routingResponse => "RoutingResponse"
  | routingRequest => "RoutingRequest"
  | relativeMap => "RelativeMap"
  | perceptionObstacles => "PerceptionObstacles"
  | prediction => "Prediction"
  | trafficLightDetection => "TrafficLightDetection"

-- The condition of `CHECK_ADAPTER_IF`; the other adapters are checked whatever the flags.
def checked (useNavigationMode enablePrediction : Bool) : Adapter → Bool
  | relativeMap => useNavigationMode
  | perceptionObstacles => useNavigationMode && enablePrediction
  | prediction => enablePrediction
  | _ => true

end Adapter

-- The order of the checks in `Init`.
def initAdapters : List Adapter :=
  [.localization, .chassis, .routingResponse, .routingRequest, .relativeMap, .perceptionObstacles,
    .prediction, .trafficLightDetection]

-- The `CHECK_ADAPTER` lines from `adapters` on: the first adapter that is checked and not
-- registered returns `PLANNING_ERROR` with `"<NAME> is not registered"`.
def checkAdapters (checked registered : Adapter → Bool) : List Adapter → Option Status
  | [] => none
  | a :: adapters =>
    if checked a && !registered a then some ⟨.planningError, a.name ++ " is not registered"⟩
    else checkAdapters checked registered adapters

-- `dp_st_speed_config` of the planning configuration's `em_planner_config`: its two matrix
-- dimensions, `none` when unset.
structure DpStSpeedConfig where
  matrixDimensionS : Option Int
  matrixDimensionT : Option Int
  deriving DecidableEq, Repr

-- `CheckPlanningConfig`; `false` is the abort of one of its `CHECK`s.
def checkPlanningConfig : Option DpStSpeedConfig → Bool
  | none => true
  | some config =>
    match config.matrixDimensionS, config.matrixDimensionT with
    | some s, some t => decide (3 < s ∧ s < 10000 ∧ 3 < t ∧ t < 10000)
    | _, _ => false

-- What `Init` reads that the modelled code does not compute: whether the two configuration files
-- load, the `dp_st_speed_config` of the one it loads (when present), `FLAGS_enable_prediction`,
-- which adapters are registered, whether the map loads, whether the planner factory creates a
-- planner for the configured type, the configuration's `DebugString()`, and the planner's `Init`.
structure InitInput where
  configLoaded : Bool
  trafficRuleConfigLoaded : Bool
  dpStSpeedConfig : Option DpStSpeedConfig
  enablePrediction : Bool
  registered : Adapter → Bool
  mapLoaded : Bool
  plannerCreated : Bool
  configDebugString : String
  plannerInit : Status

-- The checks of `Init` after the adapters: the map outside navigation mode, then the planner.
def initPlanner {α : Type} (flags : Flags α) (input : InitInput) : Option Status :=
  if !flags.useNavigationMode && !input.mapLoaded then none
  else if !input.plannerCreated then
    some ⟨.planningError, "planning is not initialized with config : " ++ input.configDebugString⟩
  else some input.plannerInit

-- `Init`, named apart from `Planning.init`, the state before the first tick; `none` is the abort of
-- a failed `CHECK`.
def initApp {α : Type} (flags : Flags α) (input : InitInput) : Option Status :=
  if !input.configLoaded || !checkPlanningConfig input.dpStSpeedConfig || !input.trafficRuleConfigLoaded then
    none
  else
    match checkAdapters (Adapter.checked flags.useNavigationMode input.enablePrediction) input.registered
        initAdapters with
    | some status => some status
    | none => initPlanner flags input

section Adapters

variable {checked registered : Adapter → Bool}

theorem checkAdapters_append (pre adapters : List Adapter)
    (hpre : ∀ b ∈ pre, checked b = true → registered b = true) :
    checkAdapters checked registered (pre ++ adapters) = checkAdapters checked registered adapters := by
  induction pre with
  | nil => rfl
  | cons b pre ih =>
    have hb : (checked b && !registered b) = false := by
      cases hc : checked b
      · rfl
      · simp [hpre b (List.mem_cons_self _ _) hc]
    rw [List.cons_append, checkAdapters, hb, if_neg Bool.false_ne_true]
    exact ih fun b' hb' => hpre b' (List.mem_cons_of_mem _ hb')

theorem checkAdapters_eq_none (adapters : List Adapter)
    (h : ∀ a ∈ adapters, checked a = true → registered a = true) :
    checkAdapters checked registered adapters = none := by
  simpa using checkAdapters_append adapters [] h

end Adapters

variable {α : Type} (flags : Flags α) {input : InitInput}

theorem initApp_adapters (hconfig : input.configLoaded = true ∧ checkPlanningConfig input.dpStSpeedConfig = true ∧
      input.trafficRuleConfigLoaded = true) :
    (∀ pre a post, initAdapters = pre ++ a :: post →
      (∀ b ∈ pre, Adapter.checked flags.useNavigationMode input.enablePrediction b = true →
        input.registered b = true) →
      Adapter.checked flags.useNavigationMode input.enablePrediction a = true → input.registered a = false →
      initApp flags input = some ⟨.planningError, a.name ++ " is not registered"⟩) ∧
    ((∀ a, Adapter.checked flags.useNavigationMode input.enablePrediction a = true → input.registered a = true) →
      initApp flags input = initPlanner flags input) := by
  obtain ⟨h₁, h₂, h₃⟩ := hconfig
  have hcfg : (!input.configLoaded || !checkPlanningConfig input.dpStSpeedConfig ||
      !input.trafficRuleConfigLoaded) = false := by
    simp [h₁, h₂, h₃]
  constructor
  · intro pre a post hsplit hpre ha hr
    rw [initApp, hcfg, if_neg Bool.false_ne_true, hsplit, checkAdapters_append pre _ hpre, checkAdapters, ha, hr]
    rfl
  · intro hall
    rw [initApp, hcfg, if_neg Bool.false_ne_true, checkAdapters_eq_none _ fun a _ => hall a]

end ApolloPlanning.Planning
