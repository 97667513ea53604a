import Gatherlink.Scheduling.Congestion
import Gatherlink.Scheduling.Policies

/-! Compiling scheduler policy: every path under the selected policy, then the guards that drain
paths out of normal use. -/

namespace Gatherlink.Scheduling
open Config

def LATENCY_GUARD_MIN_MARGIN_US : Int := 10000
def LATENCY_GUARD_MARGIN_DIVISOR : Int := 2
def ARRIVAL_GUARD_DEFAULT_BUDGET_US : Nat := 150000
def ARRIVAL_GUARD_QUEUE_PACKET_US : Nat := 50
def ARRIVAL_GUARD_DRAIN_WEIGHT : Nat := 1
def ORDERED_RECEIVER_MIN_OBSERVED_PACKETS : Nat := 1000
def ORDERED_RECEIVER_GAP_DRAIN_PPM : Nat := 5000
def ORDERED_RECEIVER_REORDER_DEPTH_DRAIN_PACKETS : Nat := 4096
def ORDERED_RECEIVER_BUFFER_DRAIN_PACKETS : Nat := 4096
def ORDERED_RECEIVER_BUFFER_AGE_MULTIPLIER : Nat := 2
def ORDERED_RECEIVER_IN_FLIGHT_DRAIN_PACKETS : Nat := 8192
def ORDERED_RECEIVER_IN_FLIGHT_DRAIN_BYTES : Nat := 8 * 1024 * 1024
def ORDERED_RECEIVER_PREDICTED_DELIVERY_MULTIPLIER : Nat := 3
def ORDERED_RECEIVER_AGE_SCORE_UNIT_US : Nat := 1000

section Intent

def serviceIsProtected (service : ServiceConfig) : Bool :=
  service.priority ∈ [.high, .critical] || service.trafficClass ∈ [.tcpOrdered, .latencySensitive, .control]

def serviceIsBulk (service : ServiceConfig) : Bool :=
  service.priority = .bulk || service.trafficClass = .udpBulk

/-- The configured services by intent; no live counters are known at this point. -/
structure ServiceTrafficSummary where
  protectedServices : List String
  bulkServices : List String
  unknownServices : List String

namespace ServiceTrafficSummary

variable (summary : ServiceTrafficSummary)

def hasProtected : Bool := !summary.protectedServices.isEmpty
def hasBulk : Bool := !summary.bulkServices.isEmpty
def hasMixedKnownClasses : Bool := summary.hasProtected && summary.hasBulk
def isTcpLikeOnly : Bool := summary.hasProtected && !summary.hasBulk
def isUdpBulkOnly : Bool := summary.hasBulk && !summary.hasProtected

end ServiceTrafficSummary

def serviceTrafficSummary (services : List ServiceConfig) : ServiceTrafficSummary where
  protectedServices := (services.filter serviceIsProtected).map (·.name)
  bulkServices := (services.filter fun service => !serviceIsProtected service && serviceIsBulk service).map (·.name)
  unknownServices := (services.filter fun service => !serviceIsProtected service && !serviceIsBulk service).map (·.name)

def COORDINATED_ADAPTIVE_DEFAULT_POLICY : SchedulerPolicy := .capacityAware

/-- A concrete policy for the configured mode. -/
def compilableMode (config : GatherlinkConfig) : SchedulerPolicy :=
  match config.scheduler.mode with
  | .coordinatedAdaptive =>
      let serviceTraffic := serviceTrafficSummary config.services
      if config.scheduler.trafficBias = .tcp || serviceTraffic.isTcpLikeOnly then .singleBestPath
      else if config.scheduler.trafficBias = .udp || serviceTraffic.isUdpBulkOnly then .capacityAware
      else if serviceTraffic.hasMixedKnownClasses then .capacityAware
      else COORDINATED_ADAPTIVE_DEFAULT_POLICY
  | mode => mode

end Intent

/-- A path moved out of normal use, with the weight it keeps for probes. -/
def drain (path : RuntimePathSchedulerConfig) (weight : Nat) : RuntimePathSchedulerConfig :=
  { path with state := .drain, weight }

section Congestion

variable (policy : SchedulerCongestionPolicy) (telemetry : SchedulerTelemetrySnapshot)

/-- A configured pacing budget is an override; otherwise pressure on an active path sets one. -/
def pacePath (path : RuntimePathSchedulerConfig) (configuredPath : PathConfig)
    (controller : Option CongestionFairnessController) :
    RuntimePathSchedulerConfig × Option CongestionFairnessController :=
  if configuredPath.scheduler.pacingBudgetBps ≠ 0 ∨ path.state ≠ .active then (path, controller)
  else
    match telemetry.paths.get? configuredPath.name with
    | none => (path, controller)
    | some metrics =>
        let capacityBps := firstTruthy path.txCapacityBps configuredPath.scheduler.txCapacityBps
        let inferred := compileCongestionFairness metrics policy capacityBps
        let stable := controller.map (·.stabilize configuredPath.name inferred)
        let decision := (stable.map Prod.fst).getD inferred
        (if decision.pacingBudgetBps = 0 then path else { path with pacingBudgetBps := decision.pacingBudgetBps },
          stable.map Prod.snd)

def pacePaths : List (RuntimePathSchedulerConfig × PathConfig) → Option CongestionFairnessController →
    List RuntimePathSchedulerConfig × Option CongestionFairnessController
  | [], controller => ([], controller)
  | (path, configuredPath) :: rest, controller =>
      let (path, controller) := pacePath policy telemetry path configuredPath controller
      let (paths, controller) := pacePaths rest controller
      (path :: paths, controller)

end Congestion

variable (paths : List RuntimePathSchedulerConfig)

def applyCongestionFairness (config : GatherlinkConfig) (telemetry : SchedulerTelemetrySnapshot)
    (controller : Option CongestionFairnessController) :
    List RuntimePathSchedulerConfig × Option CongestionFairnessController :=
  if config.scheduler.congestionPolicy = .off then (paths, controller)
  else pacePaths config.scheduler.congestionPolicy telemetry (paths.zip config.paths) controller

section Health

def capacitySharePolicies : List SchedulerPolicy :=
  [.capacityAware, .latencyGuardedCapacity, .orderedMultipathCapacityAware, .arrivalGuardedCapacity]

def guardHealth (mode : SchedulerPolicy) (score : Option PathScore) (path : RuntimePathSchedulerConfig) :
    RuntimePathSchedulerConfig :=
  match score with
  | none => path
  | some score =>
      if score.health = .down ∧ path.state = .active then drain path 1
      else if score.health = .degraded ∧ path.state = .active ∧ mode ∉ capacitySharePolicies then
        { path with weight := max 1 (min path.weight score.weight) }
      else path

def applyHealthGuard (config : GatherlinkConfig) (telemetry : SchedulerTelemetrySnapshot) (mode : SchedulerPolicy) :
    List RuntimePathSchedulerConfig :=
  let scores := scoreSnapshot telemetry.paths
  (paths.zip config.paths).map fun entry => guardHealth mode (scores.get? entry.2.name) entry.1

end Health

section Limits

/-- The smallest known value, once there are two to compare. -/
def fastestKnown (known : List Int) : Option Int :=
  if known.length < 2 then none else known.min?

/-- Demote the active paths whose value is above what the fastest enabled path allows them. -/
def demoteSlower (value : RuntimePathSchedulerConfig → Option Int) (allowed : RuntimePathSchedulerConfig → Int → Int)
    (demote : RuntimePathSchedulerConfig → RuntimePathSchedulerConfig) (paths : List RuntimePathSchedulerConfig) :
    List RuntimePathSchedulerConfig :=
  match fastestKnown ((paths.filter (·.enabled)).filterMap value) with
  | none => paths
  | some fastest => paths.map fun path =>
      if (value path).any (allowed path fastest < ·) ∧ path.state = .active then demote path else path

def latencyLimitUs (fastestLatencyUs : Int) : Int :=
  fastestLatencyUs + max LATENCY_GUARD_MIN_MARGIN_US (fastestLatencyUs / LATENCY_GUARD_MARGIN_DIVISOR)

def applyLatencyGuard : List RuntimePathSchedulerConfig :=
  demoteSlower (·.latencyUs) (fun _ => latencyLimitUs) (fun path => { path with state := .drain }) paths

/-- The estimated arrival time of the next full packet, or `none` without a known latency. -/
def arrivalPredictionUs (path : RuntimePathSchedulerConfig) : Option Int :=
  path.latencyUs.map fun latencyUs =>
    let capacityBps := path.txCapacityBps.getD 0
    let transmitUs := if capacityBps ≤ 0 then 0 else path.mtu * 8 * 1000000 / capacityBps
    let queuedTransmitUs := if capacityBps ≤ 0 then 0 else path.queueDepthBytes * 8 * 1000000 / capacityBps
    let queueUs := path.queueOldestAgeUs + queuedTransmitUs + path.queueDepthPackets * ARRIVAL_GUARD_QUEUE_PACKET_US
    latencyUs + transmitUs + queueUs

/-- The configured reorder hold, or the default budget when there is none. -/
def reorderBudgetUs (path : RuntimePathSchedulerConfig) : Nat :=
  if path.reorderHoldUs = 0 then ARRIVAL_GUARD_DEFAULT_BUDGET_US else path.reorderHoldUs

def applyArrivalGuard : List RuntimePathSchedulerConfig :=
  demoteSlower arrivalPredictionUs (fun path fastestArrivalUs => fastestArrivalUs + reorderBudgetUs path)
    (drain · ARRIVAL_GUARD_DRAIN_WEIGHT) paths

end Limits

section OneKept

/-- What a path is ranked by, and its position: triples in lexicographic order. -/
def Rank : Type := Int ×ₗ Int ×ₗ Nat

instance : LinearOrder Rank :=
  @Prod.Lex.instLinearOrder Int (Int ×ₗ Nat) Int.instLinearOrder
    (@Prod.Lex.instLinearOrder Int Nat Int.instLinearOrder Nat.instLinearOrder)

def rank (first second : Int) (index : Nat) : Rank := toLex (first, toLex (second, index))

def activePaths : List (RuntimePathSchedulerConfig × Nat) :=
  paths.zipIdx.filter fun entry => entry.1.enabled && entry.1.state = .active

def drainAt (chosen : RuntimePathSchedulerConfig → Nat → Bool) :
    List RuntimePathSchedulerConfig :=
  paths.zipIdx.map fun entry => if chosen entry.1 entry.2 then drain entry.1 1 else entry.1

def applyOrderedArrivalGuard : List RuntimePathSchedulerConfig :=
  let eligible := (activePaths paths).filterMap fun entry =>
    (arrivalPredictionUs entry.1).map fun prediction => (entry.2, entry.1, prediction)
  if eligible.length < 2 then paths
  else
    match eligible.argmin fun item => rank item.2.2 item.2.1.lossPpm item.1 with
    | none => paths
    | some (fastestIndex, fastestPath, fastestArrivalUs) =>
        drainAt paths fun path index =>
          index ≠ fastestIndex && path.state = .active &&
            (arrivalPredictionUs path).any (fastestArrivalUs + reorderBudgetUs fastestPath < ·)

def orderedReceiverPressureIsSevere (path : RuntimePathSchedulerConfig) (metrics : PathSchedulerMetrics) : Bool :=
  (metrics.observedPackets ≥ ORDERED_RECEIVER_MIN_OBSERVED_PACKETS &&
      metrics.receiveGaps * 1000000 / metrics.observedPackets ≥ ORDERED_RECEIVER_GAP_DRAIN_PPM) ||
    metrics.reorderDepthPackets ≥ ORDERED_RECEIVER_REORDER_DEPTH_DRAIN_PACKETS ||
    metrics.reorderBufferPackets ≥ ORDERED_RECEIVER_BUFFER_DRAIN_PACKETS ||
    metrics.schedulerInFlightPackets ≥ ORDERED_RECEIVER_IN_FLIGHT_DRAIN_PACKETS ||
    metrics.schedulerInFlightBytes ≥ ORDERED_RECEIVER_IN_FLIGHT_DRAIN_BYTES ||
    metrics.schedulerPredictedDeliveryUs > reorderBudgetUs path * ORDERED_RECEIVER_PREDICTED_DELIVERY_MULTIPLIER ||
    metrics.reorderBufferOldestAgeUs > reorderBudgetUs path * ORDERED_RECEIVER_BUFFER_AGE_MULTIPLIER

def orderedReceiverPressureScore (metrics : PathSchedulerMetrics) : Nat :=
  metrics.receiveGaps * 1000000 / metrics.observedPackets + metrics.reorderDepthPackets +
    metrics.reorderBufferPackets + metrics.schedulerInFlightPackets + metrics.schedulerInFlightBytes / 1024 +
    metrics.schedulerPredictedDeliveryUs / ORDERED_RECEIVER_AGE_SCORE_UNIT_US +
    metrics.reorderBufferOldestAgeUs / ORDERED_RECEIVER_AGE_SCORE_UNIT_US

def applyOrderedReceiverFeedbackGuard (config : GatherlinkConfig) (telemetry : SchedulerTelemetrySnapshot) :
    List RuntimePathSchedulerConfig :=
  let active := activePaths paths
  if active.length < 2 then paths
  else
    let metricsAt := fun index => (config.paths[index]?).bind fun configuredPath =>
      telemetry.paths.get? configuredPath.name
    let severe := active.filter fun entry =>
      (metricsAt entry.2).any (orderedReceiverPressureIsSevere entry.1)
    if severe.isEmpty then paths
    else
      -- When every active path is under pressure the least bad one stays.
      let kept :=
        if severe = active then
          active.argmin fun entry => rank (((metricsAt entry.2).map orderedReceiverPressureScore).getD 0) 0 entry.2
        else none
      drainAt paths fun _ index => index ∈ severe.map Prod.snd && kept.map Prod.snd ≠ some index

def applySingleBestPath : List RuntimePathSchedulerConfig :=
  let eligible := activePaths paths
  if eligible.length < 2 then paths
  else
    match eligible.argmin fun entry => rank (-(entry.1.txCapacityBps.getD 0)) entry.1.lossPpm entry.2 with
    | none => paths
    | some best => drainAt paths fun path index => index ≠ best.2 && path.state = .active

end OneKept

section Compile

variable (config : GatherlinkConfig) (telemetry : Option SchedulerTelemetrySnapshot)
  (effectiveMode : Option SchedulerPolicy)

def selectedMode : SchedulerPolicy := effectiveMode.getD (compilableMode config)

def compilePathScheduler (path : PathConfig) (index : Nat) : Option RuntimePathSchedulerConfig :=
  compilePathPolicy path index (selectedMode config effectiveMode) telemetry

/-- The paths before any guard. -/
def compilePaths : Option (List RuntimePathSchedulerConfig) :=
  config.paths.zipIdx.mapM fun entry => compilePathScheduler config telemetry effectiveMode entry.1 entry.2

/-- Congestion fairness and the health guard, when there is telemetry. -/
def applyTelemetryGuards (mode : SchedulerPolicy) (controller : Option CongestionFairnessController)
    (paths : List RuntimePathSchedulerConfig) :
    List RuntimePathSchedulerConfig × Option CongestionFairnessController :=
  match telemetry with
  | none => (paths, controller)
  | some snapshot =>
      let (paths, controller) := applyCongestionFairness paths config snapshot controller
      (applyHealthGuard paths config snapshot mode, controller)

/-- The guards that belong to the selected mode. -/
def applyModeGuards (mode : SchedulerPolicy) (paths : List RuntimePathSchedulerConfig) :
    List RuntimePathSchedulerConfig :=
  let paths := if mode = .latencyGuardedCapacity then applyLatencyGuard paths else paths
  let paths := if mode = .arrivalGuardedCapacity then applyArrivalGuard paths else paths
  let paths := if mode = .orderedMultipathCapacityAware then applyOrderedArrivalGuard paths else paths
  let paths := telemetry.elim paths fun snapshot =>
    if mode = .orderedMultipath ∨ mode = .orderedMultipathCapacityAware then
      applyOrderedReceiverFeedbackGuard paths config snapshot
    else paths
  if mode = .singleBestPath then applySingleBestPath paths else paths

def compileScheduler (controller : Option CongestionFairnessController) :
    Option (RuntimeSchedulerConfig × Option CongestionFairnessController) := do
  let mode := selectedMode config effectiveMode
  let paths ← compilePaths config telemetry effectiveMode
  let (paths, controller) := applyTelemetryGuards config telemetry mode controller paths
  let paths := applyModeGuards config telemetry mode paths
  let rustMode ← rustModeForPolicy mode
  pure ({ mode := rustMode, paths }, controller)

end Compile

end Gatherlink.Scheduling
