import Gatherlink.Scheduling.Scoring

/-! The scheduler policies: how each one compiles a configured path and its telemetry into the
numbers the dataplane executes. -/

namespace Gatherlink.Scheduling
open Config

def ORDERED_REORDER_HOLD_MIN_US : Int := 2000
def ORDERED_REORDER_HOLD_MAX_US : Int := 150000
def ORDERED_REORDER_HOLD_MARGIN_NUMERATOR : Int := 5
def ORDERED_REORDER_HOLD_MARGIN_DENOMINATOR : Int := 4
def ORDERED_REORDER_HOLD_JITTER_MULTIPLIER : Nat := 2
def ORDERED_IN_FLIGHT_BDP_MULTIPLIER : Int := 2
def ORDERED_MIN_IN_FLIGHT_PACKETS : Nat := 4
def ORDERED_MAX_IN_FLIGHT_PACKETS : Nat := 8192
def ORDERED_MIN_IN_FLIGHT_BYTES : Nat := 16 * 1024
def ORDERED_MAX_IN_FLIGHT_BYTES : Nat := 16 * 1024 * 1024
def ORDERED_CAPACITY_AWARE_REORDER_HOLD_MIN_US : Nat := 25000
def ORDERED_CAPACITY_AWARE_LARGE_MTU_BYTES : Nat := 4096
def ORDERED_MAX_PRESSURE_CREDIT_DIVISOR : Nat := 16
def ORDERED_REORDER_PRESSURE_PACKET_STEP : Nat := 1024
def ORDERED_REORDER_BUFFER_AGE_STEP_US : Nat := 25000
def ORDERED_QUEUE_PRESSURE_PACKET_STEP : Nat := 128
def ORDERED_IN_FLIGHT_PRESSURE_PACKET_STEP : Nat := 512
def ORDERED_IN_FLIGHT_PRESSURE_BYTE_STEP : Nat := 512 * 1024
def ORDERED_PREDICTED_DELIVERY_STEP_US : Nat := 25000
def ORDERED_LOSS_PRESSURE_PPM_STEP : Nat := 10000
def ORDERED_DROP_PRESSURE_PACKET_STEP : Nat := 4096
def ORDERED_SEND_FAILURE_PACKET_STEP : Nat := 16
def ORDERED_JITTER_PRESSURE_STEP_US : Nat := 10000
def ORDERED_REORDER_RATIO_PRESSURE_STEP_PPM : Nat := 10000
def ORDERED_DROP_RATIO_PRESSURE_STEP_PPM : Nat := 5000
def REAL_DATA_LATENCY_ORDERED_CREDIT_MULTIPLIER : Int := 2
def SCHEDULER_LATENCY_MAX_US : Int := 10000000

/-- The first value, or the other one when it is missing or zero. -/
def firstTruthy (value other : Option Int) : Option Int :=
  if value.getD 0 = 0 then other else value

/-- A latency outside the range the dataplane takes counts as unknown. -/
def boundedSchedulerLatencyUs (value : Option Int) : Option Int :=
  value.filter fun latencyUs => 0 ≤ latencyUs && latencyUs ≤ SCHEDULER_LATENCY_MAX_US

section Ordered

variable (metrics : Option PathSchedulerMetrics)

def pathJitterUs : Option Nat :=
  match metrics with
  | none => none
  | some metrics => ([metrics.txJitterUs, metrics.rxJitterUs].filterMap id).max?

def orderedLatencyMayUseGeneric : Bool :=
  match metrics with
  | none => true
  | some metrics => metrics.hasTrustedRealDataLatency || metrics.latencySource != some "clock-synced-one-way" ||
      decide (0 < metrics.observedPackets)

/-- The largest latency known in either direction. -/
def orderedLatencyUs : Option Int :=
  match metrics with
  | none => none
  | some known =>
      if !orderedLatencyMayUseGeneric metrics then none
      else ([known.txLatencyMeanUs, known.txLatencyCurrentUs, known.txP95Us.map Int.ofNat, known.rxLatencyMeanUs,
        known.rxLatencyCurrentUs, known.rxP95Us.map Int.ofNat].filterMap id).max?

def orderedReorderHoldUs (latencyUs : Option Int) (configuredReorderHoldUs : Nat) (jitterUs : Option Nat) : Nat :=
  if configuredReorderHoldUs ≠ 0 then configuredReorderHoldUs
  else
    let latencyBudgetUs : Int :=
      match latencyUs with
      | none => ORDERED_REORDER_HOLD_MIN_US
      | some latencyUs => latencyUs * ORDERED_REORDER_HOLD_MARGIN_NUMERATOR / ORDERED_REORDER_HOLD_MARGIN_DENOMINATOR
    let jitterBudgetUs := jitterUs.getD 0 * ORDERED_REORDER_HOLD_JITTER_MULTIPLIER
    (max ORDERED_REORDER_HOLD_MIN_US (min ORDERED_REORDER_HOLD_MAX_US (latencyBudgetUs + jitterBudgetUs))).toNat

def orderedPressureCreditDivisor : Nat :=
  match metrics with
  | none => 1
  | some known =>
      let pressure := [min 6 (known.localDrops / ORDERED_DROP_PRESSURE_PACKET_STEP),
        min 4 (known.sendFailures / ORDERED_SEND_FAILURE_PACKET_STEP),
        min 4 (known.receiveGaps / ORDERED_REORDER_PRESSURE_PACKET_STEP),
        min 4 (known.reorderDepthPackets / ORDERED_REORDER_PRESSURE_PACKET_STEP),
        min 4 (known.reorderBufferPackets / ORDERED_REORDER_PRESSURE_PACKET_STEP),
        min 4 (known.reorderBufferOldestAgeUs / ORDERED_REORDER_BUFFER_AGE_STEP_US),
        min 4 (known.queueDepthPackets / ORDERED_QUEUE_PRESSURE_PACKET_STEP),
        min 4 (known.schedulerInFlightPackets / ORDERED_IN_FLIGHT_PRESSURE_PACKET_STEP),
        min 4 (known.schedulerInFlightBytes / ORDERED_IN_FLIGHT_PRESSURE_BYTE_STEP),
        min 4 (known.schedulerPredictedDeliveryUs / ORDERED_PREDICTED_DELIVERY_STEP_US),
        min 4 (known.lossPpm / ORDERED_LOSS_PRESSURE_PPM_STEP)]
      -- No packet observed yet gives no ratio: the quotient by zero is zero.
      let receiveGapPpm := known.receiveGaps * 1000000 / known.observedPackets
      let localDropPpm := known.localDrops * 1000000 / known.observedPackets
      let ratios := [min 6 (receiveGapPpm / ORDERED_REORDER_RATIO_PRESSURE_STEP_PPM),
        min 6 (localDropPpm / ORDERED_DROP_RATIO_PRESSURE_STEP_PPM)]
      let jitter := min 4 ((pathJitterUs metrics).getD 0 / ORDERED_JITTER_PRESSURE_STEP_US)
      max 1 (min ORDERED_MAX_PRESSURE_CREDIT_DIVISOR (1 + (pressure.sum + ratios.sum + jitter)))

def orderedCreditCapacityBps (txCapacityBps rxCapacityBps : Option Int) : Option Int :=
  (([txCapacityBps, rxCapacityBps].filterMap id).filter (0 < ·)).min?

def trustedRealDataLatency : Bool := metrics.any (·.hasTrustedRealDataLatency)

end Ordered

structure CompiledPathContext where
  path : PathConfig
  index : Nat
  metrics : Option PathSchedulerMetrics

namespace CompiledPathContext

variable (context : CompiledPathContext)

/-- The path state after the enabled flag has been applied. -/
def state : PathSchedulerState :=
  if !context.path.scheduler.enabled then .disabled else context.path.scheduler.state

def txCapacityBps : Option Int :=
  context.metrics.bind (·.txCapacityBps) <|> context.path.scheduler.txCapacityBps

def rxCapacityBps : Option Int :=
  context.metrics.bind (·.rxCapacityBps) <|> context.path.scheduler.rxCapacityBps

def latencyUs : Option Int :=
  boundedSchedulerLatencyUs (context.metrics.bind (·.schedulerLatencyUs) <|> context.path.scheduler.latencyUs)

def lossPpm : Nat := (context.metrics.map (·.lossPpm)).getD context.path.scheduler.lossPpm

def queueDepthPackets : Nat := (context.metrics.map (·.queueDepthPackets)).getD 0

def queueDepthBytes : Nat := (context.metrics.map (·.queueDepthBytes)).getD 0

def queueOldestAgeUs : Nat := (context.metrics.map (·.queueOldestAgeUs)).getD 0

theorem lossPpm_le : context.lossPpm ≤ 1000000 := by
  unfold lossPpm
  cases context.metrics with
  | none => exact context.path.scheduler.loss_valid
  | some metrics => exact metrics.loss_valid

end CompiledPathContext

/-- The methods a policy may override, with the packet credit inside its 16-bit range. -/
structure SchedulerPolicyBase where
  rustMode : SchedulerMode
  weight : CompiledPathContext → Nat
  latencyUs : CompiledPathContext → Option Int
  reorderHoldUs : CompiledPathContext → Nat
  maxInFlightPackets : CompiledPathContext → Nat
  maxInFlightBytes : CompiledPathContext → Nat
  pacingBudgetBps : CompiledPathContext → Nat
  inFlight_valid : ∀ context, maxInFlightPackets context ≤ 65535

def SchedulerPolicyBase.compilePath (policy : SchedulerPolicyBase) (context : CompiledPathContext) :
    RuntimePathSchedulerConfig where
  pathId := context.index
  enabled := context.path.scheduler.enabled && context.state ≠ .disabled
  state := context.state
  weight := policy.weight context
  mtu := context.path.scheduler.mtu
  txCapacityBps := context.txCapacityBps
  rxCapacityBps := context.rxCapacityBps
  latencyUs := policy.latencyUs context
  lossPpm := context.lossPpm
  reorderHoldUs := policy.reorderHoldUs context
  maxInFlightPackets := policy.maxInFlightPackets context
  maxInFlightBytes := policy.maxInFlightBytes context
  pacingBudgetBps := policy.pacingBudgetBps context
  queueDepthPackets := context.queueDepthPackets
  queueDepthBytes := context.queueDepthBytes
  queueOldestAgeUs := context.queueOldestAgeUs
  loss_valid := context.lossPpm_le
  inFlight_valid := policy.inFlight_valid context

section Plain

/-- The configured numbers, executed in the given mode. -/
def configuredPolicy (rustMode : SchedulerMode) : SchedulerPolicyBase where
  rustMode := rustMode
  weight context := context.path.scheduler.weight
  latencyUs context := context.latencyUs
  reorderHoldUs context := context.path.scheduler.reorderHoldUs
  maxInFlightPackets context := context.path.scheduler.maxInFlightPackets
  maxInFlightBytes context := context.path.scheduler.maxInFlightBytes
  pacingBudgetBps context := context.path.scheduler.pacingBudgetBps
  inFlight_valid context := context.path.scheduler.inFlight_valid

def roundRobinPolicy : SchedulerPolicyBase := configuredPolicy .roundRobin
def weightedRoundRobinPolicy : SchedulerPolicyBase := configuredPolicy .weightedRoundRobin
def srttPolicy : SchedulerPolicyBase := configuredPolicy .lowestLatency
def lossAwarePolicy : SchedulerPolicyBase := configuredPolicy .lossAware
def leastQueuePolicy : SchedulerPolicyBase := configuredPolicy .leastQueue
def earliestCompletionFirstPolicy : SchedulerPolicyBase := configuredPolicy .earliestCompletionFirst
def blockingEstimationPolicy : SchedulerPolicyBase := configuredPolicy .blockingEstimation

def capacityAwareWeight (context : CompiledPathContext) : Nat := capacityWeight context.txCapacityBps

def capacityAwarePolicy : SchedulerPolicyBase :=
  { configuredPolicy .weightedRoundRobin with weight := capacityAwareWeight }

def singleBestPathPolicy : SchedulerPolicyBase := capacityAwarePolicy
def arrivalGuardedCapacityPolicy : SchedulerPolicyBase := capacityAwarePolicy
def latencyGuardedCapacityPolicy : SchedulerPolicyBase := capacityAwarePolicy

/-- The weight scored from every fact known about the path. -/
def hybridWeight (context : CompiledPathContext) : Nat :=
  adaptiveWeight context.txCapacityBps context.latencyUs context.lossPpm context.queueDepthPackets
    context.queueDepthBytes (pathJitterUs context.metrics)

def flowletAdaptivePolicy : SchedulerPolicyBase :=
  { configuredPolicy .adaptive with weight := hybridWeight }

def balancedPolicy : SchedulerPolicyBase :=
  { configuredPolicy .balanced with weight := hybridWeight }

def adaptivePolicy : SchedulerPolicyBase := { balancedPolicy with rustMode := .adaptive }

end Plain

namespace OrderedMultipath

variable (context : CompiledPathContext)

def latencyUs : Option Int :=
  let configuredLatencyUs := boundedSchedulerLatencyUs (orderedLatencyUs context.metrics) <|>
    boundedSchedulerLatencyUs context.path.scheduler.latencyUs
  let configuredLatencyUs := configuredLatencyUs <|>
    (if orderedLatencyMayUseGeneric context.metrics then context.latencyUs else none)
  firstTruthy configuredLatencyUs (some (orderedReorderHoldUs configuredLatencyUs
    context.path.scheduler.reorderHoldUs (pathJitterUs context.metrics)))

def reorderHoldUs : Nat :=
  orderedReorderHoldUs (firstTruthy (boundedSchedulerLatencyUs (orderedLatencyUs context.metrics)) context.latencyUs)
    context.path.scheduler.reorderHoldUs (pathJitterUs context.metrics)

/-- The byte credit, with the reorder hold that stands in for a latency of zero. -/
def maxInFlightBytes (reorderHoldUs : Nat) : Nat :=
  if context.path.scheduler.maxInFlightBytes ≠ 0 then context.path.scheduler.maxInFlightBytes
  else
    match orderedCreditCapacityBps context.txCapacityBps context.rxCapacityBps,
      firstTruthy (latencyUs context) (some reorderHoldUs) with
    | some capacityBps, some latencyUs =>
        let bdpBytes := capacityBps * latencyUs / 8000000
        let credit := bdpBytes * ORDERED_IN_FLIGHT_BDP_MULTIPLIER / orderedPressureCreditDivisor context.metrics
        let credit :=
          if trustedRealDataLatency context.metrics then credit * REAL_DATA_LATENCY_ORDERED_CREDIT_MULTIPLIER
          else credit
        (max (ORDERED_MIN_IN_FLIGHT_BYTES : Int) (min ORDERED_MAX_IN_FLIGHT_BYTES credit)).toNat
    | _, _ => ORDERED_MIN_IN_FLIGHT_BYTES

def maxInFlightPackets (bytesCredit : Nat) : Nat :=
  if context.path.scheduler.maxInFlightPackets ≠ 0 then context.path.scheduler.maxInFlightPackets
  else
    min ORDERED_MAX_IN_FLIGHT_PACKETS
      (max ORDERED_MIN_IN_FLIGHT_PACKETS (bytesCredit / max 1 context.path.scheduler.mtu))

theorem maxInFlightPackets_le (bytesCredit : Nat) : maxInFlightPackets context bytesCredit ≤ 65535 := by
  unfold maxInFlightPackets
  split
  · exact context.path.scheduler.inFlight_valid
  · exact (Nat.min_le_left ..).trans (by decide)

/-- The ordered policies, by the weight and the reorder hold they compile. -/
def policy (weight reorderHoldUs : CompiledPathContext → Nat) : SchedulerPolicyBase where
  rustMode := .orderedMultipath
  weight := weight
  latencyUs := latencyUs
  reorderHoldUs := reorderHoldUs
  maxInFlightPackets context := maxInFlightPackets context (maxInFlightBytes context (reorderHoldUs context))
  maxInFlightBytes context := maxInFlightBytes context (reorderHoldUs context)
  pacingBudgetBps context := context.path.scheduler.pacingBudgetBps
  inFlight_valid context := maxInFlightPackets_le context _

def capacityAwareWeight : Nat :=
  max 1 (Scheduling.capacityAwareWeight context / orderedPressureCreditDivisor context.metrics)

def capacityAwareReorderHoldUs : Nat :=
  let configuredHoldUs := context.path.scheduler.reorderHoldUs
  if configuredHoldUs ≠ 0 then configuredHoldUs
  else
    let baseHoldUs := orderedReorderHoldUs (latencyUs context) configuredHoldUs (pathJitterUs context.metrics)
    if context.path.scheduler.mtu ≥ ORDERED_CAPACITY_AWARE_LARGE_MTU_BYTES then
      max ORDERED_CAPACITY_AWARE_REORDER_HOLD_MIN_US baseHoldUs
    else baseHoldUs

end OrderedMultipath

def orderedMultipathPolicy : SchedulerPolicyBase :=
  OrderedMultipath.policy (·.path.scheduler.weight) OrderedMultipath.reorderHoldUs

def orderedMultipathCapacityAwarePolicy : SchedulerPolicyBase :=
  OrderedMultipath.policy OrderedMultipath.capacityAwareWeight OrderedMultipath.capacityAwareReorderHoldUs

/-- The policy behind a mode. The coordinator's own mode is no policy: it has to be resolved first. -/
def policyForMode : SchedulerPolicy → Option SchedulerPolicyBase
  | .roundRobin => some roundRobinPolicy
  | .weightedRoundRobin => some weightedRoundRobinPolicy
  | .srtt => some srttPolicy
  | .lowestLatency => some srttPolicy
  | .lossAware => some lossAwarePolicy
  | .capacityAware => some capacityAwarePolicy
  | .leastQueue => some leastQueuePolicy
  | .earliestCompletionFirst => some earliestCompletionFirstPolicy
  | .blockingEstimation => some blockingEstimationPolicy
  | .orderedMultipath => some orderedMultipathPolicy
  | .orderedMultipathCapacityAware => some orderedMultipathCapacityAwarePolicy
  | .singleBestPath => some singleBestPathPolicy
  | .arrivalGuardedCapacity => some arrivalGuardedCapacityPolicy
  | .flowletAdaptive => some flowletAdaptivePolicy
  | .latencyGuardedCapacity => some latencyGuardedCapacityPolicy
  | .balanced => some balancedPolicy
  | .adaptive => some adaptivePolicy
  | .coordinatedAdaptive => none

def compilePathPolicy (path : PathConfig) (index : Nat) (mode : SchedulerPolicy)
    (telemetry : Option SchedulerTelemetrySnapshot) : Option RuntimePathSchedulerConfig := do
  let metrics := telemetry.bind (·.paths.get? path.name)
  let policy ← policyForMode mode
  pure (policy.compilePath { path, index, metrics })

def rustModeForPolicy (mode : SchedulerPolicy) : Option SchedulerMode := do
  let policy ← policyForMode mode
  pure policy.rustMode

end Gatherlink.Scheduling
