import Gatherlink.Config.Models
import Gatherlink.Lib.Dict

/-! Path telemetry and the health and weights scored from it. -/

namespace Gatherlink.Scheduling
open Lib

section Metrics

structure PathSchedulerMetrics where
  pathName : String
  pathId : Int
  txCapacityBps : Option Int := none
  rxCapacityBps : Option Int := none
  txLatencyCurrentUs : Option Int := none
  txLatencyMeanUs : Option Int := none
  rxLatencyCurrentUs : Option Int := none
  rxLatencyMeanUs : Option Int := none
  latencySource : Option String := none
  latencyConfidence : Option String := none
  lossPpm : Nat := 0
  txJitterUs : Option Nat := none
  rxJitterUs : Option Nat := none
  txP95Us : Option Nat := none
  rxP95Us : Option Nat := none
  queueDepthPackets : Nat := 0
  queueDepthBytes : Nat := 0
  queueOldestAgeUs : Nat := 0
  sendFailures : Nat := 0
  receiveGaps : Nat := 0
  reorderDepthPackets : Nat := 0
  localDrops : Nat := 0
  schedulerInFlightPackets : Nat := 0
  schedulerInFlightBytes : Nat := 0
  schedulerPredictedDeliveryUs : Nat := 0
  reorderBufferPackets : Nat := 0
  reorderBufferOldestAgeUs : Nat := 0
  staleControlAgeUs : Nat := 0
  observedPackets : Nat := 0
  loss_valid : lossPpm ≤ 1000000 := by decide

namespace PathSchedulerMetrics

def schedulerLatencyUs (metrics : PathSchedulerMetrics) : Option Int :=
  ((metrics.txLatencyMeanUs <|> metrics.txLatencyCurrentUs) <|> metrics.rxLatencyMeanUs) <|>
    metrics.rxLatencyCurrentUs

def hasTrustedRealDataLatency (metrics : PathSchedulerMetrics) : Bool :=
  metrics.latencySource == some "data-traffic-one-way" && metrics.latencyConfidence == some "good"

end PathSchedulerMetrics

structure SchedulerTelemetrySnapshot where
  paths : Dict String PathSchedulerMetrics

end Metrics

section Penalties

def MIN_PATH_WEIGHT : Int := 1
def MAX_PATH_WEIGHT : Int := 65535
def DEFAULT_CAPACITY_BPS : Int := 1000000
def DEFAULT_LATENCY_US : Int := 50000
def LOSS_PPM_SCALE : Nat := 1000000
def QUEUE_PACKET_PENALTY : Nat := 16
def QUEUE_BYTE_PENALTY_STEP : Nat := 64 * 1024
def JITTER_PENALTY_STEP_US : Nat := 10000

def clampWeight (value : Int) : Nat := (min MAX_PATH_WEIGHT (max MIN_PATH_WEIGHT value)).toNat

/-- The nearest integer to a quotient, the even one when two are equally near. -/
def roundQuotient (numerator denominator : Int) : Int :=
  let below := numerator / denominator
  let twice := 2 * (numerator % denominator)
  if twice < denominator then below
  else if denominator < twice then below + 1
  else if below % 2 = 0 then below
  else below + 1

-- The source divides in floating point. A quotient below the largest weight is a multiple of one
-- millionth there, so it rounds as the exact quotient does; every larger one is clamped.
def capacityWeight : Option Int → Nat
  | none => MIN_PATH_WEIGHT.toNat
  | some capacityBps => clampWeight (roundQuotient capacityBps DEFAULT_CAPACITY_BPS)

def latencyPenalty : Option Int → Int
  | none => 0
  | some latencyUs => max 0 (latencyUs - DEFAULT_LATENCY_US) / DEFAULT_LATENCY_US

def lossPenalty (lossPpm : Nat) : Nat := min lossPpm LOSS_PPM_SCALE / 10000

def queuePenalty (queueDepthPackets queueDepthBytes : Nat) : Nat :=
  queueDepthPackets * QUEUE_PACKET_PENALTY + queueDepthBytes / QUEUE_BYTE_PENALTY_STEP

def jitterPenalty : Option Nat → Nat
  | none => 0
  | some jitterUs => jitterUs / JITTER_PENALTY_STEP_US

def adaptiveWeight (txCapacityBps latencyUs : Option Int) (lossPpm queueDepthPackets queueDepthBytes : Nat)
    (jitterUs : Option Nat) : Nat :=
  clampWeight (capacityWeight txCapacityBps * 16 - latencyPenalty latencyUs - jitterPenalty jitterUs -
    lossPenalty lossPpm - queuePenalty queueDepthPackets queueDepthBytes)

end Penalties

section Score

def STALE_CONTROL_DOWN_US : Nat := 120000000
def STALE_CONTROL_DEGRADED_US : Nat := 30000000
def HIGH_LOSS_PPM : Nat := 50000
def HIGH_QUEUE_PACKETS : Nat := 256
def HIGH_QUEUE_AGE_US : Nat := 5000000
def HIGH_REORDER_DEPTH_PACKETS : Nat := 128
def HIGH_IN_FLIGHT_PACKETS : Nat := 512
def HIGH_REORDER_BUFFER_PACKETS : Nat := 128

inductive PathHealth where
  | alive
  | degraded
  | down
  deriving DecidableEq, Repr

inductive ScoreReason where
  | latencyPenalty
  | lossPenalty
  | queuePressure
  | sendFailures
  | receiveGaps
  | localDrops
  | reorderPressure
  | inFlightPressure
  | receiverBlocking
  | controlStale
  | healthy
  deriving DecidableEq, Repr

structure PathScore where
  pathName : String
  health : PathHealth
  score : Int
  weight : Nat
  capacityConfidencePpm : Int
  reasons : List ScoreReason
  deriving DecidableEq, Repr

namespace PathSchedulerMetrics

/-- What each observed pressure takes off the score, with the reason it is reported under. -/
def costs (metrics : PathSchedulerMetrics) : List (Int × ScoreReason) :=
  [(min 80 (latencyPenalty metrics.schedulerLatencyUs * 10), .latencyPenalty),
    (min 100 (lossPenalty metrics.lossPpm * 4), .lossPenalty),
    (min 120 (queuePenalty metrics.queueDepthPackets metrics.queueDepthBytes), .queuePressure),
    (min 120 (metrics.sendFailures * 20), .sendFailures),
    (min 80 (metrics.receiveGaps * 10), .receiveGaps),
    (min 120 (metrics.localDrops * 20), .localDrops),
    (if metrics.reorderDepthPackets ≥ HIGH_REORDER_DEPTH_PACKETS then 80 else 0, .reorderPressure),
    (if metrics.schedulerInFlightPackets ≥ HIGH_IN_FLIGHT_PACKETS then 40 else 0, .inFlightPressure),
    (if metrics.reorderBufferPackets ≥ HIGH_REORDER_BUFFER_PACKETS then 80 else 0, .receiverBlocking)]

def health (metrics : PathSchedulerMetrics) : PathHealth :=
  if metrics.staleControlAgeUs ≥ STALE_CONTROL_DOWN_US then .down
  else if metrics.staleControlAgeUs ≥ STALE_CONTROL_DEGRADED_US || metrics.lossPpm ≥ HIGH_LOSS_PPM ||
      metrics.queueDepthPackets ≥ HIGH_QUEUE_PACKETS || metrics.queueOldestAgeUs ≥ HIGH_QUEUE_AGE_US ||
      metrics.localDrops > 0 || metrics.sendFailures > 0 ||
      metrics.schedulerInFlightPackets ≥ HIGH_IN_FLIGHT_PACKETS ||
      metrics.reorderBufferPackets ≥ HIGH_REORDER_BUFFER_PACKETS then .degraded
  else .alive

def capacityConfidencePpm (metrics : PathSchedulerMetrics) : Int :=
  let confidence : Int := 1000000 - (if metrics.txCapacityBps.isNone then 250000 else 0) -
    (if metrics.staleControlAgeUs ≥ STALE_CONTROL_DEGRADED_US then 350000 else 0) -
    min 250000 (metrics.lossPpm * 2) - min 150000 (metrics.queueDepthPackets * 250) -
    min 150000 metrics.localDrops - min 100000 (metrics.sendFailures * 10000)
  max 0 (min 1000000 confidence)

end PathSchedulerMetrics

def scorePath (metrics : PathSchedulerMetrics) : PathScore :=
  let charged := metrics.costs.filter (·.1 ≠ 0)
  let score := (capacityWeight metrics.txCapacityBps * 100 : Int) - (charged.map Prod.fst).sum
  let weight := adaptiveWeight metrics.txCapacityBps metrics.schedulerLatencyUs metrics.lossPpm
    metrics.queueDepthPackets metrics.queueDepthBytes none
  let reasons := charged.map Prod.snd ++ if metrics.health = .down then [.controlStale] else []
  { pathName := metrics.pathName
    health := metrics.health
    score := max 0 (if metrics.health = .down then min score 0 else score)
    weight :=
      match metrics.health with
      | .down => 1
      | .degraded => max 1 (weight / 2)
      | .alive => weight
    capacityConfidencePpm := metrics.capacityConfidencePpm
    reasons := if reasons.isEmpty then [.healthy] else reasons }

/-- The scores by path name. The source also sorts them by name; they are only looked up. -/
def scoreSnapshot (paths : Dict String PathSchedulerMetrics) : Dict String PathScore :=
  paths.mapValues scorePath

theorem get?_scoreSnapshot (paths : Dict String PathSchedulerMetrics) (name : String) :
    (scoreSnapshot paths).get? name = (paths.get? name).map scorePath :=
  Dict.get?_mapValues paths scorePath name

end Score

end Gatherlink.Scheduling
