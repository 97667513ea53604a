import Mathlib

/-! The configured node and the runtime records compiled from it, with the bounds their fields are
checked against. -/

namespace Gatherlink.Config

inductive PathSchedulerState where
  | active
  | busy
  | drain
  | disabled
  deriving DecidableEq, Repr

inductive SchedulerTrafficBias where
  | auto
  | tcp
  | udp
  deriving DecidableEq, Repr

inductive SchedulerCongestionPolicy where
  | off
  | conservative
  | adaptive
  | volatile
  deriving DecidableEq, Repr

inductive SchedulerPolicy where
  | roundRobin
  | weightedRoundRobin
  | srtt
  | lowestLatency
  | lossAware
  | capacityAware
  | leastQueue
  | earliestCompletionFirst
  | blockingEstimation
  | orderedMultipath
  | orderedMultipathCapacityAware
  | singleBestPath
  | arrivalGuardedCapacity
  | flowletAdaptive
  | latencyGuardedCapacity
  | balanced
  | adaptive
  | coordinatedAdaptive
  deriving DecidableEq, Repr

inductive ServicePriority where
  | bulk
  | normal
  | high
  | critical
  deriving DecidableEq, Repr

inductive ServiceTrafficClass where
  | unknown
  | tcpOrdered
  | udpBulk
  | latencySensitive
  | control
  deriving DecidableEq, Repr

/-- The execution modes of the dataplane, which several policies share. -/
inductive SchedulerMode where
  | roundRobin
  | weightedRoundRobin
  | lowestLatency
  | lossAware
  | capacityAware
  | leastQueue
  | earliestCompletionFirst
  | blockingEstimation
  | orderedMultipath
  | balanced
  | adaptive
  deriving DecidableEq, Repr

structure PathSchedulerConfig where
  enabled : Bool := true
  state : PathSchedulerState := .active
  weight : Nat := 1
  mtu : Nat := 1200
  txCapacityBps : Option Int := none
  rxCapacityBps : Option Int := none
  latencyUs : Option Int := none
  lossPpm : Nat := 0
  reorderHoldUs : Nat := 0
  maxInFlightPackets : Nat := 0
  maxInFlightBytes : Nat := 0
  pacingBudgetBps : Nat := 0
  weight_valid : 1 ≤ weight ∧ weight ≤ 65535 := by decide
  mtu_valid : 64 ≤ mtu ∧ mtu ≤ 65535 := by decide
  tx_valid : txCapacityBps.all (1 ≤ ·) := by decide
  rx_valid : rxCapacityBps.all (1 ≤ ·) := by decide
  latency_valid : latencyUs.all (0 ≤ ·) := by decide
  loss_valid : lossPpm ≤ 1000000 := by decide
  inFlight_valid : maxInFlightPackets ≤ 65535 := by decide
  deriving DecidableEq

def PathSchedulerConfig.default : PathSchedulerConfig := {}

structure SchedulerConfig where
  mode : SchedulerPolicy := .roundRobin
  trafficBias : SchedulerTrafficBias := .auto
  congestionPolicy : SchedulerCongestionPolicy := .adaptive
  deriving DecidableEq, Repr

inductive ServiceSchedulerPathPolicy where
  | inherit
  | singleBestPath
  | weightedRoundRobin
  deriving DecidableEq, Repr

def USER_SERVICE_ID_START : Nat := 256

/-- The path policy is `none` when the service does not set it. -/
structure ServiceConfig where
  name : String
  priority : ServicePriority := .normal
  trafficClass : ServiceTrafficClass := .unknown
  serviceId : Option Nat := none
  schedulerFanout : Nat := 1
  schedulerFanoutBelowBytes : Nat := 0
  schedulerFlowletIdleUs : Nat := 0
  schedulerFlowletMaxHoldUs : Nat := 0
  schedulerPathRunDatagrams : Nat := 0
  schedulerPathPolicy : Option ServiceSchedulerPathPolicy := none
  schedulerAllowedPaths : List String := []
  schedulerPathWeights : List (String × Int) := []
  serviceId_valid : ∀ id ∈ serviceId, USER_SERVICE_ID_START ≤ id ∧ id ≤ 65535 := by decide
  fanout_valid : schedulerFanout ≤ 65535 := by decide
  deriving DecidableEq

/-- The key of the outer envelope, decoded. -/
structure PathRelayHopConfig where
  relayReceiverIndex : UInt32
  sendKey : List UInt8
  deriving DecidableEq

structure PathConfig where
  name : String
  scheduler : PathSchedulerConfig := .default
  relay : Option PathRelayHopConfig := none
  deriving DecidableEq

inductive SecurityMode where
  | none
  | static
  | authenticated
  deriving DecidableEq, Repr

structure SecuritySessionConfig where
  localReceiverIndex : UInt32
  remoteReceiverIndex : UInt32
  sendKey : List UInt8
  receiveKey : List UInt8
  services : List String := []
  deriving DecidableEq

/-- The transport security of a node, with its keys decoded. The metadata of an authenticated session is not read
here. -/
structure SecurityConfig where
  mode : SecurityMode := .none
  receiverIndex : UInt32 := 1
  localReceiverIndex : Option UInt32 := Option.none
  remoteReceiverIndex : Option UInt32 := Option.none
  sendKey : Option (List UInt8) := Option.none
  receiveKey : Option (List UInt8) := Option.none
  sessions : List SecuritySessionConfig := []
  deriving DecidableEq

structure GatherlinkConfig where
  paths : List PathConfig := []
  services : List ServiceConfig := []
  scheduler : SchedulerConfig := {}
  security : SecurityConfig := {}
  deriving DecidableEq

structure RuntimePathSchedulerConfig where
  pathId : Nat
  enabled : Bool
  state : PathSchedulerState
  weight : Nat
  mtu : Int
  txCapacityBps : Option Int
  rxCapacityBps : Option Int
  latencyUs : Option Int
  lossPpm : Nat
  reorderHoldUs : Nat
  maxInFlightPackets : Nat
  maxInFlightBytes : Nat
  pacingBudgetBps : Nat
  queueDepthPackets : Nat
  queueDepthBytes : Nat
  queueOldestAgeUs : Nat
  loss_valid : lossPpm ≤ 1000000
  inFlight_valid : maxInFlightPackets ≤ 65535
  deriving DecidableEq

structure RuntimeSchedulerConfig where
  mode : SchedulerMode
  paths : List RuntimePathSchedulerConfig
  deriving DecidableEq

structure RuntimePathConfig where
  name : String
  scheduler : RuntimePathSchedulerConfig
  relay : Option PathRelayHopConfig
  deriving DecidableEq

end Gatherlink.Config
