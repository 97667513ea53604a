import Gatherlink.Crypto.Envelope
import Gatherlink.Protocol.Frame

/-! The compiled runtime configuration the dataplane executes: services, paths, scheduler mode and
transport-security material, already decided by the control plane. -/

namespace Gatherlink.Dataplane
open Protocol Crypto

def U64_MAX : Nat := 2 ^ 64 - 1

def saturatingAdd (left right : Nat) : Nat := min (left + right) U64_MAX

inductive SocketAddr where
  | v4 (ip : UInt32) (port : UInt16)
  | v6 (ip : BitVec 128) (port : UInt16) (flowinfo scopeId : UInt32)
  deriving DecidableEq

def SocketAddr.withPortZero : SocketAddr → SocketAddr
  | .v4 ip _ => .v4 ip 0
  | .v6 ip _ _ _ => .v6 ip 0 0 0

inductive IoErrorKind where
  | wouldBlock
  | timedOut
  | interrupted
  | other
  deriving DecidableEq

inductive UdpServiceError where
  | emptyServiceName
  | missingListenAddress
  | duplicateServiceName (name : String)
  | duplicateListenAddress (address : SocketAddr)
  | duplicateServiceId (serviceId : ServiceId)
  | reservedServiceId (service : String) (serviceId : ServiceId)
  | tooManyServices (count max : Nat)
  | missingPath
  | duplicatePathId (pathId : PathId)
  | missingPathTransport (pathId : PathId)
  | missingPathRemote (pathId : PathId)
  | missingPeerSource (peerScope : UInt32)
  | pathMtuTooSmall (pathId : PathId) (mtu : Nat)
  | pathWeightTooSmall (pathId : PathId)
  | pathSchedulerPrimitiveInvalid (pathId : PathId) (field : String)
  | servicePriorityTooSmall (service : String)
  | incompatibleListenReapply (service : String) (current requested : Option SocketAddr)
  | bindFailed (error : IoErrorKind)
  | configureSocketFailed (error : IoErrorKind)
  | cloneFailed (error : IoErrorKind)
  | localAddrFailed (error : IoErrorKind)
  | receiveFailed (error : IoErrorKind)
  | sendFailed (error : IoErrorKind)
  | relayHopWrapFailed
  deriving DecidableEq

inductive DataplaneError where
  | udpService (error : UdpServiceError)
  | protocol (error : ProtocolError)
  | crypto (error : CryptoError)
  | unknownService (name : String)
  | unknownServiceId (serviceId : ServiceId)
  | serviceDisabled (serviceId : ServiceId) (reason : String)
  | noPathAvailable
  | unexpectedFrameKind
  | batchDatagramMismatch
  | invalidFragmentPlan
  | tooManyFragments (count : Nat)
  | frameExceedsPathMtu (pathId : PathId) (frameLen mtu : Nat)
  deriving DecidableEq

section Services

inductive ServicePathPolicy where
  | inherit
  | singleBestPath
  | weightedRoundRobin
  deriving DecidableEq

structure ServiceSchedulerConfig where
  fanout : UInt16
  fanoutBelowBytes : Nat
  flowletIdleUs : Nat
  flowletMaxHoldUs : Nat
  pathRunDatagrams : Nat
  pathPolicy : ServicePathPolicy
  allowedPathIds : List PathId
  pathWeights : List (PathId × UInt16)
  deriving DecidableEq

namespace ServiceSchedulerConfig

def normal : ServiceSchedulerConfig where
  fanout := 1
  fanoutBelowBytes := 0
  flowletIdleUs := 0
  flowletMaxHoldUs := 0
  pathRunDatagrams := 0
  pathPolicy := .inherit
  allowedPathIds := []
  pathWeights := []

def allowsPathId (config : ServiceSchedulerConfig) (pathId : PathId) : Bool :=
  if !config.allowedPathIds.isEmpty then config.allowedPathIds.contains pathId
  else config.pathWeights.isEmpty ||
    config.pathWeights.any fun weighted => weighted.1 == pathId && decide (0 < weighted.2)

def effectiveFanout (config : ServiceSchedulerConfig) (payloadLen : Nat) : UInt16 :=
  if config.fanoutBelowBytes = 0 ∨ payloadLen ≤ config.fanoutBelowBytes then config.fanout else 1

end ServiceSchedulerConfig

inductive ServiceReturnMode where
  | fixed
  | learnedSingleSource
  | peerScopedSource
  deriving DecidableEq

/-- A service id is either still unassigned (zero) or in the application range. -/
structure UdpServiceConfig where
  serviceId : ServiceId
  name : String
  listen : Option SocketAddr
  target : SocketAddr
  priority : UInt16
  returnMode : ServiceReturnMode
  scheduler : ServiceSchedulerConfig
  userRange : serviceId = 0 ∨ isReservedServiceId serviceId = false
  deriving DecidableEq

def UdpServiceConfig.fixed (serviceId : ServiceId) (name : String) (listen target : SocketAddr)
    (scheduler : ServiceSchedulerConfig) (assigned : isReservedServiceId serviceId = false) : UdpServiceConfig :=
  ⟨serviceId, name, some listen, target, 1, .fixed, scheduler, .inr assigned⟩

end Services

section Paths

inductive SchedulerMode where
  | roundRobin
  | weightedRoundRobin
  | lowestLatency
  | lossAware
  | capacityAware
  | leastQueue
  | earliestCompletionFirst
  | blockingEstimation
  | orderedMultipath
  | balanced
  | adaptive
  deriving DecidableEq

inductive PathSchedulerState where
  | active
  | busy
  | drain
  | disabled
  deriving DecidableEq

structure PathSchedulerPrimitives where
  txCapacityBps : Option Nat := none
  rxCapacityBps : Option Nat := none
  latencyUs : Option Nat := none
  lossPpm : Nat := 0
  reorderHoldUs : Nat := 0
  maxInFlightPackets : Nat := 0
  maxInFlightBytes : Nat := 0
  pacingBudgetBps : Nat := 0
  queueDepthPackets : Nat := 0
  queueDepthBytes : Nat := 0
  queueOldestAgeUs : Nat := 0
  deriving DecidableEq

structure RelayHopSendConfig where
  relayReceiverIndex : UInt32
  sendKey : Key
  deriving DecidableEq

/-- A compiled path. The MTU always leaves room for a fragment of at least one byte. -/
structure CorePathConfig where
  pathId : PathId
  mtu : Nat
  transportBind : Option SocketAddr
  transportRemote : Option SocketAddr
  relaySend : Option RelayHopSendConfig
  enabledFlag : Bool
  state : PathSchedulerState
  weight : UInt16
  primitives : PathSchedulerPrimitives
  mtuLarge : V1_HEADER_LEN + FRAGMENT_METADATA_LEN < mtu
  weightPos : weight ≠ 0
  lossBound : primitives.lossPpm ≤ 1000000
  deriving DecidableEq

namespace CorePathConfig

variable (path : CorePathConfig)

def withRelaySend (relayReceiverIndex : UInt32) (sendKey : Key) : CorePathConfig :=
  { path with relaySend := some ⟨relayReceiverIndex, sendKey⟩ }

theorem weight_one : (1 : UInt16) ≠ 0 := by decide

theorem lossless : ({} : PathSchedulerPrimitives).lossPpm ≤ 1000000 := by decide

/-- An active path between two addresses, with nothing measured yet. -/
def direct (pathId : PathId) (mtu : Nat) (bind remote : SocketAddr)
    (large : decide (V1_HEADER_LEN + FRAGMENT_METADATA_LEN < mtu) = true) : CorePathConfig :=
  ⟨pathId, mtu, some bind, some remote, none, true, .active, 1, {}, of_decide_eq_true large, weight_one, lossless⟩

def enabled : Bool := path.enabledFlag && path.state != .disabled

def acceptsWholePacket : Bool := path.enabled && path.state == .active

def acceptsFragmentedPacket : Bool :=
  path.enabled && (path.state == .active || path.state == .drain)

def maxDataPayload : Nat := path.mtu - V1_HEADER_LEN

def maxFragmentPayload : Nat := path.mtu - V1_HEADER_LEN - FRAGMENT_METADATA_LEN

theorem maxFragmentPayload_pos : 0 < path.maxFragmentPayload := by
  have large := path.mtuLarge
  unfold maxFragmentPayload
  omega

end CorePathConfig

end Paths

structure TransportSecuritySessionConfig where
  localReceiverIndex : UInt32
  remoteReceiverIndex : UInt32
  sendKey : Key
  receiveKey : Key
  serviceIds : List ServiceId
  deriving DecidableEq

inductive TransportSecurityConfig where
  | none
  | static (localReceiverIndex remoteReceiverIndex : UInt32) (sendKey receiveKey : Key)
  | staticSessions (sessions : List TransportSecuritySessionConfig)
  deriving DecidableEq

def TransportSecurityConfig.localReceiverIndexes : TransportSecurityConfig → List UInt32
  | .none => []
  | .static localReceiverIndex _ _ _ => [localReceiverIndex]
  | .staticSessions sessions => sessions.map (·.localReceiverIndex)

def TransportSecurityConfig.sessionKeys : TransportSecurityConfig → List (Key × Key)
  | .none => []
  | .static _ _ sendKey receiveKey => [(sendKey, receiveKey)]
  | .staticSessions sessions => sessions.map fun session => (session.sendKey, session.receiveKey)

/-- A finalized runtime config: at least one path, and unique path ids, service ids and names. -/
structure CoreRuntimeConfig where
  services : List UdpServiceConfig
  paths : List CorePathConfig
  schedulerMode : SchedulerMode
  security : TransportSecurityConfig
  pathIdsUnique : (paths.map (·.pathId)).Nodup
  pathsNonempty : paths ≠ []
  serviceIdsUnique : (services.map (·.serviceId)).Nodup
  serviceNamesUnique : (services.map (·.name)).Nodup
  servicesAssigned : ∀ service ∈ services, isReservedServiceId service.serviceId = false
  deriving DecidableEq

namespace CoreRuntimeConfig

def ofPath (path : CorePathConfig) (security : TransportSecurityConfig) : CoreRuntimeConfig where
  services := []
  paths := [path]
  schedulerMode := .roundRobin
  security := security
  pathIdsUnique := by simp
  pathsNonempty := by simp
  serviceIdsUnique := by simp
  serviceNamesUnique := by simp
  servicesAssigned := by simp

def ofService (service : UdpServiceConfig) (assigned : isReservedServiceId service.serviceId = false)
    (path : CorePathConfig) (security : TransportSecurityConfig) : CoreRuntimeConfig :=
  { ofPath path security with
    services := [service]
    serviceIdsUnique := by simp
    serviceNamesUnique := by simp
    servicesAssigned := by simpa using assigned }

end CoreRuntimeConfig

end Gatherlink.Dataplane
