import Gatherlink.Dataplane.Metrics
import Gatherlink.Dataplane.Scheduler
import Gatherlink.Dataplane.Security
import Gatherlink.Dataplane.Sockets
import Gatherlink.Lib.Sorted

/-! The state of the core dataplane: the engine's own fields, the network it acts on, and the
emit batch and summary that one receive call keeps on its stack. -/

namespace Gatherlink.Engine
open Protocol Dataplane Lib.BigEndian Lib.Lookup Lib.Exec Lib.Sorted

structure ReservedServiceEvent where
  serviceId : ServiceId
  pathId : PathId
  sequence : SequenceNumber
  payload : Bytes
  frameBytes : Nat
  peerScope : Option UInt32
  deriving DecidableEq

structure RemoteReorderKey where
  serviceId : ServiceId
  peerScope : Option UInt32
  deriving DecidableEq

structure RemoteReorderEntry where
  sequence : SequenceNumber
  pathId : PathId
  payload : Bytes
  observation : SequenceObservation
  receivedAt : Nat
  deriving DecidableEq

/-- The key under which the reorder buffer orders an entry. -/
def RemoteReorderEntry.rank (entry : RemoteReorderEntry) : Nat := entry.sequence.toNat

structure RemoteReorderBuffer where
  nextSequence : SequenceNumber
  entries : List RemoteReorderEntry
  sorted : Increasing RemoteReorderEntry.rank entries

structure ServiceFlowletKey where
  serviceId : ServiceId
  source : SocketAddr
  deriving DecidableEq

structure ServiceFlowletState where
  pathId : PathId
  startedAt : Nat
  lastUsed : Nat
  deriving DecidableEq

structure CoreDataplane where
  services : List UserlandUdpService
  paths : List CorePathConfig
  pathTransports : PathTransportSet
  transportSecurity : TransportSecurity
  scheduler : CompiledScheduler
  nextSequences : HashMap (Option UInt32) SequenceNumber
  nextDatagramId : UInt32
  metrics : DataplaneMetrics
  remoteFragments : FragmentReassembly
  remoteDedupe : DedupeWindow
  remoteReorder : HashMap RemoteReorderKey RemoteReorderBuffer
  reservedEvents : List ReservedServiceEvent
  learnedSources : HashMap ServiceId SocketAddr
  learnedPathRemotes : HashMap (UInt32 × PathId) SocketAddr
  disabledServices : HashMap ServiceId String
  serviceSchedulers : HashMap ServiceId ServiceSchedulerConfig
  serviceWeightedSchedulers : HashMap ServiceId WeightedRoundRobin
  serviceFlowlets : HashMap ServiceFlowletKey ServiceFlowletState

structure PendingRemoteEmitKey where
  serviceIndex : Nat
  serviceId : ServiceId
  pathId : PathId
  peerScope : Option UInt32
  target : SocketAddr
  deriving DecidableEq

structure PendingRemoteEmit where
  payload : Bytes
  sequence : SequenceNumber
  observation : SequenceObservation
  deriving DecidableEq

structure PendingRemoteEmitBatch where
  key : Option PendingRemoteEmitKey := none
  items : List PendingRemoteEmit := []
  deriving DecidableEq

structure PacketBatchSummary where
  packets : Nat := 0
  bytes : Nat := 0
  deriving DecidableEq

def PacketBatchSummary.record (summary : PacketBatchSummary) (payloadLen : Nat) : PacketBatchSummary :=
  ⟨summary.packets + 1, summary.bytes + payloadLen⟩

def PacketBatchSummary.recordMany (summary : PacketBatchSummary) (packets bytes : Nat) : PacketBatchSummary :=
  ⟨summary.packets + packets, summary.bytes + bytes⟩

structure Machine where
  engine : CoreDataplane
  net : Net
  pending : PendingRemoteEmitBatch
  summary : PacketBatchSummary

/-- Engine code: it may fail, and what it changed before failing stays changed. -/
abbrev Run := EStateM DataplaneError Machine

variable {α : Type}

def onEngine (program : EStateM DataplaneError CoreDataplane α) : Run α :=
  focus Machine.engine (fun machine engine => { machine with engine }) id program

def onNet (program : EStateM UdpServiceError Net α) : Run α :=
  focus Machine.net (fun machine net => { machine with net }) .udpService program

/-- A program on the path sockets and the network, leaving its errors for the caller to inspect. -/
def onTransports (program : PathTransportSet.TransportM α) : EStateM UdpServiceError Machine α :=
  focus (fun machine => (machine.engine.pathTransports, machine.net))
    (fun machine inner =>
      { machine with engine := { machine.engine with pathTransports := inner.1 }, net := inner.2 }) id program

/-- A program on one service. The index always comes from a lookup in the same list. -/
def onService (index : Nat) (program : EStateM UdpServiceError (UserlandUdpService × Net) α) : Run α := do
  let service ← reads (·.engine.services[index]?)
  match service with
  | none => throw (.udpService .missingListenAddress)
  | some service =>
      focus (fun machine : Machine => (service, machine.net))
        (fun machine inner =>
          { machine with
            engine := { machine.engine with services := machine.engine.services.set index inner.1 }
            net := inner.2 }) .udpService program

namespace CoreDataplane

variable (engine : CoreDataplane)

def serviceIndex (serviceId : ServiceId) : Option Nat :=
  engine.services.findIdx? (·.config.serviceId == serviceId)

def serviceName (index : Nat) : String :=
  (engine.services[index]?.map (·.config.name)).getD ""

def serviceScheduler (serviceId : ServiceId) : ServiceSchedulerConfig :=
  (engine.serviceSchedulers serviceId).getD .normal

def remoteTarget (service : UserlandUdpService) : SocketAddr :=
  match service.config.returnMode with
  | .fixed | .peerScopedSource => service.config.target
  | .learnedSingleSource => (engine.learnedSources service.config.serviceId).getD service.config.target

/-- How long a gap may hold back payloads that arrived on a path, in nanoseconds. -/
def reorderHoldForPath (pathId : PathId) : Nat :=
  ((engine.paths.find? (·.pathId == pathId)).map (·.primitives.reorderHoldUs * 1000)).getD 0

end CoreDataplane

def ensureServiceEnabled (serviceId : ServiceId) : Run PUnit := do
  let disabled ← reads (·.engine.disabledServices serviceId)
  match disabled with
  | some reason => throw (.serviceDisabled serviceId reason)
  | none => pure ⟨⟩

theorem ensureServiceEnabled_refuses {serviceId : ServiceId} {machine : Machine} {reason : String}
    (disabled : machine.engine.disabledServices serviceId = some reason) :
    ensureServiceEnabled serviceId machine = .error (.serviceDisabled serviceId reason) machine := by
  rw [ensureServiceEnabled, bind_reads, disabled]
  rfl

def findService (serviceId : ServiceId) : Run (Nat × UserlandUdpService) := do
  let found ← reads fun machine =>
    (machine.engine.serviceIndex serviceId).bind fun index =>
      machine.engine.services[index]?.map fun service => (index, service)
  match found with
  | none => throw (.unknownServiceId serviceId)
  | some service => pure service

end Gatherlink.Engine
