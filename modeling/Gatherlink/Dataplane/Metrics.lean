import Gatherlink.Dataplane.Config
import Gatherlink.Lib.Lookup
import Gatherlink.Protocol.Sequence

/-! Telemetry counters of the dataplane. Clock readings are an argument, in nanoseconds. -/

namespace Gatherlink.Dataplane
open Protocol Lib.Lookup

def DATA_TIMING_SAMPLE_SEQUENCE_INTERVAL : Nat := 1024
def DATA_TIMING_SAMPLE_BUFFER_LIMIT : Nat := 512

structure DataTrafficTimingSample where
  pathId : PathId
  sequence : SequenceNumber
  packetCount : Nat
  observedAtUs : Nat
  peerScope : Option UInt32
  deriving DecidableEq

structure CounterSnapshot where
  packets : Nat := 0
  bytes : Nat := 0
  txPackets : Nat := 0
  txBytes : Nat := 0
  rxPackets : Nat := 0
  rxBytes : Nat := 0
  reorderedPackets : Nat := 0
  packetsNeedingReorder : Nat := 0
  expectedDuplicatePackets : Nat := 0
  unexpectedDuplicatePackets : Nat := 0
  duplicatePackets : Nat := 0
  sendFailedPackets : Nat := 0
  sendFailedBytes : Nat := 0
  fanoutSendFailedPackets : Nat := 0
  fanoutSendFailedBytes : Nat := 0
  securityDropPackets : Nat := 0
  securityDropBytes : Nat := 0
  lastTxAtUs : Nat := 0
  lastRxAtUs : Nat := 0
  lastTxGapUs : Nat := 0
  lastRxGapUs : Nat := 0
  deriving DecidableEq

structure ControlCounterSnapshot where
  frames : Nat := 0
  bytes : Nat := 0
  lastAtUs : Nat := 0
  lastGapUs : Nat := 0
  deriving DecidableEq

structure PathControlSnapshot where
  tx : ControlCounterSnapshot := {}
  rx : ControlCounterSnapshot := {}
  deriving DecidableEq

structure ControlMetadataSnapshot where
  sent : ControlCounterSnapshot := {}
  received : ControlCounterSnapshot := {}
  pathControl : HashMap PathId PathControlSnapshot := empty

structure SecurityDropSnapshot where
  packets : Nat := 0
  bytes : Nat := 0
  deriving DecidableEq

structure DataplaneMetrics where
  startedAt : Nat
  services : HashMap String CounterSnapshot := empty
  paths : HashMap PathId CounterSnapshot := empty
  servicePaths : HashMap (String × PathId) CounterSnapshot := empty
  receiveSequences : HashMap (Option UInt32) GlobalSequenceTracker := empty
  controlMetadata : ControlMetadataSnapshot := {}
  securityDrops : SecurityDropSnapshot := {}
  txTimingSamples : List DataTrafficTimingSample := []
  rxTimingSamples : List DataTrafficTimingSample := []

namespace CounterSnapshot

variable (row : CounterSnapshot)

def recordTxTiming (nowUs : Nat) : CounterSnapshot :=
  { row with
    lastTxGapUs := if row.lastTxAtUs ≠ 0 then nowUs - row.lastTxAtUs else row.lastTxGapUs
    lastTxAtUs := nowUs }

def recordRxTiming (nowUs : Nat) : CounterSnapshot :=
  { row with
    lastRxGapUs := if row.lastRxAtUs ≠ 0 then nowUs - row.lastRxAtUs else row.lastRxGapUs
    lastRxAtUs := nowUs }

/-- The update a forwarded batch makes to its service, path and service-path rows alike. -/
def recordTx (packets bytes nowUs : Nat) : CounterSnapshot :=
  recordTxTiming { row with
    packets := row.packets + packets
    bytes := row.bytes + bytes
    txPackets := row.txPackets + packets
    txBytes := row.txBytes + bytes } nowUs

/-- The update a received payload makes to its service, path and service-path rows alike. -/
def recordRx (payloadLen nowUs : Nat) (observation : SequenceObservation) :
    CounterSnapshot :=
  let counted := recordRxTiming { row with
    packets := row.packets + 1
    bytes := row.bytes + payloadLen
    rxPackets := row.rxPackets + 1
    rxBytes := row.rxBytes + payloadLen } nowUs
  if observation.outOfOrder then
    { counted with
      reorderedPackets := counted.reorderedPackets + 1
      packetsNeedingReorder := counted.packetsNeedingReorder + 1 }
  else
    { counted with
      packetsNeedingReorder := counted.packetsNeedingReorder + observation.missingPackets.toNat }

def recordDuplicate (expected : Bool) : CounterSnapshot :=
  if expected then { row with expectedDuplicatePackets := row.expectedDuplicatePackets + 1 }
  else
    { row with
      unexpectedDuplicatePackets := row.unexpectedDuplicatePackets + 1
      duplicatePackets := row.duplicatePackets + 1 }

def recordDuplicateRx (payloadLen : Nat) (expected : Bool) : CounterSnapshot :=
  recordDuplicate { row with
    rxPackets := row.rxPackets + 1
    rxBytes := row.rxBytes + payloadLen } expected

end CounterSnapshot

def recordControlCounter (counters : ControlCounterSnapshot) (frameBytes nowUs : Nat) :
    ControlCounterSnapshot where
  frames := counters.frames + 1
  bytes := counters.bytes + frameBytes
  lastAtUs := nowUs
  lastGapUs := if counters.lastAtUs > 0 then nowUs - counters.lastAtUs else counters.lastGapUs

def pushBoundedSample (samples : List DataTrafficTimingSample) (sample : DataTrafficTimingSample) :
    List DataTrafficTimingSample :=
  if samples.length ≥ DATA_TIMING_SAMPLE_BUFFER_LIMIT then
    samples.drop (samples.length + 1 - DATA_TIMING_SAMPLE_BUFFER_LIMIT) ++ [sample]
  else samples ++ [sample]

def shouldSampleSequence (sequence : Nat) : Bool :=
  sequence == 1 || sequence % DATA_TIMING_SAMPLE_SEQUENCE_INTERVAL == 0

def sampledSequenceInBatch (firstSequence packetCount : Nat) : Option Nat :=
  if packetCount = 0 then none
  else if shouldSampleSequence firstSequence then some firstSequence
  else
    let lastSequence := min (firstSequence + (packetCount - 1)) (2 ^ 64 - 1)
    let remainder := firstSequence % DATA_TIMING_SAMPLE_SEQUENCE_INTERVAL
    let nextSample := firstSequence + (DATA_TIMING_SAMPLE_SEQUENCE_INTERVAL - remainder)
    if nextSample ≤ lastSequence then some nextSample else none

def boundedPacketCount (packetCount : Nat) : Option Nat :=
  if packetCount = 0 then none else some (min packetCount (2 ^ 32 - 1))

variable (metrics : DataplaneMetrics) (now : Nat)

def monotonicClockUs : Nat := min (now / 1000) (2 ^ 64 - 1)

namespace DataplaneMetrics

def reconcilePaths (paths : List CorePathConfig) : DataplaneMetrics :=
  { metrics with
    paths := paths.foldl (fun rows path => upsert rows path.pathId {} id) metrics.paths }

def new (startedAt : Nat) (paths : List CorePathConfig) : DataplaneMetrics :=
  reconcilePaths { startedAt } paths

def elapsedUs : Nat :=
  min ((now - metrics.startedAt) / 1000) (2 ^ 64 - 1)

def recordForwardBatch (serviceName : String) (pathId : PathId) (packets bytes : Nat) : DataplaneMetrics :=
  let nowUs := metrics.elapsedUs now
  { metrics with
    services := upsert metrics.services serviceName {} (·.recordTx packets bytes nowUs)
    paths := upsert metrics.paths pathId {} (·.recordTx packets bytes nowUs)
    servicePaths := upsert metrics.servicePaths (serviceName, pathId) {} (·.recordTx packets bytes nowUs) }

variable (pathId : PathId) (sequence : SequenceNumber)

def recordTransmitTimingSample (packetCount : Nat) (peerScope : Option UInt32) : DataplaneMetrics :=
  match boundedPacketCount packetCount with
  | none => metrics
  | some count =>
      match sampledSequenceInBatch sequence.toNat count with
      | none => metrics
      | some sampled =>
          { metrics with
            txTimingSamples := pushBoundedSample metrics.txTimingSamples
              ⟨pathId, UInt64.ofNat sampled, 1, monotonicClockUs now, peerScope⟩ }

def observeSequence (peerScope : Option UInt32) :
    SequenceObservation × DataplaneMetrics :=
  let (observation, tracker) := ((metrics.receiveSequences peerScope).getD {}).observe sequence
  (observation, { metrics with receiveSequences := insert metrics.receiveSequences peerScope tracker })

def recordReceive (payloadLen : Nat) (peerScope : Option UInt32) :
    SequenceObservation × DataplaneMetrics :=
  let (observation, observed) := metrics.observeSequence sequence peerScope
  (observation,
    { observed with
      paths := upsert observed.paths pathId {} (·.recordRx payloadLen (observed.elapsedUs now) observation)
      rxTimingSamples :=
        if shouldSampleSequence sequence.toNat then
          pushBoundedSample observed.rxTimingSamples ⟨pathId, sequence, 1, monotonicClockUs now, peerScope⟩
        else observed.rxTimingSamples })

def recordReceiveForService (serviceName : String) (pathId : PathId) (payloadLen : Nat)
    (observation : SequenceObservation) : DataplaneMetrics :=
  let nowUs := metrics.elapsedUs now
  { metrics with
    services := upsert metrics.services serviceName {} (·.recordRx payloadLen nowUs observation)
    servicePaths := upsert metrics.servicePaths (serviceName, pathId) {}
      (·.recordRx payloadLen nowUs observation) }

def recordDuplicateReceive (serviceName : Option String) (serviceId : ServiceId) (pathId : PathId) (payloadLen : Nat)
    (expected : Bool) : DataplaneMetrics :=
  let serviceKey := serviceName.getD ("service-id:" ++ toString serviceId.toNat)
  { metrics with
    paths := upsert metrics.paths pathId {} (·.recordDuplicateRx payloadLen expected)
    services := upsert metrics.services serviceKey {} (·.recordDuplicate expected)
    servicePaths := upsert metrics.servicePaths (serviceKey, pathId) {}
      (·.recordDuplicateRx payloadLen expected) }

def recordSendFailed (frameBytes : Nat) (expectedFanout : Bool) : DataplaneMetrics :=
  { metrics with
    paths := upsert metrics.paths pathId {} fun row =>
      { row with
        sendFailedPackets := row.sendFailedPackets + 1
        sendFailedBytes := row.sendFailedBytes + frameBytes
        fanoutSendFailedPackets := row.fanoutSendFailedPackets + if expectedFanout then 1 else 0
        fanoutSendFailedBytes := row.fanoutSendFailedBytes + if expectedFanout then frameBytes else 0 } }

def recordReservedReceived (frameBytes : Nat) (sequence : SequenceNumber) (peerScope : Option UInt32) :
    DataplaneMetrics :=
  let observed := (metrics.observeSequence sequence peerScope).2
  let nowUs := observed.elapsedUs now
  { observed with
    controlMetadata :=
      { observed.controlMetadata with
        received := recordControlCounter observed.controlMetadata.received frameBytes nowUs
        pathControl := upsert observed.controlMetadata.pathControl pathId {} fun row =>
          { row with rx := recordControlCounter row.rx frameBytes nowUs } } }

def recordReservedSent (frameBytes : Nat) :
    DataplaneMetrics :=
  let nowUs := metrics.elapsedUs now
  { metrics with
    controlMetadata :=
      { metrics.controlMetadata with
        sent := recordControlCounter metrics.controlMetadata.sent frameBytes nowUs
        pathControl := upsert metrics.controlMetadata.pathControl pathId {} fun row =>
          { row with tx := recordControlCounter row.tx frameBytes nowUs } } }

def recordSecurityDrop (packetBytes : Nat) : DataplaneMetrics :=
  { metrics with
    securityDrops :=
      { packets := metrics.securityDrops.packets + 1
        bytes := metrics.securityDrops.bytes + packetBytes }
    paths := upsert metrics.paths pathId {} fun row =>
      { row with
        securityDropPackets := row.securityDropPackets + 1
        securityDropBytes := row.securityDropBytes + packetBytes } }

end DataplaneMetrics

end Gatherlink.Dataplane
