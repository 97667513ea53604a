import Gatherlink.Engine.State

/-! The summary receive path: one carrier packet from authentication to the emit batch, through
reassembly, dedupe and the reorder buffers. One clock reading `now` serves a whole packet. -/

namespace Gatherlink.Engine
open Protocol Crypto Dataplane Lib.BigEndian Lib.Lookup Lib.Exec Lib.Sorted

def REMOTE_EMIT_BATCH_LIMIT : Nat := 64
def REMOTE_REORDER_BUFFER_LIMIT : Nat := 8192

section Observation

namespace CoreDataplane

def expectedFanoutDuplicate (engine : CoreDataplane) (serviceId : ServiceId) (payloadLen : Nat) : Bool :=
  (engine.serviceScheduler serviceId).effectiveFanout payloadLen != 1

def observeUserPayloadFirstSeen (engine : CoreDataplane) (now : Nat) (key : DedupeKey) (pathId : PathId)
    (payloadLen : Nat) : Option SequenceObservation × CoreDataplane :=
  match engine.remoteDedupe.observeInScope key with
  | (.firstSeen, window) =>
      let (observation, metrics) := engine.metrics.recordReceive now pathId key.sequence payloadLen key.peerScope
      (some observation, { engine with remoteDedupe := window, metrics })
  | (.duplicate, window) =>
      let serviceName := (engine.services.find? (·.config.serviceId == key.serviceId)).map (·.config.name)
      (none,
        { engine with
          remoteDedupe := window
          metrics := engine.metrics.recordDuplicateReceive serviceName key.serviceId pathId payloadLen
            (engine.expectedFanoutDuplicate key.serviceId payloadLen) })

def observeReceivedReservedServicePayload (engine : CoreDataplane) (now : Nat) (event : ReservedServiceEvent) :
    CoreDataplane :=
  { engine with
    metrics := engine.metrics.recordReservedReceived now event.pathId event.frameBytes event.sequence event.peerScope
    reservedEvents := engine.reservedEvents ++ [event] }

end CoreDataplane

def observeUserPayloadFirstSeen (now : Nat) (key : DedupeKey) (pathId : PathId) (payloadLen : Nat) :
    Run (Option SequenceObservation) :=
  modifyGet fun machine =>
    let (observation, engine) := machine.engine.observeUserPayloadFirstSeen now key pathId payloadLen
    (observation,
      { machine with
        engine
        net := machine.net.observe [(key, (machine.engine.remoteDedupe.observeInScope key).1)] })

def observeReservedPayload (now : Nat) (event : ReservedServiceEvent) : Run PUnit :=
  modify fun machine =>
    { machine with engine := machine.engine.observeReceivedReservedServicePayload now event }

end Observation

section Emission

variable (os : Os) (now : Nat)

def PendingRemoteEmitBatch.emissions (batch : PendingRemoteEmitBatch) (key : PendingRemoteEmitKey) : List Emission :=
  batch.items.map fun item => ⟨key.serviceId, key.peerScope, item.sequence, key.target, item.payload⟩

/-- Count one emitted payload in the service rows and the call's summary. -/
def Machine.recordEmitted (machine : Machine) (serviceIndex : Nat) (pathId : PathId) (payloadLen : Nat)
    (observation : SequenceObservation) : Machine :=
  { machine with
    engine :=
      { machine.engine with
        metrics := machine.engine.metrics.recordReceiveForService now (machine.engine.serviceName serviceIndex)
          pathId payloadLen observation }
    summary := machine.summary.record payloadLen }

/-- The items the kernel did not take are dropped with the batch; a failed emit keeps the batch. -/
def flushRemoteEmitBatch : Run PUnit := do
  let pending ← reads (·.pending)
  match pending.key with
  | none => pure ⟨⟩
  | some key =>
      if pending.items.isEmpty then modify fun machine => { machine with pending := {} }
      else do
        let emitted ← onNet (UserlandUdpService.emitManyTo os (pending.emissions key))
        modify fun machine => (pending.items.take emitted).foldl
          (fun machine item => machine.recordEmitted now key.serviceIndex key.pathId item.payload.length
            item.observation) { machine with pending := {} }

/-- Emit at once; peer-scoped services use the peer's own source socket. Returns the bytes sent. -/
def emitRemotePayloadSummary (pathId : PathId) (key : DedupeKey) (payload : Bytes)
    (observation : SequenceObservation) : Run Nat := do
  let (index, service) ← findService key.serviceId
  let target ← reads (·.engine.remoteTarget service)
  let emission : Emission := ⟨key.serviceId, key.peerScope, key.sequence, target, payload⟩
  let emitted ← (match service.config.returnMode, key.peerScope with
    | .peerScopedSource, some peerScope =>
        onService index (UserlandUdpService.emitToFromPeerSource os peerScope emission)
    | _, _ => onNet (UserlandUdpService.emitTo os emission))
  modify fun machine =>
    { machine with
      engine :=
        { machine.engine with
          metrics := machine.engine.metrics.recordReceiveForService now service.config.name pathId emitted
            observation } }
  pure emitted

def flushWhen (due : PendingRemoteEmitBatch → Bool) : Run PUnit := do
  let pending ← reads (·.pending)
  if due pending then flushRemoteEmitBatch os now else pure ⟨⟩

def PendingRemoteEmitBatch.full (batch : PendingRemoteEmitBatch) : Bool :=
  decide (batch.items.length ≥ REMOTE_EMIT_BATCH_LIMIT)

/-- Append to the pending batch, flushing around it when the key changes or the batch is full. -/
def enqueueRemoteEmit (key : PendingRemoteEmitKey) (item : PendingRemoteEmit) : Run PUnit := do
  flushWhen os now fun pending => (pending.key.isSome && pending.key != some key) || pending.full
  modify fun machine => { machine with pending := ⟨some key, machine.pending.items ++ [item]⟩ }
  flushWhen os now (·.full)

def queueRemotePayloadSummary (pathId : PathId) (key : DedupeKey) (payload : Bytes)
    (observation : SequenceObservation) : Run PUnit := do
  let (index, service) ← findService key.serviceId
  ensureServiceEnabled key.serviceId
  let target ← reads (·.engine.remoteTarget service)
  if service.config.returnMode = .peerScopedSource ∧ key.peerScope.isSome then do
    let emitted ← emitRemotePayloadSummary os now pathId key payload observation
    modify fun machine => { machine with summary := machine.summary.record emitted }
  else
    enqueueRemoteEmit os now ⟨index, key.serviceId, pathId, key.peerScope, target⟩ ⟨payload, key.sequence, observation⟩

end Emission

section Reorder

namespace RemoteReorderBuffer

def new (nextSequence : SequenceNumber) : RemoteReorderBuffer := ⟨nextSequence, [], List.Pairwise.nil⟩

def insertEntry (buffer : RemoteReorderBuffer) (entry : RemoteReorderEntry) : RemoteReorderBuffer :=
  ⟨buffer.nextSequence, insertNew RemoteReorderEntry.rank entry buffer.entries, insertNew_sorted buffer.sorted⟩

/-- Remove the entry the buffer waits for and wait for the next one. -/
def takeNext (buffer : RemoteReorderBuffer) : Option RemoteReorderEntry × RemoteReorderBuffer :=
  ((takeAt RemoteReorderEntry.rank buffer.nextSequence.toNat buffer.entries).1,
    ⟨max (buffer.nextSequence + 1) 1,
      (takeAt RemoteReorderEntry.rank buffer.nextSequence.toNat buffer.entries).2, takeAt_sorted buffer.sorted⟩)

/-- The release loop. Every second round at the latest removes an entry, so twice the number of
entries bounds the rounds. -/
def release (now hold : Nat) : Nat → RemoteReorderBuffer → List RemoteReorderEntry × RemoteReorderBuffer
  | 0, buffer => ([], buffer)
  | fuel + 1, buffer =>
      match buffer.takeNext with
      | (some entry, rest) =>
          let (ready, final) := release now hold fuel rest
          (entry :: ready, final)
      | (none, _) =>
          match buffer.entries with
          | [] => ([], buffer)
          | oldest :: _ =>
              if now - oldest.receivedAt < hold ∧ buffer.entries.length ≤ REMOTE_REORDER_BUFFER_LIMIT then
                ([], buffer)
              else release now hold fuel { buffer with nextSequence := oldest.sequence }

end RemoteReorderBuffer

namespace CoreDataplane

variable (engine : CoreDataplane)

def drainReorderReady (now hold : Nat) (key : RemoteReorderKey) :
    List RemoteReorderEntry × CoreDataplane :=
  match engine.remoteReorder key with
  | none => ([], engine)
  | some buffer =>
      let (ready, rest) := buffer.release now hold (2 * buffer.entries.length + 1)
      (ready,
        { engine with
          remoteReorder := if rest.entries.isEmpty then remove engine.remoteReorder key
            else insert engine.remoteReorder key rest })

def drainExpiredReorderReady (now : Nat) (key : RemoteReorderKey) :
    List RemoteReorderEntry × CoreDataplane :=
  match (engine.remoteReorder key).bind (·.entries.head?) with
  | none => ([], engine)
  | some oldest =>
      let hold := engine.reorderHoldForPath oldest.pathId
      if now - oldest.receivedAt < hold then ([], engine) else engine.drainReorderReady now hold key

/-- Put one payload into its buffer, creating the buffer where the gap starts. -/
def bufferEntry (key : RemoteReorderKey) (entry : RemoteReorderEntry) : CoreDataplane :=
  let firstExpected :=
    if entry.sequence.toNat < entry.observation.missingPackets.toNat then 0
    else entry.sequence - entry.observation.missingPackets
  let buffer := ((engine.remoteReorder key).getD (.new firstExpected)).insertEntry entry
  { engine with remoteReorder := insert engine.remoteReorder key buffer }

/-- Hold one payload and release what is ready. -/
def holdForReorder (now hold : Nat) (key : RemoteReorderKey) (entry : RemoteReorderEntry) :
    List RemoteReorderEntry × CoreDataplane :=
  (engine.bufferEntry key entry).drainReorderReady now hold key

end CoreDataplane

variable (os : Os) (now : Nat)

def queueReady (key : RemoteReorderKey) (ready : List RemoteReorderEntry) : Run PUnit :=
  ready.forM fun entry =>
    queueRemotePayloadSummary os now entry.pathId ⟨key.serviceId, key.peerScope, entry.sequence⟩ entry.payload
      entry.observation

def queueRemotePayloadWithReorder (pathId : PathId) (key : DedupeKey) (payload : Bytes)
    (observation : SequenceObservation) : Run PUnit := do
  let hold ← reads (·.engine.reorderHoldForPath pathId)
  let buffered ← reads fun machine => (machine.engine.remoteReorder ⟨key.serviceId, key.peerScope⟩).isSome
  if hold = 0 then queueRemotePayloadSummary os now pathId key payload observation
  else if !buffered ∧ !observation.outOfOrder ∧ observation.missingPackets = 0 then
    queueRemotePayloadSummary os now pathId key payload observation
  else do
    let ready ← onEngine (modifyGet (·.holdForReorder now hold ⟨key.serviceId, key.peerScope⟩
      ⟨key.sequence, pathId, payload, observation, now⟩))
    queueReady os now ⟨key.serviceId, key.peerScope⟩ ready

/-- A payload goes on only if dedupe has reported it as first seen. -/
def queueFirstSeen (pathId : PathId) (key : DedupeKey) (payload : Bytes) : Run PUnit := do
  let observation ← observeUserPayloadFirstSeen now key pathId payload.length
  match observation with
  | none => pure ⟨⟩
  | some observation => queueRemotePayloadWithReorder os now pathId key payload observation

/-- `keys` is the order in which the hash map happens to list its buffers. -/
def flushExpiredReorderBuffers (keys : List RemoteReorderKey) : Run PUnit :=
  keys.forM fun key => do
    let ready ← onEngine (modifyGet (·.drainExpiredReorderReady now key))
    queueReady os now key ready

end Reorder

section Frames

variable (os : Os) (aead : Aead) (now : Nat)

/-- Dedupe the payloads of a batch frame; the first-seen ones go on with their observation. -/
def observeBatch (serviceId : ServiceId) (pathId : PathId) (peerScope : Option UInt32) :
    SequenceNumber → List Bytes → Run (List PendingRemoteEmit)
  | _, [] => pure []
  | sequence, payload :: rest => do
      let observation ← observeUserPayloadFirstSeen now ⟨serviceId, peerScope, sequence⟩ pathId payload.length
      let later ← observeBatch serviceId pathId peerScope (sequence + 1) rest
      pure ((observation.map fun observation => ⟨payload, sequence, observation⟩).toList ++ later)

/-- Emit a whole batch frame in one go. `false` leaves it to the caller: peer-scoped sources need
one socket per peer. -/
def tryEmitRemoteBatchWithoutReorder (serviceId : ServiceId) (pathId : PathId) (baseSequence : SequenceNumber)
    (payloads : List Bytes) (peerScope : Option UInt32) : Run Bool := do
  let (index, service) ← findService serviceId
  ensureServiceEnabled serviceId
  if service.config.returnMode = .peerScopedSource ∧ peerScope.isSome then pure false
  else do
    let target ← reads (·.engine.remoteTarget service)
    let items ← observeBatch now serviceId pathId peerScope baseSequence payloads
    if items.isEmpty then pure true
    else do
      let emitted ← onNet (UserlandUdpService.emitManyTo os
        (PendingRemoteEmitBatch.emissions ⟨none, items⟩ ⟨index, serviceId, pathId, peerScope, target⟩))
      modify fun machine => (items.take emitted).foldl
        (fun machine item => machine.recordEmitted now index pathId item.payload.length item.observation) machine
      pure true

/-- The payloads of a batch frame one after another, each deduped just before it is queued. -/
def queueBatchPayloads (serviceId : ServiceId) (pathId : PathId) (peerScope : Option UInt32) :
    SequenceNumber → List Bytes → Run PUnit
  | _, [] => pure ⟨⟩
  | sequence, payload :: rest => do
      queueFirstSeen os now pathId ⟨serviceId, peerScope, sequence⟩ payload
      queueBatchPayloads serviceId pathId peerScope (sequence + 1) rest

def emitRemoteBatchPayloadsSummary (serviceId : ServiceId) (pathId : PathId) (baseSequence : SequenceNumber)
    (payloads : List Bytes) (peerScope : Option UInt32) : Run PUnit := do
  let hold ← reads (·.engine.reorderHoldForPath pathId)
  let emitted ← (if hold = 0 then
      tryEmitRemoteBatchWithoutReorder os now serviceId pathId baseSequence payloads peerScope
    else pure false)
  if emitted then pure ⟨⟩
  else do
    ensureServiceEnabled serviceId
    queueBatchPayloads os now serviceId pathId peerScope baseSequence payloads

/-- The reserved-service payloads of a batch frame, which Python will decode. -/
def observeReservedBatch (frame : Frame) (frameBytes : Nat) (peerScope : Option UInt32) :
    SequenceNumber → List Bytes → Run PUnit
  | _, [] => pure ⟨⟩
  | sequence, payload :: rest => do
      observeReservedPayload now ⟨frame.serviceId, frame.pathId, sequence, payload, frameBytes, peerScope⟩
      observeReservedBatch frame frameBytes peerScope (sequence + 1) rest

def pushFrameOrPayload (frame : Frame) (peerScope : Option UInt32) : Run (Option Bytes) :=
  attempt fun machine =>
    let (result, remoteFragments) := machine.engine.remoteFragments.pushFrameOrPayload frame
    -- the frame is that of the packet opened last
    let receiveKey := machine.net.history.opened.getLast?.map Prod.fst
    (result,
      { machine with
        engine := { machine.engine with remoteFragments }
        net := machine.net.push [⟨peerScope, receiveKey, frame, result⟩] })

/-- A data frame's payload, once it is complete. -/
def deliverPayload (frame : Frame) (payload : Bytes) (frameBytes : Nat) (peerScope : Option UInt32) : Run PUnit := do
  if isReservedServiceId frame.serviceId then do
    flushRemoteEmitBatch os now
    observeReservedPayload now ⟨frame.serviceId, frame.pathId, frame.sequence, payload, frameBytes, peerScope⟩
  else queueFirstSeen os now frame.pathId ⟨frame.serviceId, peerScope, frame.sequence⟩ payload

/-- What happens to a frame once its packet is authenticated. -/
def deliverFrame (frame : Frame) (frameBytes : Nat) (peerScope : Option UInt32) : Run PUnit := do
  match frame.kind with
  | .data => do
      let complete ← pushFrameOrPayload frame peerScope
      match complete with
      | none => pure ⟨⟩
      | some payload => deliverPayload os now frame payload frameBytes peerScope
  | .batch => do
      flushRemoteEmitBatch os now
      match frame.batchPayloads with
      | .error error => throw (.protocol error)
      | .ok payloads =>
          if isReservedServiceId frame.serviceId then
            observeReservedBatch now frame frameBytes peerScope frame.sequence payloads
          else
            emitRemoteBatchPayloadsSummary os now frame.serviceId frame.pathId frame.sequence payloads peerScope
  | .control => do
      flushRemoteEmitBatch os now
      observeReservedPayload now
        ⟨frame.serviceId, frame.pathId, frame.sequence, frame.payload, frameBytes, peerScope⟩

/-- The receive key and counter of a packet that passes authentication and the replay check. -/
def openedBy (security : TransportSecurity) (packet : Bytes) : List (Key × Nat) :=
  match (security.openPacket aead packet).1 with
  | .ok opened => [(opened.key, opened.counter)]
  | .error _ => []

def unprotectPacket (packet : Bytes) : Run (Except CryptoError UnprotectedFrame) :=
  modifyGet fun machine =>
    let (result, transportSecurity) := machine.engine.transportSecurity.unprotectPacketWithSession aead packet
    (result,
      { machine with
        engine := { machine.engine with transportSecurity }
        net := machine.net.open' (openedBy aead machine.engine.transportSecurity packet) })

def learnPathRemote (peerScope : Option UInt32) (pathId : PathId) (source : SocketAddr) : Run PUnit :=
  match peerScope with
  | none => pure ⟨⟩
  | some receiverIndex => modify fun machine =>
      { machine with
        engine :=
          { machine.engine with
            learnedPathRemotes := insert machine.engine.learnedPathRemotes (receiverIndex, pathId) source } }

def recordSecurityDrop (pathId : PathId) (packetBytes : Nat) : Run PUnit :=
  modify fun machine =>
    { machine with
      engine := { machine.engine with metrics := machine.engine.metrics.recordSecurityDrop pathId packetBytes } }

def processReceivedPathFrameSummary (pathId : PathId) (source : SocketAddr) (bytes : Bytes) : Run PUnit := do
  let result ← unprotectPacket aead bytes
  match result with
  | .error .silentDrop => recordSecurityDrop pathId bytes.length
  | .error error => throw (.crypto error)
  | .ok unprotected => do
      learnPathRemote unprotected.localReceiverIndex pathId source
      deliverFrame os now unprotected.frame bytes.length unprotected.localReceiverIndex

end Frames

end Gatherlink.Engine
