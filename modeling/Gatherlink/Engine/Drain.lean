import Gatherlink.Engine.Receive

/-! The receive entry points: draining the carrier sockets through the summary path, and the
detailed path that reports one outcome per delivered payload. -/

namespace Gatherlink.Engine
open Protocol Crypto Dataplane Lib.BigEndian Lib.Exec

/-- A carrier packet as the handler sees it, with the time at which it is processed. -/
structure PathPacket where
  pathId : PathId
  source : SocketAddr
  bytes : Bytes
  now : Nat
  deriving DecidableEq

/-- The clock and the hash order met when a receive call releases expired buffers. -/
structure FlushMoment where
  now : Nat
  keys : List RemoteReorderKey

variable (os : Os) (aead : Aead)

def processPacket (packet : PathPacket) : Run PUnit :=
  processReceivedPathFrameSummary os aead packet.now packet.pathId packet.source packet.bytes

def receivePackets (packets : List PathPacket) : Run PUnit := packets.forM (processPacket os aead)

theorem receivePackets_cons (packet : PathPacket) (rest : List PathPacket) :
    receivePackets os aead (packet :: rest) =
      processPacket os aead packet >>= fun _ => receivePackets os aead rest := rfl

def beginReceive : Run PUnit :=
  modify fun machine => { machine with pending := {}, summary := {} }

def finishReceive (moment : FlushMoment) : Run PacketBatchSummary := do
  flushExpiredReorderBuffers os moment.now moment.keys
  flushRemoteEmitBatch os moment.now
  reads (·.summary)

/-- One receive call that drains exactly the given packets. -/
def receiveListedSummary (packets : List PathPacket) (moment : FlushMoment) : Run PacketBatchSummary := do
  beginReceive
  receivePackets os aead packets
  finishReceive os moment

section Sockets

/-- One `recvmmsg`: the datagrams it returns have left the socket. -/
def takeBatch (socketId limit : Nat) : Run (List Arrival) := do
  let answer ← onNet (ask os.recvmmsg)
  match answer with
  | .error kind => if kind.transient then pure [] else throw (.udpService (.receiveFailed kind))
  | .ok _ => modifyGet fun machine =>
      ((machine.net.inbound socketId).take limit,
        { machine with
          net :=
            { machine.net with
              inbound := Function.update machine.net.inbound socketId
                ((machine.net.inbound socketId).drop limit) } })

def Arrival.onPath (pathId : PathId) (arrival : Arrival) : PathPacket :=
  ⟨pathId, arrival.source, arrival.bytes, arrival.now⟩

/-- Batches of at most 64 until the budget is spent or the socket is empty. A failing packet ends
the drain, and the rest of its batch is gone. -/
def drainUdpSocket (pathId : PathId) (socketId budget : Nat) : Nat → Nat → Run Nat
  | 0, handled => pure handled
  | fuel + 1, handled =>
      if handled < budget then do
        let batch ← takeBatch os socketId (min (budget - handled) RECV_BATCH_LIMIT)
        if batch.isEmpty then pure handled
        else do
          receivePackets os aead (batch.map (Arrival.onPath pathId))
          drainUdpSocket pathId socketId budget fuel (handled + batch.length)
      else pure handled

/-- One turn over the sockets from the cursor on. The engine puts its socket set aside meanwhile;
no handler looks at it. -/
def drainRound (maxFrames pathCount start : Nat) : List Nat → Nat → Bool → Run (Nat × Bool)
  | [], drained, any => pure (drained, any)
  | offset :: rest, drained, any =>
      if drained ≥ maxFrames then pure (drained, any)
      else do
        let cursor := (start + offset) % pathCount
        let socket ← reads fun machine =>
          machine.engine.pathTransports.pathOrder[cursor]?.bind machine.engine.pathTransports.sockets
        match socket with
        | none => drainRound maxFrames pathCount start rest drained any
        | some socket => do
            let share := (maxFrames - drained + pathCount - 1) / pathCount
            let budget := max (min share socket.drainQuantum) 1
            let count ← drainUdpSocket os aead socket.pathId socket.socket.id budget budget 0
            if count > 0 then do
              modify fun machine =>
                { machine with
                  engine :=
                    { machine.engine with
                      pathTransports :=
                        { machine.engine.pathTransports with drainCursor := (cursor + 1) % pathCount } } }
              drainRound maxFrames pathCount start rest (drained + count) true
            else drainRound maxFrames pathCount start rest drained any

def drainAvailable (maxFrames : Nat) : Nat → Nat → Run PUnit
  | 0, _ => pure ⟨⟩
  | fuel + 1, drained =>
      if drained < maxFrames then do
        let (pathCount, start) ← reads fun machine =>
          (machine.engine.pathTransports.pathOrder.length, machine.engine.pathTransports.drainCursor)
        let (total, any) ← drainRound os aead maxFrames pathCount start (List.range pathCount) drained false
        if any then drainAvailable maxFrames fuel total else pure ⟨⟩
      else pure ⟨⟩

def receiveAvailableFromPathsSummary (maxFrames : Nat) (moment : FlushMoment) : Run PacketBatchSummary := do
  beginReceive
  drainAvailable os aead maxFrames maxFrames 0
  finishReceive os moment

end Sockets

section Detailed

structure RemoteDeliverOutcome where
  service : String
  target : SocketAddr
  payloadLen : Nat
  sequence : SequenceNumber
  pathId : PathId
  deriving DecidableEq

def emitRemotePayload (now : Nat) (pathId : PathId) (key : DedupeKey) (payload : Bytes)
    (observation : SequenceObservation) : Run RemoteDeliverOutcome := do
  let (_, service) ← findService key.serviceId
  ensureServiceEnabled key.serviceId
  let target ← reads (·.engine.remoteTarget service)
  let emitted ← emitRemotePayloadSummary os now pathId key payload observation
  pure ⟨service.config.name, target, emitted, key.sequence, pathId⟩

def deliverFirstSeen (now : Nat) (pathId : PathId) (key : DedupeKey) (payload : Bytes) :
    Run (List RemoteDeliverOutcome) := do
  let observation ← observeUserPayloadFirstSeen now key pathId payload.length
  match observation with
  | none => pure []
  | some observation => do
      let outcome ← emitRemotePayload os now pathId key payload observation
      pure [outcome]

def deliverBatch (now : Nat) (frame : Frame) (frameBytes : Nat) (peerScope : Option UInt32) :
    SequenceNumber → List Bytes → Run (List RemoteDeliverOutcome)
  | _, [] => pure []
  | sequence, payload :: rest => do
      let outcomes ← (if isReservedServiceId frame.serviceId then do
          observeReservedPayload now ⟨frame.serviceId, frame.pathId, sequence, payload, frameBytes, peerScope⟩
          pure []
        else deliverFirstSeen os now frame.pathId ⟨frame.serviceId, peerScope, sequence⟩ payload)
      let later ← deliverBatch now frame frameBytes peerScope (sequence + 1) rest
      pure (outcomes ++ later)

def deliverFrameDetailed (now : Nat) (frame : Frame) (frameBytes : Nat) (peerScope : Option UInt32) :
    Run (List RemoteDeliverOutcome) := do
  match frame.kind with
  | .data => do
      let complete ← pushFrameOrPayload frame peerScope
      match complete with
      | none => pure []
      | some payload =>
          if isReservedServiceId frame.serviceId then do
            observeReservedPayload now
              ⟨frame.serviceId, frame.pathId, frame.sequence, payload, frameBytes, peerScope⟩
            pure []
          else deliverFirstSeen os now frame.pathId ⟨frame.serviceId, peerScope, frame.sequence⟩ payload
  | .batch =>
      match frame.batchPayloads with
      | .error error => throw (.protocol error)
      | .ok payloads => deliverBatch os now frame frameBytes peerScope frame.sequence payloads
  | .control => do
      observeReservedPayload now
        ⟨frame.serviceId, frame.pathId, frame.sequence, frame.payload, frameBytes, peerScope⟩
      pure []

def processReceivedPathFrame (packet : PathPacket) : Run (List RemoteDeliverOutcome) := do
  let result ← unprotectPacket aead packet.bytes
  match result with
  | .error .silentDrop => do
      recordSecurityDrop packet.pathId packet.bytes.length
      pure []
  | .error error => throw (.crypto error)
  | .ok unprotected => do
      learnPathRemote unprotected.localReceiverIndex packet.pathId packet.source
      deliverFrameDetailed os packet.now unprotected.frame packet.bytes.length unprotected.localReceiverIndex

/-- The loop of the detailed receive call over the packets it took from the sockets. -/
def receiveAvailableFromPaths : List PathPacket → Run (List RemoteDeliverOutcome)
  | [] => pure []
  | packet :: rest => do
      let outcomes ← processReceivedPathFrame os aead packet
      let later ← receiveAvailableFromPaths rest
      pure (outcomes ++ later)

end Detailed

end Gatherlink.Engine
