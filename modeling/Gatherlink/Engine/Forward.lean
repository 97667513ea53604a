import Gatherlink.Engine.Transmit

/-! Forwarding drained application datagrams, and injecting payloads that Python composed. -/

namespace Gatherlink.Engine
open Protocol Crypto Dataplane Lib.BigEndian Lib.Lookup Lib.Exec

structure ForwardOutcome where
  service : String
  source : SocketAddr
  target : SocketAddr
  payloadLen : Nat
  sequence : SequenceNumber
  pathId : PathId
  frameCount : Nat
  batchCount : Nat
  fragmentCount : Nat
  deriving DecidableEq

structure ControlTransmitPlan where
  pathId : PathId
  sequence : SequenceNumber
  frameLen : Nat
  payloadLen : Nat
  deriving DecidableEq

variable (os : Os) (aead : Aead) (now : Nat)

def liftExcept {α : Type} (result : Except DataplaneError α) : Run α :=
  match result with
  | .ok value => pure value
  | .error error => throw error

def updateMetrics (change : DataplaneMetrics → DataplaneMetrics) : Run PUnit :=
  modify fun machine => { machine with engine := { machine.engine with metrics := change machine.engine.metrics } }

variable (serviceId : ServiceId) (service : UserlandUdpService) (plan : FramePlan)

/-- Only a service that answers its last local source remembers it. -/
def learnLocalSources (datagrams : List ReceivedDatagram) : Run PUnit :=
  modify fun machine =>
    match service.config.returnMode, datagrams.getLast? with
    | .learnedSingleSource, some last =>
        { machine with
          engine :=
            { machine.engine with
              learnedSources := insert machine.engine.learnedSources service.config.serviceId last.source } }
    | _, _ => machine

def planFrames (datagrams : List ReceivedDatagram) : Run (List FramePlan) := do
  let planned ← onEngine (planDatagrams serviceId datagrams)
  liftExcept (coalescePlannedFrames serviceId planned)

def checkPathMtu : Run PUnit :=
  if plan.frame.encodedV1Len > plan.path.mtu then
    throw (.frameExceedsPathMtu plan.path.pathId plan.frame.encodedV1Len plan.path.mtu)
  else pure ⟨⟩

section FrameByFrame

/-- The reported target of a sent datagram. -/
def CoreDataplane.sendTargetForPath (engine : CoreDataplane) (pathId : PathId) (peerScope : Option UInt32) :
    Option SocketAddr :=
  peerScope.bind fun scope => engine.learnedPathRemotes (scope, pathId)

def recordSentDatagrams (serviceName : String) (plan : FramePlan) :
    List PlannedDatagramMeta → Run (List ForwardOutcome)
  | [] => pure []
  | datagram :: rest => do
      let target ← reads fun machine =>
        machine.engine.sendTargetForPath plan.path.pathId datagram.peerScope <|> plan.path.transportRemote
      match target with
      | none => throw .noPathAvailable
      | some target => do
          updateMetrics fun metrics =>
            (metrics.recordForwardBatch now serviceName plan.path.pathId 1
              datagram.payloadLen).recordTransmitTimingSample
              now plan.path.pathId datagram.sequence 1 datagram.peerScope
          let later ← recordSentDatagrams serviceName plan rest
          pure (⟨serviceName, datagram.source, target, datagram.payloadLen, datagram.sequence, plan.path.pathId,
            plan.fragmentCount, if plan.datagrams.length > 1 then plan.datagrams.length else 0,
            plan.fragmentCount - 1⟩ :: later)

def transmitPlannedFrames (serviceName : String) : List FramePlan → Run (List ForwardOutcome)
  | [] => pure []
  | plan :: rest => do
      checkPathMtu plan
      let sent ← trySendPathFrame os aead plan.path.pathId plan.frame plan.peerScope plan.frame.encodedV1Len
        plan.expectedFanout
      let outcomes ← (if sent then recordSentDatagrams now serviceName plan plan.datagrams else pure [])
      let later ← transmitPlannedFrames serviceName rest
      pure (outcomes ++ later)

end FrameByFrame

section Loopback

/-- Hand one payload to the service's own target and report it. -/
def emitLocally (datagram : PlannedDatagramMeta) (payload : Bytes) (frameCount batchCount fragmentCount : Nat) :
    Run ForwardOutcome := do
  let emitted ← onNet (UserlandUdpService.emitTo os
    ⟨service.config.serviceId, datagram.peerScope, datagram.sequence, service.config.target, payload⟩)
  updateMetrics (·.recordForwardBatch now service.config.name plan.path.pathId 1 emitted)
  pure ⟨service.config.name, datagram.source, service.config.target, emitted, datagram.sequence, plan.path.pathId,
    frameCount, batchCount, fragmentCount⟩

def emitBatchLocally (service : UserlandUdpService) (plan : FramePlan) (count : Nat) :
    List (PlannedDatagramMeta × Bytes) → Run (List ForwardOutcome)
  | [] => pure []
  | (datagram, payload) :: rest => do
      let outcome ← emitLocally os now service plan datagram payload 1 count 0
      let later ← emitBatchLocally service plan count rest
      pure (outcome :: later)

/-- One frame without path transports: encoded, decoded again and emitted in place. -/
def loopFrame (fragments : FragmentReassembly) :
    Run (List ForwardOutcome × FragmentReassembly) := do
  checkPathMtu plan
  let decoded ← liftExcept (protocolResult (Frame.decodeV1 plan.frame.encodeV1))
  match decoded.kind with
  | .data =>
      match fragments.pushFrameOrPayload decoded, plan.datagrams.head? with
      | (.error error, _), _ => throw error
      | (.ok none, next), _ => pure ([], next)
      | (.ok (some payload), next), some datagram => do
          let outcome ← emitLocally os now service plan datagram payload plan.fragmentCount 0 (plan.fragmentCount - 1)
          pure ([outcome], next)
      | (.ok (some _), next), none => pure ([], next)
  | .batch => do
      let payloads ← liftExcept (protocolResult decoded.batchPayloads)
      if payloads.length ≠ plan.datagrams.length then throw .batchDatagramMismatch
      else do
        let outcomes ← emitBatchLocally os now service plan payloads.length (plan.datagrams.zip payloads)
        pure (outcomes, fragments)
  | .control => throw .unexpectedFrameKind

def loopFrames (service : UserlandUdpService) : FragmentReassembly → List FramePlan → Run (List ForwardOutcome)
  | _, [] => pure []
  | fragments, plan :: rest => do
      let (outcomes, fragments) ← loopFrame os now service plan fragments
      let later ← loopFrames service fragments rest
      pure (outcomes ++ later)

end Loopback

section Forward

/-- What both forwarding calls do first: look the service up, check it, learn and plan. -/
def prepareForward (name : String) (datagrams : List ReceivedDatagram) :
    Run (UserlandUdpService × List FramePlan) := do
  let found ← reads fun machine => machine.engine.services.find? (·.config.name == name)
  match found with
  | none => throw (.unknownService name)
  | some service => do
      ensureServiceEnabled service.config.serviceId
      learnLocalSources service datagrams
      let frames ← planFrames service.config.serviceId datagrams
      pure (service, frames)

def forwardDatagrams (name : String) (datagrams : List ReceivedDatagram) : Run (List ForwardOutcome) := do
  let (service, frames) ← prepareForward name datagrams
  let looped ← reads (·.engine.pathTransports.isEmpty)
  if looped then loopFrames os now service .default frames
  else transmitPlannedFrames os aead now service.config.name frames

def forwardDatagramsSummary (name : String) (datagrams : List ReceivedDatagram) : Run PacketBatchSummary := do
  let looped ← reads (·.engine.pathTransports.isEmpty)
  if looped then do
    let outcomes ← forwardDatagrams os aead now name datagrams
    pure (outcomes.foldl (fun summary outcome => summary.record outcome.payloadLen) {})
  else do
    let (service, frames) ← prepareForward name datagrams
    transmitPlannedFramesSummary os aead now service.config.name frames

end Forward

section Inject

/-- The placeholder source `127.0.0.1:0` of injected payloads. -/
def injectedSource : SocketAddr := .v4 2130706433 0

def sendControlFrame (peerScope : Option UInt32) : Run (List ControlTransmitPlan) := do
  checkPathMtu plan
  let frameLen := plan.frame.encodedV1Len
  let sent ← trySendPathFrame os aead plan.path.pathId plan.frame peerScope frameLen false
  if sent then do
    updateMetrics (·.recordReservedSent now plan.path.pathId frameLen)
    pure (plan.datagrams.head?.toList.map fun datagram =>
      ⟨plan.path.pathId, datagram.sequence, frameLen, (plan.datagrams.map (·.payloadLen)).sum⟩)
  else pure []

def sendControlFrames (peerScope : Option UInt32) : List FramePlan → Run (List ControlTransmitPlan)
  | [] => pure []
  | plan :: rest => do
      let plans ← sendControlFrame os aead now plan peerScope
      let later ← sendControlFrames peerScope rest
      pure (plans ++ later)

/-- A data frame for one path, with the datagram it stands for. -/
def directFrame (path : CorePathConfig) (sequence : SequenceNumber) (payload : Bytes) :
    Except DataplaneError FramePlan := do
  let frame ← protocolResult (Frame.data serviceId path.pathId sequence payload)
  .ok ⟨frame, path, [⟨injectedSource, none, sequence, false, payload.length⟩], 1⟩

/-- Each copy is framed and sent before the next one is framed. -/
def sendCopies (serviceId : ServiceId) (sequence : SequenceNumber) (payload : Bytes) :
    List CorePathConfig → Run (List ControlTransmitPlan)
  | [] => pure []
  | path :: rest => do
      let plan ← liftExcept (directFrame serviceId path sequence payload)
      let plans ← sendControlFrame os aead now plan none
      let later ← sendCopies serviceId sequence payload rest
      pure (plans ++ later)

def transmitServicePayloadFanout (payload : Bytes) (fanout : UInt16) :
    Run (List ControlTransmitPlan) := do
  let eligible ← reads fun machine =>
    (selectPathIndices machine.engine.paths payload.length).filterMap fun index => machine.engine.paths[index]?
  let paths := if fanout > 0 then eligible.take fanout.toNat else eligible
  if paths.isEmpty then throw .noPathAvailable
  else do
    let sequence ← onEngine (nextSequenceFor none)
    sendCopies os aead now serviceId sequence payload paths

def transmitServicePayload (payload : Bytes) : Run (List ControlTransmitPlan) := do
  let fanout ← reads fun machine => (machine.engine.serviceScheduler serviceId).effectiveFanout payload.length
  if fanout ≠ 1 then transmitServicePayloadFanout os aead now serviceId payload fanout
  else do
    let frames ← planFrames serviceId [⟨payload, injectedSource, none, now⟩]
    sendControlFrames os aead now none frames

def transmitServicePayloadOnPath (pathId : PathId) (payload : Bytes) :
    Run (List ControlTransmitPlan) := do
  let path ← reads fun machine => machine.engine.paths.find? fun path => path.pathId == pathId && path.enabled
  match path with
  | none => throw .noPathAvailable
  | some path => do
      let sequence ← onEngine (nextSequenceFor none)
      sendCopies os aead now serviceId sequence payload [path]

def transmitServicePayloadToPeer (payload : Bytes) (peerScope : UInt32) :
    Run (List ControlTransmitPlan) := do
  let frames ← planFrames serviceId [⟨payload, injectedSource, some peerScope, now⟩]
  sendControlFrames os aead now (some peerScope) frames

end Inject

end Gatherlink.Engine
