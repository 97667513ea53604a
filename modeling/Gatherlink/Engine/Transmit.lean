import Gatherlink.Engine.Plan

/-! Sending planned frames: frame by frame, or grouped by path, remote and session with one
counter reservation per group. -/

namespace Gatherlink.Engine
open Protocol Crypto Dataplane Lib.BigEndian Lib.Exec Lib.Chunks

def PARALLEL_PROTECT_MIN_FRAMES : Nat := 4096

def cryptoResult {α : Type} : Except CryptoError α → Except DataplaneError α
  | .ok value => .ok value
  | .error error => .error (.crypto error)

variable {α : Type} {result : Except CryptoError α}

theorem cryptoResult_ok {value : α} (ok : cryptoResult result = .ok value) : result = .ok value := by
  cases result with
  | ok found => exact congrArg Except.ok (Except.ok.inj ok)
  | error error => cases ok

theorem cryptoResult_error {error : DataplaneError}
    (failed : cryptoResult result = .error error) : ∃ failure, result = .error failure := by
  cases result with
  | ok found => cases failed
  | error failure => exact ⟨failure, rfl⟩

structure PreparedFramePlan where
  frame : Frame
  frameLen : Nat
  expectedFanout : Bool
  datagramCount : Nat
  payloadBytes : Nat
  firstSequence : Option SequenceNumber
  peerScope : Option UInt32
  deriving DecidableEq

structure PreparedFrameGroup where
  pathId : PathId
  remote : SocketAddr
  serviceId : ServiceId
  sessionKey : Option UInt32
  items : List PreparedFramePlan
  deriving DecidableEq

structure PreparedFrameSend where
  packet : Bytes
  plan : PreparedFramePlan
  deriving DecidableEq

structure ProtectedFrameGroup where
  pathId : PathId
  remote : SocketAddr
  items : List PreparedFrameSend
  deriving DecidableEq

section Prepare

/-- One frame as a group of its own, once its length and its remote are checked. -/
def CoreDataplane.prepareFrame (engine : CoreDataplane) (plan : FramePlan) :
    Except DataplaneError PreparedFrameGroup :=
  let frameLen := engine.transportSecurity.pathFrameLen plan.frame
  let pathId := plan.path.pathId
  let sessionKey := plan.peerScope <|> engine.transportSecurity.sessionKeyForService plan.frame.serviceId
  if frameLen > plan.path.mtu then .error (.frameExceedsPathMtu pathId frameLen plan.path.mtu)
  else
    match (sessionKey.bind fun key => engine.learnedPathRemotes (key, pathId)) <|> plan.path.transportRemote with
    | none => .error .noPathAvailable
    | some remote => .ok
        { pathId, remote, serviceId := plan.frame.serviceId, sessionKey
          items := [{
            frame := plan.frame
            frameLen
            expectedFanout := plan.expectedFanout
            datagramCount := plan.datagrams.length
            payloadBytes := (plan.datagrams.map (·.payloadLen)).sum
            firstSequence := plan.datagrams.head?.map (·.sequence)
            peerScope := plan.peerScope }] }

/-- A frame joins the last group if path, remote and session agree. -/
def appendGroup (groups : List PreparedFrameGroup) (single : PreparedFrameGroup) : List PreparedFrameGroup :=
  match groups.getLast? with
  | none => [single]
  | some last =>
      if last.pathId = single.pathId ∧ last.remote = single.remote ∧ last.sessionKey = single.sessionKey then
        groups.dropLast ++ [{ last with items := last.items ++ single.items }]
      else groups ++ [single]

def CoreDataplane.prepareGroups (engine : CoreDataplane) :
    List PreparedFrameGroup → List FramePlan → Except DataplaneError (List PreparedFrameGroup)
  | groups, [] => .ok groups
  | groups, plan :: rest => do
      let single ← engine.prepareFrame plan
      engine.prepareGroups (appendGroup groups single) rest

end Prepare

section Protect

variable (os : Os) (aead : Aead)

def reserveFrameProtection (group : PreparedFrameGroup) : Run ReservedFrameProtection :=
  attempt fun machine =>
    let (result, transportSecurity) := machine.engine.transportSecurity.reserveFrameProtectionBatch
      group.serviceId group.sessionKey group.items.length
    (cryptoResult result, { machine with engine := { machine.engine with transportSecurity } })

def reserveGroups : List PreparedFrameGroup → Run (List (PreparedFrameGroup × ReservedFrameProtection))
  | [] => pure []
  | group :: rest => do
      let protection ← reserveFrameProtection group
      let later ← reserveGroups rest
      pure ((group, protection) :: later)

/-- The packets one worker seals before its first failure, and that failure. -/
def protectItemChunk (protection : ReservedFrameProtection) :
    List (PreparedFramePlan × Nat) → List PreparedFrameSend × Option CryptoError
  | [] => ([], none)
  | (item, index) :: rest =>
      match protection.protectFrame aead index item.frame with
      | .error error => ([], some error)
      | .ok packet =>
          let (sends, failure) := protectItemChunk protection rest
          (⟨packet, item⟩ :: sends, failure)

/-- The pieces that the workers seal side by side. -/
def workerChunks (items : List PreparedFramePlan) : List (List (PreparedFramePlan × Nat)) :=
  if items.length < PARALLEL_PROTECT_MIN_FRAMES then [items.zipIdx]
  else
    let shares := (items.length + PARALLEL_PROTECT_MIN_FRAMES - 1) / PARALLEL_PROTECT_MIN_FRAMES
    let workers := max (min (max os.availableParallelism 1) shares) 1
    if workers = 1 then [items.zipIdx]
    else chunks ((items.length + workers - 1) / workers) items.zipIdx

theorem workerChunks_flatten (items : List PreparedFramePlan) : (workerChunks os items).flatten = items.zipIdx := by
  unfold workerChunks
  by_cases few : items.length < PARALLEL_PROTECT_MIN_FRAMES
  · simp [few]
  · simp only [few, if_false]
    split
    · simp
    · refine flatten_chunks (Nat.div_pos ?_ (by omega)) _
      simp only [PARALLEL_PROTECT_MIN_FRAMES] at few
      omega

/-- The ledger entries of packets sealed under a reservation. -/
def sealedUnder (protection : ReservedFrameProtection) (sends : List PreparedFrameSend) : List (Key × Bytes) :=
  match protection with
  | .none => []
  | .secure counters => sends.map fun send => (counters.cipher, send.packet)

def protectGroup (group : PreparedFrameGroup) (protection : ReservedFrameProtection) : Run ProtectedFrameGroup := do
  let sealing := (workerChunks os group.items).map (protectItemChunk aead protection)
  let sends := sealing.flatMap (·.1)
  modify fun machine => { machine with net := machine.net.protect (sealedUnder protection sends) }
  match sealing.findSome? (·.2) with
  | some error => throw (.crypto error)
  | none => pure ⟨group.pathId, group.remote, sends⟩

def protectGroups : List (PreparedFrameGroup × ReservedFrameProtection) → Run (List ProtectedFrameGroup)
  | [] => pure []
  | (group, protection) :: rest => do
      let sealedGroup ← protectGroup os aead group protection
      let later ← protectGroups rest
      pure (sealedGroup :: later)

end Protect

section Send

variable (os : Os) (aead : Aead) (now : Nat)

def recordSentFrame (serviceName : String) (pathId : PathId) (machine : Machine) (send : PreparedFrameSend) : Machine :=
  let plan := send.plan
  let forwarded := machine.engine.metrics.recordForwardBatch now serviceName pathId plan.datagramCount
    plan.payloadBytes
  let sampled := match plan.firstSequence with
    | none => forwarded
    | some sequence => forwarded.recordTransmitTimingSample now pathId sequence plan.datagramCount plan.peerScope
  { machine with
    engine := { machine.engine with metrics := sampled }
    summary := machine.summary.recordMany plan.datagramCount plan.payloadBytes }

def recordFailedFrame (pathId : PathId) (machine : Machine) (send : PreparedFrameSend) : Machine :=
  { machine with
    engine :=
      { machine.engine with
        metrics := machine.engine.metrics.recordSendFailed pathId send.plan.frameLen send.plan.expectedFanout } }

def recordProtectedGroupSend (serviceName : String) (group : ProtectedFrameGroup) (sent : Nat) : Run PUnit :=
  modify fun machine =>
    (group.items.drop sent).foldl (recordFailedFrame group.pathId)
      ((group.items.take sent).foldl (recordSentFrame now serviceName group.pathId) machine)

/-- A failed send counts every frame of the group as failed. -/
def sendGroup (serviceName : String) (group : ProtectedFrameGroup) : Run PUnit := do
  let answer ← capture (onTransports
    (PathTransportSet.sendFramesTo os aead group.pathId (group.items.map (·.packet)) group.remote))
  match answer with
  | .ok sent => recordProtectedGroupSend now serviceName group sent
  | .error (.sendFailed _) => recordProtectedGroupSend now serviceName group 0
  | .error error => throw (.udpService error)

def transmitPlannedFramesSummary (serviceName : String) (frames : List FramePlan) : Run PacketBatchSummary := do
  modify fun machine => { machine with summary := {} }
  let prepared ← reads (·.engine.prepareGroups [] frames)
  match prepared with
  | .error error => throw error
  | .ok groups => do
      let reserved ← reserveGroups groups
      let sealedGroups ← protectGroups os aead reserved
      sealedGroups.forM (sendGroup os aead now serviceName)
      reads (·.summary)

def protectFrame (frame : Frame) (peerScope : Option UInt32) : Run Bytes :=
  attempt fun machine =>
    let security := machine.engine.transportSecurity
    let (result, transportSecurity) :=
      security.protectFrameForServiceOrSession aead frame.serviceId peerScope frame
    let entries := match result, security.sendKeyFor frame.serviceId peerScope with
      | .ok packet, some key => [(key, packet)]
      | _, _ => []
    (cryptoResult result,
      { machine with
        engine := { machine.engine with transportSecurity }
        net := machine.net.protect entries })

def trySendPathFrame (pathId : PathId) (frame : Frame) (peerScope : Option UInt32) (frameLen : Nat)
    (expectedFanout : Bool) : Run Bool := do
  let packet ← protectFrame aead frame peerScope
  let learned ← reads fun machine =>
    (peerScope <|> machine.engine.transportSecurity.sessionKeyForService frame.serviceId).bind fun key =>
      machine.engine.learnedPathRemotes (key, pathId)
  let answer ← capture (onTransports (match learned with
    | some remote => PathTransportSet.sendFrameTo os aead pathId packet remote
    | none => PathTransportSet.sendFrame os aead pathId packet))
  match answer with
  | .ok _ => pure true
  | .error (.sendFailed _) => do
      modify fun machine =>
        { machine with
          engine :=
            { machine.engine with
              metrics := machine.engine.metrics.recordSendFailed pathId frameLen expectedFanout } }
      pure false
  | .error error => throw (.udpService error)

end Send

end Gatherlink.Engine
