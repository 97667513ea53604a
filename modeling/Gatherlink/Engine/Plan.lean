import Gatherlink.Engine.State

/-! Planning: sequence numbers and datagram ids, path selection with burst runs and flowlets, and
coalescing of planned datagrams into frames. -/

namespace Gatherlink.Engine
open Protocol Dataplane Lib.BigEndian Lib.Lookup Lib.Exec

def BURST_BATCH_MIN_DATAGRAMS : Nat := 2
def BURST_PATH_SEND_RUN_DATAGRAMS : Nat := 4096

/-- A datagram read from an application socket, with the clock reading met when it is planned. -/
structure ReceivedDatagram where
  payload : Bytes
  source : SocketAddr
  peerScope : Option UInt32
  now : Nat
  deriving DecidableEq

/-- Planning changes only the engine. -/
abbrev PlanM := EStateM DataplaneError CoreDataplane

def nextBatchLen (currentLen payloadLen : Nat) : Nat :=
  if currentLen = 0 then V1_HEADER_LEN + 2 + 2 + payloadLen else currentLen + 2 + payloadLen

def canExtendBatch (path : CorePathConfig) (currentLen payloadLen : Nat) : Bool :=
  path.acceptsWholePacket && decide (payloadLen ≤ path.maxDataPayload) &&
    decide (nextBatchLen currentLen payloadLen ≤ path.mtu)

def canReuseBurstPathWithoutCoalescing (path : CorePathConfig) (payloadLen runLen maxRun : Nat) : Bool :=
  path.acceptsWholePacket && decide (payloadLen ≤ path.maxDataPayload) && decide (runLen < maxRun)

section Selection

def nextSequenceFor (peerScope : Option UInt32) : PlanM SequenceNumber :=
  modifyGet fun engine =>
    let current := (engine.nextSequences peerScope).getD 1
    (current, { engine with nextSequences := insert engine.nextSequences peerScope (max (current + 1) 1) })

def pathAt (index : Option Nat) : PlanM CorePathConfig := do
  let path ← reads fun engine : CoreDataplane => index.bind fun index => engine.paths[index]?
  match path with
  | none => throw .noPathAvailable
  | some path => pure path

def selectScheduledPath (now payloadLen : Nat) (allowed : CorePathConfig → Bool) : PlanM CorePathConfig := do
  let index ← modifyGet fun engine : CoreDataplane =>
    let (index, scheduler) := engine.scheduler.selectPathIndexWhere now engine.paths payloadLen allowed
    (index, { engine with scheduler })
  pathAt index

/-- Highest capacity first, then latency, loss and path id. -/
def bestPathKey (path : CorePathConfig) : List Nat :=
  [U64_MAX - path.primitives.txCapacityBps.getD 0, latencyOrMax path, path.primitives.lossPpm, path.pathId.toNat]

def bestWholePath (paths : List CorePathConfig) (payloadLen : Nat) : Option CorePathConfig :=
  minByKey bestPathKey (paths.filter fun path =>
    path.acceptsWholePacket && decide (payloadLen ≤ path.maxDataPayload))

def bestFragmentPath (paths : List CorePathConfig) : Option CorePathConfig :=
  minByKey bestPathKey (paths.filter (·.acceptsFragmentedPacket))

def requirePath (path : Option CorePathConfig) : PlanM CorePathConfig :=
  match path with
  | none => throw .noPathAvailable
  | some path => pure path

def selectSingleBestServicePath (payloadLen : Nat) (scheduler : ServiceSchedulerConfig) : PlanM CorePathConfig := do
  let paths ← reads fun engine : CoreDataplane => engine.paths.filter fun path => scheduler.allowsPathId path.pathId
  requirePath (bestWholePath paths payloadLen <|> bestFragmentPath paths)

def selectWeightedServicePathWhere (serviceId : ServiceId) (payloadLen : Nat) (scheduler : ServiceSchedulerConfig)
    (allowed : CorePathConfig → Bool) : PlanM CorePathConfig := do
  let index ← modifyGet fun engine : CoreDataplane =>
    let weighted := (engine.serviceWeightedSchedulers serviceId).getD
      (.compileWithPathWeights engine.paths scheduler.allowedPathIds scheduler.pathWeights)
    let (index, weighted) := weighted.selectPathIndexWhere engine.paths payloadLen allowed
    (index,
      { engine with serviceWeightedSchedulers := insert engine.serviceWeightedSchedulers serviceId weighted })
  pathAt index

def selectPathForService (now : Nat) (serviceId : ServiceId) (payloadLen : Nat)
    (scheduler : ServiceSchedulerConfig) : PlanM CorePathConfig :=
  match scheduler.pathPolicy with
  | .inherit =>
      if scheduler.allowedPathIds.isEmpty then selectScheduledPath now payloadLen fun _ => true
      else selectScheduledPath now payloadLen fun path => scheduler.allowsPathId path.pathId
  | .singleBestPath => selectSingleBestServicePath payloadLen scheduler
  | .weightedRoundRobin => selectWeightedServicePathWhere serviceId payloadLen scheduler fun _ => true

/-- The path of a flowlet that is still warm and can carry the payload whole. -/
def CoreDataplane.warmFlowletPath (engine : CoreDataplane) (now : Nat) (key : ServiceFlowletKey)
    (payloadLen : Nat) (scheduler : ServiceSchedulerConfig) : Option (ServiceFlowletState × CorePathConfig) :=
  if scheduler.flowletIdleUs = 0 then none
  else
    (engine.serviceFlowlets key).bind fun flowlet =>
      if now - flowlet.lastUsed < scheduler.flowletIdleUs * 1000 ∧
          (scheduler.flowletMaxHoldUs = 0 ∨ now - flowlet.startedAt < scheduler.flowletMaxHoldUs * 1000) then
        (engine.paths.find? fun path => path.pathId == flowlet.pathId && path.acceptsWholePacket &&
          decide (payloadLen ≤ path.maxDataPayload)).map fun path => (flowlet, path)
      else none

def rememberFlowlet (key : ServiceFlowletKey) (flowlet : ServiceFlowletState) : PlanM PUnit :=
  modify fun engine => { engine with serviceFlowlets := insert engine.serviceFlowlets key flowlet }

def selectServiceFlowletPath (now : Nat) (serviceId : ServiceId) (source : SocketAddr) (payloadLen : Nat)
    (scheduler : ServiceSchedulerConfig) : PlanM CorePathConfig := do
  let key : ServiceFlowletKey := ⟨serviceId, source⟩
  let warm ← reads (·.warmFlowletPath now key payloadLen scheduler)
  match warm with
  | some (flowlet, path) => do
      rememberFlowlet key { flowlet with lastUsed := now }
      pure path
  | none => do
      let path ← selectPathForService now serviceId payloadLen scheduler
      if scheduler.flowletIdleUs > 0 then do
        rememberFlowlet key ⟨path.pathId, now, now⟩
        pure path
      else pure path

/-- The paths a fanout copies a payload to. -/
def CoreDataplane.fanoutPaths (engine : CoreDataplane) (payloadLen : Nat) (scheduler : ServiceSchedulerConfig)
    (fanout : UInt16) : List CorePathConfig :=
  let eligible := ((selectPathIndices engine.paths payloadLen).filterMap fun index => engine.paths[index]?).filter
    fun path => scheduler.allowsPathId path.pathId
  if fanout > 0 then eligible.take fanout.toNat else eligible

def requirePaths (paths : List CorePathConfig) : PlanM (List CorePathConfig) :=
  if paths.isEmpty then throw .noPathAvailable else pure paths

def selectServicePaths (now : Nat) (serviceId : ServiceId) (payloadLen : Nat) (source : SocketAddr) :
    PlanM (List CorePathConfig) := do
  let scheduler ← reads (·.serviceScheduler serviceId)
  let fanout := scheduler.effectiveFanout payloadLen
  if fanout = 1 then do
    let path ← selectServiceFlowletPath now serviceId source payloadLen scheduler
    pure [path]
  else do
    let paths ← reads (·.fanoutPaths payloadLen scheduler fanout)
    requirePaths paths

def selectPeerScopedPaths (serviceId : ServiceId) (peerScope : UInt32) (payloadLen : Nat) :
    PlanM (List CorePathConfig) := do
  let scheduler ← reads (·.serviceScheduler serviceId)
  let reachable ← reads fun engine : CoreDataplane =>
    (engine.paths.filter fun path => (engine.learnedPathRemotes (peerScope, path.pathId)).isSome).map (·.pathId)
  let eligible ← reads fun engine : CoreDataplane =>
    engine.paths.filter fun path => reachable.contains path.pathId && scheduler.allowsPathId path.pathId
  if eligible.isEmpty then throw .noPathAvailable
  else do
    let path ← (match scheduler.pathPolicy with
      | .weightedRoundRobin =>
          selectWeightedServicePathWhere serviceId payloadLen scheduler fun path => reachable.contains path.pathId
      | .singleBestPath | .inherit =>
          requirePath (bestWholePath eligible payloadLen <|> eligible.find? (·.acceptsFragmentedPacket)))
    pure [path]

end Selection

section Bursts

/-- The path a burst is on, the length of the batch frame being filled, and the datagrams sent on
the path in a row. -/
structure BurstRun where
  path : Option CorePathConfig := none
  batchLen : Nat := 0
  runLen : Nat := 0
  deriving DecidableEq

/-- The burst path, if the scheduler lets the next datagram stay on it. -/
def CoreDataplane.reusableBurstPath (engine : CoreDataplane) (serviceId : ServiceId) (payloadLen : Nat)
    (run : BurstRun) : Option CorePathConfig :=
  let configured := (engine.serviceScheduler serviceId).pathRunDatagrams
  let maxRun := if configured = 0 then BURST_PATH_SEND_RUN_DATAGRAMS else max configured BURST_BATCH_MIN_DATAGRAMS
  run.path.bind fun path =>
    if !engine.scheduler.requiresPerDatagramDecisions &&
        (canExtendBatch path run.batchLen payloadLen || (engine.scheduler.allowsNoncoalescedBurstReuse &&
          canReuseBurstPathWithoutCoalescing path payloadLen run.runLen maxRun)) then some path
    else none

def selectServicePathsForBurstBatch (now : Nat) (serviceId : ServiceId) (payloadLen : Nat) (source : SocketAddr)
    (run : BurstRun) : PlanM (List CorePathConfig × BurstRun) := do
  let reusable ← reads (·.reusableBurstPath serviceId payloadLen run)
  match reusable with
  | some path => pure ([path], run)
  | none => do
      let paths ← selectServicePaths now serviceId payloadLen source
      pure (paths, {})

/-- The paths of one datagram, with the burst state to go on with. -/
def selectDatagramPaths (serviceId : ServiceId) (burst : Bool) (run : BurstRun) (datagram : ReceivedDatagram) :
    PlanM (List CorePathConfig × BurstRun) :=
  match datagram.peerScope with
  | some peerScope => do
      let paths ← selectPeerScopedPaths serviceId peerScope datagram.payload.length
      pure (paths, {})
  | none =>
      if burst then
        selectServicePathsForBurstBatch datagram.now serviceId datagram.payload.length datagram.source run
      else do
        let paths ← selectServicePaths datagram.now serviceId datagram.payload.length datagram.source
        pure (paths, run)

/-- A datagram id is spent only when the first path cannot carry the payload whole. -/
def assignDatagramId (paths : List CorePathConfig) (payloadLen : Nat) : PlanM (Option UInt32) :=
  if (paths.head?.map fun path => decide (payloadLen > path.maxDataPayload)).getD false then
    modifyGet fun engine =>
      (some engine.nextDatagramId, { engine with nextDatagramId := max (engine.nextDatagramId + 1) 1 })
  else pure none

/-- Fanout and fragments end a burst run; any other datagram extends or starts one. -/
def BurstRun.advance (run : BurstRun) (burst : Bool) (datagram : ReceivedDatagram) (paths : List CorePathConfig)
    (fragment : Option UInt32) : BurstRun :=
  if burst && datagram.peerScope.isNone then
    if decide (paths.length > 1) || fragment.isSome then {}
    else
      match paths.head? with
      | none => run
      | some path =>
          if (run.path.map (·.pathId)) = some path.pathId then
            { path := run.path
              batchLen := if canExtendBatch path run.batchLen datagram.payload.length then
                  nextBatchLen run.batchLen datagram.payload.length
                else nextBatchLen 0 datagram.payload.length
              runLen := run.runLen + 1 }
          else ⟨some path, nextBatchLen 0 datagram.payload.length, 1⟩
  else run

def planDatagram (serviceId : ServiceId) (burst : Bool) (run : BurstRun) (datagram : ReceivedDatagram) :
    PlanM (List PlannedDatagram × BurstRun) := do
  let sequence ← nextSequenceFor datagram.peerScope
  let (paths, run) ← selectDatagramPaths serviceId burst run datagram
  let fragment ← assignDatagramId paths datagram.payload.length
  pure (paths.map fun path =>
      ⟨datagram.payload, datagram.source, datagram.peerScope, sequence, serviceId, path, fragment,
        decide (paths.length > 1)⟩,
    run.advance burst datagram paths fragment)

def planFrom (serviceId : ServiceId) (burst : Bool) : BurstRun → List ReceivedDatagram → PlanM (List PlannedDatagram)
  | _, [] => pure []
  | run, datagram :: rest => do
      let (planned, run) ← planDatagram serviceId burst run datagram
      let later ← planFrom serviceId burst run rest
      pure (planned ++ later)

def planDatagrams (serviceId : ServiceId) (datagrams : List ReceivedDatagram) : PlanM (List PlannedDatagram) :=
  planFrom serviceId (decide (datagrams.length ≥ BURST_BATCH_MIN_DATAGRAMS)) {} datagrams

end Bursts

section Coalescing

/-- The planned datagrams that join the frame opened by `first`, and those left over. -/
def takeBatchMates (first : PlannedDatagram) : Nat → List PlannedDatagram → List PlannedDatagram × List PlannedDatagram
  | _, [] => ([], [])
  | batchLen, candidate :: rest =>
      if candidate.fragment.isSome ∨ candidate.path.pathId ≠ first.path.pathId ∨
          candidate.peerScope ≠ first.peerScope ∨ batchLen + (2 + candidate.payload.length) > first.path.mtu then
        ([], candidate :: rest)
      else
        let (mates, left) := takeBatchMates first (batchLen + (2 + candidate.payload.length)) rest
        (candidate :: mates, left)

theorem takeBatchMates_append (first : PlannedDatagram) (batchLen : Nat) (planned : List PlannedDatagram) :
    (takeBatchMates first batchLen planned).1 ++ (takeBatchMates first batchLen planned).2 = planned := by
  induction planned generalizing batchLen with
  | nil => rfl
  | cons candidate rest ih =>
    rw [takeBatchMates]
    split_ifs
    · rfl
    · exact congrArg (candidate :: ·) (ih _)

def openedBatchLen (first : PlannedDatagram) : Nat := V1_HEADER_LEN + 2 + 2 + first.payload.length

def coalescedFrame (serviceId : ServiceId) (first : PlannedDatagram) (mates : List PlannedDatagram) :
    Except DataplaneError FramePlan := do
  let frame ← protocolResult (if mates.isEmpty then
      Frame.data serviceId first.path.pathId first.sequence first.payload
    else Frame.batch serviceId first.path.pathId first.sequence ((first :: mates).map (·.payload)))
  .ok ⟨frame, first.path, (first :: mates).map (·.toMeta), 1⟩

def coalescePlannedFrames (serviceId : ServiceId) : List PlannedDatagram → Except DataplaneError (List FramePlan)
  | [] => .ok []
  | first :: rest =>
      if first.fragment.isSome then do
        let fragments ← fragmentDatagram first
        let later ← coalescePlannedFrames serviceId rest
        .ok (fragments ++ later)
      else do
        let batch := takeBatchMates first (openedBatchLen first) rest
        let plan ← coalescedFrame serviceId first batch.1
        let later ← coalescePlannedFrames serviceId batch.2
        .ok (plan :: later)
termination_by planned => planned.length
decreasing_by
  · simp
  · have whole := congrArg List.length (takeBatchMates_append first (openedBatchLen first) rest)
    rw [List.length_append] at whole
    simp only [List.length_cons]
    omega

end Coalescing

end Gatherlink.Engine
