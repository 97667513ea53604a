import Gatherlink.Dataplane.SocketSteps
import Gatherlink.Engine.Operations

/-! Most engine code touches neither key material nor reassembly: emission, dedupe, reorder,
metrics and planning leave the steady part of the state alone. -/

namespace Gatherlink.Engine
open Protocol Crypto Dataplane Lib.BigEndian Lib.Lookup Lib.Exec

def CoreDataplane.tracked (engine : CoreDataplane) :
    TransportSecurity × HashMap PathId PathTransportSocket × FragmentReassembly :=
  (engine.transportSecurity, engine.pathTransports.sockets, engine.remoteFragments)

/-- Session keys, path sockets and reassembly, with the ledgers that account for them. -/
def Machine.tracked (machine : Machine) :
    (TransportSecurity × HashMap PathId PathTransportSocket × FragmentReassembly) ×
      List (Key × Nat) × List (Key × Bytes) × List (Key × Option Bytes) × List Push :=
  (machine.engine.tracked, machine.net.ledgers)

/-- The tracked part of the engine and its paths. -/
def CoreDataplane.steady (engine : CoreDataplane) :
    (TransportSecurity × HashMap PathId PathTransportSocket × FragmentReassembly) × List CorePathConfig :=
  (engine.tracked, engine.paths)

/-- What most engine code leaves alone: the tracked state, the paths and the packets handed to their sockets. -/
def Machine.steady (machine : Machine) :
    ((TransportSecurity × HashMap PathId PathTransportSocket × FragmentReassembly) × List CorePathConfig) ×
      (List (Key × Nat) × List (Key × Bytes) × List (Key × Option Bytes) × List Push) × List CarriedPacket :=
  (machine.engine.steady, machine.net.records)

/-- What decides which paths a service may use and gets. -/
def Machine.policy (machine : Machine) : List CorePathConfig × HashMap ServiceId ServiceSchedulerConfig ×
    HashMap ServiceId WeightedRoundRobin × HashMap ServiceFlowletKey ServiceFlowletState :=
  (machine.engine.paths, machine.engine.serviceSchedulers, machine.engine.serviceWeightedSchedulers,
    machine.engine.serviceFlowlets)

section Tracked

variable {before after : Machine}

theorem tracked_of_steady (same : Same Machine.steady before after) : Same Machine.tracked before after :=
  Prod.ext (congrArg (fun state => state.1.1) same) (congrArg (fun state => state.2.1) same)

section
variable (same : Same Machine.tracked before after)
include same

theorem tracked_security :
    after.engine.transportSecurity = before.engine.transportSecurity := congrArg (fun state => state.1.1) same

theorem tracked_sockets :
    after.engine.pathTransports.sockets = before.engine.pathTransports.sockets :=
  congrArg (fun state => state.1.2.1) same

theorem tracked_fragments :
    after.engine.remoteFragments = before.engine.remoteFragments := congrArg (fun state => state.1.2.2) same

theorem tracked_opened :
    after.net.history.opened = before.net.history.opened := congrArg (fun state => state.2.1) same

theorem tracked_protected :
    after.net.history.protectedPackets = before.net.history.protectedPackets :=
  congrArg (fun state => state.2.2.1) same

theorem tracked_wrapped :
    after.net.history.wrapped = before.net.history.wrapped := congrArg (fun state => state.2.2.2.1) same

theorem tracked_pushed :
    after.net.history.pushed = before.net.history.pushed := congrArg (fun state => state.2.2.2.2) same

end

end Tracked

/-- A program that leaves the steady state alone. -/
abbrev Quiet {ε α : Type} (program : EStateM ε Machine α) : Prop := Moves (Same Machine.steady) program

/-- A program that leaves the policy alone. -/
abbrev Aloof {ε α : Type} (program : EStateM ε Machine α) : Prop := Moves (Same Machine.policy) program

/-- A program that leaves both alone, as sending does with everything but keys and sockets. -/
abbrev Poised {ε α : Type} (program : EStateM ε Machine α) : Prop :=
  Moves (Same fun machine : Machine => (machine.steady, machine.policy)) program

variable {α : Type}

variable {datagrams : List ReceivedDatagram} {R : Machine → Machine → Prop} {program : EStateM UdpServiceError Net α}
  {run : BurstRun} {fragments : FragmentReassembly}

theorem onNet_poised (quiet : Moves (Same Net.records) program) :
    Poised (onNet program) :=
  Moves.focus quiet fun machine _ same =>
    congrArg (fun records => ((machine.engine.steady, records), machine.policy)) same

theorem onNet_quiet (quiet : Moves (Same Net.records) program) :
    Quiet (onNet program) :=
  Moves.focus quiet fun machine _ same => congrArg (Prod.mk machine.engine.steady) same

theorem onEngine_quiet {program : EStateM DataplaneError CoreDataplane α}
    (quiet : Moves (Same CoreDataplane.steady) program) : Quiet (onEngine program) :=
  Moves.focus quiet fun machine _ same => congrArg (Prod.mk · machine.net.records) same

theorem onService_quiet {index : Nat} {program : EStateM UdpServiceError (UserlandUdpService × Net) α}
    (quiet : Moves (Same fun state : UserlandUdpService × Net => state.2.records) program) :
    Quiet (onService index program) := by
  refine Moves.bind (Moves.reads _) fun service => ?_
  cases service with
  | none => exact Moves.throw _
  | some service => exact Moves.focus quiet fun machine _ same => congrArg (Prod.mk machine.engine.steady) same

variable {serviceId : ServiceId}

theorem findService_quiet : Quiet (findService serviceId) := by
  refine Moves.bind (Moves.reads _) fun found => ?_
  cases found with
  | none => exact Moves.throw _
  | some service => exact Moves.pure _

theorem ensureServiceEnabled_moves [IsPreorder Machine R] :
    Moves R (ensureServiceEnabled serviceId) := by
  refine Moves.bind (Moves.reads _) fun disabled => ?_
  cases disabled with
  | none => exact Moves.pure _
  | some reason => exact Moves.throw _

theorem foldl_same {β τ : Type} {view : Machine → τ} {change : Machine → β → Machine}
    (step : ∀ machine item, Same view machine (change machine item)) (items : List β) (machine : Machine) :
    Same view machine (items.foldl change machine) := by
  induction items generalizing machine with
  | nil => rfl
  | cons item rest ih => exact (ih (change machine item)).trans (step machine item)

section Receive

variable {os : Os} {now : Nat} {pathId : PathId} {key : DedupeKey} {payload : Bytes} {payloads : List Bytes}
  {observation : SequenceObservation} {serviceId : ServiceId} {sequence : SequenceNumber}
  {peerScope : Option UInt32} {frame : Frame} {frameBytes : Nat}

theorem recordEmitted_quiet (machine : Machine) (serviceIndex payloadLen : Nat) :
    Same Machine.steady machine (machine.recordEmitted now serviceIndex pathId payloadLen observation) := rfl

theorem flushRemoteEmitBatch_quiet : Quiet (flushRemoteEmitBatch os now) := by
  refine Moves.bind (Moves.reads _) fun pending => ?_
  cases pending.key with
  | none => exact Moves.pure _
  | some key =>
    refine Moves.ite (fun _ => Moves.modify fun _ => rfl) fun _ => ?_
    refine Moves.bind (onNet_quiet (UserlandUdpService.emitManyTo_quiet os _)) fun emitted => ?_
    exact Moves.modify fun machine => foldl_same (fun _ _ => recordEmitted_quiet ..) _ { machine with pending := {} }

theorem emitRemotePayloadSummary_quiet :
    Quiet (emitRemotePayloadSummary os now pathId key payload observation) := by
  refine Moves.bind findService_quiet fun found => Moves.bind (Moves.reads _) fun target => ?_
  refine Moves.bind ?_ fun emitted => Moves.bind (Moves.modify fun _ => rfl) fun _ => Moves.pure _
  split
  · exact onService_quiet (UserlandUdpService.emitToFromPeerSource_quiet os _ _)
  · exact onNet_quiet (UserlandUdpService.emitTo_quiet os _)

theorem flushWhen_quiet {due : PendingRemoteEmitBatch → Bool} : Quiet (flushWhen os now due) :=
  Moves.bind (Moves.reads _) fun _ => Moves.ite (fun _ => flushRemoteEmitBatch_quiet) fun _ => Moves.pure _

theorem queueRemotePayloadSummary_quiet :
    Quiet (queueRemotePayloadSummary os now pathId key payload observation) := by
  refine Moves.bind findService_quiet fun found => Moves.bind ensureServiceEnabled_moves fun _ =>
    Moves.bind (Moves.reads _) fun target => Moves.ite (fun _ => ?_) fun _ => ?_
  · exact Moves.bind emitRemotePayloadSummary_quiet fun _ => Moves.modify fun _ => rfl
  · exact Moves.bind flushWhen_quiet fun _ => Moves.bind (Moves.modify fun _ => rfl) fun _ => flushWhen_quiet

theorem observeUserPayloadFirstSeen_quiet {payloadLen : Nat} :
    Quiet (observeUserPayloadFirstSeen now key pathId payloadLen) := by
  refine Moves.modifyGet fun machine => ?_
  simp only [CoreDataplane.observeUserPayloadFirstSeen]
  split <;> rfl

theorem observeReservedPayload_quiet {event : ReservedServiceEvent} : Quiet (observeReservedPayload now event) :=
  Moves.modify fun _ => rfl

theorem drainReorderReady_steady (engine : CoreDataplane) (hold : Nat) (key : RemoteReorderKey) :
    (engine.drainReorderReady now hold key).2.steady = engine.steady := by
  unfold CoreDataplane.drainReorderReady
  split <;> rfl

theorem drainExpiredReorderReady_steady (engine : CoreDataplane) (key : RemoteReorderKey) :
    (engine.drainExpiredReorderReady now key).2.steady = engine.steady := by
  unfold CoreDataplane.drainExpiredReorderReady
  split
  · rfl
  · simp only
    split
    · rfl
    · exact drainReorderReady_steady ..

theorem queueReady_quiet {key : RemoteReorderKey} {ready : List RemoteReorderEntry} :
    Quiet (queueReady os now key ready) :=
  Moves.forM fun _ _ => queueRemotePayloadSummary_quiet

theorem queueRemotePayloadWithReorder_quiet :
    Quiet (queueRemotePayloadWithReorder os now pathId key payload observation) := by
  refine Moves.bind (Moves.reads _) fun hold => Moves.bind (Moves.reads _) fun buffered => ?_
  refine Moves.ite (fun _ => queueRemotePayloadSummary_quiet) fun _ => ?_
  refine Moves.ite (fun _ => queueRemotePayloadSummary_quiet) fun _ => ?_
  exact Moves.bind (onEngine_quiet (Moves.modifyGet fun _ => drainReorderReady_steady _ hold _)) fun _ =>
    queueReady_quiet

theorem queueFirstSeen_quiet : Quiet (queueFirstSeen os now pathId key payload) := by
  refine Moves.bind observeUserPayloadFirstSeen_quiet fun observation => ?_
  cases observation with
  | none => exact Moves.pure _
  | some observation => exact queueRemotePayloadWithReorder_quiet

theorem flushExpiredReorderBuffers_quiet {keys : List RemoteReorderKey} :
    Quiet (flushExpiredReorderBuffers os now keys) := by
  exact Moves.forM fun key _ => Moves.bind
    (onEngine_quiet (Moves.modifyGet fun _ => drainExpiredReorderReady_steady _ key)) fun _ => queueReady_quiet

theorem observeBatch_quiet : Quiet (observeBatch now serviceId pathId peerScope sequence payloads) := by
  induction payloads generalizing sequence with
  | nil => exact Moves.pure _
  | cons payload rest ih =>
    exact Moves.bind observeUserPayloadFirstSeen_quiet fun _ => Moves.bind ih fun _ => Moves.pure _

theorem tryEmitRemoteBatchWithoutReorder_quiet :
    Quiet (tryEmitRemoteBatchWithoutReorder os now serviceId pathId sequence payloads peerScope) := by
  refine Moves.bind findService_quiet fun found => Moves.bind ensureServiceEnabled_moves fun _ =>
    Moves.ite (fun _ => Moves.pure _) fun _ => Moves.bind (Moves.reads _) fun target =>
      Moves.bind observeBatch_quiet fun items => Moves.ite (fun _ => Moves.pure _) fun _ => ?_
  refine Moves.bind (onNet_quiet (UserlandUdpService.emitManyTo_quiet os _)) fun emitted => ?_
  exact Moves.bind (Moves.modify fun machine => foldl_same (fun _ _ => recordEmitted_quiet ..) _ machine)
    fun _ => Moves.pure _

theorem queueBatchPayloads_quiet : Quiet (queueBatchPayloads os now serviceId pathId peerScope sequence payloads) := by
  induction payloads generalizing sequence with
  | nil => exact Moves.pure _
  | cons payload rest ih => exact Moves.bind queueFirstSeen_quiet fun _ => ih

theorem emitRemoteBatchPayloadsSummary_quiet :
    Quiet (emitRemoteBatchPayloadsSummary os now serviceId pathId sequence payloads peerScope) := by
  refine Moves.bind (Moves.reads _) fun hold => Moves.bind ?_ fun emitted => ?_
  · exact Moves.ite (fun _ => tryEmitRemoteBatchWithoutReorder_quiet) fun _ => Moves.pure _
  · exact Moves.ite (fun _ => Moves.pure _) fun _ => Moves.bind ensureServiceEnabled_moves fun _ =>
      queueBatchPayloads_quiet

theorem observeReservedBatch_quiet :
    Quiet (observeReservedBatch now frame frameBytes peerScope sequence payloads) := by
  induction payloads generalizing sequence with
  | nil => exact Moves.pure _
  | cons payload rest ih => exact Moves.bind observeReservedPayload_quiet fun _ => ih

theorem deliverPayload_quiet : Quiet (deliverPayload os now frame payload frameBytes peerScope) :=
  Moves.ite (fun _ => Moves.bind flushRemoteEmitBatch_quiet fun _ => observeReservedPayload_quiet)
    fun _ => queueFirstSeen_quiet

theorem learnPathRemote_quiet {source : SocketAddr} : Quiet (learnPathRemote peerScope pathId source) := by
  cases peerScope with
  | none => exact Moves.pure _
  | some receiverIndex => exact Moves.modify fun _ => rfl

theorem recordSecurityDrop_quiet {packetBytes : Nat} : Quiet (recordSecurityDrop pathId packetBytes) :=
  Moves.modify fun _ => rfl

theorem finishReceive_quiet {moment : FlushMoment} : Quiet (finishReceive os moment) :=
  Moves.bind flushExpiredReorderBuffers_quiet fun _ => Moves.bind flushRemoteEmitBatch_quiet fun _ => Moves.reads _

theorem takeBatch_quiet {socketId limit : Nat} : Quiet (takeBatch os socketId limit) := by
  refine Moves.bind (onNet_quiet (ask_quiet _)) fun answer => ?_
  cases answer with
  | ok value => exact Moves.modifyGet fun _ => rfl
  | error kind => exact Moves.ite (fun _ => Moves.pure _) fun _ => Moves.throw _

theorem deliverFirstSeen_quiet : Quiet (deliverFirstSeen os now pathId key payload) := by
  refine Moves.bind observeUserPayloadFirstSeen_quiet fun observation => ?_
  cases observation with
  | none => exact Moves.pure _
  | some observation =>
    refine Moves.bind ?_ fun _ => Moves.pure _
    exact Moves.bind findService_quiet fun _ => Moves.bind ensureServiceEnabled_moves fun _ =>
      Moves.bind (Moves.reads _) fun _ => Moves.bind emitRemotePayloadSummary_quiet fun _ => Moves.pure _

theorem deliverBatch_quiet : Quiet (deliverBatch os now frame frameBytes peerScope sequence payloads) := by
  induction payloads generalizing sequence with
  | nil => exact Moves.pure _
  | cons payload rest ih =>
    refine Moves.bind (Moves.ite (fun _ => ?_) fun _ => deliverFirstSeen_quiet) fun _ =>
      Moves.bind ih fun _ => Moves.pure _
    exact Moves.bind observeReservedPayload_quiet fun _ => Moves.pure _

end Receive

section Plan

/-- A planning step that leaves the steady part of the engine alone. -/
abbrev QuietPlan {β : Type} (program : PlanM β) : Prop := Moves (Same CoreDataplane.steady) program

/-- A view that may show the flowlets, but nothing else that planning moves on: the numbers it spends and the
schedulers. -/
structure Unscheduled {τ : Type} (view : CoreDataplane → τ) : Prop where
  sequences : ∀ engine nextSequences, view { engine with nextSequences } = view engine
  datagramId : ∀ engine nextDatagramId, view { engine with nextDatagramId } = view engine
  scheduler : ∀ engine scheduler, view { engine with scheduler } = view engine
  weighted : ∀ engine serviceWeightedSchedulers, view { engine with serviceWeightedSchedulers } = view engine

/-- A view of the engine without what planning moves on. -/
structure Unplanned {τ : Type} (view : CoreDataplane → τ) : Prop extends Unscheduled view where
  flowlets : ∀ engine serviceFlowlets, view { engine with serviceFlowlets } = view engine

theorem steady_unplanned : Unplanned CoreDataplane.steady :=
  ⟨⟨fun _ _ => rfl, fun _ _ => rfl, fun _ _ => rfl, fun _ _ => rfl⟩, fun _ _ => rfl⟩

/-- A view that does not show the flowlet of this key. -/
def Unpinned {τ : Type} (view : CoreDataplane → τ) (key : ServiceFlowletKey) : Prop :=
  ∀ engine flowlet, view { engine with serviceFlowlets := insert engine.serviceFlowlets key flowlet } = view engine

variable {τ : Type} {view : CoreDataplane → τ} {now payloadLen : Nat} {serviceId : ServiceId}
  {scheduler : ServiceSchedulerConfig} {source : SocketAddr} {allowed : CorePathConfig → Bool}

theorem Unplanned.unpinned (unplanned : Unplanned view) (key : ServiceFlowletKey) :
    Unpinned view key :=
  fun engine _ => unplanned.flowlets engine _

variable {peerScope : Option UInt32}

theorem nextSequenceFor_same (unscheduled : Unscheduled view) :
    Moves (Same view) (nextSequenceFor peerScope) :=
  Moves.modifyGet fun engine => unscheduled.sequences engine _

theorem nextSequenceFor_quiet : QuietPlan (nextSequenceFor peerScope) :=
  nextSequenceFor_same steady_unplanned.toUnscheduled

theorem pathAt_same {index : Option Nat} : Moves (Same view) (pathAt index) := by
  refine Moves.bind (Moves.reads _) fun path => ?_
  cases path with
  | none => exact Moves.throw _
  | some path => exact Moves.pure _

theorem requirePath_same {path : Option CorePathConfig} : Moves (Same view) (requirePath path) := by
  cases path with
  | none => exact Moves.throw _
  | some path => exact Moves.pure _

section
variable (unscheduled : Unscheduled view)
include unscheduled

theorem selectWeightedServicePathWhere_same :
    Moves (Same view) (selectWeightedServicePathWhere serviceId payloadLen scheduler allowed) :=
  Moves.bind (Moves.modifyGet fun engine => unscheduled.weighted engine _) fun _ => pathAt_same

theorem selectPathForService_same :
    Moves (Same view) (selectPathForService now serviceId payloadLen scheduler) := by
  have scheduled {allowed : CorePathConfig → Bool} : Moves (Same view) (selectScheduledPath now payloadLen allowed) :=
    Moves.bind (Moves.modifyGet fun engine => unscheduled.scheduler engine _) fun _ => pathAt_same
  unfold selectPathForService
  cases scheduler.pathPolicy with
  | inherit => exact Moves.ite (fun _ => scheduled) fun _ => scheduled
  | singleBestPath => exact Moves.bind (Moves.reads _) fun _ => requirePath_same
  | weightedRoundRobin => exact selectWeightedServicePathWhere_same unscheduled

theorem selectServicePaths_same (unpinned : Unpinned view ⟨serviceId, source⟩) :
    Moves (Same view) (selectServicePaths now serviceId payloadLen source) := by
  have remember {flowlet : ServiceFlowletState} : Moves (Same view) (rememberFlowlet ⟨serviceId, source⟩ flowlet) :=
    Moves.modify fun engine => unpinned engine _
  refine Moves.bind (Moves.reads _) fun scheduler =>
    Moves.ite (fun _ => Moves.bind ?_ fun _ => Moves.pure _) fun _ => ?_
  · refine Moves.bind (Moves.reads _) fun warm => ?_
    cases warm with
    | some found => exact Moves.bind remember fun _ => Moves.pure _
    | none => exact Moves.bind (selectPathForService_same unscheduled) fun _ =>
        Moves.ite (fun _ => Moves.bind remember fun _ => Moves.pure _) fun _ => Moves.pure _
  · exact Moves.bind (Moves.reads _) fun _ => Moves.ite (fun _ => Moves.throw _) fun _ => Moves.pure _

theorem selectPeerScopedPaths_same {peerScope : UInt32} :
    Moves (Same view) (selectPeerScopedPaths serviceId peerScope payloadLen) := by
  refine Moves.bind (Moves.reads _) fun scheduler => Moves.bind (Moves.reads _) fun _ =>
    Moves.bind (Moves.reads _) fun _ => Moves.ite (fun _ => Moves.throw _) fun _ => Moves.bind ?_ fun _ => Moves.pure _
  cases scheduler.pathPolicy with
  | weightedRoundRobin => exact selectWeightedServicePathWhere_same unscheduled
  | singleBestPath => exact requirePath_same
  | inherit => exact requirePath_same

end

variable {burst : Bool} {datagram : ReceivedDatagram}

theorem planDatagram_pins (unscheduled : Unscheduled view)
    (unpinned : datagram.peerScope = none → Unpinned view ⟨serviceId, datagram.source⟩) :
    Moves (Same view) (planDatagram serviceId burst run datagram) := by
  have selected : Moves (Same view) (selectDatagramPaths serviceId burst run datagram) := by
    unfold selectDatagramPaths
    cases scope : datagram.peerScope with
    | some peerScope => exact Moves.bind (selectPeerScopedPaths_same unscheduled) fun _ => Moves.pure _
    | none =>
      have service : Moves (Same view)
          (selectServicePaths datagram.now serviceId datagram.payload.length datagram.source) :=
        selectServicePaths_same unscheduled (unpinned scope)
      refine Moves.ite (fun _ => Moves.bind (Moves.reads _) fun reusable => ?_) fun _ =>
        Moves.bind service fun _ => Moves.pure _
      cases reusable with
      | some path => exact Moves.pure _
      | none => exact Moves.bind service fun _ => Moves.pure _
  refine Moves.bind (nextSequenceFor_same unscheduled) fun _ => Moves.bind selected fun _ =>
    Moves.bind ?_ fun _ => Moves.pure _
  exact Moves.ite (fun _ => Moves.modifyGet fun engine => unscheduled.datagramId engine _) fun _ => Moves.pure _

theorem planDatagram_same (unplanned : Unplanned view) :
    Moves (Same view) (planDatagram serviceId burst run datagram) :=
  planDatagram_pins unplanned.toUnscheduled fun _ => unplanned.unpinned _

theorem planFrom_quiet :
    QuietPlan (planFrom serviceId burst run datagrams) := by
  induction datagrams generalizing run with
  | nil => exact Moves.pure _
  | cons datagram rest ih =>
    exact Moves.bind (planDatagram_same steady_unplanned) fun _ => Moves.bind ih fun _ => Moves.pure _

theorem liftExcept_moves {β : Type} {result : Except DataplaneError β} [IsPreorder Machine R] :
    Moves R (liftExcept result) := by
  cases result with
  | ok value => exact Moves.pure _
  | error error => exact Moves.throw _

theorem planFrames_quiet : Quiet (planFrames serviceId datagrams) :=
  Moves.bind (onEngine_quiet planFrom_quiet) fun _ => liftExcept_moves

end Plan

section Forward

variable {os : Os} {now : Nat} {name : String} {service : UserlandUdpService} {plan : FramePlan}

theorem updateMetrics_poised {change : DataplaneMetrics → DataplaneMetrics} : Poised (updateMetrics change) :=
  Moves.modify fun _ => rfl

theorem checkPathMtu_moves [IsPreorder Machine R] : Moves R (checkPathMtu plan) :=
  Moves.ite (fun _ => Moves.throw _) fun _ => Moves.pure _

theorem learnLocalSources_quiet :
    Quiet (learnLocalSources service datagrams) := by
  refine Moves.modify fun machine => ?_
  split <;> rfl

theorem prepareForward_quiet : Quiet (prepareForward name datagrams) := by
  refine Moves.bind (Moves.reads _) fun found => ?_
  cases found with
  | none => exact Moves.throw _
  | some service =>
    exact Moves.bind ensureServiceEnabled_moves fun _ => Moves.bind learnLocalSources_quiet fun _ =>
      Moves.bind planFrames_quiet fun _ => Moves.pure _

theorem recordSentDatagrams_poised {datagrams : List PlannedDatagramMeta} :
    Poised (recordSentDatagrams now name plan datagrams) := by
  induction datagrams with
  | nil => exact Moves.pure _
  | cons datagram rest ih =>
    refine Moves.bind (Moves.reads _) fun target => ?_
    cases target with
    | none => exact Moves.throw _
    | some target => exact Moves.bind updateMetrics_poised fun _ => Moves.bind ih fun _ => Moves.pure _

theorem emitLocally_poised {datagram : PlannedDatagramMeta} {payload : Bytes} {frames batches fragments : Nat} :
    Poised (emitLocally os now service plan datagram payload frames batches fragments) :=
  Moves.bind (onNet_poised (UserlandUdpService.emitTo_quiet os _)) fun _ =>
    Moves.bind updateMetrics_poised fun _ => Moves.pure _

theorem emitBatchLocally_poised {count : Nat} {items : List (PlannedDatagramMeta × Bytes)} :
    Poised (emitBatchLocally os now service plan count items) := by
  induction items with
  | nil => exact Moves.pure _
  | cons item rest ih => exact Moves.bind emitLocally_poised fun _ => Moves.bind ih fun _ => Moves.pure _

theorem loopFrame_poised : Poised (loopFrame os now service plan fragments) := by
  refine Moves.bind checkPathMtu_moves fun _ => Moves.bind liftExcept_moves fun decoded => ?_
  cases decoded.kind with
  | data =>
    simp only
    split
    · exact Moves.throw _
    · exact Moves.pure _
    · exact Moves.bind emitLocally_poised fun _ => Moves.pure _
    · exact Moves.pure _
  | batch =>
    exact Moves.bind liftExcept_moves fun _ => Moves.ite (fun _ => Moves.throw _) fun _ =>
      Moves.bind emitBatchLocally_poised fun _ => Moves.pure _
  | control => exact Moves.throw _

theorem loopFrames_poised {frames : List FramePlan} :
    Poised (loopFrames os now service fragments frames) := by
  induction frames generalizing fragments with
  | nil => exact Moves.pure _
  | cons plan rest ih => exact Moves.bind loopFrame_poised fun _ => Moves.bind ih fun _ => Moves.pure _

end Forward

end Gatherlink.Engine
