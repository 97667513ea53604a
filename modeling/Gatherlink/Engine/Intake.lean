import Gatherlink.Engine.Drain
import Gatherlink.Engine.Emission

/-! The receive path as a transition of four things: the reassembly map, the dedupe window, the payloads
handed to applications and the events of the reserved services. Where nothing can hold a payload back,
the engine refines it. -/

namespace Gatherlink.Engine
open Protocol Dataplane Lib.BigEndian Lib.Lookup Lib.Exec Lib.Streams

/-- An accepted frame and its session, with the length of its packet and the time it is processed. -/
structure FrameArrival where
  frame : Frame
  peerScope : Option UInt32
  bytes : Nat
  now : Nat
  deriving DecidableEq

/-- What Python is told of a payload for a reserved service. -/
def FrameArrival.event (arrival : FrameArrival) (sequence : SequenceNumber) (payload : Bytes) : ReservedServiceEvent :=
  ⟨arrival.frame.serviceId, arrival.frame.pathId, sequence, payload, arrival.bytes, arrival.peerScope⟩

def FrameArrival.events (arrival : FrameArrival) : SequenceNumber → List Bytes → List ReservedServiceEvent
  | _, [] => []
  | sequence, payload :: rest => arrival.event sequence payload :: arrival.events (sequence + 1) rest

/-- The payloads of a batch frame under consecutive sequence numbers. -/
def numbered (serviceId : ServiceId) (peerScope : Option UInt32) : SequenceNumber → List Bytes →
    List (DedupeKey × Bytes)
  | _, [] => []
  | sequence, bytes :: rest =>
      (⟨serviceId, peerScope, sequence⟩, bytes) :: numbered serviceId peerScope (sequence + 1) rest

/-- The payloads that dedupe lets through. -/
def sift (window : DedupeWindow) : List (DedupeKey × Bytes) → List (DedupeKey × Bytes) × DedupeWindow
  | [] => ([], window)
  | (key, bytes) :: rest =>
      match window.observeInScope key with
      | (.firstSeen, next) => ((key, bytes) :: (sift next rest).1, (sift next rest).2)
      | (.duplicate, next) => sift next rest

/-- The payloads that applications get, in order for each service and peer. -/
abbrev Deliveries : Type := RemoteReorderKey → List (DedupeKey × Bytes)

structure Intake where
  fragments : FragmentReassembly
  dedupe : DedupeWindow
  accepted : Deliveries
  events : List ReservedServiceEvent

theorem sift_append (window : DedupeWindow) (first second : List (DedupeKey × Bytes)) :
    sift window (first ++ second) =
      ((sift window first).1 ++ (sift (sift window first).2 second).1, (sift (sift window first).2 second).2) := by
  induction first generalizing window with
  | nil => rfl
  | cons content rest ih =>
    rw [List.cons_append, sift, sift]
    split <;> simp [ih]

namespace Deliveries

def and (deliveries : Deliveries) (contents : List (DedupeKey × Bytes)) : Deliveries :=
  fun scope => deliveries scope ++ streams scopeOf contents scope

@[simp] theorem and_nil (deliveries : Deliveries) : deliveries.and [] = deliveries := by
  funext scope
  simp [and]

theorem and_append (deliveries : Deliveries) (first second : List (DedupeKey × Bytes)) :
    deliveries.and (first ++ second) = (deliveries.and first).and second := by
  funext scope
  simp [and, streams_append]

end Deliveries

namespace Intake

/-- Complete payloads are accepted if dedupe has not seen their keys. -/
def take (intake : Intake) (contents : List (DedupeKey × Bytes)) : Intake :=
  { intake with
    dedupe := (sift intake.dedupe contents).2
    accepted := intake.accepted.and (sift intake.dedupe contents).1 }

theorem take_append (intake : Intake) (first second : List (DedupeKey × Bytes)) :
    intake.take (first ++ second) = (intake.take first).take second := by
  simp [take, sift_append, Deliveries.and_append]

def note (intake : Intake) (events : List ReservedServiceEvent) : Intake :=
  { intake with events := intake.events ++ events }

def frame (intake : Intake) (arrival : FrameArrival) : Except DataplaneError Intake :=
  match arrival.frame.kind with
  | .data =>
      match intake.fragments.pushFrameOrPayload arrival.frame with
      | (.error error, _) => .error error
      | (.ok none, fragments) => .ok { intake with fragments }
      | (.ok (some bytes), fragments) =>
          if isReservedServiceId arrival.frame.serviceId then
            .ok ({ intake with fragments }.note [arrival.event arrival.frame.sequence bytes])
          else
            .ok ({ intake with fragments }.take
              [(⟨arrival.frame.serviceId, arrival.peerScope, arrival.frame.sequence⟩, bytes)])
  | .batch =>
      match arrival.frame.batchPayloads with
      | .error error => .error (.protocol error)
      | .ok payloads =>
          if isReservedServiceId arrival.frame.serviceId then
            .ok (intake.note (arrival.events arrival.frame.sequence payloads))
          else
            .ok (intake.take (numbered arrival.frame.serviceId arrival.peerScope arrival.frame.sequence payloads))
  | .control => .ok (intake.note [arrival.event arrival.frame.sequence arrival.frame.payload])

end Intake

namespace Machine

def intake (machine : Machine) : Intake :=
  ⟨machine.engine.remoteFragments, machine.engine.remoteDedupe, streams scopeOf machine.handedOn,
    machine.engine.reservedEvents⟩

/-- What authentication has left behind. -/
def session (machine : Machine) : TransportSecurity × HashMap (UInt32 × PathId) SocketAddr :=
  (machine.engine.transportSecurity, machine.engine.learnedPathRemotes)

/-- The machine has moved on to `intake`, and to nothing else that matters. -/
structure MovesTo (intake : Intake) (before after : Machine) : Prop where
  ground : Same Machine.ground before after
  session : Same Machine.session before after
  intake : after.intake = intake
  tidy : after.Tidy

section MovesTo

variable {intake : Intake} {before after : Machine}

variable (moves : MovesTo intake before after)
include moves

theorem MovesTo.fragments : after.engine.remoteFragments = intake.fragments :=
  congrArg Intake.fragments moves.intake

theorem MovesTo.dedupe : after.engine.remoteDedupe = intake.dedupe :=
  congrArg Intake.dedupe moves.intake

theorem MovesTo.accepted : after.intake.accepted = intake.accepted :=
  congrArg Intake.accepted moves.intake

end MovesTo

end Machine

section Steps

variable {os : Os} {now : Nat} {machine : Machine} {pathId : PathId} {key : DedupeKey} {payload : Bytes}
  {peerScope : Option UInt32} {frame : Frame} {frameBytes : Nat}

theorem Emitted.movesTo {contents : List (DedupeKey × Bytes)} {after : Machine}
    (emitted : Emitted contents machine after) :
    machine.MovesTo { machine.intake with accepted := machine.intake.accepted.and contents } after := by
  have fragments := congrArg Footing.fragments emitted.footing
  have dedupe := congrArg Footing.dedupe emitted.footing
  have events := congrArg Footing.events emitted.footing
  simp only [Machine.footing] at fragments dedupe events
  have session : after.session = machine.session :=
    congrArg (fun footing => (footing.security, footing.remotes)) emitted.footing
  refine ⟨congrArg Footing.ground emitted.footing, session, ?_, emitted.tidy⟩
  simp only [Machine.intake, fragments, dedupe, events, emitted.handedOn, streams_append]
  rfl

/-- A payload is not held back if its path has no hold, or if it comes in order and nothing waits. -/
def CoreDataplane.PassesOn (engine : CoreDataplane) (pathId : PathId) (key : DedupeKey)
    (observation : SequenceObservation) : Prop :=
  engine.reorderHoldForPath pathId = 0 ∨ (engine.remoteReorder ⟨key.serviceId, key.peerScope⟩ = none ∧
    observation.outOfOrder = false ∧ observation.missingPackets = 0)

theorem queueRemotePayloadWithReorder_reaches {observation : SequenceObservation} (accepts : os.Accepts)
    (tidy : machine.Tidy) (serves : machine.Serves key.serviceId)
    (passes : machine.engine.PassesOn pathId key observation) :
    Reaches (queueRemotePayloadWithReorder os now pathId key payload observation) machine fun _ next =>
      Emitted [(key, payload)] machine next := by
  have queued : Reaches (queueRemotePayloadSummary os now pathId key payload observation) machine fun _ next =>
      Emitted [(key, payload)] machine next := queueRemotePayloadSummary_reaches accepts tidy serves
  refine reaches_after_reads (reaches_after_reads ?_)
  rcases passes with zero | ⟨absent, ordered, complete⟩
  · rw [if_pos zero]
    exact queued
  · split
    · exact queued
    · rw [if_pos (by simp [absent, ordered, complete])]
      exact queued

/-- If the payload is new, it would not be held back if it came now. -/
def Machine.Prompt (machine : Machine) (pathId : PathId) (key : DedupeKey) : Prop :=
  (machine.engine.remoteDedupe.observeInScope key).1 = .firstSeen →
    machine.engine.PassesOn pathId key (machine.engine.metrics.observeSequence key.sequence key.peerScope).1

theorem queueFirstSeen_reaches (accepts : os.Accepts) (tidy : machine.Tidy) (serves : machine.Serves key.serviceId)
    (prompt : machine.Prompt pathId key) :
    Reaches (queueFirstSeen os now pathId key payload) machine fun _ next =>
      machine.MovesTo (machine.intake.take [(key, payload)]) next := by
  refine reaches_after_modifyGet ?_
  rcases answer : machine.engine.remoteDedupe.observeInScope key with ⟨seen, window⟩
  cases seen with
  | duplicate =>
    simp only [CoreDataplane.observeUserPayloadFirstSeen, answer]
    refine Reaches.pure ⟨rfl, rfl, ?_, tidy.same rfl rfl⟩
    simp [Intake.take, sift, Machine.intake, answer, Machine.handedOn, Net.observe]
  | firstSeen =>
    simp only [CoreDataplane.observeUserPayloadFirstSeen, answer]
    refine Reaches.mono (queueRemotePayloadWithReorder_reaches accepts ?_ ?_ ?_) fun ends => ?_
    · exact tidy.same rfl rfl
    · exact serves
    · exact prompt (by rw [answer])
    · have moved := ends.movesTo
      refine ⟨moved.ground.trans rfl, moved.session.trans rfl, ?_, moved.tidy⟩
      rw [moved.intake]
      simp [Intake.take, sift, Machine.intake, answer, Machine.handedOn, Net.observe]

theorem observeBatch_reaches {serviceId : ServiceId} {sequence : SequenceNumber} {payloads : List Bytes} :
    Reaches (observeBatch now serviceId pathId peerScope sequence payloads) machine fun items next =>
      Same (fun machine : Machine => (machine.ground, machine.session,
        machine.engine.remoteFragments, machine.engine.reservedEvents, machine.pending,
        machine.net.history.emitted)) machine next ∧
      (items.map fun item => ((⟨serviceId, peerScope, item.sequence⟩ : DedupeKey), item.payload),
        next.engine.remoteDedupe) =
        sift machine.engine.remoteDedupe (numbered serviceId peerScope sequence payloads) := by
  induction payloads generalizing sequence machine with
  | nil => exact Reaches.pure ⟨rfl, rfl⟩
  | cons bytes rest ih =>
    refine reaches_after_modifyGet ?_
    rcases answer : machine.engine.remoteDedupe.observeInScope ⟨serviceId, peerScope, sequence⟩ with ⟨seen, window⟩
    cases seen with
    | duplicate =>
      simp only [CoreDataplane.observeUserPayloadFirstSeen, answer]
      refine Reaches.bind ih fun items next ends => Reaches.pure ⟨ends.1.trans rfl, ?_⟩
      simpa [numbered, sift, answer] using ends.2
    | firstSeen =>
      simp only [CoreDataplane.observeUserPayloadFirstSeen, answer]
      refine Reaches.bind ih fun items next ends => Reaches.pure ⟨ends.1.trans rfl, ?_⟩
      simp [numbered, sift, answer, ← ends.2]

theorem Machine.MovesTo.trans {first second : Intake} {middle after : Machine} (one : machine.MovesTo first middle)
    (two : middle.MovesTo second after) : machine.MovesTo second after :=
  ⟨two.ground.trans one.ground, two.session.trans one.session, two.intake, two.tidy⟩

def Machine.NoHold (machine : Machine) : Prop := ∀ pathId, machine.engine.reorderHoldForPath pathId = 0

theorem Machine.NoHold.same {after : Machine} (noHold : machine.NoHold) (same : Same Machine.ground machine after) :
    after.NoHold := by
  have paths : after.engine.paths = machine.engine.paths := congrArg Ground.paths same
  intro pathId
  rw [CoreDataplane.reorderHoldForPath, paths]
  exact noHold pathId

variable {serviceId : ServiceId} {sequence : SequenceNumber} {payloads : List Bytes}

section
variable (accepts : os.Accepts) (tidy : machine.Tidy) (serves : machine.Serves serviceId)
include accepts tidy serves

theorem tryEmitRemoteBatchWithoutReorder_reaches (settled : machine.pending = {}) :
    Reaches (tryEmitRemoteBatchWithoutReorder os now serviceId pathId sequence payloads peerScope) machine
      fun done next => if done then
          machine.MovesTo (machine.intake.take (numbered serviceId peerScope sequence payloads)) next
        else next = machine := by
  refine Reaches.bind (findService_reaches serves) fun found same known => ?_
  obtain ⟨rfl, present⟩ := known
  refine reaches_after_enabled serves ?_
  split
  · exact Reaches.pure rfl
  refine reaches_after_reads (Reaches.bind observeBatch_reaches fun items observed ends => ?_)
  obtain ⟨rest, sifted⟩ := ends
  simp only [Same, Prod.mk.injEq] at rest
  obtain ⟨ground, session, fragments, events, pending, emitted⟩ := rest
  have tidy' : observed.Tidy := tidy.same ground pending
  have taken : { observed.intake with accepted := observed.intake.accepted.and (items.map fun item =>
      ((⟨serviceId, peerScope, item.sequence⟩ : DedupeKey), item.payload)) } =
      same.intake.take (numbered serviceId peerScope sequence payloads) := by
    simp only [Intake.take, Machine.intake, fragments, events, ← sifted, Machine.handedOn, pending, emitted]
  split
  · rename_i none
    obtain rfl : items = [] := List.isEmpty_iff.mp none
    refine Reaches.pure ⟨ground, session, ?_, tidy'⟩
    simpa using taken
  · refine Reaches.bind (onNet_reaches (UserlandUdpService.emitManyTo_reaches accepts)) fun count sent ends => ?_
    obtain ⟨rest, -, emitted'⟩ := ends
    have clear (scope : RemoteReorderKey) : observed.Clear scope := Machine.clear_of_settled (pending.trans settled)
    have direct : Emitted _ observed sent :=
      emitted_directly tidy' (fun _ _ => clear _) (by rw [rest]; rfl) (by rw [rest]) emitted'
    have counted := (direct.counted (recordEmitted_same now found.1 pathId (items.take count) sent)).movesTo
    refine reaches_after_modify (Reaches.pure ⟨counted.ground.trans ground, counted.session.trans session, ?_,
      counted.tidy⟩)
    rw [counted.intake, ← taken]
    simp [PendingRemoteEmitBatch.emissions, emissionContent, Function.comp_def]

theorem queueBatchPayloads_reaches (noHold : machine.NoHold) :
    Reaches (queueBatchPayloads os now serviceId pathId peerScope sequence payloads) machine fun _ next =>
      machine.MovesTo (machine.intake.take (numbered serviceId peerScope sequence payloads)) next := by
  induction payloads generalizing sequence machine with
  | nil => exact Reaches.pure ⟨rfl, rfl, by simp [numbered, Intake.take, sift], tidy⟩
  | cons bytes rest ih =>
    refine Reaches.bind (queueFirstSeen_reaches accepts tidy serves fun _ => .inl (noHold pathId)) fun _ middle one =>
      ?_
    refine (ih one.tidy (serves.same one.ground) (noHold.same one.ground)).mono fun two => ?_
    refine one.trans ?_
    rw [numbered, ← List.singleton_append, Intake.take_append, ← one.intake]
    exact two

theorem emitRemoteBatchPayloadsSummary_reaches (noHold : machine.NoHold) (settled : machine.pending = {}) :
    Reaches (emitRemoteBatchPayloadsSummary os now serviceId pathId sequence payloads peerScope) machine fun _ next =>
      machine.MovesTo (machine.intake.take (numbered serviceId peerScope sequence payloads)) next := by
  refine reaches_after_reads ?_
  rw [if_pos (noHold pathId)]
  refine Reaches.bind (tryEmitRemoteBatchWithoutReorder_reaches accepts tidy serves settled) fun done next ends => ?_
  cases done with
  | true => exact Reaches.pure (by simpa using ends)
  | false =>
    obtain rfl : next = machine := by simpa using ends
    refine reaches_after_enabled serves ?_
    exact queueBatchPayloads_reaches accepts tidy serves noHold

end

theorem intake_reserved (now : Nat) (event : ReservedServiceEvent) (machine : Machine) :
    { machine with engine := machine.engine.observeReceivedReservedServicePayload now event }.intake =
      machine.intake.note [event] := rfl

theorem observeReservedBatch_reaches (tidy : machine.Tidy) :
    Reaches (observeReservedBatch now frame frameBytes peerScope sequence payloads) machine fun _ next =>
      machine.MovesTo (machine.intake.note (FrameArrival.events ⟨frame, peerScope, frameBytes, now⟩ sequence payloads))
        next := by
  induction payloads generalizing sequence machine with
  | nil => exact Reaches.pure ⟨rfl, rfl, by simp [Intake.note, FrameArrival.events], tidy⟩
  | cons bytes rest ih =>
    refine reaches_after_modify (Reaches.mono (ih ?_) fun ends => ?_)
    · exact tidy.same rfl rfl
    · refine ⟨ends.ground.trans rfl, ends.session.trans rfl, ends.intake.trans ?_, ends.tidy⟩
      rw [intake_reserved]
      simp [Intake.note, FrameArrival.events, FrameArrival.event]

section
variable (accepts : os.Accepts) (tidy : machine.Tidy)
  (serves : isReservedServiceId frame.serviceId = false → machine.Serves frame.serviceId)
include accepts tidy serves

theorem deliverFrame_data_reaches {next : Intake}
    (prompt : machine.Prompt frame.pathId ⟨frame.serviceId, peerScope, frame.sequence⟩) (data : frame.kind = .data)
    (taken : machine.intake.frame ⟨frame, peerScope, frameBytes, now⟩ = .ok next) :
    Reaches (deliverFrame os now frame frameBytes peerScope) machine fun _ after => machine.MovesTo next after := by
  unfold deliverFrame
  simp only [Intake.frame, data] at taken ⊢
  rcases pushed : machine.engine.remoteFragments.pushFrameOrPayload frame with ⟨failure | complete, fragments⟩
  · simp [Machine.intake, pushed] at taken
  have answered : machine.intake.fragments.pushFrameOrPayload frame = (.ok complete, fragments) := pushed
  simp only [answered] at taken
  refine reaches_after_attempt (by simp only [pushed]; rfl) ?_
  simp only [pushed]
  cases complete with
  | none => exact Reaches.pure ⟨rfl, rfl, Except.ok.inj taken, tidy.same rfl rfl⟩
  | some bytes =>
    simp only [deliverPayload]
    cases reserved : isReservedServiceId frame.serviceId with
    | true =>
      simp only [reserved, if_true] at taken ⊢
      refine Reaches.bind (flushRemoteEmitBatch_reaches accepts ?_) fun _ flushed ends => ?_
      · exact tidy.same rfl rfl
      · have moved := ends.1.movesTo
        refine Reaches.modify ⟨moved.ground, moved.session, ?_, moved.tidy.same rfl rfl⟩
        rw [← Except.ok.inj taken, intake_reserved, moved.intake]
        simp [Machine.intake, Machine.handedOn, Net.push, Intake.note, FrameArrival.event]
    | false =>
      simp only [reserved, Bool.false_eq_true, if_false] at taken ⊢
      refine Reaches.mono (queueFirstSeen_reaches accepts ?_ ?_ ?_) fun moved => ?_
      · exact tidy.same rfl rfl
      · exact serves reserved
      · exact prompt
      · exact ⟨moved.ground, moved.session, moved.intake.trans (Except.ok.inj taken), moved.tidy⟩

theorem deliverFrame_reaches {next : Intake} (noHold : machine.NoHold)
    (taken : machine.intake.frame ⟨frame, peerScope, frameBytes, now⟩ = .ok next) :
    Reaches (deliverFrame os now frame frameBytes peerScope) machine fun _ after => machine.MovesTo next after := by
  cases kind : frame.kind with
  | data => exact deliverFrame_data_reaches accepts tidy serves (fun _ => .inl (noHold _)) kind taken
  | batch =>
    unfold deliverFrame
    simp only [Intake.frame, kind] at taken ⊢
    refine Reaches.bind (flushRemoteEmitBatch_reaches accepts tidy) fun _ flushed ends => ?_
    obtain ⟨ground, session, same, tidy'⟩ := ends.1.movesTo
    replace same : flushed.intake = machine.intake := by simpa using same
    cases decoded : frame.batchPayloads with
    | error error => simp [decoded] at taken
    | ok payloads =>
      simp only [decoded] at taken ⊢
      cases reserved : isReservedServiceId frame.serviceId with
      | true =>
        simp only [reserved, if_true, Except.ok.injEq] at taken ⊢
        refine (observeReservedBatch_reaches tidy').mono fun moved => ?_
        exact ⟨moved.ground.trans ground, moved.session.trans session, by rw [moved.intake, same, taken], moved.tidy⟩
      | false =>
        simp only [reserved, Bool.false_eq_true, if_false, Except.ok.injEq] at taken ⊢
        refine (emitRemoteBatchPayloadsSummary_reaches accepts tidy' ((serves reserved).same ground)
          (noHold.same ground) ends.2).mono fun moved => ?_
        exact ⟨moved.ground.trans ground, moved.session.trans session, by rw [moved.intake, same, taken], moved.tidy⟩
  | control =>
    unfold deliverFrame
    simp only [Intake.frame, kind, Except.ok.injEq] at taken ⊢
    refine Reaches.bind (flushRemoteEmitBatch_reaches accepts tidy) fun _ flushed ends => ?_
    obtain ⟨ground, session, same, tidy'⟩ := ends.1.movesTo
    refine Reaches.modify ⟨ground, session, ?_, tidy'.same rfl rfl⟩
    rw [← taken, intake_reserved, same]
    simp [Intake.note, FrameArrival.event]

end

theorem deliverFrame_fails {error : DataplaneError} (data : frame.kind = .data)
    (refused : (machine.engine.remoteFragments.pushFrameOrPayload frame).1 = .error error) :
    ∃ after, deliverFrame os now frame frameBytes peerScope machine = .error error after := by
  unfold deliverFrame
  simp only [data]
  exact ⟨_, bind_error (attempt_error refused)⟩

theorem deliverFrame_incomplete (tidy : machine.Tidy) (data : frame.kind = .data)
    (waits : (machine.engine.remoteFragments.pushFrameOrPayload frame).1 = .ok none) :
    Reaches (deliverFrame os now frame frameBytes peerScope) machine fun _ after =>
      machine.MovesTo { machine.intake with
        fragments := (machine.engine.remoteFragments.pushFrameOrPayload frame).2 } after ∧
      after.engine.metrics = machine.engine.metrics := by
  unfold deliverFrame
  simp only [data]
  exact reaches_after_attempt waits (Reaches.pure ⟨⟨rfl, rfl, rfl, tidy.same rfl rfl⟩, rfl⟩)

/-- The end of a receive call, when no payload waits to be put in order. -/
theorem finishReceive_reaches {moment : FlushMoment} (accepts : os.Accepts) (tidy : machine.Tidy)
    (idle : ∀ key, machine.engine.remoteReorder key = none) :
    Reaches (finishReceive os moment) machine fun _ after => machine.MovesTo machine.intake after ∧
      after.engine.metrics.receiveSequences = machine.engine.metrics.receiveSequences ∧ after.pending = {} := by
  have nothing : Reaches (flushExpiredReorderBuffers os moment.now moment.keys) machine fun _ after =>
      after = machine := by
    refine Reaches.forM (fun _ state => state = machine) (fun {_ key _ state} _ same => ?_) rfl
    have empty : state.engine.drainExpiredReorderReady moment.now key = ([], state.engine) := by
      unfold CoreDataplane.drainExpiredReorderReady
      simp [same, idle key]
    have drained : Reaches (onEngine (modifyGet (·.drainExpiredReorderReady moment.now key))) state
        fun ready next => ready = [] ∧ next = state := by
      refine Reaches.focus (Reaches.modifyGet ?_) fun ends => ends
      rw [empty]
      exact ⟨rfl, rfl⟩
    refine Reaches.bind drained fun ready next ends => ?_
    obtain ⟨rfl, rfl⟩ := ends
    exact Reaches.pure same
  refine Reaches.bind nothing fun _ same unchanged => ?_
  obtain rfl := unchanged
  refine Reaches.bind (flushRemoteEmitBatch_reaches accepts tidy) fun _ flushed ends => Reaches.reads ?_
  have moved := ends.1.movesTo
  exact ⟨⟨moved.ground, moved.session, by simpa using moved.intake, moved.tidy⟩,
    congrArg Footing.trackers ends.1.footing, ends.2⟩

end Steps

end Gatherlink.Engine
