import Gatherlink.Engine.Opening
import Gatherlink.Engine.Reapply

/-! The two receive entry points compute the same thing. What a packet does to the session, the learned
remotes and the intake is stated once; the detailed path refines it, and so does the summary path when
nothing waits to be put in order. -/

namespace Gatherlink.Engine
open Protocol Crypto Dataplane Lib.BigEndian Lib.Lookup Lib.Exec Lib.Streams

section Detailed

variable {os : Os} {now : Nat} {machine : Machine} {pathId : PathId} {key : DedupeKey} {payload : Bytes}
  {frame : Frame} {frameBytes : Nat} {peerScope : Option UInt32} {sequence : SequenceNumber} {payloads : List Bytes}

/-- The machine has moved on to `intake` without the help of a pending batch. -/
def Machine.GoesTo (intake : Intake) (before after : Machine) : Prop :=
  before.MovesTo intake after ∧ after.pending = {}

section
variable (accepts : os.Accepts) (settled : machine.pending = {}) (serves : machine.Serves key.serviceId)
include accepts settled serves

theorem emitRemotePayload_reaches {observation : SequenceObservation} :
    Reaches (emitRemotePayload os now pathId key payload observation) machine fun _ next =>
      Emitted [(key, payload)] machine next ∧ next.pending = {} := by
  refine Reaches.bind (findService_reaches serves) fun found same known => ?_
  obtain ⟨rfl, -, -⟩ := known
  refine reaches_after_enabled serves ?_
  refine reaches_after_reads ?_
  refine Reaches.bind (emitRemotePayloadSummary_reaches accepts (Machine.tidy_of_settled settled) serves
    (Machine.clear_of_settled settled)) fun sent next ends => ?_
  exact Reaches.pure ⟨ends.1, ends.2.trans settled⟩

theorem deliverFirstSeen_reaches :
    Reaches (deliverFirstSeen os now pathId key payload) machine fun _ next =>
      machine.GoesTo (machine.intake.take [(key, payload)]) next := by
  refine reaches_after_modifyGet ?_
  rcases answer : machine.engine.remoteDedupe.observeInScope key with ⟨seen, window⟩
  cases seen with
  | duplicate =>
    simp only [CoreDataplane.observeUserPayloadFirstSeen, answer]
    refine Reaches.pure ⟨⟨rfl, rfl, ?_, Machine.tidy_of_settled settled⟩, settled⟩
    simp [Intake.take, sift, Machine.intake, answer, Machine.handedOn, Net.observe]
  | firstSeen =>
    simp only [CoreDataplane.observeUserPayloadFirstSeen, answer]
    refine Reaches.bind (emitRemotePayload_reaches accepts ?_ ?_) fun _ next ends => Reaches.pure ?_
    · exact settled
    · exact serves
    · have moved := ends.1.movesTo
      refine ⟨⟨moved.ground.trans rfl, moved.session.trans rfl, ?_, moved.tidy⟩, ends.2⟩
      rw [moved.intake]
      simp [Intake.take, sift, Machine.intake, answer, Machine.handedOn, Net.observe]

end

theorem Machine.GoesTo.note (settled : machine.pending = {}) (event : ReservedServiceEvent) :
    machine.GoesTo (machine.intake.note [event])
      { machine with engine := machine.engine.observeReceivedReservedServicePayload now event } :=
  ⟨⟨rfl, rfl, rfl, Machine.tidy_of_settled settled⟩, settled⟩

theorem Machine.GoesTo.trans {first second : Intake} {middle after : Machine} (one : machine.GoesTo first middle)
    (two : middle.GoesTo second after) : machine.GoesTo second after :=
  ⟨one.1.trans two.1, two.2⟩

section
variable (accepts : os.Accepts) (settled : machine.pending = {})
  (serves : isReservedServiceId frame.serviceId = false → machine.Serves frame.serviceId)
include accepts settled serves

theorem deliverBatch_reaches :
    Reaches (deliverBatch os now frame frameBytes peerScope sequence payloads) machine fun _ next =>
      machine.GoesTo (if isReservedServiceId frame.serviceId then
          machine.intake.note (FrameArrival.events ⟨frame, peerScope, frameBytes, now⟩ sequence payloads)
        else machine.intake.take (numbered frame.serviceId peerScope sequence payloads)) next := by
  induction payloads generalizing sequence machine with
  | nil =>
    refine Reaches.pure ⟨⟨rfl, rfl, ?_, Machine.tidy_of_settled settled⟩, settled⟩
    simp [Intake.note, FrameArrival.events, Intake.take, numbered, sift]
  | cons payload rest ih =>
    cases reserved : isReservedServiceId frame.serviceId with
    | true =>
      simp only [deliverBatch, reserved, if_true] at ih ⊢
      have noted : Reaches (do
          observeReservedPayload now ⟨frame.serviceId, frame.pathId, sequence, payload, frameBytes, peerScope⟩
          pure ([] : List RemoteDeliverOutcome)) machine fun _ middle => machine.GoesTo (machine.intake.note
            [FrameArrival.event ⟨frame, peerScope, frameBytes, now⟩ sequence payload]) middle :=
        reaches_after_modify (Reaches.pure (Machine.GoesTo.note settled _))
      refine Reaches.bind noted fun _ middle one => ?_
      refine Reaches.bind (ih one.2 fun user => Bool.noConfusion user) fun _ next two => Reaches.pure (one.trans ?_)
      rw [one.1.intake] at two
      simpa [Intake.note, FrameArrival.events, FrameArrival.event] using two
    | false =>
      simp only [deliverBatch, reserved, Bool.false_eq_true, if_false] at ih ⊢
      refine Reaches.bind (deliverFirstSeen_reaches accepts settled (serves reserved)) fun _ middle one => ?_
      refine Reaches.bind (ih one.2 fun _ => (serves reserved).same one.1.ground) fun _ next two =>
        Reaches.pure (one.trans ?_)
      rw [one.1.intake, ← Intake.take_append] at two
      exact two

theorem deliverFrameDetailed_reaches {next : Intake}
    (taken : machine.intake.frame ⟨frame, peerScope, frameBytes, now⟩ = .ok next) :
    Reaches (deliverFrameDetailed os now frame frameBytes peerScope) machine fun _ after =>
      machine.GoesTo next after := by
  unfold deliverFrameDetailed
  cases kind : frame.kind with
  | data =>
    simp only [Intake.frame, kind] at taken ⊢
    rcases pushed : machine.engine.remoteFragments.pushFrameOrPayload frame with ⟨failure | complete, fragments⟩
    · simp [Machine.intake, pushed] at taken
    have answered : machine.intake.fragments.pushFrameOrPayload frame = (.ok complete, fragments) := pushed
    simp only [answered] at taken
    refine reaches_after_attempt (by simp only [pushed]; rfl) ?_
    simp only [pushed]
    cases complete with
    | none => exact Reaches.pure ⟨⟨rfl, rfl, Except.ok.inj taken, Machine.tidy_of_settled settled⟩, settled⟩
    | some bytes =>
      cases reserved : isReservedServiceId frame.serviceId with
      | true =>
        simp only [reserved, if_true, Except.ok.injEq] at taken ⊢
        subst taken
        exact reaches_after_modify (Reaches.pure ⟨⟨rfl, rfl, rfl, Machine.tidy_of_settled settled⟩, settled⟩)
      | false =>
        simp only [reserved, Bool.false_eq_true, if_false] at taken ⊢
        refine Reaches.mono (deliverFirstSeen_reaches accepts ?_ ?_) fun moved => ?_
        · exact settled
        · exact serves reserved
        · exact ⟨⟨moved.1.ground, moved.1.session, moved.1.intake.trans (Except.ok.inj taken), moved.1.tidy⟩, moved.2⟩
  | batch =>
    simp only [Intake.frame, kind] at taken ⊢
    cases decoded : frame.batchPayloads with
    | error error => simp [decoded] at taken
    | ok payloads =>
      simp only [decoded] at taken ⊢
      refine (deliverBatch_reaches accepts settled serves).mono fun goes => ?_
      split at taken <;> simp_all
  | control =>
    simp only [Intake.frame, kind, Except.ok.injEq] at taken ⊢
    subst taken
    exact reaches_after_modify (Reaches.pure (Machine.GoesTo.note settled _))

end

theorem deliverFrameDetailed_fails (os : Os) {error : DataplaneError}
    (refused : machine.intake.frame ⟨frame, peerScope, frameBytes, now⟩ = .error error) :
    ∃ after, deliverFrameDetailed os now frame frameBytes peerScope machine = .error error after := by
  unfold deliverFrameDetailed
  cases kind : frame.kind with
  | data =>
    simp only [Intake.frame, kind] at refused ⊢
    have failed : (machine.engine.remoteFragments.pushFrameOrPayload frame).1 = .error error := by
      rcases pushed : machine.engine.remoteFragments.pushFrameOrPayload frame with ⟨failure | complete, fragments⟩
      · have answered : machine.intake.fragments.pushFrameOrPayload frame = (.error failure, fragments) := pushed
        simpa [answered] using refused
      · have answered : machine.intake.fragments.pushFrameOrPayload frame = (.ok complete, fragments) := pushed
        rw [answered] at refused
        cases complete with
        | none => contradiction
        | some bytes => simp only at refused; split at refused <;> contradiction
    exact ⟨_, bind_error (attempt_error failed)⟩
  | batch =>
    simp only [Intake.frame, kind] at refused ⊢
    cases decoded : frame.batchPayloads with
    | error failure =>
      simp only [decoded, Except.error.injEq] at refused ⊢
      subst refused
      exact ⟨_, rfl⟩
    | ok payloads =>
      simp only [decoded] at refused
      split at refused <;> contradiction
  | control => simp [Intake.frame, kind] at refused

end Detailed

section Receipt

/-- What a receive call leaves behind, whichever way it delivers. -/
structure Receipt where
  security : TransportSecurity
  remotes : HashMap (UInt32 × PathId) SocketAddr
  intake : Intake

def Machine.receipt (machine : Machine) : Receipt :=
  ⟨machine.engine.transportSecurity, machine.engine.learnedPathRemotes, machine.intake⟩

namespace Receipt

def packet (aead : Aead) (receipt : Receipt) (packet : PathPacket) : Except DataplaneError Receipt :=
  match receipt.security.unprotectPacketWithSession aead packet.bytes with
  | (.error _, security) => .ok { receipt with security }
  | (.ok opened, security) =>
      (receipt.intake.frame ⟨opened.frame, opened.localReceiverIndex, packet.bytes.length, packet.now⟩).map
        fun intake =>
        ⟨security, learnRemote receipt.remotes opened.localReceiverIndex packet.pathId packet.source, intake⟩

def packets (aead : Aead) : Receipt → List PathPacket → Except DataplaneError Receipt
  | receipt, [] => .ok receipt
  | receipt, next :: rest => receipt.packet aead next >>= fun after => after.packets aead rest

end Receipt

variable {os : Os} {aead : Aead} {machine : Machine} {packet : PathPacket} {next : Receipt}

/-- A user frame that the packet opens to is for a known and enabled service. -/
def Machine.Answers (machine : Machine) (aead : Aead) (packets : List PathPacket) : Prop :=
  ∀ arrival ∈ (openPackets aead machine.engine.transportSecurity packets).1,
    isReservedServiceId arrival.frame.serviceId = false → machine.Serves arrival.frame.serviceId

variable {state : Machine}

theorem receipt_of_inside {security : TransportSecurity} {remotes : HashMap (UInt32 × PathId) SocketAddr}
    (same : Same Machine.inside machine state) (session : state.session = (security, remotes)) :
    state.receipt = ⟨security, remotes, machine.intake⟩ := by
  have intake : state.intake = machine.intake :=
    congrArg (fun inside : Footing × PendingRemoteEmitBatch × List Emission => (⟨inside.1.fragments, inside.1.dedupe,
      streams scopeOf (inside.2.2.map emissionContent ++ inside.2.1.contents), inside.1.events⟩ : Intake)) same
  simp only [Machine.session, Prod.mk.injEq] at session
  rw [Machine.receipt, session.1, session.2, intake]

theorem receipt_of_moves {after : Machine} {intake : Intake} (moved : state.MovesTo intake after) :
    after.receipt = { state.receipt with intake } := by
  have session := moved.session
  simp only [Same, Machine.session, Prod.mk.injEq] at session
  rw [Machine.receipt, session.1, session.2, moved.intake]
  rfl

theorem packet_cases (os : Os) (aead : Aead) (packet : PathPacket) (machine : Machine) :
    ∃ state, Same Machine.inside machine state ∧
      ((processPacket os aead packet machine = .ok ⟨⟩ state ∧
        processReceivedPathFrame os aead packet machine = .ok [] state ∧
        machine.receipt.packet aead packet = .ok state.receipt) ∨
      ∃ arrival, (openPackets aead machine.engine.transportSecurity [packet]).1 = [arrival] ∧
        processPacket os aead packet machine =
          deliverFrame os arrival.now arrival.frame arrival.bytes arrival.peerScope state ∧
        processReceivedPathFrame os aead packet machine =
          deliverFrameDetailed os arrival.now arrival.frame arrival.bytes arrival.peerScope state ∧
        machine.receipt.packet aead packet =
          (state.intake.frame arrival).map fun intake => { state.receipt with intake }) := by
  unfold Receipt.packet
  rcases opens : machine.engine.transportSecurity.unprotectPacketWithSession aead packet.bytes with
    ⟨error | opened, security⟩
  · have answer : machine.receipt.security.unprotectPacketWithSession aead packet.bytes =
        (.error error, security) := opens
    obtain ⟨state, same, session, summary, detailed⟩ := packet_refused os opens
    refine ⟨state, same, .inl ⟨summary, detailed, ?_⟩⟩
    rw [answer, receipt_of_inside same session]
    rfl
  · have answer : machine.receipt.security.unprotectPacketWithSession aead packet.bytes =
        (.ok opened, security) := opens
    obtain ⟨state, same, session, summary, detailed⟩ := packet_opened os opens
    refine ⟨state, same, .inr ⟨_, by simp only [openPackets, opens]; rfl, summary, detailed, ?_⟩⟩
    have receipt := receipt_of_inside same session
    have intake : state.intake = machine.intake := congrArg Receipt.intake receipt
    rw [answer, receipt, intake]
    rfl

theorem ground_of_inside (same : Same Machine.inside machine state) :
    Same Machine.ground machine state :=
  congrArg (fun inside : Footing × PendingRemoteEmitBatch × List Emission => inside.1.ground) same

theorem pending_of_inside (same : Same Machine.inside machine state) :
    state.pending = machine.pending :=
  congrArg (fun inside : Footing × PendingRemoteEmitBatch × List Emission => inside.2.1) same

theorem Machine.Answers.serves {arrival : FrameArrival} (answers : machine.Answers aead [packet])
    (same : Same Machine.inside machine state)
    (opens : (openPackets aead machine.engine.transportSecurity [packet]).1 = [arrival])
    (user : isReservedServiceId arrival.frame.serviceId = false) : state.Serves arrival.frame.serviceId := by
  have served := answers arrival (by rw [opens]; exact List.mem_singleton_self arrival) user
  exact served.same (ground_of_inside same)

theorem processReceivedPathFrame_reaches (accepts : os.Accepts) (settled : machine.pending = {})
    (answers : machine.Answers aead [packet]) (taken : machine.receipt.packet aead packet = .ok next) :
    Reaches (processReceivedPathFrame os aead packet) machine fun _ after =>
      after.receipt = next ∧ Same Machine.ground machine after ∧ after.pending = {} := by
  obtain ⟨state, same, ⟨-, ran, receipt⟩ | ⟨arrival, opens, -, ran, receipt⟩⟩ := packet_cases os aead packet machine
  · rw [receipt] at taken
    exact ⟨_, state, ran, Except.ok.inj taken, ground_of_inside same, (pending_of_inside same).trans settled⟩
  · obtain ⟨intake, framed, rfl⟩ := except_map_ok (receipt.symm.trans taken)
    obtain ⟨outcomes, after, done, moved, empty⟩ := deliverFrameDetailed_reaches accepts
      ((pending_of_inside same).trans settled) (answers.serves same opens) framed
    exact ⟨outcomes, after, ran.trans done, receipt_of_moves moved, moved.ground.trans (ground_of_inside same), empty⟩

theorem processReceivedPathFrame_fails (os : Os) {error : DataplaneError}
    (refused : machine.receipt.packet aead packet = .error error) :
    ∃ after, processReceivedPathFrame os aead packet machine = .error error after := by
  obtain ⟨state, -, ⟨-, -, receipt⟩ | ⟨arrival, -, -, ran, receipt⟩⟩ := packet_cases os aead packet machine
  · rw [receipt] at refused
    contradiction
  · rw [receipt] at refused
    cases framed : state.intake.frame arrival with
    | error failure =>
      rw [framed] at refused
      obtain ⟨after, failed⟩ := deliverFrameDetailed_fails os framed
      rw [Except.error.inj refused] at failed
      exact ⟨after, ran.trans failed⟩
    | ok intake =>
      rw [framed] at refused
      contradiction

theorem processPacket_receipt (accepts : os.Accepts) (tidy : machine.Tidy) (noHold : machine.NoHold)
    (answers : machine.Answers aead [packet]) (taken : machine.receipt.packet aead packet = .ok next) :
    Reaches (processPacket os aead packet) machine fun _ after =>
      after.receipt = next ∧ Same Machine.ground machine after ∧ after.Tidy := by
  obtain ⟨state, same, ⟨ran, -, receipt⟩ | ⟨arrival, opens, ran, -, receipt⟩⟩ := packet_cases os aead packet machine
  · rw [receipt] at taken
    exact ⟨_, state, ran, Except.ok.inj taken, ground_of_inside same, tidy_of_inside same tidy⟩
  · obtain ⟨intake, framed, rfl⟩ := except_map_ok (receipt.symm.trans taken)
    obtain ⟨outcomes, after, done, moved⟩ := deliverFrame_reaches accepts (tidy_of_inside same tidy)
      (answers.serves same opens) (noHold.same (ground_of_inside same)) framed
    exact ⟨outcomes, after, ran.trans done, receipt_of_moves moved,
      moved.ground.trans (ground_of_inside same), moved.tidy⟩

theorem Receipt.packet_security {receipt : Receipt} (taken : receipt.packet aead packet = .ok next) :
    next.security = (openPackets aead receipt.security [packet]).2 := by
  unfold Receipt.packet at taken
  simp only [openPackets]
  rcases opens : receipt.security.unprotectPacketWithSession aead packet.bytes with ⟨error | opened, security⟩
  · rw [opens] at taken
    exact (congrArg Receipt.security (Except.ok.inj taken)).symm
  · rw [opens] at taken
    obtain ⟨intake, -, rfl⟩ := except_map_ok taken
    rfl

section Lists

variable {packets : List PathPacket}

theorem Machine.Answers.head (answers : machine.Answers aead (packet :: packets)) : machine.Answers aead [packet] := by
  intro arrival member
  apply answers
  rw [← List.singleton_append, openPackets_append]
  exact List.mem_append_left _ member

theorem Machine.Answers.tail {after : Machine} (answers : machine.Answers aead (packet :: packets))
    (taken : machine.receipt.packet aead packet = .ok after.receipt) (ground : Same Machine.ground machine after) :
    after.Answers aead packets := by
  intro arrival member user
  have security : after.engine.transportSecurity = (openPackets aead machine.engine.transportSecurity [packet]).2 :=
    Receipt.packet_security taken
  rw [security] at member
  refine (answers arrival ?_ user).same ground
  rw [← List.singleton_append, openPackets_append]
  exact List.mem_append_right _ member

section
variable (accepts : os.Accepts) (settled : machine.pending = {}) (answers : machine.Answers aead packets)
include accepts settled answers

/-- The detailed call computes the receipt. -/
theorem receiveAvailableFromPaths_reaches (taken : machine.receipt.packets aead packets = .ok next) :
    Reaches (receiveAvailableFromPaths os aead packets) machine fun _ after =>
      after.receipt = next ∧ after.pending = {} := by
  induction packets generalizing machine with
  | nil => exact Reaches.pure ⟨Except.ok.inj taken, settled⟩
  | cons packet rest ih =>
    obtain ⟨middle, one, later⟩ := except_bind_ok taken
    refine Reaches.bind (processReceivedPathFrame_reaches accepts settled answers.head one) fun _ after ends => ?_
    obtain ⟨rfl, ground, empty⟩ := ends
    exact Reaches.bind (ih empty (answers.tail one ground) later) fun _ final ends => Reaches.pure ends

theorem receipt_of_detailed (succeeds : Reaches (receiveAvailableFromPaths os aead packets) machine fun _ _ => True) :
    ∃ next, machine.receipt.packets aead packets = .ok next := by
  induction packets generalizing machine with
  | nil => exact ⟨_, rfl⟩
  | cons packet rest ih =>
    obtain ⟨value, final, done, -⟩ := succeeds
    unfold receiveAvailableFromPaths at done
    cases taken : machine.receipt.packet aead packet with
    | error error =>
      obtain ⟨after, failed⟩ := processReceivedPathFrame_fails os taken
      rw [bind_error failed] at done
      contradiction
    | ok middle =>
      obtain ⟨outcomes, after, ran, rfl, ground, empty⟩ :=
        processReceivedPathFrame_reaches accepts settled answers.head taken
      rw [bind_ok ran] at done
      have tail : Reaches (receiveAvailableFromPaths os aead rest >>= fun later => pure (outcomes ++ later)) after
          fun _ _ => True := ⟨value, final, done, trivial⟩
      obtain ⟨next, later⟩ := ih empty (answers.tail taken ground) tail.head
      exact ⟨next, by rw [Receipt.packets, taken]; exact later⟩

end

theorem receivePackets_receipt (accepts : os.Accepts) (tidy : machine.Tidy) (noHold : machine.NoHold)
    (answers : machine.Answers aead packets) (taken : machine.receipt.packets aead packets = .ok next) :
    Reaches (receivePackets os aead packets) machine fun _ after =>
      after.receipt = next ∧ Same Machine.ground machine after ∧ after.Tidy := by
  induction packets generalizing machine with
  | nil => exact Reaches.pure ⟨Except.ok.inj taken, rfl, tidy⟩
  | cons packet rest ih =>
    obtain ⟨middle, one, later⟩ := except_bind_ok taken
    refine Reaches.bind (processPacket_receipt accepts tidy noHold answers.head one) fun _ after ends => ?_
    obtain ⟨rfl, ground, tidy'⟩ := ends
    refine (ih tidy' (noHold.same ground) (answers.tail one ground) later).mono fun ends => ?_
    exact ⟨ends.1, ends.2.1.trans ground, ends.2.2⟩

/-- The summary call computes the same receipt, if nothing waits in a reorder buffer. -/
theorem receiveListedSummary_receipt {moment : FlushMoment} (accepts : os.Accepts) (settled : machine.pending = {})
    (noHold : machine.NoHold) (idle : ∀ key, machine.engine.remoteReorder key = none)
    (answers : machine.Answers aead packets) (taken : machine.receipt.packets aead packets = .ok next) :
    Reaches (receiveListedSummary os aead packets moment) machine fun _ after =>
      after.receipt = next ∧ after.pending = {} := by
  have begun : { machine with pending := {}, summary := {} } = { machine with summary := {} } := by rw [settled]
  refine reaches_after_modify ?_
  rw [begun]
  have received : Reaches (receivePackets os aead packets) { machine with summary := {} } fun _ after =>
      after.receipt = next ∧ Same Machine.ground machine after ∧ after.Tidy :=
    receivePackets_receipt accepts (Machine.tidy_of_settled settled) noHold answers taken
  refine Reaches.bind received fun _ after ends => ?_
  obtain ⟨rfl, ground, tidy⟩ := ends
  have reorder : after.engine.remoteReorder = machine.engine.remoteReorder := congrArg Ground.remoteReorder ground
  refine (finishReceive_reaches accepts tidy (by rw [reorder]; exact idle)).mono fun ends => ?_
  exact ⟨receipt_of_moves ends.1, ends.2.2⟩

end Lists

/-- The payloads emitted so far, in order for each service and peer. -/
def Machine.deliveries (machine : Machine) : Deliveries :=
  streams scopeOf (machine.net.history.emitted.map emissionContent)

/-- The two receive calls have left the same things behind. -/
structure SameReceipt (one two : Machine) : Prop where
  deliveries : one.deliveries = two.deliveries
  reservedEvents : one.engine.reservedEvents = two.engine.reservedEvents
  dedupe : one.engine.remoteDedupe = two.engine.remoteDedupe
  fragments : one.engine.remoteFragments = two.engine.remoteFragments
  security : one.engine.transportSecurity = two.engine.transportSecurity
  remotes : one.engine.learnedPathRemotes = two.engine.learnedPathRemotes

theorem sameReceipt_of_eq {one two : Machine} (same : one.receipt = two.receipt) (settled : one.pending = {})
    (settled' : two.pending = {}) : SameReceipt one two := by
  simp only [Machine.receipt, Machine.intake, Machine.handedOn, settled, settled', PendingRemoteEmitBatch.contents,
    List.append_nil, Receipt.mk.injEq, Intake.mk.injEq] at same
  obtain ⟨security, remotes, fragments, dedupe, deliveries, events⟩ := same
  exact ⟨deliveries, events, dedupe, fragments, security, remotes⟩

/-- Without a hold and with no payload waiting, the detailed and the summary call agree on every packet list that the
detailed call takes. -/
theorem detailed_and_summary_agree {engine : CoreDataplane} {net : Net}
    {packets : List PathPacket} (moment : FlushMoment)
    (accepts : os.Accepts) (noHold : ∀ pathId, engine.reorderHoldForPath pathId = 0)
    (idle : ∀ key, engine.remoteReorder key = none)
    (answers : Machine.Answers ⟨engine, net, {}, {}⟩ aead packets)
    (succeeds : Reaches (receiveAvailableFromPaths os aead packets) ⟨engine, net, {}, {}⟩ fun _ _ => True) :
    ∃ outcomes detailed summary brief,
      receiveAvailableFromPaths os aead packets ⟨engine, net, {}, {}⟩ = .ok outcomes detailed ∧
      receiveListedSummary os aead packets moment ⟨engine, net, {}, {}⟩ = .ok summary brief ∧
      SameReceipt detailed brief := by
  obtain ⟨next, taken⟩ := receipt_of_detailed accepts rfl answers succeeds
  obtain ⟨outcomes, detailed, ran, receipt, settled⟩ := receiveAvailableFromPaths_reaches accepts rfl answers taken
  have called : Reaches (receiveListedSummary os aead packets moment) ⟨engine, net, {}, {}⟩ fun _ after =>
      after.receipt = next ∧ after.pending = {} := receiveListedSummary_receipt accepts rfl noHold idle answers taken
  obtain ⟨summary, brief, ran', receipt', settled'⟩ := called
  exact ⟨outcomes, detailed, summary, brief, ran, ran',
    sameReceipt_of_eq (receipt.trans receipt'.symm) settled settled'⟩

end Receipt

section Leftover

def heldPath (hold : Nat) : CorePathConfig :=
  { CorePathConfig.direct 1 1400 (.v4 1 1) (.v4 2 1) (Eq.refl true) with
    primitives := { reorderHoldUs := hold }
    lossBound := by simp }

/-- One service and one path that may hold payloads back. -/
def heldConfig (hold : Nat) : CoreRuntimeConfig :=
  .ofService (.fixed 300 "app" (.v4 3 2) (.v4 3 1) .normal (Eq.refl false)) (Eq.refl false) (heldPath hold)
    (.static 1 2 (.replicate 32 5) (.replicate 32 6))

def heldMachine (hold : Nat) : Machine := (startedMachine (heldConfig hold)).get rfl

/-- A packet of the peer with the frame, under the given counter. -/
def peerSends (counter : Nat) (frame : Frame) : PathPacket :=
  ⟨1, .v4 2 1, (encryptFrameWithCounter .transparent 1 (.replicate 32 6) counter frame.encodeV2).toOption.getD [], 0⟩

def appFrame (kind : FrameKind) (serviceId : ServiceId) (sequence : SequenceNumber) (payload : Bytes)
    (fits : decide (payload.length ≤ MAX_FRAME_PAYLOAD_LEN) = true) : Frame :=
  ⟨kind, serviceId, 1, sequence, none, payload, of_decide_eq_true fits⟩

/-- A datagram, two in one frame, a repetition and a message for a reserved service. -/
def mixedPackets : List PathPacket :=
  [peerSends 0 (appFrame .data 300 5 [1] (Eq.refl true)),
    peerSends 1 (appFrame .batch 300 6 [0, 2, 0, 1, 2, 0, 1, 3] (Eq.refl true)),
    peerSends 2 (appFrame .data 300 7 [3] (Eq.refl true)),
    peerSends 3 (appFrame .data 9 8 [4] (Eq.refl true))]

theorem no_hold_of_paths {engine : CoreDataplane} (none : ∀ path ∈ engine.paths, path.primitives.reorderHoldUs = 0)
    (pathId : PathId) : engine.reorderHoldForPath pathId = 0 := by
  unfold CoreDataplane.reorderHoldForPath
  cases found : engine.paths.find? (·.pathId == pathId) with
  | none => rfl
  | some path => simp [none path (List.mem_of_find?_eq_some found)]

theorem mixed_packets_agree : Started .willing 0 (heldConfig 0) (heldMachine 0) ∧ ∃ outcomes detailed summary brief,
    receiveAvailableFromPaths .willing .transparent mixedPackets (heldMachine 0) = .ok outcomes detailed ∧
    receiveListedSummary .willing .transparent mixedPackets ⟨0, []⟩ (heldMachine 0) = .ok summary brief ∧
    SameReceipt detailed brief := by
  have services : ∀ arrival ∈ (openPackets .transparent (heldMachine 0).engine.transportSecurity mixedPackets).1,
      isReservedServiceId arrival.frame.serviceId = false → arrival.frame.serviceId = 300 := by decide +kernel
  refine ⟨⟨Net.blank, rfl, rfl⟩, detailed_and_summary_agree _ Os.willing_accepts
    (no_hold_of_paths (by decide +kernel)) (fun _ => rfl) ?_ (reaches_of_isOk (by decide +kernel))⟩
  intro arrival member user
  rw [services arrival member user]
  exact ⟨⟨_, List.mem_singleton_self _, rfl⟩, rfl⟩

/-- A gap, and then the hold is switched off while a payload waits. -/
def holdSwitchedOff : Machine :=
  run .willing .transparent [.receiveListed [peerSends 0 (appFrame .data 300 5 [1] (Eq.refl true)),
    peerSends 1 (appFrame .data 300 7 [3] (Eq.refl true))] ⟨0, [⟨300, none⟩]⟩,
    .reapplyScheduler 1 [heldPath 0] .roundRobin] (heldMachine 1000)

/-- The summary call delivers the payload that still waits, the detailed call does not. -/
theorem hold_switched_off_disagrees : Started .willing 0 (heldConfig 1000) (heldMachine 1000) ∧
    (∀ pathId, holdSwitchedOff.engine.reorderHoldForPath pathId = 0) ∧
    ¬∃ outcomes detailed summary brief,
      receiveAvailableFromPaths .willing .transparent []
        ⟨holdSwitchedOff.engine, holdSwitchedOff.net, {}, {}⟩ = .ok outcomes detailed ∧
      receiveListedSummary .willing .transparent [] ⟨2, [⟨300, none⟩]⟩
        ⟨holdSwitchedOff.engine, holdSwitchedOff.net, {}, {}⟩ = .ok summary brief ∧
      SameReceipt detailed brief := by
  refine ⟨⟨Net.blank, rfl, rfl⟩, no_hold_of_paths (by decide +kernel), ?_⟩
  rintro ⟨outcomes, detailed, summary, brief, ran, ran', same⟩
  have differ : (finalState (receiveAvailableFromPaths .willing .transparent []
        ⟨holdSwitchedOff.engine, holdSwitchedOff.net, {}, {}⟩)).deliveries ⟨300, none⟩ ≠
      (finalState (receiveListedSummary .willing .transparent [] ⟨2, [⟨300, none⟩]⟩
        ⟨holdSwitchedOff.engine, holdSwitchedOff.net, {}, {}⟩)).deliveries ⟨300, none⟩ := by decide +kernel
  rw [ran, ran'] at differ
  exact differ (congrFun same.deliveries _)

end Leftover

end Gatherlink.Engine
