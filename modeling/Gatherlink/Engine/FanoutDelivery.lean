import Gatherlink.Dataplane.Copies
import Gatherlink.Engine.Fanout
import Gatherlink.Engine.Opening
import Gatherlink.Engine.Reapply

/-! Fanout of a datagram that no path carries whole, at the receiver. The copies share one datagram id,
so their fragments meet in one entry; that works as long as the copies are cut alike. -/

namespace Gatherlink.Engine
open Protocol Crypto Dataplane Lib.BigEndian Lib.Lookup Lib.Exec Lib.Chunks Lib.Streams

section Receiver

/-- A receiver that serves the datagram and has seen nothing of it, with nothing waiting for reordering. -/
structure Awaits (machine : Machine) (key : DedupeKey) (id : UInt32) (pathIds : List PathId) : Prop where
  user : isReservedServiceId key.serviceId = false
  serves : machine.Serves key.serviceId
  idle : ∀ other, machine.engine.remoteReorder other = none
  unseen : (machine.engine.remoteDedupe.observeInScope key).1 = .firstSeen
  passes : ∀ pathId ∈ pathIds, machine.engine.PassesOn pathId key
    (machine.engine.metrics.observeSequence key.sequence key.peerScope).1
  absent : machine.engine.remoteFragments.datagrams id = none

/-- The receiver has handed on nothing new yet, and has the pieces of the frames seen so far. -/
structure Collecting (machine : Machine) (key : DedupeKey) (id : UInt32) (pathIds : List PathId) (pieces : List Bytes)
    (indexes : Finset Nat) : Prop where
  unseen : (machine.engine.remoteDedupe.observeInScope key).1 = .firstSeen
  passes : ∀ pathId ∈ pathIds, machine.engine.PassesOn pathId key
    (machine.engine.metrics.observeSequence key.sequence key.peerScope).1
  entry : PendingEntry (machine.engine.remoteFragments.datagrams id) pieces indexes
  missing : ∃ index < pieces.length, index ∉ indexes

/-- The receiver has handed the payload on and knows its key. -/
structure Settled (machine : Machine) (key : DedupeKey) (id : UInt32) (pieces : List Bytes) : Prop where
  seen : (machine.engine.remoteDedupe.observeInScope key).1 = .duplicate
  entry : ∃ indexes, PendingEntry (machine.engine.remoteFragments.datagrams id) pieces indexes

variable {os : Os} {machine : Machine} {key : DedupeKey} {id : UInt32} {pathIds : List PathId} {pieces : List Bytes}
  {base : Deliveries} {seen : List Frame} {frame : Frame}

/-- A fragment of the datagram, from a copy that was cut into `pieces`. -/
structure AlikePiece (key : DedupeKey) (id : UInt32) (pathIds : List PathId) (pieces : List Bytes) (frame : Frame) :
    Prop where
  kind : frame.kind = .data
  serviceId : frame.serviceId = key.serviceId
  sequence : frame.sequence = key.sequence
  pathId : frame.pathId ∈ pathIds
  piece : ∃ index fragment, frame.fragment = some fragment ∧ CarriesPiece id pieces index fragment frame.payload

/-- Where the receiver stands after the fragments in `seen`. -/
structure Progress (base : Deliveries) (machine : Machine) (key : DedupeKey) (id : UInt32)
    (pathIds : List PathId) (pieces : List Bytes) (seen : List Frame) : Prop where
  serves : machine.Serves key.serviceId
  idle : ∀ other, machine.engine.remoteReorder other = none
  tidy : machine.Tidy
  phase : (∃ indexes, Collecting machine key id pathIds pieces indexes ∧ machine.intake.accepted = base ∧
      ∀ frame ∈ seen, ∀ fragment, frame.fragment = some fragment → fragment.fragmentIndex.toNat ∈ indexes) ∨
    (Settled machine key id pieces ∧ machine.intake.accepted = base.and [(key, pieces.flatten)])

variable {after : Machine} {intake : Intake} {payload : Bytes} {now bytes index : Nat} {fragment : FragmentInfo}
  {indexes : Finset Nat} {aead : Aead}

theorem CoreDataplane.PassesOn.same {pathId : PathId}
    (passes : machine.engine.PassesOn pathId key (machine.engine.metrics.observeSequence key.sequence key.peerScope).1)
    (ground : Same Machine.ground machine after)
    (trackers : after.engine.metrics.receiveSequences = machine.engine.metrics.receiveSequences) :
    after.engine.PassesOn pathId key (after.engine.metrics.observeSequence key.sequence key.peerScope).1 := by
  have paths : after.engine.paths = machine.engine.paths := congrArg Ground.paths ground
  have reorder : after.engine.remoteReorder = machine.engine.remoteReorder := congrArg Ground.remoteReorder ground
  simp only [CoreDataplane.PassesOn, CoreDataplane.reorderHoldForPath, DataplaneMetrics.observeSequence, paths, reorder,
    trackers] at passes ⊢
  exact passes

theorem take_firstSeen (unseen : (intake.dedupe.observeInScope key).1 = .firstSeen) :
    intake.take [(key, payload)] = { intake with
      dedupe := (intake.dedupe.observeInScope key).2, accepted := intake.accepted.and [(key, payload)] } := by
  rcases answer : intake.dedupe.observeInScope key with ⟨seen, window⟩
  rw [answer] at unseen
  simp only at unseen
  simp [Intake.take, sift, answer, unseen]

theorem take_duplicate (seen : (intake.dedupe.observeInScope key).1 = .duplicate) :
    intake.take [(key, payload)] = intake := by
  have same := DedupeWindow.observe_duplicate_window seen
  rcases answer : intake.dedupe.observeInScope key with ⟨observed, window⟩
  rw [answer] at seen same
  simp only at seen same
  simp [Intake.take, sift, answer, seen, same]

theorem deliver_waits (tidy : machine.Tidy) (alike : AlikePiece key id pathIds pieces frame)
    (entry : PendingEntry (machine.engine.remoteFragments.datagrams id) pieces indexes)
    (carried : frame.fragment = some fragment) (carries : CarriesPiece id pieces index fragment frame.payload)
    (missing : ¬∀ i < pieces.length, i ∈ insert index indexes) :
    Reaches (deliverFrame os now frame bytes key.peerScope) machine fun _ after =>
      Same Machine.ground machine after ∧ after.Tidy ∧ after.engine.metrics = machine.engine.metrics ∧
      after.engine.remoteDedupe = machine.engine.remoteDedupe ∧ after.intake.accepted = machine.intake.accepted ∧
      PendingEntry (after.engine.remoteFragments.datagrams id) pieces (insert index indexes) := by
  have next := FragmentReassembly.pushFrameOrPayload_piece entry carried carries
  rw [if_neg missing] at next
  refine (deliverFrame_incomplete tidy alike.kind next.1).mono fun ends => ?_
  obtain ⟨moved, metrics⟩ := ends
  refine ⟨moved.ground, moved.tidy, metrics, moved.dedupe, moved.accepted, ?_⟩
  rw [moved.fragments]
  exact next.2

/-- A fragment that completes the datagram hands its payload to dedupe. -/
theorem deliver_completes
    (accepts : os.Accepts) (user : isReservedServiceId key.serviceId = false) (tidy : machine.Tidy)
    (serves : machine.Serves key.serviceId) (prompt : machine.Prompt frame.pathId key)
    (alike : AlikePiece key id pathIds pieces frame)
    (entry : PendingEntry (machine.engine.remoteFragments.datagrams id) pieces indexes)
    (carried : frame.fragment = some fragment) (carries : CarriesPiece id pieces index fragment frame.payload)
    (full : ∀ i < pieces.length, i ∈ insert index indexes) :
    Reaches (deliverFrame os now frame bytes key.peerScope) machine fun _ after =>
      Same Machine.ground machine after ∧ after.Tidy ∧ after.engine.remoteFragments.datagrams id = none ∧
      after.engine.remoteDedupe = (machine.intake.take [(key, pieces.flatten)]).dedupe ∧
      after.intake.accepted = (machine.intake.take [(key, pieces.flatten)]).accepted := by
  have sameKey : (⟨frame.serviceId, key.peerScope, frame.sequence⟩ : DedupeKey) = key := by
    rw [alike.serviceId, alike.sequence]
  have next := FragmentReassembly.pushFrameOrPayload_piece entry carried carries
  rw [if_pos full] at next
  rcases pushed : machine.engine.remoteFragments.pushFrameOrPayload frame with ⟨result, fragments⟩
  rw [pushed] at next
  obtain ⟨rfl, gone⟩ := next
  have taken : machine.intake.frame ⟨frame, key.peerScope, bytes, now⟩ =
      .ok ({ machine.intake with fragments }.take [(key, pieces.flatten)]) := by
    have answered : machine.intake.fragments.pushFrameOrPayload frame = (.ok (some pieces.flatten), fragments) := pushed
    simp [Intake.frame, alike.kind, answered, alike.serviceId, user, alike.sequence]
  refine (deliverFrame_data_reaches accepts tidy (fun _ => alike.serviceId ▸ serves) (sameKey ▸ prompt) alike.kind
    taken).mono fun moved => ?_
  refine ⟨moved.ground, moved.tidy, ?_, moved.dedupe, moved.accepted⟩
  rw [moved.fragments]
  exact gone

theorem Progress.step (accepts : os.Accepts) (user : isReservedServiceId key.serviceId = false)
    (progress : Progress base machine key id pathIds pieces seen) (alike : AlikePiece key id pathIds pieces frame) :
    Reaches (deliverFrame os now frame bytes key.peerScope) machine fun _ after =>
      Progress base after key id pathIds pieces (seen ++ [frame]) := by
  obtain ⟨index, fragment, carried, carries⟩ := alike.piece
  have still {after : Machine} (ground : Same Machine.ground machine after) :
      after.Serves key.serviceId ∧ ∀ other, after.engine.remoteReorder other = none := by
    have reorder : after.engine.remoteReorder = machine.engine.remoteReorder := congrArg Ground.remoteReorder ground
    exact ⟨progress.serves.same ground, fun other => by rw [reorder]; exact progress.idle other⟩
  rcases progress.phase with ⟨indexes, collecting, nothing, collected⟩ | ⟨settled, handed⟩
  · by_cases full : ∀ i < pieces.length, i ∈ insert index indexes
    · refine (deliver_completes accepts user progress.tidy progress.serves
        (fun _ => collecting.passes _ alike.pathId) alike collecting.entry carried carries full).mono fun ends => ?_
      obtain ⟨ground, tidy, gone, dedupe, accepted⟩ := ends
      have first : (machine.intake.dedupe.observeInScope key).1 = .firstSeen := collecting.unseen
      rw [take_firstSeen first] at dedupe accepted
      refine ⟨(still ground).1, (still ground).2, tidy, .inr ⟨⟨?_, ∅, .inl ⟨gone, rfl⟩⟩, ?_⟩⟩
      · rw [dedupe]
        exact DedupeWindow.observe_known first
      · rw [accepted, ← nothing]
    · refine (deliver_waits progress.tidy alike collecting.entry carried carries full).mono fun ends => ?_
      obtain ⟨ground, tidy, metrics, dedupe, accepted, entry⟩ := ends
      refine ⟨(still ground).1, (still ground).2, tidy, .inl ⟨insert index indexes, ⟨?_, ?_, entry, ?_⟩, ?_, ?_⟩⟩
      · rw [dedupe]
        exact collecting.unseen
      · intro pathId member
        exact (collecting.passes pathId member).same ground (by rw [metrics])
      · simpa using full
      · rw [accepted, nothing]
      · intro other member fragment' carried'
        rcases List.mem_append.mp member with before | last
        · exact Finset.mem_insert_of_mem (collected other before fragment' carried')
        · obtain rfl := List.mem_singleton.mp last
          have same : fragment' = fragment := Option.some.inj (carried'.symm.trans carried)
          rw [same, carries.fragmentIndex]
          exact Finset.mem_insert_self ..
  · obtain ⟨indexes, entry⟩ := settled.entry
    by_cases full : ∀ i < pieces.length, i ∈ insert index indexes
    · have known : machine.Prompt frame.pathId key := fun unseen => by
        rw [settled.seen] at unseen
        contradiction
      refine (deliver_completes accepts user progress.tidy progress.serves known alike entry carried carries
        full).mono fun ends => ?_
      obtain ⟨ground, tidy, gone, dedupe, accepted⟩ := ends
      rw [take_duplicate settled.seen] at dedupe accepted
      exact ⟨(still ground).1, (still ground).2, tidy,
        .inr ⟨⟨dedupe ▸ settled.seen, ∅, .inl ⟨gone, rfl⟩⟩, accepted.trans handed⟩⟩
    · refine (deliver_waits progress.tidy alike entry carried carries full).mono fun ends => ?_
      obtain ⟨ground, tidy, metrics, dedupe, accepted, entry'⟩ := ends
      exact ⟨(still ground).1, (still ground).2, tidy,
        .inr ⟨⟨dedupe ▸ settled.seen, _, entry'⟩, accepted.trans handed⟩⟩

theorem Progress.moved (progress : Progress base machine key id pathIds pieces seen)
    (ground : Same Machine.ground machine after) (intake : after.intake = machine.intake)
    (trackers : after.engine.metrics.receiveSequences = machine.engine.metrics.receiveSequences)
    (tidy : after.Tidy) : Progress base after key id pathIds pieces seen := by
  have reorder : after.engine.remoteReorder = machine.engine.remoteReorder := congrArg Ground.remoteReorder ground
  have fragments : after.engine.remoteFragments = machine.engine.remoteFragments := congrArg Intake.fragments intake
  have dedupe : after.engine.remoteDedupe = machine.engine.remoteDedupe := congrArg Intake.dedupe intake
  refine ⟨progress.serves.same ground, fun other => by rw [reorder]; exact progress.idle other, tidy, ?_⟩
  rw [intake]
  refine progress.phase.imp (fun collects => ?_) fun settles => ?_
  · obtain ⟨indexes, collecting, rest⟩ := collects
    refine ⟨indexes, ⟨dedupe ▸ collecting.unseen, ?_, fragments ▸ collecting.entry, collecting.missing⟩, rest⟩
    intro pathId member
    exact (collecting.passes pathId member).same ground trackers
  · obtain ⟨settled, handed⟩ := settles
    exact ⟨⟨dedupe ▸ settled.seen, fragments ▸ settled.entry⟩, handed⟩

theorem Progress.inside (progress : Progress base machine key id pathIds pieces seen)
    (same : Same Machine.inside machine after) : Progress base after key id pathIds pieces seen := by
  simp only [Same, Machine.inside, Prod.mk.injEq] at same
  obtain ⟨footing, pending, emitted⟩ := same
  have ground : after.ground = machine.ground := congrArg Footing.ground footing
  have fragments : after.engine.remoteFragments = machine.engine.remoteFragments := congrArg Footing.fragments footing
  have dedupe : after.engine.remoteDedupe = machine.engine.remoteDedupe := congrArg Footing.dedupe footing
  have events : after.engine.reservedEvents = machine.engine.reservedEvents := congrArg Footing.events footing
  refine progress.moved ground ?_ (congrArg Footing.trackers footing) (progress.tidy.same ground pending)
  simp only [Machine.intake, Machine.handedOn, fragments, dedupe, events, pending, emitted]

/-- Fragments of copies that are cut alike: the calls succeed, and hand the payload on at most once. -/
theorem receiveCalls_progress {calls : List (List PathPacket × FlushMoment)} (accepts : os.Accepts)
    (user : isReservedServiceId key.serviceId = false) (progress : Progress base machine key id pathIds pieces [])
    (settled : machine.pending = {})
    (alike : ∀ arrival ∈ (openPackets aead machine.engine.transportSecurity (packetsOf calls)).1,
      arrival.peerScope = key.peerScope ∧ AlikePiece key id pathIds pieces arrival.frame) :
    Reaches (receiveCalls os aead calls) machine fun _ after =>
      Progress base after key id pathIds pieces
        ((openPackets aead machine.engine.transportSecurity (packetsOf calls)).1.map (·.frame)) ∧
      after.pending = {} := by
  refine receiveCalls_reaches calls []
    (fun arrivals state => Progress base state key id pathIds pieces (arrivals.map FrameArrival.frame))
    (fun same progress => progress.inside same) ?_ ?_ progress settled
  · intro arrivals arrival state member progress
    obtain ⟨scope, piece⟩ := alike arrival member
    rw [FrameArrival.deliver, scope, List.map_append]
    exact progress.step accepts user piece
  · intro arrivals state moment progress
    refine (finishReceive_reaches accepts progress.tidy progress.idle).mono fun ends => ?_
    obtain ⟨moved, trackers, empty⟩ := ends
    exact ⟨progress.moved moved.ground moved.intake trackers moved.tidy, empty, congrArg Prod.fst moved.session⟩

theorem receivePackets_fails {error : DataplaneError} (packets : List PathPacket) {init : List Frame}
    {last : Frame} (tidy : machine.Tidy) (data : ∀ frame ∈ init ++ [last], frame.kind = .data)
    (opened : (openPackets aead machine.engine.transportSecurity packets).1.map (·.frame) = init ++ [last])
    (waits : machine.engine.remoteFragments.Waits init)
    (refused : ((machine.engine.remoteFragments.pushAll init).pushFrameOrPayload last).1 = .error error) :
    ¬Reaches (receivePackets os aead packets) machine fun _ _ => True := by
  induction packets generalizing machine init with
  | nil => simp [openPackets] at opened
  | cons packet rest ih =>
    rw [receivePackets_cons]
    rcases opens : machine.engine.transportSecurity.unprotectPacketWithSession aead packet.bytes with
      ⟨failure | unprotected, security⟩
    · simp only [openPackets, opens] at opened
      have passed : Reaches (processPacket os aead packet) machine _ := processPacket_refused opens
      obtain ⟨_, next, ran, same, rfl⟩ := passed
      have fragments := fragments_of_inside same
      rintro ⟨value, after, done, -⟩
      rw [bind_ok ran] at done
      exact ih (tidy_of_inside same tidy) data opened (fragments ▸ waits) (fragments ▸ refused)
        ⟨value, after, done, trivial⟩
    · simp only [openPackets, opens, List.map_cons] at opened
      rintro ⟨value, after, done, -⟩
      cases init with
      | nil =>
        obtain ⟨rfl, -⟩ := List.cons.inj opened
        obtain ⟨state, same, -, ran, -⟩ := packet_opened os opens
        obtain ⟨failed, fails⟩ := deliverFrame_fails (data _ (by simp)) (fragments_of_inside same ▸ refused)
        rw [bind_error (ran.trans fails)] at done
        contradiction
      | cons first later =>
        obtain ⟨rfl, tail⟩ := List.cons.inj opened
        have passed : Reaches (processPacket os aead packet) machine fun _ next => (next.Tidy ∧
            next.engine.remoteFragments = (machine.engine.remoteFragments.pushFrameOrPayload unprotected.frame).2) ∧
            next.engine.transportSecurity = security :=
          processPacket_opened opens fun state same => by
            have fragments := fragments_of_inside same
            refine (deliverFrame_incomplete (tidy_of_inside same tidy) (data _ (by simp))
              (fragments ▸ waits.1)).mono fun ends => ⟨ends.1.tidy, ?_⟩
            rw [ends.1.fragments, fragments]
        obtain ⟨_, next, ran, ⟨tidy', fragments⟩, rfl⟩ := passed
        rw [bind_ok ran] at done
        exact ih tidy' (fun frame member => data frame (by simp [member])) tail (fragments ▸ waits.2)
          (fragments ▸ refused) ⟨value, after, done, trivial⟩

end Receiver

section Delivery

/-- A datagram that is planned onto several paths, none of which carries it whole, and its frames. -/
structure FragmentedFanout (serviceId : ServiceId) (datagram : ReceivedDatagram)
    (sequence : SequenceNumber) (id : UInt32)
    (copies : List PlannedDatagram) (frames : List FramePlan) : Prop where
  planned : ∃ burst run engine next after, planDatagram serviceId burst run datagram engine = .ok (copies, next) after
  several : 1 < copies.length
  sequence : ∀ copy ∈ copies, copy.sequence = sequence
  identified : ∀ copy ∈ copies, copy.fragment = some id
  framed : coalescePlannedFrames serviceId copies = .ok frames

variable {os : Os} {aead : Aead} {machine : Machine} {key : DedupeKey} {id : UInt32} {datagram : ReceivedDatagram}
  {copies : List PlannedDatagram} {frames : List FramePlan}

theorem FragmentedFanout.copy (fanout : FragmentedFanout key.serviceId datagram key.sequence id copies frames)
    {copy : PlannedDatagram} (member : copy ∈ copies) :
    copy.payload = datagram.payload ∧ copy.serviceId = key.serviceId ∧
      copy.path.maxDataPayload < datagram.payload.length := by
  obtain ⟨burst, run, engine, next, after, planned⟩ := fanout.planned
  obtain ⟨sequence, fragment, paths, rfl, -, whole⟩ := planDatagram_copies planned
  obtain ⟨path, selected, rfl⟩ := List.mem_map.mp member
  have identified : fragment = some id := fanout.identified _ member
  have large := mt (whole path selected).mpr (by simp [identified])
  exact ⟨rfl, rfl, Nat.lt_of_not_le large⟩

def Machine.delivered (machine : Machine) : Multiset (DedupeKey × Bytes) :=
  (machine.net.history.emitted.map emissionContent : List (DedupeKey × Bytes))

theorem delivered_of_accepted {after : Machine} {contents : List (DedupeKey × Bytes)} (settled : machine.pending = {})
    (settled' : after.pending = {}) (accepted : after.intake.accepted = machine.intake.accepted.and contents) :
    after.delivered = machine.delivered + contents := by
  have handedOn {state : Machine} (empty : state.pending = {}) :
      state.handedOn = state.net.history.emitted.map emissionContent := by
    simp [Machine.handedOn, empty, PendingRemoteEmitBatch.contents]
  have same : streams scopeOf after.handedOn = streams scopeOf (machine.handedOn ++ contents) := by
    rw [streams_append]
    exact accepted
  rw [handedOn settled, handedOn settled'] at same
  simpa [Machine.delivered] using Multiset.coe_eq_coe.mpr (perm_of_streams_eq same)

/-- Any of the frames can come in, in any order, in packets of one session. -/
def Carried (aead : Aead) (security : TransportSecurity) (peerScope : Option UInt32) (frames : List Frame) : Prop :=
  ∀ arrived : List Frame, arrived.Subperm frames → ∃ packets,
    (openPackets aead security packets).1.map (fun arrival => (arrival.peerScope, arrival.frame)) =
      arrived.map fun frame => (peerScope, frame)

/-- Whichever fragments of the copies come in, in whatever order and calls: no call fails, nothing but the payload is
delivered, at most once, and it is delivered if all fragments of a copy have come. -/
def DeliversFanout (os : Os) (aead : Aead) (machine : Machine) (key : DedupeKey) (payload : Bytes)
    (copies : List PlannedDatagram) (frames : List FramePlan) : Prop :=
  ∀ calls arrivals, (openPackets aead machine.engine.transportSecurity (packetsOf calls)).1 = arrivals →
    (∀ arrival ∈ arrivals, arrival.peerScope = key.peerScope) →
    (arrivals.map FrameArrival.frame).Subperm (frames.map (·.frame)) →
    Reaches (receiveCalls os aead calls) machine fun _ after =>
      (after.delivered = machine.delivered ∨ after.delivered = machine.delivered + {(key, payload)}) ∧
      ((∃ copy ∈ copies, ∀ frame ∈ fragmentsOf copy, frame ∈ arrivals.map FrameArrival.frame) →
        after.delivered = machine.delivered + {(key, payload)})

theorem FragmentedFanout.fragment (fanout : FragmentedFanout key.serviceId datagram key.sequence id copies frames)
    {copy : PlannedDatagram} (member : copy ∈ copies) :
    (fragmentsOf copy).length = (chunks copy.path.maxFragmentPayload datagram.payload).length ∧
      ∀ {index frame}, (fragmentsOf copy)[index]? = some frame →
        AlikePiece key id (copies.map (·.path.pathId)) (chunks copy.path.maxFragmentPayload datagram.payload) frame ∧
        ∃ fragment, frame.fragment = some fragment ∧
          CarriesPiece id (chunks copy.path.maxFragmentPayload datagram.payload) index fragment frame.payload := by
  obtain ⟨plans, made⟩ := (coalescePlannedFrames_fragments
    (fun copy member => by simp [fanout.identified copy member]) fanout.framed).1 copy member
  obtain ⟨payload, serviceId, -⟩ := fanout.copy member
  obtain ⟨length, spec⟩ := fragmentsOf_spec (fanout.identified copy member) made
  rw [payload] at length
  refine ⟨length, fun here => ?_⟩
  have frame := spec here
  have piece := frame.piece
  rw [payload] at piece
  exact ⟨⟨frame.kind, frame.serviceId.trans serviceId, frame.sequence.trans (fanout.sequence copy member),
    frame.pathId ▸ List.mem_map_of_mem member, _, piece⟩, piece⟩

theorem delivers_of_equal_mtus (accepts : os.Accepts)
    (fanout : FragmentedFanout key.serviceId datagram key.sequence id copies frames) (settled : machine.pending = {})
    (awaits : Awaits machine key id (copies.map (·.path.pathId)))
    (equal : ∀ one ∈ copies, ∀ two ∈ copies, one.path.mtu = two.path.mtu) :
    DeliversFanout os aead machine key datagram.payload copies frames := by
  rintro calls arrivals rfl scopes subperm
  have sent := (coalescePlannedFrames_fragments (fun copy member => by simp [fanout.identified copy member])
    fanout.framed).2
  obtain ⟨first, listed⟩ : ∃ first, first ∈ copies := List.exists_mem_of_length_pos (by have := fanout.several; omega)
  obtain ⟨pieces, rfl⟩ : ∃ pieces, pieces = chunks first.path.maxFragmentPayload datagram.payload := ⟨_, rfl⟩
  have size {copy : PlannedDatagram} (member : copy ∈ copies) :
      copy.path.maxFragmentPayload = first.path.maxFragmentPayload := by
    rw [CorePathConfig.maxFragmentPayload, equal copy member first listed]
    rfl
  have whole := flatten_chunks first.path.maxFragmentPayload_pos datagram.payload
  have some_piece : 0 < (chunks first.path.maxFragmentPayload datagram.payload).length := by
    have large := (fanout.copy listed).2.2
    by_contra none
    have empty : chunks first.path.maxFragmentPayload datagram.payload = [] := List.eq_nil_of_length_eq_zero (by omega)
    rw [empty] at whole
    simp [← whole] at large
  have start : Progress machine.intake.accepted machine key id (copies.map (·.path.pathId))
      (chunks first.path.maxFragmentPayload datagram.payload) [] := by
    refine ⟨awaits.serves, awaits.idle, Machine.tidy_of_settled settled,
      .inl ⟨∅, ⟨awaits.unseen, awaits.passes, .inl ⟨awaits.absent, rfl⟩,
      0, some_piece, by simp⟩, rfl, by simp⟩⟩
  have alike : ∀ frame ∈ frames.map (·.frame), AlikePiece key id (copies.map (·.path.pathId))
      (chunks first.path.maxFragmentPayload datagram.payload) frame := by
    intro frame member
    rw [sent] at member
    obtain ⟨copy, among, here⟩ := List.mem_flatMap.mp member
    obtain ⟨index, position⟩ := List.mem_iff_getElem?.mp here
    exact size among ▸ ((fanout.fragment among).2 position).1
  refine (receiveCalls_progress accepts awaits.user start settled fun arrival member =>
    ⟨scopes arrival member, alike _ (subperm.subset (List.mem_map_of_mem member))⟩).mono fun ends => ?_
  obtain ⟨progress, empty⟩ := ends
  rcases progress.phase with ⟨indexes, collecting, nothing, collected⟩ | ⟨-, handed⟩
  · have same := delivered_of_accepted settled empty (nothing.trans (Deliveries.and_nil _).symm)
    refine ⟨.inl (by simpa using same), ?_⟩
    rintro ⟨copy, among, all⟩
    -- a copy that has come whole leaves no index missing
    obtain ⟨index, inside, absent⟩ := collecting.missing
    rw [← size among, ← (fanout.fragment among).1] at inside
    have here := List.getElem?_eq_getElem inside
    obtain ⟨-, fragment, carried, carries⟩ := (fanout.fragment among).2 here
    have found := collected _ (all _ (List.mem_of_getElem? here)) fragment carried
    rw [carries.fragmentIndex] at found
    exact absurd found absent
  · rw [whole] at handed
    have delivered := delivered_of_accepted settled empty handed
    exact ⟨.inr delivered, fun _ => delivered⟩

theorem FragmentedFanout.cut (fanout : FragmentedFanout key.serviceId datagram key.sequence id copies frames)
    {copy : PlannedDatagram} (member : copy ∈ copies) :
    Cut id copy.path.maxFragmentPayload datagram.payload (fragmentsOf copy) := by
  refine ⟨(fanout.fragment member).1, fun here => ?_⟩
  obtain ⟨-, fragment, carried, carries⟩ := (fanout.fragment member).2 here
  have length := carries.originalLen
  rw [flatten_chunks copy.path.maxFragmentPayload_pos] at length
  exact ⟨fragment, ⟨carried, carries.datagramId, length, carries.fragmentCount, carries.fragmentIndex⟩, carries.payload⟩

theorem flatMap_pair_subperm {α β : Type} [DecidableEq α] {items : List α} {one two : α} (make : α → List β)
    (first : one ∈ items) (second : two ∈ items) (differ : one ≠ two) :
    (make one ++ make two).Subperm (items.flatMap make) := by
  have rest : two ∈ items.erase one := (List.mem_erase_of_ne differ.symm).mpr second
  have order : items.Perm (one :: two :: (items.erase one).erase two) :=
    (List.perm_cons_erase first).trans ((List.perm_cons_erase rest).cons one)
  have blocks : (make one ++ make two).Sublist ((one :: two :: (items.erase one).erase two).flatMap make) := by
    rw [List.flatMap_cons, List.flatMap_cons, ← List.append_assoc]
    exact List.sublist_append_left ..
  exact (order.flatMap_right make).symm.subperm_left.mp blocks.subperm

section
variable (fanout : FragmentedFanout key.serviceId datagram key.sequence id copies frames)
  (awaits : Awaits machine key id (copies.map (·.path.pathId)))
  (carried : Carried aead machine.engine.transportSecurity key.peerScope (frames.map (·.frame)))
include fanout awaits carried

theorem no_delivery_of_smaller_mtu {one two : PlannedDatagram} (first : one ∈ copies) (second : two ∈ copies)
    (smaller : one.path.mtu < two.path.mtu) :
    ¬DeliversFanout os aead machine key datagram.payload copies frames := by
  intro delivers
  have sent := (coalescePlannedFrames_fragments (fun copy member => by simp [fanout.identified copy member])
    fanout.framed).2
  have sizes : one.path.maxFragmentPayload < two.path.maxFragmentPayload ∧
      two.path.maxFragmentPayload < datagram.payload.length := by
    have large := (fanout.copy second).2.2
    have minimal := one.path.mtuLarge
    unfold CorePathConfig.maxFragmentPayload
    unfold CorePathConfig.maxDataPayload at large
    omega
  obtain ⟨init, last, some_frames, waits, refused⟩ := cuts_clash awaits.absent (fanout.cut first) (fanout.cut second)
    one.path.maxFragmentPayload_pos sizes.1 sizes.2
  have among : (init ++ [last]).Subperm (frames.map (·.frame)) := by
    rw [sent]
    exact some_frames.trans (flatMap_pair_subperm fragmentsOf first second (by rintro rfl; omega))
  obtain ⟨packets, opened⟩ := carried _ among
  have framesOpened : (openPackets aead machine.engine.transportSecurity packets).1.map FrameArrival.frame =
      init ++ [last] := by
    simpa [Function.comp_def] using congrArg (List.map Prod.snd) opened
  have scopes : ∀ arrival ∈ (openPackets aead machine.engine.transportSecurity packets).1,
      arrival.peerScope = key.peerScope := by
    intro arrival member
    have pair := List.mem_map_of_mem (f := fun arrival : FrameArrival => (arrival.peerScope, arrival.frame)) member
    rw [opened] at pair
    obtain ⟨frame, -, same⟩ := List.mem_map.mp pair
    exact (congrArg Prod.fst same).symm
  have data : ∀ frame ∈ init ++ [last], frame.kind = .data := by
    intro frame member
    have listed := among.subset member
    rw [sent] at listed
    obtain ⟨copy, origin, here⟩ := List.mem_flatMap.mp listed
    obtain ⟨index, position⟩ := List.mem_iff_getElem?.mp here
    exact ((fanout.fragment origin).2 position).1.kind
  have called := delivers [(packets, ⟨0, []⟩)] _ rfl (by simpa [packetsOf] using scopes)
    (by simpa [packetsOf, framesOpened] using among)
  have begun : Reaches (receiveListedSummary os aead packets ⟨0, []⟩) machine fun _ _ => True := called.head.of_discard
  have fails : ¬Reaches (receivePackets os aead packets) { machine with pending := {}, summary := {} }
      fun _ _ => True :=
    receivePackets_fails packets (Machine.tidy_of_settled rfl) data framesOpened waits refused
  exact fails (Reaches.head begun)

theorem equal_mtus_of_delivers (delivers : DeliversFanout os aead machine key datagram.payload copies frames) :
    ∀ one ∈ copies, ∀ two ∈ copies, one.path.mtu = two.path.mtu := by
  intro one first two second
  by_contra differ
  rcases Nat.lt_or_gt_of_ne differ with smaller | larger
  · exact no_delivery_of_smaller_mtu fanout awaits carried first second smaller delivers
  · exact no_delivery_of_smaller_mtu fanout awaits carried second first larger delivers

end

/-- Fanout of fragments delivers exactly when the copies go to paths of one MTU. -/
theorem fanout_delivers_iff (accepts : os.Accepts)
    (fanout : FragmentedFanout key.serviceId datagram key.sequence id copies frames) (settled : machine.pending = {})
    (awaits : Awaits machine key id (copies.map (·.path.pathId)))
    (carried : Carried aead machine.engine.transportSecurity key.peerScope (frames.map (·.frame))) :
    DeliversFanout os aead machine key datagram.payload copies frames ↔
      ∀ one ∈ copies, ∀ two ∈ copies, one.path.mtu = two.path.mtu :=
  ⟨equal_mtus_of_delivers fanout awaits carried, delivers_of_equal_mtus accepts fanout settled awaits⟩

end Delivery

section Twins

/-- A service that copies every datagram to two paths of the given MTUs. -/
def twinConfig (first second : CorePathConfig) (unique : [first.pathId, second.pathId].Nodup) : CoreRuntimeConfig where
  services := [.fixed 300 "app" (.v4 3 2) (.v4 3 1) { ServiceSchedulerConfig.normal with fanout := 0 } (Eq.refl false)]
  paths := [first, second]
  schedulerMode := .roundRobin
  security := .static 1 2 (.replicate 32 5) (.replicate 32 6)
  pathIdsUnique := unique
  pathsNonempty := by simp
  serviceIdsUnique := by decide
  serviceNamesUnique := by decide
  servicesAssigned := by decide

def narrowPath : CorePathConfig := .direct 1 26 (.v4 1 1) (.v4 2 1) (Eq.refl true)

def twinPath : CorePathConfig := { narrowPath with pathId := 2, transportBind := some (.v4 1 2) }

def widerPath : CorePathConfig := { twinPath with mtu := 27, mtuLarge := by decide }

def longDatagram : ReceivedDatagram := ⟨(List.range 14).map (UInt8.ofNat ·), .v4 4 1, none, 0⟩

def twinMachine : Machine := (startedMachine (twinConfig narrowPath twinPath (by decide))).get rfl

def unevenMachine : Machine := (startedMachine (twinConfig narrowPath widerPath (by decide))).get rfl

/-- The copies of the datagram, for a narrow path and another one. -/
def longCopies (second : CorePathConfig) : List PlannedDatagram :=
  copiesFor 300 longDatagram 1 (some 1) [narrowPath, second]

def longFrames (second : CorePathConfig) : List FramePlan :=
  ((longCopies second).flatMap fun copy => (fragmentDatagram copy).toOption.getD [])

theorem twin_fanout : FragmentedFanout 300 longDatagram 1 1 (longCopies twinPath) (longFrames twinPath) := by
  refine ⟨⟨false, {}, twinMachine.engine, _, _, rfl⟩, by decide, by decide, by decide, ?_⟩
  simp only [longCopies, copiesFor, List.map_cons, List.map_nil, coalescePlannedFrames]
  rfl

theorem uneven_fanout : FragmentedFanout 300 longDatagram 1 1 (longCopies widerPath) (longFrames widerPath) := by
  refine ⟨⟨false, {}, unevenMachine.engine, _, _, rfl⟩, by decide, by decide, by decide, ?_⟩
  simp only [longCopies, copiesFor, List.map_cons, List.map_nil, coalescePlannedFrames]
  rfl

theorem carried_fresh {keys : TransportKeys} (fresh : keys.replayWindow = .default) {frames : List Frame}
    (few : frames.length ≤ 2 ^ 64) : Carried .transparent (.static keys) none frames := by
  intro arrived among
  have length := among.length_le
  have tracks : keys.replayWindow.Tracks ∅ := by
    rw [fresh]
    exact ReplayWindow.tracks_new _
  have below : ∀ counter ∈ (∅ : Set Nat), counter < 0 := by simp
  exact exists_packets Aead.transparent_correct (fun _ _ _ _ => rfl) tracks below arrived (by omega)

theorem twin_awaits : Awaits twinMachine ⟨300, none, 1⟩ 1 [1, 2] := by
  refine ⟨rfl, ⟨⟨_, List.mem_singleton_self _, rfl⟩, rfl⟩, fun _ => rfl, rfl, fun pathId member => .inl ?_, rfl⟩
  rcases List.mem_pair.mp member with rfl | rfl <;> decide

theorem uneven_awaits : Awaits unevenMachine ⟨300, none, 1⟩ 1 [1, 2] := by
  refine ⟨rfl, ⟨⟨_, List.mem_singleton_self _, rfl⟩, rfl⟩, fun _ => rfl, rfl, fun pathId member => .inl ?_, rfl⟩
  rcases List.mem_pair.mp member with rfl | rfl <;> decide

/-- Two paths of one MTU: each fragment may come from either copy. -/
theorem twin_paths_deliver : Started .willing 0 (twinConfig narrowPath twinPath (by decide)) twinMachine ∧
    DeliversFanout .willing .transparent twinMachine ⟨300, none, 1⟩ longDatagram.payload (longCopies twinPath)
      (longFrames twinPath) :=
  ⟨⟨Net.blank, rfl, rfl⟩, (fanout_delivers_iff Os.willing_accepts twin_fanout rfl twin_awaits
    (carried_fresh rfl (by decide))).mpr (by decide)⟩

/-- One byte more on the second path: the last fragment of one copy fails the call in which it meets the other. -/
theorem uneven_paths_fail : Started .willing 0 (twinConfig narrowPath widerPath (by decide)) unevenMachine ∧
    FragmentedFanout 300 longDatagram 1 1 (longCopies widerPath) (longFrames widerPath) ∧
    Awaits unevenMachine ⟨300, none, 1⟩ 1 [1, 2] ∧
    ¬DeliversFanout .willing .transparent unevenMachine ⟨300, none, 1⟩ longDatagram.payload (longCopies widerPath)
      (longFrames widerPath) := by
  refine ⟨⟨Net.blank, rfl, rfl⟩, uneven_fanout, uneven_awaits, ?_⟩
  have carried : Carried .transparent unevenMachine.engine.transportSecurity none
      ((longFrames widerPath).map (·.frame)) := carried_fresh rfl (by decide)
  exact no_delivery_of_smaller_mtu uneven_fanout uneven_awaits carried List.mem_cons_self
    (List.mem_cons_of_mem _ List.mem_cons_self) (by decide)

end Twins

end Gatherlink.Engine
