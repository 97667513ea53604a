import Gatherlink.Engine.Reorder

/-! A packet that fails ends the drain: the packets behind it are gone, and so is the emit batch. What an application
gets is what it would get without the failing packets only if nothing was pending and the packets behind bring
nothing. -/

namespace Gatherlink.Engine
open Protocol Crypto Dataplane Lib.BigEndian Lib.Lookup Lib.Exec Lib.Streams

section Accounts

namespace Machine

instance (machine : Machine) (serviceId : ServiceId) : Decidable (machine.Serves serviceId) :=
  inferInstanceAs (Decidable (_ ∧ _))

/-- The payloads of a service and peer that wait in a reorder buffer and can be emitted by a later call. -/
def held (machine : Machine) (key : RemoteReorderKey) : List (DedupeKey × Bytes) :=
  if machine.Serves key.serviceId then (machine.engine.buffered key).map key.content else []

/-- What an application has got by now or gets from a later call. -/
def provided (machine : Machine) (key : RemoteReorderKey) : List (DedupeKey × Bytes) :=
  streams scopeOf (machine.net.history.emitted.map emissionContent) key ++ machine.held key

/-- The same in the middle of a call, where the emit batch is still pending. -/
def promised (machine : Machine) (key : RemoteReorderKey) : List (DedupeKey × Bytes) :=
  streams scopeOf machine.handedOn key ++ machine.held key

/-- What decides what is promised and what can be handed on. -/
def outlet (machine : Machine) :
    List Emission × PendingRemoteEmitBatch × List UdpServiceConfig × HashMap ServiceId String :=
  (machine.net.history.emitted, machine.pending, machine.engine.services.map (·.config),
    machine.engine.disabledServices)

def account (machine : Machine) := (machine.outlet, machine.held)

end Machine

/-- Every promise is kept, and those of `more` are made. -/
def Adds (more : Deliveries) (before after : Machine) : Prop :=
  ∀ key, (after.promised key).Perm (before.promised key ++ more key)

/-- Nothing that was promised is lost. -/
structure Grows (before after : Machine) : Prop where
  tidy : after.Tidy
  adds : ∃ more, Adds more before after

variable {machine middle before after : Machine} {contents : List (DedupeKey × Bytes)} {one two : Deliveries}

theorem Adds.trans (first : Adds one machine middle) (second : Adds two middle after) :
    Adds (fun key => one key ++ two key) machine after := fun key =>
  (second key).trans (((first key).append_right _).trans (List.append_assoc .. ▸ List.Perm.refl _))

theorem Adds.symm (kept : Adds (fun _ => []) before after) : Adds (fun _ => []) after before := fun key => by
  simpa using (kept key).symm

theorem Grows.trans (first : Grows machine middle) (second : Grows middle after) : Grows machine after := by
  obtain ⟨_, one⟩ := first.adds
  obtain ⟨_, two⟩ := second.adds
  exact ⟨second.tidy, _, one.trans two⟩

theorem held_congr {key : RemoteReorderKey} (serves : after.Serves key.serviceId ↔ before.Serves key.serviceId)
    (buffered : before.Serves key.serviceId → after.engine.buffered key = before.engine.buffered key) :
    after.held key = before.held key := by
  rw [Machine.held, Machine.held]
  by_cases served : before.Serves key.serviceId
  · rw [if_pos served, if_pos (serves.mpr served), buffered served]
  · rw [if_neg served, if_neg (mt serves.mp served)]

theorem held_of_ground (same : Same Machine.ground before after) : after.held = before.held := by
  funext key
  refine held_congr ⟨fun serves => serves.same same.symm, fun serves => serves.same same⟩ fun _ => ?_
  have buffers : after.engine.remoteReorder = before.engine.remoteReorder := congrArg Ground.remoteReorder same
  rw [CoreDataplane.buffered, buffers, CoreDataplane.buffered]

/-- What is handed on in a service's own order is added to what was promised. -/
theorem adds_of_streams (held : after.held = before.held)
    (handedOn : streams scopeOf after.handedOn = streams scopeOf (before.handedOn ++ contents)) :
    Adds (streams scopeOf contents) before after := by
  intro key
  rw [Machine.promised, Machine.promised, handedOn, held, streams_append]
  simp only [List.append_assoc]
  exact List.Perm.append_left _ List.perm_append_comm

theorem Emitted.adds (emitted : Emitted contents machine after) : Adds (streams scopeOf contents) machine after :=
  adds_of_streams (held_of_ground (congrArg Footing.ground emitted.footing)) emitted.handedOn

theorem Machine.MovesTo.grows {intake : Intake} (moved : machine.MovesTo intake after)
    (more : intake.accepted = machine.intake.accepted.and contents) : Grows machine after := by
  refine ⟨moved.tidy, _, @adds_of_streams machine after contents (held_of_ground moved.ground) ?_⟩
  rw [streams_append]
  exact moved.accepted.trans more

end Accounts

section Unserved

variable {before after : Machine}

theorem outlet_serves (same : Same Machine.outlet before after) (serviceId : ServiceId) :
    after.Serves serviceId ↔ before.Serves serviceId := by
  have configs : after.engine.services.map (·.config) = before.engine.services.map (·.config) :=
    congrArg (fun outlet => outlet.2.2.1) same
  have disabled : after.engine.disabledServices = before.engine.disabledServices :=
    congrArg (fun outlet => outlet.2.2.2) same
  rw [Machine.Serves, Machine.Serves, configs, disabled]

theorem outlet_handedOn (same : Same Machine.outlet before after) :
    after.handedOn = before.handedOn := by
  have emitted : after.net.history.emitted = before.net.history.emitted := congrArg Prod.fst same
  have pending : after.pending = before.pending := congrArg (fun outlet => outlet.2.1) same
  rw [Machine.handedOn, Machine.handedOn, emitted, pending]

theorem outlet_tidy (same : Same Machine.outlet before after) (tidy : before.Tidy) : after.Tidy := by
  have configs : after.engine.services.map (·.config) = before.engine.services.map (·.config) :=
    congrArg (fun outlet => outlet.2.2.1) same
  have pending : after.pending = before.pending := congrArg (fun outlet => outlet.2.1) same
  refine ⟨by rw [pending]; exact tidy.keyed, ?_⟩
  simp only [pending, Machine.Direct, configs]
  exact tidy.batched

theorem account_kept (same : Same Machine.account before after) : Adds (fun _ => []) before after := by
  have handedOn := outlet_handedOn (congrArg Prod.fst same)
  have held : after.held = before.held := congrArg Prod.snd same
  intro key
  rw [Machine.promised, handedOn, held, List.append_nil, Machine.promised]

theorem account_grows (same : Same Machine.account before after) (tidy : before.Tidy) : Grows before after :=
  ⟨outlet_tidy (congrArg Prod.fst same) tidy, _, account_kept same⟩

/-- For a service that is unknown or disabled nothing is handed on. -/
def Unserved (serviceId : ServiceId) (before after : Machine) : Prop :=
  ¬before.Serves serviceId → Same Machine.account before after

instance (serviceId : ServiceId) : IsPreorder Machine (Unserved serviceId) where
  refl _ _ := rfl
  trans _ _ _ first second unserved :=
    have same := first unserved
    Eq.trans (second (mt (outlet_serves (congrArg Prod.fst same) serviceId).mp unserved)) same

variable {α : Type}

theorem unserved_of_same {serviceId : ServiceId} {program : Run α} (moves : Moves (Same Machine.account) program) :
    Moves (Unserved serviceId) program :=
  moves.weaken fun _ _ same _ => same

variable {os : Os} {now : Nat} {machine : Machine} {pathId : PathId} {key : DedupeKey} {payload : Bytes}
  {serviceId : ServiceId} {peerScope : Option UInt32} {observation : SequenceObservation}

/-- A program that looks the service up and refuses it when it is disabled. -/
theorem unserved_of_found {body : Nat × UserlandUdpService → Run α}
    (refuses : ∀ index service {reason machine}, machine.engine.disabledServices serviceId = some reason →
      ∃ error, body (index, service) machine = .error error machine) :
    Moves (Unserved serviceId) (findService serviceId >>= body) := by
  intro machine unserved
  have looks : findService serviceId machine = _ := bind_reads
  cases located : (machine.engine.serviceIndex serviceId).bind fun index =>
      machine.engine.services[index]?.map fun service => (index, service) with
  | none =>
    simp only [located] at looks
    rw [bind_error looks]
    rfl
  | some found =>
    simp only [located] at looks
    obtain ⟨index, first, more⟩ := Option.bind_eq_some_iff.mp located
    obtain ⟨service, here, rfl⟩ := Option.map_eq_some_iff.mp more
    obtain ⟨inside, named, -⟩ := List.findIdx?_eq_some_iff_getElem.mp first
    obtain ⟨_, rfl⟩ := List.getElem?_eq_some_iff.mp here
    have listed : ∃ config ∈ machine.engine.services.map (·.config), config.serviceId = serviceId :=
      ⟨_, List.mem_map_of_mem (List.getElem_mem inside), by simpa using named⟩
    cases disabled : machine.engine.disabledServices serviceId with
    | none => exact absurd ⟨listed, disabled⟩ unserved
    | some reason =>
      obtain ⟨error, refused⟩ := refuses index _ disabled
      rw [bind_ok looks, refused]
      rfl

theorem queueRemotePayloadSummary_unserved :
    Moves (Unserved key.serviceId) (queueRemotePayloadSummary os now pathId key payload observation) :=
  unserved_of_found fun _ _ _ _ disabled => ⟨_, bind_error (ensureServiceEnabled_refuses disabled)⟩

theorem queueReady_unserved {key : RemoteReorderKey} (ready : List RemoteReorderEntry) :
    Moves (Unserved key.serviceId) (queueReady os now key ready) :=
  Moves.forM fun entry _ => @queueRemotePayloadSummary_unserved os now entry.pathId
    ⟨key.serviceId, key.peerScope, entry.sequence⟩ entry.payload entry.observation

theorem release_outlet (event : ReorderEvent) :
    Moves (Same Machine.outlet) (onEngine (modifyGet event.release)) := by
  intro machine
  change Machine.outlet { machine with engine := (event.release machine.engine).2 } = machine.outlet
  rw [event.release_frame]
  rfl

theorem release_unserved (event : ReorderEvent) :
    Moves (Unserved event.key.serviceId) (onEngine (modifyGet event.release)) := by
  intro machine unserved
  have same := release_outlet event machine
  refine Prod.ext same (funext fun key => ?_)
  change Machine.held { machine with engine := (event.release machine.engine).2 } key = machine.held key
  refine held_congr (outlet_serves same key.serviceId) fun served => event.release_other ?_
  exact fun here => unserved (here ▸ served)

theorem program_unserved (event : ReorderEvent) : Moves (Unserved event.key.serviceId) (event.program os) := by
  rw [event.program_eq os]
  exact Moves.bind (release_unserved event) fun ready => queueReady_unserved ready

theorem observeUserPayloadFirstSeen_account {length : Nat} :
    Moves (Same Machine.account) (observeUserPayloadFirstSeen now key pathId length) := by
  refine Moves.modifyGet fun machine => ?_
  simp only [CoreDataplane.observeUserPayloadFirstSeen]
  split <;> rfl

theorem queueFirstSeen_unserved : Moves (Unserved key.serviceId) (queueFirstSeen os now pathId key payload) := by
  refine Moves.bind (unserved_of_same observeUserPayloadFirstSeen_account) fun seen => ?_
  cases seen with
  | none => exact Moves.pure _
  | some observation => exact program_unserved (.arrive now pathId key payload observation)

theorem queueBatchPayloads_unserved (payloads : List Bytes) (sequence : SequenceNumber) :
    Moves (Unserved serviceId) (queueBatchPayloads os now serviceId pathId peerScope sequence payloads) := by
  induction payloads generalizing sequence with
  | nil => exact Moves.pure _
  | cons bytes rest ih =>
    exact Moves.bind (@queueFirstSeen_unserved os now pathId ⟨serviceId, peerScope, sequence⟩ bytes) fun _ =>
      ih (sequence + 1)

theorem tryEmitRemoteBatchWithoutReorder_unserved (payloads : List Bytes) (sequence : SequenceNumber) :
    Moves (Unserved serviceId)
      (tryEmitRemoteBatchWithoutReorder os now serviceId pathId sequence payloads peerScope) :=
  unserved_of_found fun _ _ _ _ disabled => ⟨_, bind_error (ensureServiceEnabled_refuses disabled)⟩

theorem emitRemoteBatchPayloadsSummary_unserved (payloads : List Bytes) (sequence : SequenceNumber) :
    Moves (Unserved serviceId)
      (emitRemoteBatchPayloadsSummary os now serviceId pathId sequence payloads peerScope) := by
  refine Moves.bind (Moves.reads _) fun hold =>
    Moves.bind (Moves.ite (fun _ => ?_) fun _ => Moves.pure _) fun emitted => ?_
  · exact tryEmitRemoteBatchWithoutReorder_unserved payloads sequence
  · refine Moves.ite (fun _ => Moves.pure _) fun _ => ?_
    exact Moves.bind ensureServiceEnabled_moves fun _ => queueBatchPayloads_unserved payloads sequence

end Unserved

section Served

variable {event : ReorderEvent} {os : Os} {now : Nat} {machine : Machine} {pathId : PathId}
  {key : DedupeKey} {payload : Bytes}
  {serviceId : ServiceId} {peerScope : Option UInt32} {sequence : SequenceNumber} {payloads : List Bytes}
  (accepts : os.Accepts) (tidy : machine.Tidy)
include accepts tidy

/-- An event of a served service promises its arrival, if it counts, and nothing else. -/
theorem program_adds (serves : machine.Serves event.key.serviceId) :
    Reaches (event.program os) machine fun _ next => next.Tidy ∧ (next.Serves event.key.serviceId) ∧
      ∃ more : List RemoteReorderEntry, more.Sublist event.entries ∧
        Adds (streams scopeOf (more.map event.key.content)) machine next := by
  refine (event.program_reaches accepts tidy serves).mono fun {_ next} emitted => ?_
  have same : Same Machine.outlet machine { machine with engine := (event.release machine.engine).2 } :=
    release_outlet event machine
  have ground : Same Machine.ground { machine with engine := (event.release machine.engine).2 } next :=
    congrArg Footing.ground emitted.footing
  have serving : next.Serves event.key.serviceId := ((outlet_serves same _).mpr serves).same ground
  obtain ⟨more, counted, perm⟩ := @ReorderEvent.release_keeps event machine.engine
  refine ⟨emitted.tidy, serving, more, counted, fun key => ?_⟩
  refine (emitted.adds key).trans ?_
  rw [streams_content, streams_content, Machine.promised, Machine.promised, List.append_assoc, List.append_assoc]
  refine List.Perm.append_left _ ?_
  by_cases here : event.key = key
  · subst here
    rw [if_pos rfl, if_pos rfl, Machine.held, Machine.held, if_pos serves, if_pos ((outlet_serves same _).mpr serves),
      ← List.map_append, ← List.map_append]
    exact List.Perm.map _ (List.perm_append_comm.trans perm)
  · rw [if_neg here, if_neg here]
    exact List.Perm.append_right _ (List.Perm.of_eq (held_congr (outlet_serves same _) fun _ =>
      event.release_other (Ne.symm here)))

theorem queueFirstSeen_grows (serves : machine.Serves key.serviceId) :
    Reaches (queueFirstSeen os now pathId key payload) machine fun _ next =>
      Grows machine next ∧ next.Serves key.serviceId := by
  have observed := @observeUserPayloadFirstSeen_account now pathId key payload.length machine
  obtain ⟨seen, middle, ran⟩ : ∃ seen middle, observeUserPayloadFirstSeen now key pathId payload.length machine =
      .ok seen middle := ⟨_, _, rfl⟩
  rw [ran] at observed
  have grown := account_grows observed tidy
  have serves' : middle.Serves key.serviceId := (outlet_serves (congrArg Prod.fst observed) _).mpr serves
  refine Reaches.bind (show Reaches _ machine (fun value next => value = seen ∧
    next = middle) from ⟨_, _, ran, rfl, rfl⟩)
    fun value reached same => ?_
  obtain ⟨rfl, rfl⟩ := same
  cases value with
  | none => exact Reaches.pure ⟨grown, serves'⟩
  | some observation =>
    let event : ReorderEvent := .arrive now pathId key payload observation
    refine (@program_adds event os reached accepts grown.tidy serves').mono fun ends => ?_
    obtain ⟨settled, serving, _, -, adds⟩ := ends
    exact ⟨grown.trans ⟨settled, _, adds⟩, serving⟩

theorem queueBatchPayloads_grows (serves : machine.Serves serviceId) :
    Reaches (queueBatchPayloads os now serviceId pathId peerScope sequence payloads) machine fun _ next =>
      Grows machine next := by
  induction payloads generalizing sequence machine with
  | nil => exact Reaches.pure (account_grows rfl tidy)
  | cons bytes rest ih =>
    refine Reaches.bind (queueFirstSeen_grows accepts tidy serves) fun _ middle one => ?_
    exact (ih one.1.tidy one.2).mono fun more => one.1.trans more

theorem emitRemoteBatchPayloadsSummary_grows (serves : machine.Serves serviceId) (settled : machine.pending = {}) :
    Reaches (emitRemoteBatchPayloadsSummary os now serviceId pathId sequence payloads peerScope) machine fun _ next =>
      Grows machine next := by
  have serial : Reaches (ensureServiceEnabled serviceId >>= fun _ =>
      queueBatchPayloads os now serviceId pathId peerScope sequence payloads) machine fun _ next =>
        Grows machine next := by
    exact reaches_after_enabled serves (queueBatchPayloads_grows accepts tidy serves)
  refine reaches_after_reads ?_
  by_cases zero : machine.engine.reorderHoldForPath pathId = 0
  · rw [if_pos zero]
    refine Reaches.bind (tryEmitRemoteBatchWithoutReorder_reaches accepts tidy serves settled) fun done next ends => ?_
    cases done with
    | true => exact Reaches.pure (((if_pos rfl).mp ends).grows rfl)
    | false =>
      obtain rfl : next = machine := by simpa using ends
      exact serial
  · rw [if_neg zero]
    exact serial

end Served

section Packets

variable {os : Os} {aead : Aead} {now : Nat} {machine : Machine} {frame : Frame} {frameBytes : Nat}
  {peerScope : Option UInt32} {serviceId : ServiceId} {packet : PathPacket} {packets : List PathPacket}

/-- A program that succeeds loses nothing that was promised, and one that fails changes nothing of it. -/
structure Hands {α : Type} (program : Run α) (machine : Machine) : Prop where
  ok : ∀ {value next}, program machine = .ok value next → Grows machine next
  error : ∀ {error next}, program machine = .error error next → Adds (fun _ => []) machine next

variable {α β : Type} {program : Run PUnit} {first : Run α} {next : α → Run β}

theorem Hands.of_reaches {program : Run α} (reaches : Reaches program machine fun _ next => Grows machine next) :
    Hands program machine := by
  refine ⟨reaches.of_ran, fun failed => ?_⟩
  obtain ⟨value, next, ran, -⟩ := reaches
  rw [ran] at failed
  contradiction

theorem Hands.of_unserved (moves : Moves (Unserved serviceId) program)
    (unserved : ¬machine.Serves serviceId) (tidy : machine.Tidy) : Hands program machine := by
  have moved := moves machine unserved
  refine ⟨fun ran => ?_, fun ran => ?_⟩
  · rw [ran] at moved
    exact account_grows moved tidy
  · rw [ran] at moved
    exact account_kept moved

theorem Hands.after {value : α} {middle : Machine} (ran : first machine = .ok value middle)
    (kept : Adds (fun _ => []) machine middle) (rest : Hands (next value) middle) : Hands (first >>= next) machine := by
  constructor
  · intro result last done
    rw [bind_ok ran] at done
    obtain ⟨_, adds⟩ := (rest.ok done).adds
    exact ⟨(rest.ok done).tidy, _, kept.trans adds⟩
  · intro error last failed
    rw [bind_ok ran] at failed
    exact kept.trans (rest.error failed)

theorem Hands.after_same (moves : Moves (Same Machine.account) first)
    (rest : ∀ value middle, Same Machine.account machine middle → Hands (next value) middle) :
    Hands (first >>= next) machine := by
  have moved := moves machine
  cases ran : first machine with
  | ok value middle =>
    rw [ran] at moved
    exact Hands.after ran (account_kept moved) (rest value middle moved)
  | error failure middle =>
    rw [ran] at moved
    constructor
    · intro result last done
      rw [bind_error ran] at done
      contradiction
    · intro error last failed
      rw [bind_error ran] at failed
      cases failed
      exact account_kept moved

theorem Hands.pure (value : α) (tidy : machine.Tidy) : Hands (Pure.pure value : Run α) machine :=
  Hands.of_reaches (Reaches.pure (account_grows rfl tidy))

theorem Hands.served (tidy : machine.Tidy) (unserved : Moves (Unserved serviceId) program)
    (served : machine.Serves serviceId → Reaches program machine fun _ next => Grows machine next) :
    Hands program machine := by
  by_cases serves : machine.Serves serviceId
  · exact Hands.of_reaches (served serves)
  · exact Hands.of_unserved unserved serves tidy

theorem pushFrameOrPayload_account : Moves (Same Machine.account) (pushFrameOrPayload frame peerScope) :=
  Moves.attempt fun _ => rfl

theorem kept_of_inside {state : Machine} (same : Same Machine.inside machine state) :
    Adds (fun _ => []) machine state := by
  have emitted : state.net.history.emitted = machine.net.history.emitted := congrArg (fun inside => inside.2.2) same
  refine @adds_of_streams machine state [] (held_of_ground (ground_of_inside same)) ?_
  rw [List.append_nil, Machine.handedOn, Machine.handedOn, emitted, pending_of_inside same]

variable (accepts : os.Accepts) (tidy : machine.Tidy)
include accepts tidy

theorem flush_then {next : Run α} (rest : ∀ middle : Machine, middle.Tidy → middle.pending = {} → Hands next middle) :
    Hands (flushRemoteEmitBatch os now >>= fun _ => next) machine := by
  obtain ⟨_, middle, ran, emitted, settled⟩ : Reaches (flushRemoteEmitBatch os now) machine fun _ next =>
      Emitted [] machine next ∧ next.pending = {} := flushRemoteEmitBatch_reaches accepts tidy
  exact Hands.after ran emitted.adds (rest middle emitted.tidy settled)

theorem deliverPayload_hands (payload : Bytes) :
    Hands (deliverPayload os now frame payload frameBytes peerScope) machine := by
  unfold deliverPayload
  split
  · refine flush_then accepts tidy fun middle clean _ => Hands.of_reaches (Reaches.modify ?_)
    exact account_grows rfl clean
  · exact Hands.served tidy queueFirstSeen_unserved fun serves =>
      (queueFirstSeen_grows accepts tidy serves).mono And.left

theorem deliverFrame_hands : Hands (deliverFrame os now frame frameBytes peerScope) machine := by
  unfold deliverFrame
  cases frame.kind with
  | data =>
    refine Hands.after_same pushFrameOrPayload_account fun complete middle same => ?_
    have clean := (account_grows same tidy).tidy
    cases complete with
    | none => exact Hands.pure _ clean
    | some payload => exact deliverPayload_hands accepts clean payload
  | batch =>
    refine flush_then accepts tidy fun middle clean settled => ?_
    cases frame.batchPayloads with
    | error error =>
      constructor
      · intro value next done
        contradiction
      · intro failure next failed
        cases failed
        exact account_kept rfl
    | ok payloads =>
      simp only
      split
      · refine Hands.of_reaches ((observeReservedBatch_reaches clean).mono fun moved => ?_)
        exact moved.grows (Deliveries.and_nil _).symm
      · exact Hands.served clean (emitRemoteBatchPayloadsSummary_unserved payloads frame.sequence) fun serves =>
          emitRemoteBatchPayloadsSummary_grows accepts clean serves settled
  | control =>
    refine flush_then accepts tidy fun middle clean _ => Hands.of_reaches (Reaches.modify ?_)
    exact account_grows rfl clean

theorem processPacket_hands (packet : PathPacket) : Hands (processPacket os aead packet) machine := by
  rcases opens : machine.engine.transportSecurity.unprotectPacketWithSession aead packet.bytes with
    ⟨error | opened, security⟩
  · obtain ⟨state, same, -, ran, -⟩ := packet_refused os opens
    exact Hands.of_reaches ⟨_, state, ran, tidy_of_inside same tidy, _, kept_of_inside same⟩
  · obtain ⟨state, same, -, ran, -⟩ := packet_opened os opens
    have delivered := @deliverFrame_hands os packet.now state opened.frame packet.bytes.length opened.localReceiverIndex
      accepts (tidy_of_inside same tidy)
    constructor
    · intro value next done
      have grown := delivered.ok (ran.symm.trans done)
      obtain ⟨_, adds⟩ := grown.adds
      exact ⟨grown.tidy, _, (kept_of_inside same).trans adds⟩
    · intro error next failed
      exact (kept_of_inside same).trans (delivered.error (ran.symm.trans failed))

/-- The packets that are left when those that fail are taken out. -/
def survivors (os : Os) (aead : Aead) : List PathPacket → Machine → List PathPacket
  | [], _ => []
  | packet :: rest, machine =>
      match processPacket os aead packet machine with
      | .ok _ next => packet :: survivors os aead rest next
      | .error _ _ => survivors os aead rest machine

/-- The survivors can be received, and nothing is lost on the way. -/
theorem survivors_reach (packets : List PathPacket) :
    Reaches (receivePackets os aead (survivors os aead packets machine)) machine fun _ next => Grows machine next := by
  induction packets generalizing machine with
  | nil => exact Reaches.pure (account_grows rfl tidy)
  | cons packet rest ih =>
    rw [survivors]
    cases ran : processPacket os aead packet machine with
    | ok value next =>
      have grown := (processPacket_hands accepts tidy packet).ok ran
      simp only
      rw [receivePackets_cons]
      refine Reaches.bind (show Reaches _ machine (fun _ reached => reached = next) from ⟨_, _, ran, rfl⟩)
        fun _ reached same => ?_
      obtain rfl := same
      exact (ih grown.tidy).mono fun more => grown.trans more
    | error error next => exact ih tidy

/-- No packet fails; or nothing is pending where the first one has failed, and the packets behind it that do not fail
bring no payload. -/
def NothingLost (os : Os) (aead : Aead) : List PathPacket → Machine → Prop
  | [], _ => True
  | packet :: rest, machine =>
      match processPacket os aead packet machine with
      | .ok _ next => NothingLost os aead rest next
      | .error _ stopped => stopped.pending.contents = [] ∧ ∀ key,
          ((finalState (receivePackets os aead (survivors os aead rest machine) machine)).promised key).length =
            (machine.promised key).length

/-- A list is received as it is, or it fails where it has promised all but what the survivors behind bring. -/
theorem survives_or_stops (packets : List PathPacket) :
    survivors os aead packets machine = packets ∧ NothingLost os aead packets machine ∨
      ∃ error stopped more, receivePackets os aead packets machine = .error error stopped ∧
        Adds more stopped (finalState (receivePackets os aead (survivors os aead packets machine) machine)) ∧
        (NothingLost os aead packets machine ↔ stopped.pending.contents = [] ∧ ∀ key, more key = []) := by
  induction packets generalizing machine with
  | nil => exact .inl ⟨rfl, trivial⟩
  | cons packet rest ih =>
    rw [survivors, NothingLost]
    cases ran : processPacket os aead packet machine with
    | ok value next =>
      simp only [receivePackets_cons, bind_ok ran, List.cons.injEq, true_and]
      exact ih ((processPacket_hands accepts tidy packet).ok ran).tidy
    | error failure stopped =>
      have kept := (processPacket_hands accepts tidy packet).error ran
      obtain ⟨_, survived, received, grown⟩ := survivors_reach accepts tidy rest
      obtain ⟨more, adds⟩ := grown.adds
      refine .inr ⟨failure, stopped, more, by rw [receivePackets_cons, bind_error ran], ?_, ?_⟩
      · rw [received]
        exact kept.symm.trans adds
      · simp only [received, finalState]
        refine and_congr_right fun _ => forall_congr' fun key => ?_
        rw [(adds key).length_eq, List.length_append, Nat.add_eq_left, List.length_eq_zero_iff]

end Packets

section Calls

variable {os : Os} {aead : Aead} {now : Nat} {machine : Machine} {packets : List PathPacket} {moment : FlushMoment}

/-- The state in which a receive call begins. -/
def Machine.begun (machine : Machine) : Machine := { machine with pending := {}, summary := {} }

section Finish

variable (accepts : os.Accepts) (tidy : machine.Tidy)
include accepts tidy

theorem flushExpiredReorderBuffers_keeps {keys : List RemoteReorderKey} {value : PUnit} {next : Machine}
    (ran : flushExpiredReorderBuffers os now keys machine = .ok value next) :
    next.Tidy ∧ Adds (fun _ => []) machine next := by
  induction keys generalizing machine with
  | nil =>
    cases ran
    exact ⟨tidy, account_kept rfl⟩
  | cons key rest ih =>
    obtain ⟨_, middle, one, more⟩ := bind_ok_split ran
    have alone : (ReorderEvent.flush now key).program os machine = .ok ⟨⟩ middle := by
      rw [ReorderEvent.program, flushExpiredReorderBuffers, forM_singleton]
      exact one
    have kept : middle.Tidy ∧ Adds (fun _ => []) machine middle := by
      by_cases serves : machine.Serves key.serviceId
      · obtain ⟨settled, -, _, few, adds⟩ :=
          (@program_adds (.flush now key) os machine accepts tidy serves).of_ran alone
        obtain rfl := List.sublist_nil.mp few
        exact ⟨settled, adds⟩
      · have same := @program_unserved os (.flush now key) machine serves
        rw [alone] at same
        exact ⟨(account_grows same tidy).tidy, account_kept same⟩
    obtain ⟨settled, later⟩ := ih kept.1 more
    exact ⟨settled, kept.2.trans later⟩

/-- The end of a call empties the emit batch and keeps every promise. -/
theorem finishReceive_keeps {summary : PacketBatchSummary} {next : Machine}
    (ran : finishReceive os moment machine = .ok summary next) :
    next.pending = {} ∧ Adds (fun _ => []) machine next := by
  obtain ⟨_, flushed, expired, ran⟩ := bind_ok_split ran
  obtain ⟨_, settled, emptied, ended⟩ := bind_ok_split ran
  obtain rfl : settled = next := by
    cases ended
    rfl
  obtain ⟨clean, kept⟩ := flushExpiredReorderBuffers_keeps accepts tidy expired
  obtain ⟨emitted, empty⟩ := (flushRemoteEmitBatch_reaches accepts clean).of_ran emptied
  exact ⟨empty, kept.trans emitted.adds⟩

end Finish

theorem promised_eq (machine : Machine) (key : RemoteReorderKey) : (machine.promised key).Perm
    (machine.provided key ++ streams scopeOf machine.pending.contents key) := by
  rw [Machine.promised, Machine.handedOn, streams_append, Machine.provided, List.append_assoc, List.append_assoc]
  exact List.Perm.append_left _ List.perm_append_comm

/-- A datagram of the peer for a service that is not there, and one for the service that is. -/
def strayPacket : PathPacket := peerSends 0 (appFrame .data 301 1 [9] (Eq.refl true))

def duePacket : PathPacket := peerSends 1 (appFrame .data 300 2 [1] (Eq.refl true))

def queuedMachine (packets : List PathPacket) : Machine :=
  { heldMachine 0 with
    net :=
      { (heldMachine 0).net with
        inbound := Function.update (heldMachine 0).net.inbound 1
          (packets.map fun packet => ⟨packet.source, packet.bytes, packet.now⟩) } }

def receiveOnce (machine : Machine) : Machine :=
  finalState (receiveAvailableFromPathsSummary .willing .transparent 64 ⟨0, []⟩ machine)

end Calls

end Gatherlink.Engine
