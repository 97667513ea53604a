import Gatherlink.Engine.Receive
import Gatherlink.Lib.Streams

/-! Emission when the operating system takes what it is given: every payload that is queued for a
known and enabled service succeeds, and is from then on either emitted or in the pending batch. -/

namespace Gatherlink.Dataplane
open Lib.Exec Lib.Lookup

/-- Calls on application sockets succeed; a bulk send may still take only a part at a time. -/
structure Os.Accepts (os : Os) : Prop where
  bind : ∀ calls address, ∃ bound, os.bind calls address = .ok bound
  configure : ∀ calls, os.configure calls = .ok ()
  localAddr : ∀ calls, os.localAddr calls = .ok ()
  sendTo : ∀ calls length, ∃ sent, os.sendTo calls length = .ok sent
  sendmmsg : ∀ calls count, 0 < count → ∃ taken, 0 < taken ∧ os.sendmmsg calls count = .ok taken

/-- The system takes every packet that is sent. -/
structure Os.Sends (os : Os) : Prop where
  sendTo : ∀ calls length, ∃ sent, os.sendTo calls length = .ok sent
  sendmmsg : ∀ calls count, 0 < count → ∃ taken, 0 < taken ∧ os.sendmmsg calls count = .ok taken

theorem Os.Accepts.sends {os : Os} (accepts : os.Accepts) : os.Sends := ⟨accepts.sendTo, accepts.sendmmsg⟩

theorem Os.willing_accepts : Os.willing.Accepts where
  bind _ address := ⟨address, rfl⟩
  configure _ := rfl
  localAddr _ := rfl
  sendTo _ length := ⟨length, rfl⟩
  sendmmsg _ count positive := ⟨count, positive, rfl⟩

section Calls

variable {os : Os} {net : Net} {ε α : Type}

theorem ask_reaches {answer : Nat → Except IoErrorKind α} :
    Reaches (ask answer : EStateM ε Net _) net fun result next =>
      result = answer net.calls ∧ next.history = net.history :=
  Reaches.modifyGet ⟨rfl, rfl⟩

theorem require_reaches {error : IoErrorKind → ε} {answer : Nat → Except IoErrorKind α}
    (granted : ∀ calls, ∃ value, answer calls = .ok value) :
    Reaches (require error answer) net fun _ next => next.history = net.history := by
  obtain ⟨value, answered⟩ := granted net.calls
  refine Reaches.bind ask_reaches fun result next asked => ?_
  rw [asked.1, answered]
  exact Reaches.pure asked.2

theorem sendLoop_reaches (sends : os.Sends) {note : Net → List α → Net} {record : History → List α}
    (noted : ∀ net items, record (note net items).history = record net.history ++ items) {fuel sent : Nat}
    {items : List α} (enough : items.length ≤ fuel) : Reaches (sendLoop os note fuel sent items) net fun count next =>
      count = sent + items.length ∧ record next.history = record net.history ++ items := by
  induction fuel generalizing sent items net with
  | zero =>
    obtain rfl : items = [] := List.eq_nil_of_length_eq_zero (by omega)
    exact Reaches.pure ⟨rfl, by simp⟩
  | succ fuel ih =>
    cases items with
    | nil => exact Reaches.pure ⟨rfl, by simp⟩
    | cons first rest =>
      have some_left : 0 < ((first :: rest).take RECV_BATCH_LIMIT).length := by simp [RECV_BATCH_LIMIT]
      obtain ⟨taken, positive, answered⟩ := sends.sendmmsg net.calls _ some_left
      refine Reaches.bind ask_reaches fun result asked same => ?_
      rw [same.1, answered]
      -- whatever the kernel takes is a nonempty part of the front
      have progress : min taken ((first :: rest).take RECV_BATCH_LIMIT).length ≠ 0 := by omega
      simp only [if_neg progress]
      generalize counted : min taken ((first :: rest).take RECV_BATCH_LIMIT).length = count at progress
      have inside : count ≤ ((first :: rest).take RECV_BATCH_LIMIT).length := by omega
      refine reaches_after_modify ?_
      have short : ((first :: rest).drop count).length ≤ fuel := by
        simp only [List.length_drop]
        omega
      refine (ih short).mono fun ends => ?_
      obtain ⟨total, emitted⟩ := ends
      have front : count ≤ RECV_BATCH_LIMIT ∧ count ≤ (first :: rest).length := by
        rw [List.length_take] at inside
        omega
      refine ⟨?_, ?_⟩
      · rw [total, List.length_drop]
        omega
      · rw [emitted, noted, same.2, List.take_take, Nat.min_eq_left front.1, List.append_assoc, List.take_append_drop]

namespace UserlandUdpService

variable {emission : Emission}

theorem emitTo_reaches (accepts : os.Accepts) :
    Reaches (emitTo os emission) net fun _ next => next.history.emitted = net.history.emitted ++ [emission] := by
  refine Reaches.bind (require_reaches fun calls => accepts.sendTo calls _) fun sent asked same => ?_
  refine reaches_after_modify (Reaches.pure ?_)
  rw [Net.emit, same]

theorem emitManyTo_reaches (accepts : os.Accepts) {emissions : List Emission} :
    Reaches (emitManyTo os emissions) net fun count next =>
      count = emissions.length ∧ next.history.emitted = net.history.emitted ++ emissions := by
  have noted (net : Net) (items : List Emission) :
      (net.emit items).history.emitted = net.history.emitted ++ items := rfl
  refine Reaches.focus (sendLoop_reaches accepts.sends noted (Nat.le_refl _)) fun ends => ?_
  simpa using ends

theorem emitToFromPeerSource_reaches (accepts : os.Accepts) {peerScope : UInt32} {service : UserlandUdpService} :
    Reaches (emitToFromPeerSource os peerScope emission) (service, net) fun _ next =>
      next.1.config = service.config ∧ next.2.history.emitted = net.history.emitted ++ [emission] := by
  have granted {ε : Type} {error : IoErrorKind → ε} {answer : Nat → Except IoErrorKind Unit} {net : Net}
      (ok : ∀ calls, answer calls = .ok ()) :
      Reaches (require error answer) net fun _ next => next.history = net.history :=
    require_reaches fun calls => ⟨(), ok calls⟩
  have bound : Reaches (bindPeerSource os emission.target) net fun _ next => next.history = net.history := by
    have opened : Reaches (bindSocket os emission.target.withPortZero) net fun _ next => next.history = net.history :=
      Reaches.bind (require_reaches fun calls => accepts.bind calls _) fun _ _ same => Reaches.modifyGet same
    refine Reaches.bind opened fun socket _ same => ?_
    refine Reaches.bind (granted accepts.configure) fun _ _ same' => ?_
    refine Reaches.bind (granted accepts.configure) fun _ _ same'' => Reaches.pure ?_
    rw [same'', same', same]
  have ensured : Reaches (ensurePeerSource os peerScope emission.target) (service, net) fun _ next =>
      next.1.config = service.config ∧ next.2.history = net.history := by
    refine reaches_after_reads ?_
    split
    · exact Reaches.pure ⟨rfl, rfl⟩
    · exact Reaches.bind (Reaches.focus bound fun same => And.intro rfl same) fun _ _ same => Reaches.modify same
  refine Reaches.bind ensured fun _ state same => ?_
  have sent : Reaches (emitTo os emission >>= fun sent => require .localAddrFailed os.localAddr >>= fun _ => pure sent)
      state.2 fun _ next => next.history.emitted = net.history.emitted ++ [emission] := by
    refine Reaches.bind (emitTo_reaches accepts) fun _ _ emitted => ?_
    refine Reaches.bind (granted accepts.localAddr) fun _ _ same' => Reaches.pure ?_
    rw [same', emitted, same.2]
  exact Reaches.focus sent fun ends => ⟨same.1, ends⟩

end UserlandUdpService

end Calls

end Gatherlink.Dataplane

namespace Gatherlink.Engine
open Protocol Dataplane Lib.BigEndian Lib.Lookup Lib.Exec Lib.Streams

/-- The datagram an emission stands for, and its bytes. -/
def emissionContent (emission : Emission) : DedupeKey × Bytes :=
  (⟨emission.serviceId, emission.peerScope, emission.sequence⟩, emission.payload)

/-- The service and the peer that a payload belongs to. -/
def scopeOf (content : DedupeKey × Bytes) : RemoteReorderKey := ⟨content.1.serviceId, content.1.peerScope⟩

def PendingRemoteEmitBatch.contents (batch : PendingRemoteEmitBatch) : List (DedupeKey × Bytes) :=
  match batch.key with
  | none => []
  | some key => (batch.emissions key).map emissionContent

/-- The part of the engine that decides whether a payload can be handed on. -/
structure Ground where
  services : List UdpServiceConfig
  paths : List CorePathConfig
  disabledServices : HashMap ServiceId String
  remoteReorder : HashMap RemoteReorderKey RemoteReorderBuffer

/-- What the receive path consults and emission leaves alone. -/
structure Footing where
  ground : Ground
  security : TransportSecurity
  fragments : FragmentReassembly
  dedupe : DedupeWindow
  trackers : HashMap (Option UInt32) GlobalSequenceTracker
  events : List ReservedServiceEvent
  remotes : HashMap (UInt32 × PathId) SocketAddr

namespace Machine

/-- The payloads emitted so far and those in the pending batch. -/
def handedOn (machine : Machine) : List (DedupeKey × Bytes) :=
  machine.net.history.emitted.map emissionContent ++ machine.pending.contents

def ground (machine : Machine) : Ground where
  services := machine.engine.services.map (·.config)
  paths := machine.engine.paths
  disabledServices := machine.engine.disabledServices
  remoteReorder := machine.engine.remoteReorder

def footing (machine : Machine) : Footing where
  ground := machine.ground
  security := machine.engine.transportSecurity
  fragments := machine.engine.remoteFragments
  dedupe := machine.engine.remoteDedupe
  trackers := machine.engine.metrics.receiveSequences
  events := machine.engine.reservedEvents
  remotes := machine.engine.learnedPathRemotes

/-- Payloads of this service and peer have a source socket of their own, and never wait in the batch. -/
def Direct (machine : Machine) (scope : RemoteReorderKey) : Prop :=
  scope.peerScope.isSome ∧ ∃ config,
    (machine.engine.services.map (·.config)).find? (·.serviceId == scope.serviceId) = some config ∧
      config.returnMode = .peerScopedSource

/-- A batch without a key has no items, and a batch with one is not for payloads that are emitted past it. -/
structure Tidy (machine : Machine) : Prop where
  keyed : machine.pending.key = none → machine.pending.items = []
  batched : ∀ key, machine.pending.key = some key → ¬machine.Direct ⟨key.serviceId, key.peerScope⟩

theorem tidy_of_settled {machine : Machine} (settled : machine.pending = {}) : machine.Tidy := by
  refine ⟨fun _ => by rw [settled], fun key keyed => ?_⟩
  rw [settled] at keyed
  contradiction

theorem Tidy.same {before after : Machine} (tidy : before.Tidy) (ground : Same Machine.ground before after)
    (pending : after.pending = before.pending) : after.Tidy := by
  have services : after.engine.services.map (·.config) = before.engine.services.map (·.config) :=
    congrArg Ground.services ground
  refine ⟨by rw [pending]; exact tidy.keyed, ?_⟩
  simp only [pending, Direct, services]
  exact tidy.batched

end Machine

section Emission

variable {os : Os} {now : Nat} {machine : Machine} {pathId : PathId} {key : DedupeKey} {payload : Bytes}
  {observation : SequenceObservation}

variable {α : Type} {before middle after : Machine} {serviceId : ServiceId} {index : Nat}
  {service : UserlandUdpService} {scope : RemoteReorderKey}

theorem onNet_reaches {program : EStateM UdpServiceError Net α} {inner : α → Net → Prop}
    (inside : Reaches program machine.net inner) :
    Reaches (onNet program) machine fun value next => next = { machine with net := next.net } ∧ inner value next.net :=
  Reaches.focus inside fun ends => ⟨rfl, ends⟩

/-- `contents` were emitted or joined the pending batch, and nothing else happened. -/
structure Emitted (contents : List (DedupeKey × Bytes)) (before after : Machine) : Prop where
  footing : Same Machine.footing before after
  handedOn : streams scopeOf after.handedOn = streams scopeOf (before.handedOn ++ contents)
  tidy : after.Tidy

theorem Emitted.trans {first second : List (DedupeKey × Bytes)}
    (one : Emitted first before middle) (two : Emitted second middle after) :
    Emitted (first ++ second) before after where
  footing := two.footing.trans one.footing
  handedOn := by
    rw [two.handedOn, streams_append, one.handedOn, ← List.append_assoc, streams_append _ (before.handedOn ++ first)]
  tidy := two.tidy

theorem Emitted.nothing (tidy : machine.Tidy) : Emitted [] machine machine := ⟨rfl, by simp, tidy⟩

/-- What is left when the counters and the summary of a call are disregarded. -/
def Machine.uncounted (machine : Machine) : Footing × Net × PendingRemoteEmitBatch :=
  (machine.footing, machine.net, machine.pending)

theorem Emitted.counted {contents : List (DedupeKey × Bytes)}
    (emitted : Emitted contents before middle) (same : Same Machine.uncounted middle after) :
    Emitted contents before after := by
  obtain ⟨footing, rest⟩ := Prod.ext_iff.mp same
  obtain ⟨net, pending⟩ := Prod.ext_iff.mp rest
  simp only [Machine.uncounted] at footing net pending
  refine ⟨footing.trans emitted.footing, ?_, ?_⟩
  · have same : after.handedOn = middle.handedOn := by rw [Machine.handedOn, Machine.handedOn, net, pending]
    rw [same]
    exact emitted.handedOn
  · exact emitted.tidy.same (congrArg Footing.ground footing) pending

theorem recordEmitted_same (now serviceIndex : Nat) (pathId : PathId) (items : List PendingRemoteEmit)
    (machine : Machine) : Same Machine.uncounted machine (items.foldl (fun machine item =>
      machine.recordEmitted now serviceIndex pathId item.payload.length item.observation) machine) := by
  induction items generalizing machine with
  | nil => rfl
  | cons item rest ih => exact ih _

theorem flushRemoteEmitBatch_reaches (accepts : os.Accepts) (tidy : machine.Tidy) :
    Reaches (flushRemoteEmitBatch os now) machine fun _ next => Emitted [] machine next ∧ next.pending = {} := by
  refine reaches_after_reads ?_
  cases keyed : machine.pending.key with
  | none =>
    refine Reaches.pure ⟨Emitted.nothing tidy, ?_⟩
    have empty := tidy.keyed keyed
    rcases held : machine.pending with ⟨key, items⟩
    simp_all
  | some key =>
    by_cases empty : machine.pending.items = []
    · simp only [empty, List.isEmpty_nil, if_true]
      refine Reaches.modify ⟨⟨rfl, ?_, Machine.tidy_of_settled rfl⟩, rfl⟩
      simp [Machine.handedOn, PendingRemoteEmitBatch.contents, PendingRemoteEmitBatch.emissions, keyed, empty]
    · simp only [List.isEmpty_iff, empty, if_false]
      refine Reaches.bind (onNet_reaches (UserlandUdpService.emitManyTo_reaches accepts)) fun count sent ends => ?_
      obtain ⟨rest, -, emitted⟩ := ends
      have same := recordEmitted_same now key.serviceIndex key.pathId (machine.pending.items.take count)
        { sent with pending := {} }
      have flushed : Emitted [] machine { sent with pending := {} } := by
        refine ⟨by rw [rest]; rfl, ?_, Machine.tidy_of_settled rfl⟩
        simp [Machine.handedOn, PendingRemoteEmitBatch.contents, keyed, emitted]
      exact Reaches.modify ⟨flushed.counted same, congrArg (·.2.2) same⟩

def Machine.Serves (machine : Machine) (serviceId : ServiceId) : Prop :=
  (∃ config ∈ machine.engine.services.map (·.config), config.serviceId = serviceId) ∧
    machine.engine.disabledServices serviceId = none

theorem Machine.Serves.same (serves : machine.Serves serviceId)
    (same : Same Machine.ground machine after) : after.Serves serviceId := by
  have configs := congrArg Ground.services same
  have disabled := congrArg Ground.disabledServices same
  simp only [Machine.ground] at configs disabled
  rw [Machine.Serves, configs, disabled]
  exact serves

theorem findService_reaches (serves : machine.Serves serviceId) :
    Reaches (findService serviceId) machine fun found next => next = machine ∧
      machine.engine.services[found.1]? = some found.2 ∧
      (machine.engine.services.map (·.config)).find? (·.serviceId == serviceId) = some found.2.config := by
  obtain ⟨⟨config, listed, same⟩, -⟩ := serves
  obtain ⟨service, member, rfl⟩ := List.mem_map.mp listed
  obtain ⟨index, located⟩ : ∃ index, machine.engine.serviceIndex serviceId = some index := by
    apply Option.isSome_iff_exists.mp
    rw [CoreDataplane.serviceIndex, List.findIdx?_isSome, List.any_eq_true]
    exact ⟨service, member, by simpa using same⟩
  obtain ⟨inside, named, others⟩ := List.findIdx?_eq_some_iff_getElem.mp located
  refine reaches_after_reads ?_
  simp only [located, Option.bind_some, List.getElem?_eq_getElem inside, Option.map_some]
  refine Reaches.pure ⟨rfl, List.getElem?_eq_getElem inside, ?_⟩
  rw [List.find?_eq_some_iff_getElem]
  exact ⟨named, index, by simpa using inside, by simp, fun other before => by simpa using others other before⟩

theorem reaches_after_enabled {next : PUnit → Run α} {final : α → Machine → Prop} (serves : machine.Serves serviceId)
    (tail : Reaches (next ⟨⟩) machine final) : Reaches (ensureServiceEnabled serviceId >>= next) machine final := by
  rw [ensureServiceEnabled, bind_assoc]
  refine reaches_after_reads ?_
  rw [serves.2]
  exact tail

theorem onService_reaches {program : EStateM UdpServiceError (UserlandUdpService × Net) α} {emission : Emission}
    (present : machine.engine.services[index]? = some service)
    (inside : Reaches program (service, machine.net) fun _ next => next.1.config = service.config ∧
      next.2.history.emitted = machine.net.history.emitted ++ [emission]) :
    Reaches (onService index program) machine fun _ next => Same Machine.footing machine next ∧
      next.pending = machine.pending ∧ next.net.history.emitted = machine.net.history.emitted ++ [emission] := by
  refine reaches_after_reads ?_
  rw [present]
  obtain ⟨located, same⟩ := List.getElem?_eq_some_iff.mp present
  refine Reaches.focus inside fun {_ next} ends => ⟨?_, rfl, ends.2⟩
  have configs : (machine.engine.services.set index next.1).map (·.config) =
      machine.engine.services.map (·.config) := by
    refine List.ext_getElem (by simp) fun position _ _ => ?_
    rw [List.getElem_map, List.getElem_map, List.getElem_set]
    split
    · rename_i here
      subst here
      rw [ends.1, same]
    · rfl
  simp only [Same, Machine.footing, Machine.ground, configs]

/-- Nothing in the pending batch is for this service and peer. -/
def Machine.Clear (machine : Machine) (scope : RemoteReorderKey) : Prop :=
  ∀ content ∈ machine.pending.contents, scopeOf content ≠ scope

theorem Machine.clear_of_settled (settled : machine.pending = {}) : machine.Clear scope := by
  simp [Machine.Clear, settled, PendingRemoteEmitBatch.contents]

theorem Machine.Tidy.clear (tidy : machine.Tidy) (direct : machine.Direct scope) :
    machine.Clear scope := by
  rintro content member rfl
  unfold PendingRemoteEmitBatch.contents at member
  cases keyed : machine.pending.key with
  | none => simp [keyed] at member
  | some key =>
    simp only [keyed, PendingRemoteEmitBatch.emissions, List.map_map, List.mem_map] at member
    obtain ⟨item, -, rfl⟩ := member
    exact tidy.batched key keyed direct

theorem emitted_directly {emissions : List Emission} (tidy : machine.Tidy)
    (clear : ∀ emission ∈ emissions, machine.Clear (scopeOf (emissionContent emission)))
    (footing : Same Machine.footing machine after) (pending : after.pending = machine.pending)
    (emitted : after.net.history.emitted = machine.net.history.emitted ++ emissions) :
    Emitted (emissions.map emissionContent) machine after := by
  refine ⟨footing, ?_, tidy.same (congrArg Footing.ground footing) pending⟩
  have passes : streams scopeOf (emissions.map emissionContent ++ machine.pending.contents) =
      streams scopeOf (machine.pending.contents ++ emissions.map emissionContent) := by
    refine streams_comm fun one direct two waiting same => ?_
    obtain ⟨emission, member, rfl⟩ := List.mem_map.mp direct
    exact clear emission member two waiting same.symm
  rw [Machine.handedOn, Machine.handedOn, pending, emitted, List.map_append, List.append_assoc, List.append_assoc,
    streams_append, passes, ← streams_append]

variable (accepts : os.Accepts) (tidy : machine.Tidy)
include accepts tidy

theorem emission_reaches (emission : Emission) (present : machine.engine.services[index]? = some service)
    (clear : machine.Clear (scopeOf (emissionContent emission))) :
    Reaches (match service.config.returnMode, emission.peerScope with
      | .peerScopedSource, some peerScope =>
          onService index (UserlandUdpService.emitToFromPeerSource os peerScope emission)
      | _, _ => onNet (UserlandUdpService.emitTo os emission)) machine fun _ next =>
        Emitted [emissionContent emission] machine next ∧ next.pending = machine.pending := by
  have clear' : ∀ other ∈ [emission], machine.Clear (scopeOf (emissionContent other)) := by simpa using clear
  split
  · exact (onService_reaches present (UserlandUdpService.emitToFromPeerSource_reaches accepts)).mono fun ends =>
      ⟨emitted_directly tidy clear' ends.1 ends.2.1 ends.2.2, ends.2.1⟩
  · exact (onNet_reaches (UserlandUdpService.emitTo_reaches accepts)).mono fun ends =>
      ⟨emitted_directly tidy clear' (by rw [ends.1]; rfl) (by rw [ends.1]) ends.2, by rw [ends.1]⟩

theorem emitRemotePayloadSummary_reaches (serves : machine.Serves key.serviceId)
    (clear : machine.Clear (scopeOf (key, payload))) :
    Reaches (emitRemotePayloadSummary os now pathId key payload observation) machine fun _ next =>
      Emitted [(key, payload)] machine next ∧ next.pending = machine.pending := by
  refine Reaches.bind (findService_reaches serves) fun found same known => ?_
  obtain ⟨rfl, present, -⟩ := known
  refine reaches_after_reads ?_
  have emits := emission_reaches accepts tidy
    ⟨key.serviceId, key.peerScope, key.sequence, same.engine.remoteTarget found.2, payload⟩ present clear
  refine Reaches.bind emits fun sent next ends => ?_
  exact reaches_after_modify (Reaches.pure ⟨ends.1.counted rfl, ends.2⟩)

theorem enqueueRemoteEmit_reaches {batchKey : PendingRemoteEmitKey} {item : PendingRemoteEmit}
    (batched : ¬machine.Direct ⟨batchKey.serviceId, batchKey.peerScope⟩) :
    Reaches (enqueueRemoteEmit os now batchKey item) machine fun _ next =>
      Emitted [(⟨batchKey.serviceId, batchKey.peerScope, item.sequence⟩, item.payload)] machine next := by
  have flushing {machine : Machine} {due : PendingRemoteEmitBatch → Bool} (tidy : machine.Tidy) :
      Reaches (flushWhen os now due) machine fun _ next => Emitted [] machine next ∧
        (due machine.pending = true → next.pending = {}) ∧ (due machine.pending = false → next = machine) := by
    refine reaches_after_reads ?_
    cases asked : due machine.pending with
    | true => exact (flushRemoteEmitBatch_reaches accepts tidy).mono fun ends => ⟨ends.1, fun _ => ends.2, by simp⟩
    | false => exact Reaches.pure ⟨Emitted.nothing tidy, by simp, fun _ => rfl⟩
  refine Reaches.bind (flushing tidy) fun _ first flushed => ?_
  obtain ⟨before, due, notDue⟩ := flushed
  refine reaches_after_modify ?_
  have joined : Emitted [(⟨batchKey.serviceId, batchKey.peerScope, item.sequence⟩, item.payload)] first
      { first with pending := ⟨some batchKey, first.pending.items ++ [item]⟩ } := by
    have ours : first.pending.key = some batchKey ∨ first.pending.items = [] := by
      cases asked : ((machine.pending.key.isSome && machine.pending.key != some batchKey) || machine.pending.full) with
      | true => exact .inr (by rw [due asked])
      | false =>
        obtain rfl := notDue asked
        cases keyed : first.pending.key with
        | none => exact .inr (tidy.keyed keyed)
        | some other =>
          simp only [keyed, Option.isSome_some, Bool.true_and, Bool.or_eq_false_iff, bne_eq_false_iff_eq] at asked
          exact .inl asked.1
    have batched' : ¬first.Direct ⟨batchKey.serviceId, batchKey.peerScope⟩ := by
      have services : first.engine.services.map (·.config) = machine.engine.services.map (·.config) :=
        congrArg (·.ground.services) before.footing
      simp only [Machine.Direct, services] at batched ⊢
      exact batched
    refine ⟨rfl, congrArg _ ?_, ⟨nofun, fun key keyed => Option.some.inj keyed ▸ batched'⟩⟩
    rcases ours with keyed | empty
    · simp [Machine.handedOn, PendingRemoteEmitBatch.contents, PendingRemoteEmitBatch.emissions, emissionContent, keyed]
    · cases keyed : first.pending.key <;>
        simp [Machine.handedOn, PendingRemoteEmitBatch.contents, PendingRemoteEmitBatch.emissions, emissionContent,
          keyed, empty]
  refine (flushing joined.tidy).mono fun ends => ?_
  simpa using before.trans (joined.trans ends.1)

theorem queueRemotePayloadSummary_reaches (serves : machine.Serves key.serviceId) :
    Reaches (queueRemotePayloadSummary os now pathId key payload observation) machine fun _ next =>
      Emitted [(key, payload)] machine next := by
  refine Reaches.bind (findService_reaches serves) fun found same known => ?_
  obtain ⟨rfl, -, first⟩ := known
  refine reaches_after_enabled serves ?_
  refine reaches_after_reads ?_
  split
  · rename_i own
    have direct : same.Direct (scopeOf (key, payload)) := ⟨own.2, found.2.config, first, own.1⟩
    exact Reaches.bind (emitRemotePayloadSummary_reaches accepts tidy serves (tidy.clear direct)) fun _ next ends =>
      Reaches.modify (ends.1.counted rfl)
  · rename_i batched
    refine enqueueRemoteEmit_reaches accepts tidy fun direct => batched ?_
    obtain ⟨peer, config, found', mode⟩ := direct
    obtain rfl := Option.some.inj (first.symm.trans found')
    exact ⟨mode, peer⟩

end Emission

end Gatherlink.Engine
