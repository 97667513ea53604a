import Gatherlink.Engine.ReorderOrder

/-! When the reorder buffers are empty again after everything has arrived. All services of a peer share one sequence of
numbers, but each has a buffer of its own, and a buffer waits for the next number whichever service it belongs to. -/

namespace Gatherlink.Engine
open Protocol Dataplane Lib.BigEndian Lib.Lookup Lib.Exec Lib.Sorted

/-- A complete datagram of the peer, as the receive path hands it on. -/
structure StreamDatagram where
  serviceId : ServiceId
  pathId : PathId
  sequence : SequenceNumber
  payload : Bytes
  frameBytes : Nat
  now : Nat
  deriving DecidableEq

namespace StreamDatagram

def number (datagram : StreamDatagram) : Nat := datagram.sequence.toNat

def user (datagram : StreamDatagram) : Prop := isReservedServiceId datagram.serviceId = false

def key (datagram : StreamDatagram) (scope : Option UInt32) : DedupeKey :=
  ⟨datagram.serviceId, scope, datagram.sequence⟩

/-- The engine code that handles a datagram. -/
def program (os : Os) (scope : Option UInt32) (datagram : StreamDatagram) : Run PUnit :=
  if isReservedServiceId datagram.serviceId then do
    flushRemoteEmitBatch os datagram.now
    observeReservedPayload datagram.now ⟨datagram.serviceId, datagram.pathId, datagram.sequence, datagram.payload,
      datagram.frameBytes, scope⟩
  else queueFirstSeen os datagram.now datagram.pathId (datagram.key scope) datagram.payload

end StreamDatagram

/-- What happens to the receiver: a datagram, or the flush at the end of a receive call. -/
inductive StreamEvent where
  | arrive (datagram : StreamDatagram)
  | flush (now : Nat) (keys : List RemoteReorderKey)

namespace StreamEvent

def now : StreamEvent → Nat
  | arrive datagram => datagram.now
  | flush now _ => now

def datagrams : StreamEvent → List StreamDatagram
  | arrive datagram => [datagram]
  | flush _ _ => []

theorem now_of_datagram {event : StreamEvent} {datagram : StreamDatagram} (member : datagram ∈ event.datagrams) :
    event.now = datagram.now := by
  cases event with
  | arrive arrived => rw [List.mem_singleton.mp member, now]
  | flush now keys => cases member

def program (os : Os) (scope : Option UInt32) : StreamEvent → Run PUnit
  | arrive datagram => datagram.program os scope
  | flush now keys => flushExpiredReorderBuffers os now keys

end StreamEvent

/-- A later datagram with a lower number has been overtaken. -/
def Overtaken (earlier later : StreamDatagram) : Prop := later.number < earlier.number

/-- Every number from `base` on has arrived once. -/
structure LossFree (base : Nat) (stream : List StreamDatagram) : Prop where
  numbers : (stream.map (·.number)).Perm (List.range' base stream.length)
  room : base + stream.length ≤ 2 ^ 63

/-- Datagrams are overtaken by their own service only, by no more than fit a buffer, and are not later than a hold. -/
structure Orderly (holdOf : PathId → Nat) (stream : List StreamDatagram) : Prop where
  service : stream.Pairwise fun earlier later => Overtaken earlier later → later.serviceId = earlier.serviceId
  prompt : stream.Pairwise fun earlier later => Overtaken earlier later →
    ∀ datagram ∈ stream, later.now - earlier.now < holdOf datagram.pathId
  few : ∀ seen late due, stream = seen ++ late :: due →
    (seen.filter (late.number < ·.number)).length ≤ REMOTE_REORDER_BUFFER_LIMIT

variable {base expected : Nat} {scope : Option UInt32} {holdOf : PathId → Nat} {seen due : List StreamDatagram}
  {early late datagram : StreamDatagram}

section Stream

section
variable (orderly : Orderly holdOf (seen ++ due))
include orderly

theorem Orderly.same_service (before : early ∈ seen) (after : late ∈ due)
    (overtaken : late.number < early.number) : late.serviceId = early.serviceId :=
  (List.pairwise_append.mp orderly.service).2.2 early before late after overtaken

theorem Orderly.within (before : early ∈ seen) (after : late ∈ due)
    (overtaken : late.number < early.number) (member : datagram ∈ seen ++ due) :
    late.now - early.now < holdOf datagram.pathId :=
  (List.pairwise_append.mp orderly.prompt).2.2 early before late after overtaken datagram member

theorem Orderly.few_over (after : late ∈ due) :
    (seen.filter (late.number < ·.number)).length ≤ REMOTE_REORDER_BUFFER_LIMIT := by
  obtain ⟨first, rest, rfl⟩ := List.append_of_mem after
  have all := orderly.few (seen ++ first) late rest (by simp)
  rw [List.filter_append, List.length_append] at all
  omega

end

section
variable (complete : LossFree base (seen ++ due))
include complete

theorem LossFree.distinct (before : early ∈ seen) (after : late ∈ due) :
    late.number ≠ early.number := by
  have nodup := complete.numbers.nodup_iff.mpr List.nodup_range'
  rw [List.map_append, List.nodup_append] at nodup
  exact fun same => nodup.2.2 _ (List.mem_map_of_mem before) _ (List.mem_map_of_mem after) same.symm

theorem LossFree.fresh (after : late ∈ due) :
    late.number ∉ seen.map (·.number) := by
  intro listed
  obtain ⟨early, before, same⟩ := List.mem_map.mp listed
  exact complete.distinct before after same.symm

theorem LossFree.range (member : datagram ∈ seen ++ due) : base ≤ datagram.number ∧ datagram.number < 2 ^ 63 := by
  have inside := complete.numbers.mem_iff.mp (List.mem_map_of_mem member)
  have room := complete.room
  rw [List.mem_range'_1] at inside
  omega

theorem LossFree.to_come {number : Nat} (lower : base ≤ number) (upper : early ∈ seen ++ due)
    (below : number < early.number) (absent : number ∉ seen.map (·.number)) :
    ∃ late ∈ due, late.number = number := by
  have inside := complete.numbers.mem_iff.mp (List.mem_map_of_mem upper)
  rw [List.mem_range'_1] at inside
  have listed : number ∈ (seen ++ due).map (·.number) := by
    rw [complete.numbers.mem_iff, List.mem_range'_1]
    omega
  rw [List.map_append, List.mem_append] at listed
  exact List.mem_map.mp (listed.resolve_left absent)

end

theorem LossFree.shift (complete : LossFree base (seen ++ early :: due)) : LossFree base (seen ++ [early] ++ due) := by
  rwa [← List.append_cons]

theorem Orderly.shift (orderly : Orderly holdOf (seen ++ early :: due)) : Orderly holdOf (seen ++ [early] ++ due) := by
  rwa [← List.append_cons]

end Stream

/-- What a buffer keeps of a datagram. -/
def StreamDatagram.trace (datagram : StreamDatagram) : SequenceNumber × PathId × Nat :=
  (datagram.sequence, datagram.pathId, datagram.now)

def RemoteReorderEntry.trace (entry : RemoteReorderEntry) : SequenceNumber × PathId × Nat :=
  (entry.sequence, entry.pathId, entry.receivedAt)

namespace RemoteReorderBuffer

def next (buffer : RemoteReorderBuffer) : Nat := buffer.nextSequence.toNat

/-- Everything below the number that the buffer waits for has arrived, and everything from there on is in it. -/
structure Lines (base : Nat) (seen : List StreamDatagram) (buffer : RemoteReorderBuffer) : Prop where
  lower : base ≤ buffer.next
  filled : ∀ number, base ≤ number → number < buffer.next → number ∈ seen.map (·.number)
  waiting : (buffer.entries.map (·.trace)).Perm ((seen.filter (buffer.next ≤ ·.number)).map (·.trace))

variable {now hold : Nat} {buffer rest final : RemoteReorderBuffer} {entry : RemoteReorderEntry}
  {ready : List RemoteReorderEntry}

theorem number_of_trace (same : entry.trace = datagram.trace) : entry.sequence.toNat = datagram.number := by
  simp only [RemoteReorderEntry.trace, StreamDatagram.trace, Prod.mk.injEq] at same
  rw [same.1, StreamDatagram.number]

section Lines
variable (lines : buffer.Lines base seen)
include lines

theorem Lines.of_entry (member : entry ∈ buffer.entries) :
    ∃ datagram ∈ seen, buffer.next ≤ datagram.number ∧ entry.trace = datagram.trace := by
  have listed := lines.waiting.mem_iff.mp (List.mem_map_of_mem member)
  obtain ⟨datagram, inside, same⟩ := List.mem_map.mp listed
  rw [List.mem_filter, decide_eq_true_eq] at inside
  exact ⟨datagram, inside.1, inside.2, same.symm⟩

theorem Lines.of_datagram (member : datagram ∈ seen) (above : buffer.next ≤ datagram.number) :
    ∃ entry ∈ buffer.entries, entry.trace = datagram.trace := by
  have listed : datagram ∈ seen.filter (buffer.next ≤ ·.number) := by
    rw [List.mem_filter, decide_eq_true_eq]
    exact ⟨member, above⟩
  exact List.mem_map.mp (lines.waiting.mem_iff.mpr (List.mem_map_of_mem listed))

theorem Lines.absent_iff : buffer.takeNext.1 = none ↔ buffer.next ∉ seen.map (·.number) := by
  simp only [takeNext, takeAt, List.find?_eq_none, beq_iff_eq, RemoteReorderEntry.rank]
  constructor
  · intro missing listed
    obtain ⟨datagram, member, same⟩ := List.mem_map.mp listed
    obtain ⟨entry, inside, trace⟩ := lines.of_datagram member (Nat.le_of_eq same.symm)
    exact missing entry inside ((number_of_trace trace).trans same)
  · intro absent entry inside same
    obtain ⟨datagram, member, -, trace⟩ := lines.of_entry inside
    exact absent (List.mem_map.mpr ⟨datagram, member, (number_of_trace trace).symm.trans same⟩)

theorem Lines.next_le (complete : LossFree base (seen ++ due)) (coming : datagram ∈ due) :
    buffer.next ≤ datagram.number := by
  by_contra under
  have range := complete.range (List.mem_append_right seen coming)
  exact complete.fresh coming (lines.filled datagram.number range.1 (by omega))

/-- An entry has overtaken the number that the buffer waits for. -/
theorem Lines.overtakes (absent : buffer.next ∉ seen.map (·.number)) (complete : LossFree base (seen ++ due))
    (member : entry ∈ buffer.entries) :
    ∃ early ∈ seen, buffer.next ≤ early.number ∧ entry.trace = early.trace ∧
      ∃ late ∈ due, late.number = buffer.next ∧ late.number < early.number := by
  obtain ⟨early, arrived, above, trace⟩ := lines.of_entry member
  have apart : buffer.next ≠ early.number := fun same => absent (List.mem_map.mpr ⟨early, arrived, same.symm⟩)
  have below : buffer.next < early.number := by omega
  obtain ⟨late, coming, here⟩ := complete.to_come lines.lower (List.mem_append_left _ arrived) below absent
  exact ⟨early, arrived, above, trace, late, coming, here, here ▸ below⟩

variable (small : ∀ datagram ∈ seen, datagram.number < 2 ^ 63)
include small

theorem Lines.next_take (taken : buffer.takeNext = (some entry, rest)) :
    rest.next = buffer.next + 1 ∧ ∃ datagram ∈ seen, datagram.number = buffer.next := by
  obtain ⟨same, perm, moved⟩ := takeNext_some taken
  obtain ⟨datagram, member, -, trace⟩ := lines.of_entry (perm.mem_iff.mpr List.mem_cons_self)
  have here : datagram.number = buffer.next := by rw [← number_of_trace trace, same, next]
  have bound := small datagram member
  refine ⟨?_, datagram, member, here⟩
  rw [next, moved]
  exact next_of_room (by rw [← next]; omega)

theorem Lines.take (taken : buffer.takeNext = (some entry, rest)) : rest.Lines base seen := by
  obtain ⟨later, datagram, member, here⟩ := lines.next_take small taken
  refine ⟨by rw [later]; exact Nat.le_succ_of_le lines.lower, ?_, ?_⟩
  · intro number above below
    rcases Nat.lt_succ_iff_lt_or_eq.mp (later ▸ below) with inside | last
    · exact lines.filled number above inside
    · exact List.mem_map.mpr ⟨datagram, member, by rw [here, last]⟩
  · -- Both sides lose exactly what has the number that was taken.
    obtain ⟨-, rfl⟩ := Prod.ext_iff.mp taken
    have kept := lines.waiting.filter fun trace => trace.1.toNat != buffer.next
    rw [List.filter_map, List.filter_map, List.filter_filter] at kept
    have left : buffer.entries.filter ((fun trace : SequenceNumber × PathId × Nat => trace.1.toNat != buffer.next) ∘
        RemoteReorderEntry.trace) = (takeAt RemoteReorderEntry.rank buffer.nextSequence.toNat buffer.entries).2 := rfl
    have right : seen.filter (fun datagram => ((fun trace : SequenceNumber × PathId × Nat =>
        trace.1.toNat != buffer.next) ∘ StreamDatagram.trace) datagram && decide (buffer.next ≤ datagram.number)) =
        seen.filter (buffer.next + 1 ≤ ·.number) := by
      refine List.filter_congr fun datagram _ => ?_
      have number : datagram.sequence.toNat = datagram.number := rfl
      rw [Bool.eq_iff_iff]
      simp only [Function.comp_apply, StreamDatagram.trace, number, Bool.and_eq_true, bne_iff_ne, decide_eq_true_eq]
      omega
    rw [left, right] at kept
    simp only [later]
    exact kept

theorem Lines.drains (drains : buffer.Drains now hold ready final)
    (waits : ∀ {stopped : RemoteReorderBuffer} {oldest others}, stopped.Lines base seen →
      stopped.next ∉ seen.map (·.number) → stopped.entries = oldest :: others → stopped.Waits now hold oldest) :
    final.Lines base seen ∧ final.next ∉ seen.map (·.number) ∧ buffer.next ≤ final.next := by
  induction drains with
  | take taken later ih =>
    obtain ⟨ends, absent, further⟩ := ih (lines.take small taken)
    have moved := (lines.next_take small taken).1
    exact ⟨ends, absent, by omega⟩
  | skip absent first due later ih => exact absurd (waits lines (lines.absent_iff.mp absent) first) due
  | wait absent first waits => exact ⟨lines, lines.absent_iff.mp absent, Nat.le_refl _⟩
  | done empty => exact ⟨lines, lines.absent_iff.mp (by simp [takeNext, takeAt, empty]), Nat.le_refl _⟩

end Lines

theorem lines_new {sequence : SequenceNumber} (lower : base ≤ sequence.toNat)
    (filled : ∀ number, base ≤ number → number < sequence.toNat → number ∈ seen.map (·.number))
    (below : ∀ datagram ∈ seen, datagram.number < sequence.toNat) : (new sequence).Lines base seen := by
  refine ⟨lower, filled, ?_⟩
  have nothing : seen.filter (fun datagram => decide ((new sequence).next ≤ datagram.number)) = [] := by
    rw [List.filter_eq_nil_iff]
    intro datagram member
    have under := below datagram member
    rw [decide_eq_true_eq]
    exact Nat.not_le_of_lt under
  rw [nothing]
  exact List.Perm.refl _

theorem Lines.insert (lines : buffer.Lines base seen) (trace : entry.trace = datagram.trace)
    (above : buffer.next ≤ datagram.number) (fresh : datagram.number ∉ seen.map (·.number)) :
    (buffer.insertEntry entry).Lines base (seen ++ [datagram]) := by
  refine ⟨lines.lower, ?_, ?_⟩
  · intro number lower below
    rw [List.map_append]
    exact List.mem_append_left _ (lines.filled number lower below)
  · have unknown : ∀ other ∈ buffer.entries, other.rank ≠ entry.rank := by
      intro other member same
      obtain ⟨earlier, arrived, -, trail⟩ := lines.of_entry member
      refine fresh (List.mem_map.mpr ⟨earlier, arrived, ?_⟩)
      rw [← number_of_trace trail, ← number_of_trace trace]
      exact same
    have inserted : ((buffer.insertEntry entry).entries.map (·.trace)).Perm
        (entry.trace :: buffer.entries.map (·.trace)) :=
      (insertNew_perm unknown).map _
    have kept : (seen ++ [datagram]).filter ((buffer.insertEntry entry).next ≤ ·.number) =
        seen.filter (buffer.next ≤ ·.number) ++ [datagram] := by
      rw [List.filter_append]
      congr 1
      exact List.filter_cons_of_pos (decide_eq_true above)
    rw [kept, List.map_append, List.map_singleton, ← trace]
    exact inserted.trans ((lines.waiting.cons _).trans (List.perm_append_singleton ..).symm)

end RemoteReorderBuffer

/-- The buffer waits for a number that has not arrived, and holds datagrams of one service only. -/
structure RemoteReorderBuffer.Guards (base : Nat) (seen : List StreamDatagram) (serviceId : ServiceId)
    (buffer : RemoteReorderBuffer) : Prop where
  lines : buffer.Lines base seen
  absent : buffer.next ∉ seen.map (·.number)
  nonempty : buffer.entries ≠ []
  own : ∀ datagram ∈ seen, buffer.next ≤ datagram.number → datagram.serviceId = serviceId

/-- Where the stream has a gap, the service on both sides of it has a buffer, and no other service has one. -/
structure Guarded (base : Nat) (scope : Option UInt32) (seen due : List StreamDatagram) (expected : Nat)
    (buffers : HashMap RemoteReorderKey RemoteReorderBuffer) : Prop where
  sound : ∀ key buffer, buffers key = some buffer →
    key.peerScope = scope ∧ isReservedServiceId key.serviceId = false ∧ buffer.Guards base seen key.serviceId
  covered : ∀ late ∈ due, late.user → late.number < expected → buffers ⟨late.serviceId, scope⟩ ≠ none

/-- The tracker of the peer expects the number behind the highest one that arrived, and dedupe lets the rest pass. -/
structure CoreDataplane.Counts (base : Nat) (scope : Option UInt32) (seen due : List StreamDatagram) (expected : Nat)
    (engine : CoreDataplane) : Prop where
  expects : (((engine.metrics.receiveSequences scope).getD {}).nextExpected).elim
    (seen = [] ∧ expected = base ∧ ∀ first ∈ due.head?, first.number = base) (·.toNat = expected)
  below : ∀ datagram ∈ seen, datagram.number < expected
  last : expected = base ∨ ∃ datagram ∈ seen, datagram.number + 1 = expected
  unseen : ∀ datagram ∈ due, datagram.key scope ∉ engine.remoteDedupe.order

variable {next : StreamDatagram}

section Gaps

variable {buffers : HashMap RemoteReorderKey RemoteReorderBuffer} {engine : CoreDataplane}
  {buffer : RemoteReorderBuffer} {serviceId : ServiceId}

/-- Something beyond the gap has arrived, and what fills it is still to come. -/
theorem RemoteReorderBuffer.Guards.gap (guards : buffer.Guards base seen serviceId)
    (complete : LossFree base (seen ++ due)) :
    ∃ early ∈ seen, early.serviceId = serviceId ∧ ∃ late ∈ due, late.number = buffer.next ∧
      late.number < early.number := by
  obtain ⟨entry, waiting⟩ := List.exists_mem_of_ne_nil _ guards.nonempty
  obtain ⟨early, member, above, -, filling⟩ := guards.lines.overtakes guards.absent complete waiting
  exact ⟨early, member, guards.own early member above, filling⟩

theorem RemoteReorderBuffer.Guards.next_service (guards : buffer.Guards base seen serviceId)
    (complete : LossFree base (seen ++ next :: due)) (orderly : Orderly holdOf (seen ++ next :: due)) :
    next.serviceId = serviceId ∧ buffer.next ≤ next.number := by
  obtain ⟨early, member, rfl, late, coming, here, below⟩ := guards.gap complete
  have above := guards.lines.next_le complete List.mem_cons_self
  refine ⟨?_, above⟩
  rcases List.mem_cons.mp coming with rfl | later
  · exact orderly.same_service member List.mem_cons_self below
  · have filled := orderly.same_service member coming below
    have apart := complete.shift.distinct List.mem_concat_self later
    rw [← filled]
    exact (orderly.shift.same_service List.mem_concat_self later (by omega)).symm

/-- A number that is overtaken belongs to the service of the highest one. -/
theorem CoreDataplane.Counts.overtaken (counts : engine.Counts base scope seen due expected)
    (complete : LossFree base (seen ++ due)) (coming : late ∈ due) (low : late.number < expected) :
    ∃ early ∈ seen, early.number + 1 = expected ∧ late.number < early.number := by
  have range := complete.range (List.mem_append_right seen coming)
  rcases counts.last with start | ⟨early, member, top⟩
  · omega
  · have apart := complete.distinct member coming
    exact ⟨early, member, top, by omega⟩

/-- A drain on the arrival of `next` stops at the first number that has not arrived. -/
theorem Guarded.settle {hold : Nat} {start : RemoteReorderBuffer}
    (counts : engine.Counts base scope (seen ++ [next]) due expected) (complete : LossFree base (seen ++ [next] ++ due))
    (orderly : Orderly holdOf (seen ++ [next] ++ due)) (clock : ∀ late ∈ due, next.now ≤ late.now) (user : next.user)
    (held : hold = holdOf next.pathId) (lines : start.Lines base (seen ++ [next]))
    (own : ∀ datagram ∈ seen ++ [next], start.next ≤ datagram.number → datagram.serviceId = next.serviceId)
    (others : ∀ key, key ≠ ⟨next.serviceId, scope⟩ → engine.remoteReorder key = none) :
    Guarded base scope (seen ++ [next]) due expected
      (engine.settle ⟨next.serviceId, scope⟩ (start.drained next.now hold).2).remoteReorder := by
  have small : ∀ datagram ∈ seen ++ [next], datagram.number < 2 ^ 63 := fun datagram member =>
    (complete.range (List.mem_append_left _ member)).2
  have waits : ∀ {stopped : RemoteReorderBuffer} {oldest others}, stopped.Lines base (seen ++ [next]) →
      stopped.next ∉ (seen ++ [next]).map (·.number) → stopped.entries = oldest :: others →
      stopped.Waits next.now hold oldest := by
    intro stopped oldest others lines absent first
    obtain ⟨early, member, -, trace, late, coming, here, overtaken⟩ :=
      lines.overtakes absent complete (first ▸ List.mem_cons_self)
    have soon := orderly.within member coming overtaken (List.mem_append_left due List.mem_concat_self)
    have since : oldest.receivedAt = early.now := congrArg (·.2.2) trace
    have turn := clock late coming
    refine ⟨by rw [since, held]; omega, ?_⟩
    have size := lines.waiting.length_eq
    have few := orderly.few_over coming
    have same : (seen ++ [next]).filter (stopped.next ≤ ·.number) =
        (seen ++ [next]).filter (late.number < ·.number) := by
      refine List.filter_congr fun datagram listed => ?_
      have different : stopped.next ≠ datagram.number := fun same =>
        absent (List.mem_map.mpr ⟨datagram, listed, same.symm⟩)
      rw [decide_eq_decide]
      omega
    rw [List.length_map, List.length_map, same] at size
    exact size.symm ▸ few
  obtain ⟨final, absent, further⟩ := lines.drains small (start.drained_drains next.now hold) waits
  constructor
  · intro key buffer present
    by_cases here : key = ⟨next.serviceId, scope⟩
    · subst here
      rw [CoreDataplane.settle_self] at present
      split_ifs at present with empty
      obtain rfl := Option.some.inj present
      refine ⟨rfl, user, final, absent, by simpa using empty, fun datagram member above => ?_⟩
      exact own datagram member (further.trans above)
    · rw [CoreDataplane.settle_other here, others key here] at present
      cases present
  · intro late coming ordinary low
    obtain ⟨early, member, -, below⟩ := counts.overtaken complete coming low
    have service := orderly.same_service member coming below
    have above := final.next_le complete coming
    obtain ⟨entry, waiting, -⟩ := final.of_datagram member (by omega)
    have nonempty : (start.drained next.now hold).2.entries.isEmpty = false := by
      rw [List.isEmpty_eq_false_iff]
      exact List.ne_nil_of_mem waiting
    rw [service, own early member (by omega), CoreDataplane.settle_self, nonempty]
    simp

theorem Guarded.idle (idle : ∀ key, buffers key = none) (filled : ∀ late ∈ due, late.user → expected ≤ late.number) :
    Guarded base scope seen due expected buffers := by
  constructor
  · intro key buffer present
    rw [idle key] at present
    cases present
  · intro late coming user low
    have above := filled late coming user
    omega

theorem CoreDataplane.Counts.expected_le (counts : engine.Counts base scope seen (next :: due) expected)
    (complete : LossFree base (seen ++ next :: due)) : expected ≤ 2 ^ 63 := by
  rcases counts.last with start | ⟨early, member, top⟩
  · have range := complete.range (List.mem_append_right seen List.mem_cons_self)
    omega
  · have range := complete.range (List.mem_append_left (next :: due) member)
    omega

end Gaps

theorem GlobalSequenceTracker.observe_next {tracker : GlobalSequenceTracker}
    (expects : tracker.nextExpected.elim (seen = [] ∧ expected = base ∧
      ∀ first ∈ (next :: due).head?, first.number = base)
      (·.toNat = expected)) (low : expected ≤ 2 ^ 63) (small : next.number < 2 ^ 63) :
    ((tracker.observe next.sequence).1.outOfOrder = true ↔ next.number < expected) ∧
      (tracker.observe next.sequence).1.missingPackets.toNat = next.number - expected ∧
      (tracker.observe next.sequence).2.nextExpected.map (·.toNat) = some (max expected (next.number + 1)) := by
  have here : next.sequence.toNat = next.number := rfl
  have later : (next.sequence + 1).toNat = next.number + 1 := by
    rw [UInt64.toNat_add, UInt64.toNat_one, here]
    omega
  unfold GlobalSequenceTracker.observe
  cases known : tracker.nextExpected with
  | none =>
    rw [known] at expects
    obtain ⟨-, rfl, first⟩ := expects
    have same := first next rfl
    simp [later, same]
  | some number =>
    rw [known] at expects
    obtain rfl : number.toNat = expected := expects
    simp only
    have difference : (next.sequence - number).toNat = (2 ^ 64 - number.toNat + next.number) % 2 ^ 64 := by
      rw [UInt64.toNat_sub, here]
    split_ifs with same ahead
    · have equal : next.number = number.toNat := by rw [← here, same]
      simp [← same, later, equal]
    · rw [UInt64.lt_iff_toNat_lt, difference, half_toNat] at ahead
      have apart : next.number ≠ number.toNat := fun equal => same (UInt64.toNat_inj.mp (here.trans equal))
      refine ⟨by simp only [false_iff]; omega, by rw [difference]; omega, ?_⟩
      rw [Option.map_some, later]
      congr 1
      omega
    · rw [UInt64.lt_iff_toNat_lt, difference, half_toNat] at ahead
      refine ⟨by simp only [true_iff]; omega, by rw [UInt64.toNat_zero]; omega, ?_⟩
      rw [known, Option.map_some]
      congr 1
      omega

theorem CoreDataplane.Counts.advance {engine after : CoreDataplane}
    (counts : engine.Counts base scope seen (next :: due) expected) (complete : LossFree base (seen ++ next :: due))
    (tracker : after.metrics.receiveSequences scope =
      some (((engine.metrics.receiveSequences scope).getD {}).observe next.sequence).2)
    (dedupe : ∀ key ∈ after.remoteDedupe.order, key ∈ engine.remoteDedupe.order ∨ key = next.key scope) :
    after.Counts base scope (seen ++ [next]) due (max expected (next.number + 1)) := by
  obtain ⟨lower, small⟩ := complete.range (List.mem_append_right seen List.mem_cons_self)
  obtain ⟨-, -, moved⟩ := GlobalSequenceTracker.observe_next counts.expects (counts.expected_le complete) small
  obtain ⟨number, expects, same⟩ := Option.map_eq_some_iff.mp moved
  refine ⟨?_, ?_, ?_, ?_⟩
  · rw [tracker, Option.getD_some, expects]
    exact same
  · intro datagram member
    rcases List.mem_append.mp member with arrived | here
    · have below := counts.below datagram arrived
      omega
    · rw [List.mem_singleton.mp here]
      omega
  · right
    by_cases ahead : expected ≤ next.number
    · exact ⟨next, by simp, by omega⟩
    · rcases counts.last with start | ⟨early, member, top⟩
      · omega
      · exact ⟨early, List.mem_append_left _ member, by omega⟩
  · intro datagram coming known
    rcases dedupe _ known with before | same
    · exact counts.unseen datagram (List.mem_cons_of_mem _ coming) before
    · exact complete.shift.distinct List.mem_concat_self coming (congrArg (·.sequence.toNat) same)

section Steps

variable {engine : CoreDataplane} {buffers : HashMap RemoteReorderKey RemoteReorderBuffer}

section
variable (complete : LossFree base (seen ++ next :: due)) (orderly : Orderly holdOf (seen ++ next :: due))
include complete orderly

/-- While there is a gap, only datagrams of the service that waits for it arrive. -/
theorem Guarded.others_idle (guarded : Guarded base scope seen (next :: due) expected buffers)
    {key : RemoteReorderKey} (other : key ≠ ⟨next.serviceId, scope⟩) : buffers key = none := by
  cases present : buffers key with
  | none => rfl
  | some buffer =>
    obtain ⟨peer, -, guards⟩ := guarded.sound key buffer present
    have service := (guards.next_service complete orderly).1
    exact absurd (by rw [service, ← peer]) other

theorem Guarded.reserved (guarded : Guarded base scope seen (next :: due) expected buffers)
    (reserved : ¬next.user) : Guarded base scope (seen ++ [next]) due (max expected (next.number + 1)) buffers := by
  have idle : ∀ key, buffers key = none := by
    intro key
    cases present : buffers key with
    | none => rfl
    | some buffer =>
      obtain ⟨-, ordinary, guards⟩ := guarded.sound key buffer present
      rw [← (guards.next_service complete orderly).1] at ordinary
      exact absurd ordinary reserved
  refine Guarded.idle idle fun late coming user => ?_
  by_contra low
  by_cases before : late.number < expected
  · exact guarded.covered late (List.mem_cons_of_mem _ coming) user before (idle _)
  · have apart := complete.shift.distinct List.mem_concat_self coming
    have service := orderly.shift.same_service List.mem_concat_self coming (by omega)
    exact reserved (by rw [StreamDatagram.user, ← service]; exact user)

/-- Without a hold nothing may be overtaken, and so nothing is missing or held. -/
theorem Guarded.unheld (guarded : Guarded base scope seen (next :: due) expected engine.remoteReorder)
    (counts : engine.Counts base scope (seen ++ [next]) due (max expected (next.number + 1)))
    (zero : holdOf next.pathId = 0) :
    Guarded base scope (seen ++ [next]) due (max expected (next.number + 1)) engine.remoteReorder := by
  refine Guarded.idle (fun key => ?_) fun late coming _ => ?_
  · cases present : engine.remoteReorder key with
    | none => rfl
    | some buffer =>
      obtain ⟨-, -, guards⟩ := guarded.sound key buffer present
      obtain ⟨early, member, -, late, coming, -, below⟩ := guards.gap complete
      have soon := orderly.within member coming below (List.mem_append_right seen List.mem_cons_self)
      omega
  · by_contra low
    obtain ⟨early, member, -, below⟩ := counts.overtaken complete.shift coming (by omega)
    have soon := orderly.shift.within member coming below (List.mem_append_left due List.mem_concat_self)
    omega

end

theorem gap_start {sequence missing : UInt64} (gap : missing.toNat = sequence.toNat - expected)
    (ahead : expected ≤ sequence.toNat) :
    (if sequence.toNat < missing.toNat then 0 else sequence - missing).toNat = expected := by
  rw [if_neg (by omega), UInt64.toNat_sub_of_le _ _ (by rw [UInt64.le_iff_toNat_le]; omega), gap]
  omega

variable {observation : SequenceObservation}

/-- A buffer that is opened now waits for the number that the tracker expected, and everything below has arrived. -/
theorem lines_opened (lower : base ≤ expected) (below : ∀ datagram ∈ seen, datagram.number < expected)
    (complete : LossFree base (seen ++ [next] ++ due)) (orderly : Orderly holdOf (seen ++ [next] ++ due))
    (user : next.user) (filled : ∀ late ∈ due, late.user → expected ≤ late.number) (ahead : expected ≤ next.number)
    (missing : observation.missingPackets.toNat = next.number - expected)
    (absent : engine.remoteReorder ⟨next.serviceId, scope⟩ = none) :
    let start := engine.openedWith ⟨next.serviceId, scope⟩
      ⟨next.sequence, next.pathId, next.payload, observation, next.now⟩
    start.next = expected ∧ start.Lines base (seen ++ [next]) := by
  have begins := gap_start missing ahead
  rw [CoreDataplane.openedWith, absent, Option.getD_none]
  refine ⟨begins, RemoteReorderBuffer.Lines.insert (RemoteReorderBuffer.lines_new ?_ ?_ ?_) rfl ?_ ?_⟩
  · rw [begins]
    exact lower
  · rw [begins]
    intro number above under
    by_contra unknown
    have absent : number ∉ (seen ++ [next]).map (·.number) := by
      rw [List.map_append, List.mem_append, not_or]
      refine ⟨unknown, ?_⟩
      simp only [List.map_cons, List.map_nil, List.mem_singleton]
      omega
    obtain ⟨late, coming, here⟩ :=
      complete.to_come above (List.mem_append_left due List.mem_concat_self) (by omega) absent
    -- It is overtaken by `next`, so it is for an application too, and would have been missed before.
    have service := orderly.same_service List.mem_concat_self coming (by omega)
    have late_above := filled late coming (by rw [StreamDatagram.user, service]; exact user)
    omega
  · rw [begins]
    exact below
  · exact Nat.le_trans (Nat.le_of_eq begins) ahead
  · rw [← List.append_cons] at complete
    exact complete.fresh List.mem_cons_self

/-- A flush before the gap is filled finds nothing overdue. -/
theorem Guarded.flush_idle {now : Nat} (guarded : Guarded base scope seen due expected engine.remoteReorder)
    (complete : LossFree base (seen ++ due)) (orderly : Orderly engine.reorderHoldForPath (seen ++ due))
    (clock : ∀ late ∈ due, now ≤ late.now) (key : RemoteReorderKey) :
    (ReorderEvent.flush now key).opened engine = none := by
  rw [flush_idle_iff]
  intro oldest head
  have waiting := List.mem_of_mem_head? head
  cases present : engine.remoteReorder key with
  | none =>
    rw [CoreDataplane.buffered, present] at waiting
    cases waiting
  | some buffer =>
    rw [CoreDataplane.buffered, present] at waiting
    obtain ⟨-, -, guards⟩ := guarded.sound key buffer present
    obtain ⟨early, member, -, trace, late, coming, -, overtaken⟩ :=
      guards.lines.overtakes guards.absent complete waiting
    have soon := orderly.within member coming overtaken (List.mem_append_left due member)
    have turn := clock late coming
    have since : oldest.receivedAt = early.now := congrArg (·.2.2) trace
    have path : oldest.pathId = early.pathId := congrArg (·.2.1) trace
    rw [since, path]
    omega

/-- No path that is used holds anything back, or the stream is orderly and its gap is guarded. -/
def Kept (holdOf : PathId → Nat) (base : Nat) (scope : Option UInt32) (seen due : List StreamDatagram) (expected : Nat)
    (buffers : HashMap RemoteReorderKey RemoteReorderBuffer) : Prop :=
  ((∀ datagram ∈ seen ++ due, holdOf datagram.pathId = 0) ∧ ∀ key, buffers key = none) ∨
    (Orderly holdOf (seen ++ due) ∧ Guarded base scope seen due expected buffers)

theorem Kept.reserved (kept : Kept holdOf base scope seen (next :: due) expected buffers)
    (complete : LossFree base (seen ++ next :: due)) (reserved : ¬next.user) :
    Kept holdOf base scope (seen ++ [next]) due (max expected (next.number + 1)) buffers := by
  rcases kept with ⟨zero, idle⟩ | ⟨orderly, guarded⟩
  · exact .inl ⟨by rwa [← List.append_cons], idle⟩
  · exact .inr ⟨orderly.shift, guarded.reserved complete orderly reserved⟩

theorem Kept.flush_idle {now : Nat}
    (kept : Kept engine.reorderHoldForPath base scope seen due expected engine.remoteReorder)
    (complete : LossFree base (seen ++ due)) (clock : ∀ late ∈ due, now ≤ late.now) (key : RemoteReorderKey) :
    (ReorderEvent.flush now key).opened engine = none := by
  rcases kept with ⟨-, idle⟩ | ⟨orderly, guarded⟩
  · simp [ReorderEvent.opened, idle key]
  · exact guarded.flush_idle complete orderly clock key

theorem Kept.ends (kept : Kept holdOf base scope seen [] expected engine.remoteReorder) (complete : LossFree base seen)
    (key : RemoteReorderKey) : engine.buffered key = [] := by
  rw [CoreDataplane.buffered]
  rcases kept with ⟨-, idle⟩ | ⟨-, guarded⟩
  · rw [idle]
    rfl
  · cases present : engine.remoteReorder key with
    | none => rfl
    | some buffer =>
      obtain ⟨-, -, guards⟩ := guarded.sound key buffer present
      have all : LossFree base (seen ++ []) := by rwa [List.append_nil]
      obtain ⟨-, -, -, late, coming, -⟩ := guards.gap all
      cases coming

section
variable (counts : engine.Counts base scope (seen ++ [next]) due (max expected (next.number + 1)))
  (lower : base ≤ expected) (below : ∀ datagram ∈ seen, datagram.number < expected)
  (complete : LossFree base (seen ++ next :: due)) (clock : ∀ late ∈ due, next.now ≤ late.now) (user : next.user)
  (ordered : observation.outOfOrder = true ↔ next.number < expected)
  (missing : observation.missingPackets.toNat = next.number - expected)
include counts lower below complete clock user ordered missing

/-- A datagram for an application fills the gap, joins those that wait, opens a gap, or passes. -/
theorem Guarded.arrive (guarded : Guarded base scope seen (next :: due) expected engine.remoteReorder)
    (orderly : Orderly engine.reorderHoldForPath (seen ++ next :: due)) :
    Guarded base scope (seen ++ [next]) due (max expected (next.number + 1))
      ((ReorderEvent.arrive next.now next.pathId (next.key scope) next.payload observation).release
        engine).2.remoteReorder := by
  have others : ∀ key, key ≠ ⟨next.serviceId, scope⟩ → engine.remoteReorder key = none := fun _ other =>
    guarded.others_idle complete orderly other
  let entry : RemoteReorderEntry := ⟨next.sequence, next.pathId, next.payload, observation, next.now⟩
  by_cases zero : engine.reorderHoldForPath next.pathId = 0
  · rw [ReorderEvent.release_none (by simp only [ReorderEvent.opened, if_pos zero])]
    exact guarded.unheld complete orderly counts zero
  cases present : engine.remoteReorder ⟨next.serviceId, scope⟩ with
  | some buffer =>
    obtain ⟨-, -, guards⟩ := guarded.sound _ buffer present
    have opened : (ReorderEvent.arrive next.now next.pathId (next.key scope) next.payload observation).opened engine =
        some (buffer.insertEntry entry, engine.reorderHoldForPath next.pathId) := by
      simp [ReorderEvent.opened, StreamDatagram.key, zero, present, CoreDataplane.openedWith, entry]
    have lines : (buffer.insertEntry entry).Lines base (seen ++ [next]) :=
      guards.lines.insert rfl (guards.next_service complete orderly).2 (complete.fresh List.mem_cons_self)
    rw [ReorderEvent.release_some opened]
    refine Guarded.settle counts complete.shift orderly.shift clock user rfl lines
      (fun datagram member above => ?_) others
    rcases List.mem_append.mp member with arrived | here
    · exact guards.own datagram arrived above
    · rw [List.mem_singleton.mp here]
  | none =>
    have idle : ∀ key, engine.remoteReorder key = none := by
      intro key
      by_cases here : key = ⟨next.serviceId, scope⟩
      · rw [here, present]
      · exact others key here
    have filled : ∀ late ∈ next :: due, late.user → expected ≤ late.number := by
      intro late coming ordinary
      by_contra low
      exact guarded.covered late coming ordinary (by omega) (idle _)
    have ahead := filled next List.mem_cons_self user
    have inOrder : observation.outOfOrder = false := by
      rw [← Bool.not_eq_true, ordered]
      omega
    by_cases exact : next.number = expected
    · have nothing : observation.missingPackets = 0 :=
        UInt64.toNat_inj.mp (by rw [missing, exact, UInt64.toNat_zero]; omega)
      rw [ReorderEvent.release_none (by simp [ReorderEvent.opened, StreamDatagram.key, present, inOrder, nothing])]
      refine Guarded.idle idle fun late coming ordinary => ?_
      have apart := complete.shift.distinct List.mem_concat_self coming
      have above := filled late (List.mem_cons_of_mem _ coming) ordinary
      omega
    · have opened : (ReorderEvent.arrive next.now next.pathId (next.key scope) next.payload observation).opened engine =
          some (engine.openedWith ⟨next.serviceId, scope⟩ entry, engine.reorderHoldForPath next.pathId) := by
        have gap : observation.missingPackets ≠ 0 := by
          intro nothing
          rw [nothing, UInt64.toNat_zero] at missing
          omega
        simp [ReorderEvent.opened, StreamDatagram.key, zero, gap, entry]
      obtain ⟨begins, lines⟩ := lines_opened lower below complete.shift orderly.shift user
        (fun late coming => filled late (List.mem_cons_of_mem _ coming)) ahead missing present
      rw [ReorderEvent.release_some opened]
      refine Guarded.settle counts complete.shift orderly.shift clock user rfl lines
        (fun datagram member above => ?_) others
      rcases List.mem_append.mp member with arrived | here
      · have under := below datagram arrived
        have reached : expected ≤ datagram.number := Nat.le_trans (Nat.le_of_eq begins.symm) above
        omega
      · rw [List.mem_singleton.mp here]

theorem Kept.arrive
    (kept : Kept engine.reorderHoldForPath base scope seen (next :: due) expected engine.remoteReorder) :
    Kept engine.reorderHoldForPath base scope (seen ++ [next]) due (max expected (next.number + 1))
      ((ReorderEvent.arrive next.now next.pathId (next.key scope) next.payload observation).release
        engine).2.remoteReorder := by
  rcases kept with ⟨zero, idle⟩ | ⟨orderly, guarded⟩
  · rw [ReorderEvent.release_none (by simp [ReorderEvent.opened, zero next (by simp)])]
    exact .inl ⟨by rwa [← List.append_cons], idle⟩
  · exact .inr ⟨orderly.shift, guarded.arrive counts lower below complete clock user ordered missing orderly⟩

end

end Steps

section Runs

variable {os : Os} {start machine after : Machine}

/-- The machine has received `seen`, and `due` is still to come. -/
structure Received (start : Machine) (base : Nat) (scope : Option UInt32) (seen due : List StreamDatagram)
    (machine : Machine) : Prop where
  follows : ∃ expected, machine.engine.Counts base scope seen due expected ∧
    Kept start.engine.reorderHoldForPath base scope seen due expected machine.engine.remoteReorder
  paths : machine.engine.paths = start.engine.paths
  serving : ∀ {serviceId}, start.Serves serviceId → machine.Serves serviceId
  tidy : machine.Tidy

theorem CoreDataplane.Counts.same {engine other : CoreDataplane} (counts : engine.Counts base scope seen due expected)
    (trackers : other.metrics.receiveSequences = engine.metrics.receiveSequences)
    (dedupe : other.remoteDedupe = engine.remoteDedupe) : other.Counts base scope seen due expected :=
  ⟨by rw [trackers]; exact counts.expects, counts.below, counts.last, by rw [dedupe]; exact counts.unseen⟩

theorem Received.emitted {contents : List (DedupeKey × Bytes)} (received : Received start base scope seen due machine)
    (emitted : Emitted contents machine after) : Received start base scope seen due after := by
  have footing := emitted.footing
  have ground : after.ground = machine.ground := congrArg Footing.ground footing
  obtain ⟨expected, counts, kept⟩ := received.follows
  refine ⟨⟨expected, counts.same (congrArg Footing.trackers footing) (congrArg Footing.dedupe footing), ?_⟩, ?_, ?_,
    emitted.tidy⟩
  · have buffers : after.engine.remoteReorder = machine.engine.remoteReorder := congrArg Ground.remoteReorder ground
    rw [buffers]
    exact kept
  · exact (congrArg Ground.paths ground).trans received.paths
  · exact fun served => (received.serving served).same ground

theorem CoreDataplane.hold_of_paths {engine other : CoreDataplane} (same : other.paths = engine.paths) :
    other.reorderHoldForPath = engine.reorderHoldForPath := by
  funext pathId
  rw [CoreDataplane.reorderHoldForPath, same, CoreDataplane.reorderHoldForPath]

/-- Dedupe and the tracker have seen the next datagram of the stream; the buffers have not. -/
structure Observed (start : Machine) (base : Nat) (scope : Option UInt32) (seen due : List StreamDatagram)
    (next : StreamDatagram) (observation : SequenceObservation) (machine : Machine) : Prop where
  follows : ∃ expected, base ≤ expected ∧ (∀ datagram ∈ seen, datagram.number < expected) ∧
    machine.engine.Counts base scope (seen ++ [next]) due (max expected (next.number + 1)) ∧
    Kept start.engine.reorderHoldForPath base scope seen (next :: due) expected machine.engine.remoteReorder ∧
    (observation.outOfOrder = true ↔ next.number < expected) ∧
    observation.missingPackets.toNat = next.number - expected
  paths : machine.engine.paths = start.engine.paths
  serving : ∀ {serviceId}, start.Serves serviceId → machine.Serves serviceId
  tidy : machine.Tidy

theorem Received.observe {metrics : DataplaneMetrics} {window : DedupeWindow} {reserved : List ReservedServiceEvent}
    {net : Net} (received : Received start base scope seen (next :: due) machine)
    (complete : LossFree base (seen ++ next :: due))
    (tracker : metrics.receiveSequences scope =
      some (((machine.engine.metrics.receiveSequences scope).getD {}).observe next.sequence).2)
    (dedupe : ∀ key ∈ window.order, key ∈ machine.engine.remoteDedupe.order ∨ key = next.key scope) :
    Observed start base scope seen due next
      (((machine.engine.metrics.receiveSequences scope).getD {}).observe next.sequence).1
      { machine with
        engine := { machine.engine with metrics, remoteDedupe := window, reservedEvents := reserved }
        net } := by
  obtain ⟨expected, counts, kept⟩ := received.follows
  have range := complete.range (List.mem_append_right seen List.mem_cons_self)
  have lower : base ≤ expected := by
    rcases counts.last with first | ⟨early, member, top⟩
    · exact Nat.le_of_eq first.symm
    · have above := (complete.range (List.mem_append_left (next :: due) member)).1
      omega
  obtain ⟨ordered, missing, -⟩ :=
    GlobalSequenceTracker.observe_next counts.expects (counts.expected_le complete) range.2
  exact
    { follows := ⟨expected, lower, counts.below, counts.advance complete tracker dedupe, kept, ordered, missing⟩
      paths := received.paths
      serving := fun served => received.serving served
      tidy := ⟨received.tidy.keyed, received.tidy.batched⟩ }

section Arrivals

variable (accepts : os.Accepts) (complete : LossFree base (seen ++ next :: due))
include accepts complete

theorem Received.noted (received : Received start base scope seen (next :: due) machine) (reserved : ¬next.user) :
    Reaches (do
      flushRemoteEmitBatch os next.now
      observeReservedPayload next.now ⟨next.serviceId, next.pathId, next.sequence, next.payload,
        next.frameBytes, scope⟩)
      machine fun _ after => Received start base scope (seen ++ [next]) due after := by
  refine Reaches.bind (flushRemoteEmitBatch_reaches accepts received.tidy) fun _ middle flushed => ?_
  have before := received.emitted flushed.1
  have tracker : (middle.engine.metrics.recordReservedReceived next.now next.pathId next.frameBytes next.sequence
      scope).receiveSequences scope =
        some (((middle.engine.metrics.receiveSequences scope).getD {}).observe next.sequence).2 := insert_self ..
  have observed : Observed start base scope seen due next _
      { middle with
        engine := middle.engine.observeReceivedReservedServicePayload next.now
          ⟨next.serviceId, next.pathId, next.sequence, next.payload, next.frameBytes, scope⟩ } :=
    before.observe complete tracker fun _ known => Or.inl known
  obtain ⟨expected, -, -, counts, kept, -⟩ := observed.follows
  exact ⟨_, _, rfl, ⟨_, counts, kept.reserved complete reserved⟩, observed.paths, observed.serving, observed.tidy⟩

variable (clock : ∀ late ∈ due, next.now ≤ late.now)
include clock

theorem Observed.queued {observation : SequenceObservation}
    (observed : Observed start base scope seen due next observation machine) (user : next.user)
    (serves : start.Serves next.serviceId) :
    Reaches (queueRemotePayloadWithReorder os next.now next.pathId (next.key scope) next.payload observation) machine
      fun _ after => Received start base scope (seen ++ [next]) due after := by
  obtain ⟨expected, lower, below, counts, kept, ordered, missing⟩ := observed.follows
  let event : ReorderEvent := .arrive next.now next.pathId (next.key scope) next.payload observation
  have frame := event.release_frame machine.engine
  rw [← CoreDataplane.hold_of_paths observed.paths] at kept
  have later := kept.arrive counts lower below complete clock user ordered missing
  rw [CoreDataplane.hold_of_paths observed.paths] at later
  have released : Received start base scope (seen ++ [next]) due
      { machine with engine := (event.release machine.engine).2 } := by
    refine ⟨⟨_, ?_, later⟩, ?_, fun served => ?_, ?_⟩
    · rw [frame]
      exact counts.same rfl rfl
    · rw [frame]
      exact observed.paths
    · have served := observed.serving served
      rw [frame]
      exact served
    · rw [frame]
      exact ⟨observed.tidy.keyed, observed.tidy.batched⟩
  have ran : Reaches (event.program os) machine fun _ after => Emitted _ _ after :=
    event.program_reaches accepts observed.tidy (observed.serving serves)
  exact ran.mono fun emitted => released.emitted emitted

theorem Received.user (received : Received start base scope seen (next :: due) machine) (user : next.user)
    (serves : start.Serves next.serviceId) :
    Reaches (queueFirstSeen os next.now next.pathId (next.key scope) next.payload) machine fun _ after =>
      Received start base scope (seen ++ [next]) due after := by
  obtain ⟨expected, counts, kept⟩ := received.follows
  have unknown := counts.unseen next List.mem_cons_self
  refine reaches_after_modifyGet ?_
  rcases answer : machine.engine.remoteDedupe.observeInScope (next.key scope) with ⟨known, window⟩
  cases known with
  | duplicate =>
    rw [← DedupeWindow.observe_duplicate_iff, answer] at unknown
    exact absurd rfl unknown
  | firstSeen =>
    simp only [CoreDataplane.observeUserPayloadFirstSeen, answer]
    have dedupe : ∀ key ∈ window.order, key ∈ machine.engine.remoteDedupe.order ∨ key = next.key scope := by
      intro key member
      have order := DedupeWindow.observe_firstSeen_order (congrArg Prod.fst answer)
      rw [answer] at order
      rw [order] at member
      simpa using List.mem_of_mem_drop member
    have tracker : (machine.engine.metrics.recordReceive next.now next.pathId next.sequence next.payload.length
        scope).2.receiveSequences scope =
          some (((machine.engine.metrics.receiveSequences scope).getD {}).observe next.sequence).2 := insert_self ..
    exact (received.observe complete tracker dedupe).queued accepts complete clock user serves

theorem Received.arrive (received : Received start base scope seen (next :: due) machine)
    (serves : next.user → start.Serves next.serviceId) :
    Reaches (next.program os scope) machine fun _ after => Received start base scope (seen ++ [next]) due after := by
  unfold StreamDatagram.program
  split
  · rename_i reserved
    exact received.noted accepts complete (by simp [StreamDatagram.user, reserved])
  · rename_i ordinary
    have user : next.user := by simpa [StreamDatagram.user] using ordinary
    exact received.user accepts complete clock user (serves user)

end Arrivals

theorem Received.flush {now : Nat} {keys : List RemoteReorderKey}
    (received : Received start base scope seen due machine)
    (complete : LossFree base (seen ++ due)) (clock : ∀ late ∈ due, now ≤ late.now) :
    Reaches (flushExpiredReorderBuffers os now keys) machine fun _ after =>
      Received start base scope seen due after := by
  obtain ⟨expected, counts, kept⟩ := received.follows
  rw [← CoreDataplane.hold_of_paths received.paths] at kept
  have same : flushExpiredReorderBuffers os now keys machine = .ok ⟨⟩ machine := by
    rw [flushExpiredReorderBuffers_eq]
    induction keys with
    | nil => rfl
    | cons key rest ih =>
      have still : (ReorderEvent.flush now key).program os machine = .ok ⟨⟩ machine := by
        have idle := kept.flush_idle complete clock key
        have released : onEngine (modifyGet (ReorderEvent.flush now key).release) machine =
            .ok [] { machine with engine := machine.engine } := by
          change EStateM.Result.ok ((ReorderEvent.flush now key).release machine.engine).1
            { machine with engine := ((ReorderEvent.flush now key).release machine.engine).2 } = _
          rw [ReorderEvent.release_none idle]
          rfl
        rw [ReorderEvent.program_eq, bind_ok released]
        rfl
      have split : ((key :: rest).map (ReorderEvent.flush now)).forM (·.program os) =
          ((ReorderEvent.flush now key).program os >>= fun _ =>
            (rest.map (ReorderEvent.flush now)).forM (·.program os)) :=
        rfl
      rw [split, bind_ok still]
      exact ih
  exact ⟨_, _, same, received⟩

end Runs

/-- Where no path holds anything back, or datagrams are overtaken by their own service only and within the hold, no
payload stays behind once a stream without losses has arrived. -/
theorem lossfree_stream_unheld {os : Os} {machine : Machine} {scope : Option UInt32} {base : Nat}
    {events : List StreamEvent} (accepts : os.Accepts) (tidy : machine.Tidy)
    (idle : ∀ key, machine.engine.remoteReorder key = none)
    (counts : machine.engine.Counts base scope [] (events.flatMap (·.datagrams)) base)
    (known : ∀ datagram ∈ events.flatMap (·.datagrams), datagram.user → machine.Serves datagram.serviceId)
    (complete : LossFree base (events.flatMap (·.datagrams)))
    (orderly : (∀ datagram ∈ events.flatMap (·.datagrams), machine.engine.reorderHoldForPath datagram.pathId = 0) ∨
      Orderly machine.engine.reorderHoldForPath (events.flatMap (·.datagrams)))
    (clock : events.Pairwise (·.now ≤ ·.now)) :
    Reaches (events.forM (·.program os scope)) machine fun _ next => ∀ key, next.engine.buffered key = [] := by
  have whole : LossFree base ([] ++ events.flatMap (·.datagrams)) := complete
  have start : Received machine base scope [] (events.flatMap (·.datagrams)) machine :=
    { follows := ⟨base, counts, orderly.imp (⟨·, idle⟩)
        (⟨·, Guarded.idle idle fun late coming _ => (whole.range coming).1⟩)⟩
      paths := rfl
      serving := fun served => served
      tidy }
  let invariant (done : List StreamEvent) (reached : Machine) : Prop := ∀ rest, events = done ++ rest →
    Received machine base scope (done.flatMap (·.datagrams)) (rest.flatMap (·.datagrams)) reached
  have runs : Reaches (events.forM (·.program os scope)) machine fun _ => invariant events := by
    refine Reaches.forM invariant (fun {done event rest reached} split received => ?_) ?_
    · have here := received (event :: rest) split
      have later : ∀ late ∈ rest.flatMap (·.datagrams), event.now ≤ late.now := by
        rw [split] at clock
        intro late coming
        obtain ⟨arrival, member, inside⟩ := List.mem_flatMap.mp coming
        rw [← StreamEvent.now_of_datagram inside]
        exact (List.pairwise_cons.mp (List.pairwise_append.mp clock).2.1).1 arrival member
      have same {after : Machine} (ends : Received machine base scope (done.flatMap (·.datagrams) ++ event.datagrams)
          (rest.flatMap (·.datagrams)) after) : invariant (done ++ [event]) after := by
        intro remaining resplit
        rw [split, List.append_assoc, List.append_cancel_left_eq, List.singleton_append, List.cons.injEq] at resplit
        rw [List.flatMap_append, List.flatMap_singleton, ← resplit.2]
        exact ends
      rw [split, List.flatMap_append, List.flatMap_cons] at complete
      cases event with
      | arrive datagram =>
        have serves := known datagram (by rw [split]; simp [StreamEvent.datagrams])
        exact (here.arrive accepts complete later serves).mono same
      | flush now keys =>
        have unchanged : Reaches (flushExpiredReorderBuffers os now keys) reached fun _ after =>
            Received machine base scope (done.flatMap (·.datagrams)) (rest.flatMap (·.datagrams)) after :=
          here.flush complete later
        refine unchanged.mono fun ends => same ?_
        rw [StreamEvent.datagrams, List.append_nil]
        exact ends
    · intro rest split
      rw [List.nil_append] at split
      rw [← split]
      exact start
  refine runs.mono fun ends => ?_
  obtain ⟨expected, -, kept⟩ := (ends [] (List.append_nil events).symm).follows
  exact kept.ends complete

/-- Number 3 overtakes number 2 of the same service, and a reserved service follows. -/
def swappedStream : List StreamEvent :=
  [.arrive ⟨300, 1, 1, [1], 64, 0⟩, .arrive ⟨300, 1, 3, [3], 64, 10⟩, .flush 20 [⟨300, none⟩],
    .arrive ⟨300, 1, 2, [2], 64, 30⟩, .arrive ⟨9, 1, 4, [4], 64, 40⟩]

theorem swapped_stream_unheld : Started .willing 0 (heldConfig 1000) (heldMachine 1000) ∧
    Reaches (swappedStream.forM (·.program .willing none)) (heldMachine 1000) fun _ next =>
      ∀ key, next.engine.buffered key = [] := by
  have counts : (heldMachine 1000).engine.Counts 1 none [] (swappedStream.flatMap (·.datagrams)) 1 :=
    { expects := ⟨rfl, rfl, by decide⟩
      below := fun _ impossible => by cases impossible
      last := Or.inl rfl
      unseen := fun _ _ impossible => by cases impossible }
  have known : ∀ datagram ∈ swappedStream.flatMap (·.datagrams), datagram.user →
      (heldMachine 1000).Serves datagram.serviceId := by
    have service : ∀ datagram ∈ swappedStream.flatMap (·.datagrams),
        isReservedServiceId datagram.serviceId = false → datagram.serviceId = 300 := by decide
    intro datagram member user
    rw [service datagram member user]
    exact ⟨⟨_, List.mem_singleton_self _, rfl⟩, rfl⟩
  have complete : LossFree 1 (swappedStream.flatMap (·.datagrams)) := ⟨by decide, by decide⟩
  have orderly : Orderly (heldMachine 1000).engine.reorderHoldForPath (swappedStream.flatMap (·.datagrams)) :=
    { service := by
        simp only [Overtaken]
        decide
      prompt := by
        simp only [Overtaken]
        decide
      few := by
        intro seen late due split
        have length : (swappedStream.flatMap (·.datagrams)).length = 4 := by decide
        have filtered := List.length_filter_le (fun datagram => decide (late.number < datagram.number)) seen
        rw [split, List.length_append, List.length_cons] at length
        change _ ≤ 8192
        omega }
  refine ⟨⟨Net.blank, rfl, rfl⟩, ?_⟩
  exact lossfree_stream_unheld Os.willing_accepts (Machine.tidy_of_settled rfl) (fun _ => rfl) counts known complete
    (.inr orderly) (by decide)

/-- Number 2 is for a reserved service: the buffer of service 300 waits for it although it has arrived. -/
theorem other_service_fills_no_gap : Started .willing 0 (heldConfig 1000) (heldMachine 1000) ∧
    ((run .willing .transparent
      [.receiveListed [peerSends 0 (appFrame .data 300 1 [1] (Eq.refl true)),
        peerSends 1 (appFrame .data 300 3 [3] (Eq.refl true)), peerSends 2 (appFrame .data 9 2 [2] (Eq.refl true))]
        ⟨0, [⟨300, none⟩]⟩] (heldMachine 1000)).engine.buffered ⟨300, none⟩).map (·.sequence) = [3] :=
  ⟨⟨Net.blank, rfl, rfl⟩, by decide +kernel⟩

end Gatherlink.Engine
