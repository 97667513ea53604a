import Gatherlink.Engine.Reorder

/-! In which order and after which time the reorder buffers let payloads go. Both guarantees need arrivals that
do not fall behind: a payload below the number that its buffer has moved past is released out of order, and hides
later payloads from the flush while it waits. -/

namespace Gatherlink.Engine
open Protocol Dataplane Lib.Lookup Lib.Exec Lib.Sorted

section Order

/-- Nothing waits below the number that the buffer waits for, and no number is the last one before the wrap. -/
def RemoteReorderBuffer.Ahead (buffer : RemoteReorderBuffer) : Prop :=
  ∀ entry ∈ buffer.entries, buffer.nextSequence.toNat ≤ entry.sequence.toNat ∧ entry.sequence.toNat + 1 < 2 ^ 64

namespace RemoteReorderBuffer

variable {now hold : Nat} {buffer rest final : RemoteReorderBuffer} {entry oldest : RemoteReorderEntry}
  {ready others : List RemoteReorderEntry}

theorem next_of_room {sequence : SequenceNumber} (room : sequence.toNat + 1 < 2 ^ 64) :
    (max (sequence + 1) 1).toNat = sequence.toNat + 1 := by
  have sum : (sequence + 1).toNat = sequence.toNat + 1 := by
    rw [UInt64.toNat_add, UInt64.toNat_one, Nat.mod_eq_of_lt room]
  change (if sequence + 1 ≤ 1 then (1 : UInt64) else sequence + 1).toNat = _
  split
  · rename_i small
    rw [UInt64.le_iff_toNat_le, sum, UInt64.toNat_one] at small
    rw [UInt64.toNat_one]
    omega
  · exact sum

theorem Ahead.take (ahead : buffer.Ahead) (taken : buffer.takeNext = (some entry, rest)) :
    rest.Ahead ∧ buffer.nextSequence.toNat = entry.sequence.toNat ∧
      rest.nextSequence.toNat = entry.sequence.toNat + 1 := by
  obtain ⟨same, perm, next⟩ := takeNext_some taken
  have member : entry ∈ buffer.entries := perm.mem_iff.mpr List.mem_cons_self
  have moved : rest.nextSequence.toNat = entry.sequence.toNat + 1 := by
    rw [next, ← same, next_of_room (ahead entry member).2]
  refine ⟨fun other waiting => ?_, by rw [same], moved⟩
  obtain ⟨listed, different⟩ := takeNext_rest taken waiting
  have apart : other.sequence.toNat ≠ buffer.nextSequence.toNat := fun equal => different (UInt64.toNat_inj.mp equal)
  have bounds := ahead other listed
  rw [moved, same]
  omega

theorem Ahead.skip (ahead : buffer.Ahead) (first : buffer.entries = oldest :: others) :
    ({ buffer with nextSequence := oldest.sequence } : RemoteReorderBuffer).Ahead ∧
      buffer.nextSequence.toNat ≤ oldest.sequence.toNat := by
  have sorted : Increasing RemoteReorderEntry.rank (oldest :: others) := first ▸ buffer.sorted
  have lowest := (List.pairwise_cons.mp sorted).1
  have member : oldest ∈ buffer.entries := first ▸ List.mem_cons_self ..
  refine ⟨fun other waiting => ⟨?_, (ahead other waiting).2⟩, (ahead oldest member).1⟩
  change other ∈ buffer.entries at waiting
  rw [first] at waiting
  rcases List.mem_cons.mp waiting with rfl | later
  · exact Nat.le_refl _
  · exact Nat.le_of_lt (lowest other later)

/-- A drain that starts ahead goes upwards: from where it starts over what it lets go to where it stops. -/
theorem Ahead.drains (ahead : buffer.Ahead) (drains : buffer.Drains now hold ready final) :
    final.Ahead ∧ buffer.nextSequence.toNat ≤ final.nextSequence.toNat ∧
      (∀ entry ∈ ready, buffer.nextSequence.toNat ≤ entry.sequence.toNat ∧
        entry.sequence.toNat < final.nextSequence.toNat) ∧
      (ready.map (·.sequence.toNat)).Pairwise (· < ·) := by
  induction drains with
  | wait absent first waits => exact ⟨ahead, Nat.le_refl _, by simp, by simp⟩
  | done empty => exact ⟨ahead, Nat.le_refl _, by simp, by simp⟩
  | skip absent first due later ih =>
    obtain ⟨skipped, up⟩ := ahead.skip first
    obtain ⟨final, forward, between, increasing⟩ := ih skipped
    refine ⟨final, Nat.le_trans up forward, fun entry member => ?_, increasing⟩
    exact ⟨Nat.le_trans up (between entry member).1, (between entry member).2⟩
  | take taken later ih =>
    obtain ⟨left, here, moved⟩ := ahead.take taken
    obtain ⟨final, forward, between, increasing⟩ := ih left
    rw [moved] at forward between
    refine ⟨final, by omega, ?_, ?_⟩
    · intro entry member
      rcases List.mem_cons.mp member with rfl | after
      · omega
      · have bounds := between entry after
        omega
    · rw [List.map_cons, List.pairwise_cons]
      refine ⟨fun number listed => ?_, increasing⟩
      obtain ⟨entry, member, rfl⟩ := List.mem_map.mp listed
      exact (between entry member).1

end RemoteReorderBuffer

/-- No payload that is put into a buffer falls behind the number that the buffer waits for, or has the last number
before the wrap. A path without a hold may be late: its payloads pass the buffers by. -/
def ReorderEvent.KeepsUp (event : ReorderEvent) (engine : CoreDataplane) : Prop :=
  event.opened engine ≠ none → ∀ entry ∈ event.entries, entry.sequence.toNat + 1 < 2 ^ 64 ∧
    ∀ buffer, engine.remoteReorder event.key = some buffer → buffer.nextSequence.toNat ≤ entry.sequence.toNat

/-- No arrival of a run falls behind the buffer that it finds. -/
def KeepsUpAlong : CoreDataplane → List ReorderEvent → Prop
  | _, [] => True
  | engine, event :: rest => event.KeepsUp engine ∧ KeepsUpAlong (event.release engine).2 rest

instance (event : ReorderEvent) (engine : CoreDataplane) : Decidable (event.KeepsUp engine) :=
  decidable_of_iff ((event.opened engine).isSome → ∀ entry ∈ event.entries, entry.sequence.toNat + 1 < 2 ^ 64 ∧
      (engine.remoteReorder event.key).all (fun buffer => buffer.nextSequence.toNat ≤ entry.sequence.toNat) = true)
    (by simp [ReorderEvent.KeepsUp, Option.all_eq_true, Option.isSome_iff_ne_none])

instance KeepsUpAlong.decide : (engine : CoreDataplane) → (events : List ReorderEvent) →
    Decidable (KeepsUpAlong engine events)
  | _, [] => inferInstanceAs (Decidable True)
  | engine, event :: rest =>
      have := KeepsUpAlong.decide (event.release engine).2 rest
      inferInstanceAs (Decidable (event.KeepsUp engine ∧ KeepsUpAlong (event.release engine).2 rest))

def CoreDataplane.AllAhead (engine : CoreDataplane) : Prop :=
  ∀ key buffer, engine.remoteReorder key = some buffer → buffer.Ahead

variable {engine : CoreDataplane} {event : ReorderEvent} {start : RemoteReorderBuffer} {hold : Nat}

theorem openedWith_ahead {key : RemoteReorderKey} {entry : RemoteReorderEntry} (ahead : engine.AllAhead)
    (room : entry.sequence.toNat + 1 < 2 ^ 64)
    (above : ∀ buffer, engine.remoteReorder key = some buffer → buffer.nextSequence.toNat ≤ entry.sequence.toNat) :
    (engine.openedWith key entry).Ahead := by
  unfold CoreDataplane.openedWith
  cases present : engine.remoteReorder key with
  | none =>
    intro other member
    rcases mem_insertNew member with rfl | impossible
    · refine ⟨?_, room⟩
      simp only [Option.getD_none, RemoteReorderBuffer.insertEntry, RemoteReorderBuffer.new]
      split
      · exact Nat.zero_le _
      · rename_i enough
        rw [UInt64.toNat_sub_of_le _ _ (UInt64.le_iff_toNat_le.mpr (Nat.not_lt.mp enough))]
        exact Nat.sub_le ..
    · cases impossible
  | some buffer =>
    intro other member
    rcases mem_insertNew member with rfl | earlier
    · exact ⟨above buffer present, room⟩
    · exact ahead key buffer present other earlier

theorem opened_ahead (ahead : engine.AllAhead) (keepsUp : event.KeepsUp engine)
    (drained : event.opened engine = some (start, hold)) :
    start.Ahead ∧ ∀ buffer, engine.remoteReorder event.key = some buffer →
      buffer.nextSequence = start.nextSequence := by
  have above := keepsUp (by simp [drained])
  cases event with
  | arrive now pathId key payload observation =>
    simp only [ReorderEvent.opened] at drained
    split_ifs at drained
    obtain ⟨rfl, rfl⟩ := Prod.ext_iff.mp (Option.some.inj drained)
    obtain ⟨room, above⟩ := above _ (List.mem_singleton_self _)
    refine ⟨openedWith_ahead ahead room above, fun buffer present => ?_⟩
    have here : engine.remoteReorder ⟨key.serviceId, key.peerScope⟩ = some buffer := present
    simp [CoreDataplane.openedWith, here, RemoteReorderBuffer.insertEntry]
  | flush now key =>
    obtain ⟨present, -⟩ := ReorderEvent.opened_flush drained
    refine ⟨ahead key _ present, fun other found => ?_⟩
    rw [Option.some.inj (found.symm.trans present)]

/-- What one event lets go goes upwards, and so does the number its buffer waits for. -/
def ReorderEvent.Ascends (event : ReorderEvent) (engine : CoreDataplane) : Prop :=
  ((event.release engine).1.map (·.sequence.toNat)).Pairwise (· < ·) ∧
    (∀ key old new, engine.remoteReorder key = some old → (event.release engine).2.remoteReorder key = some new →
      old.nextSequence ≤ new.nextSequence) ∧
    ∀ start hold, event.opened engine = some (start, hold) →
      start.nextSequence ≤ (start.drained event.now hold).2.nextSequence ∧
        ∀ entry ∈ (event.release engine).1, start.nextSequence ≤ entry.sequence ∧
          entry.sequence < (start.drained event.now hold).2.nextSequence

theorem ascends_of_ahead (ahead : engine.AllAhead) (keepsUp : event.KeepsUp engine) :
    event.Ascends engine ∧ (event.release engine).2.AllAhead := by
  cases drained : event.opened engine with
  | none =>
    rw [ReorderEvent.Ascends, ReorderEvent.release_none drained, drained]
    refine ⟨⟨?_, ?_, by simp⟩, ahead⟩
    · cases event <;> simp [ReorderEvent.entries]
    · intro key old new before after
      rw [Option.some.inj (before.symm.trans after)]
      exact UInt64.le_refl _
  | some opened =>
    obtain ⟨start, hold⟩ := opened
    obtain ⟨up, same⟩ := opened_ahead ahead keepsUp drained
    obtain ⟨final, forward, between, increasing⟩ := up.drains (start.drained_drains event.now hold)
    rw [ReorderEvent.Ascends, ReorderEvent.release_some drained, drained]
    refine ⟨⟨increasing, ?_, ?_⟩, ?_⟩
    · intro key old new before after
      by_cases here : key = event.key
      · subst here
        rw [CoreDataplane.settle_self] at after
        split_ifs at after
        rw [same old before, ← Option.some.inj after]
        exact UInt64.le_iff_toNat_le.mpr forward
      · rw [CoreDataplane.settle_other here] at after
        rw [Option.some.inj (before.symm.trans after)]
        exact UInt64.le_refl _
    · intro begun held again
      obtain ⟨rfl, rfl⟩ := Prod.ext_iff.mp (Option.some.inj again)
      refine ⟨UInt64.le_iff_toNat_le.mpr forward, fun entry member => ?_⟩
      exact ⟨UInt64.le_iff_toNat_le.mpr (between entry member).1, UInt64.lt_iff_toNat_lt.mpr (between entry member).2⟩
    · intro key buffer present
      by_cases here : key = event.key
      · subst here
        rw [CoreDataplane.settle_self] at present
        split_ifs at present
        rw [← Option.some.inj present]
        exact final
      · rw [CoreDataplane.settle_other here] at present
        exact ahead key buffer present

/-- Every event of a run ascends in the state it meets. -/
def AscendsAlong : CoreDataplane → List ReorderEvent → Prop
  | _, [] => True
  | engine, event :: rest => event.Ascends engine ∧ AscendsAlong (event.release engine).2 rest

theorem ascendsAlong_of_ahead {events : List ReorderEvent} (ahead : engine.AllAhead)
    (keepsUp : KeepsUpAlong engine events) : AscendsAlong engine events := by
  induction events generalizing engine with
  | nil => trivial
  | cons event rest ih =>
    obtain ⟨ascends, later⟩ := ascends_of_ahead ahead keepsUp.1
    exact ⟨ascends, ih later keepsUp.2⟩

/-- As long as no arrival falls behind its buffer, every drain lets payloads go upwards and no buffer steps back. -/
theorem reorder_ascends {events : List ReorderEvent} (idle : ∀ key, engine.remoteReorder key = none)
    (keepsUp : KeepsUpAlong engine events) : AscendsAlong engine events := by
  refine ascendsAlong_of_ahead (fun key buffer present => ?_) keepsUp
  rw [idle key] at present
  cases present

theorem filled_gap_ascends : KeepsUpAlong (heldMachine 1000).engine filledGap ∧
    AscendsAlong (heldMachine 1000).engine filledGap := by
  have keepsUp : KeepsUpAlong (heldMachine 1000).engine filledGap := by decide
  exact ⟨keepsUp, reorder_ascends (fun _ => rfl) keepsUp⟩

/-- A packet of the peer with one byte under the given number, at a time in nanoseconds. -/
def numberedPacket (counter : Nat) (sequence : SequenceNumber) (now : Nat) : PathPacket :=
  { peerSends counter (appFrame .data 300 sequence [1] (Eq.refl true)) with now }

/-- With a hold of a microsecond: number 10 is given up on at 1100, and number 7 comes after that. -/
def overtaken : List PathPacket :=
  [numberedPacket 0 5 0, numberedPacket 1 10 0, numberedPacket 2 12 900, numberedPacket 3 13 1100,
    numberedPacket 4 7 1150]

/-- The buffer waits for 14 when the flush finds 7 overdue, and for 8 afterwards. -/
def steppedBack : Machine :=
  run .willing .transparent [.receiveListed (overtaken ++ [numberedPacket 5 11 2000, numberedPacket 6 20 2100])
    ⟨2100, [⟨300, none⟩]⟩] (heldMachine 1)

/-- One drain lets 11, 12, 13 and then 7 go; another one takes the buffer from 14 back to 8. -/
theorem late_packet_steps_back : Started .willing 0 (heldConfig 1) (heldMachine 1) ∧
    ((ReorderEvent.arrive 2200 1 ⟨300, none, 11⟩ [1] ⟨0, true, true⟩).release
      (run .willing .transparent [.receiveListed overtaken ⟨1150, [⟨300, none⟩]⟩] (heldMachine 1)).engine).1.map
        (·.sequence) = [11, 12, 13, 7] ∧
    (steppedBack.engine.remoteReorder ⟨300, none⟩).map (·.nextSequence) = some 14 ∧
    ((run .willing .transparent [.receiveListed [] ⟨2200, [⟨300, none⟩]⟩] steppedBack).engine.remoteReorder
      ⟨300, none⟩).map (·.nextSequence) = some 8 :=
  ⟨⟨Net.blank, rfl, rfl⟩, by decide +kernel, by decide +kernel, by decide +kernel⟩

end Order

section Hold

/-- No payload of this service and peer has waited for the hold of its path. -/
def CoreDataplane.Prompt (engine : CoreDataplane) (now : Nat) (key : RemoteReorderKey) : Prop :=
  ∀ entry ∈ engine.buffered key, now - entry.receivedAt < engine.reorderHoldForPath entry.pathId

/-- The payloads of a buffer arrived in the order of their numbers, and none on a path with a shorter hold than the
first one's. -/
def CoreDataplane.AgesInOrder (engine : CoreDataplane) (key : RemoteReorderKey) : Prop :=
  (engine.buffered key).Pairwise (fun earlier later => earlier.receivedAt ≤ later.receivedAt) ∧
    ∀ oldest ∈ (engine.buffered key).head?, ∀ entry ∈ engine.buffered key,
      engine.reorderHoldForPath oldest.pathId ≤ engine.reorderHoldForPath entry.pathId

variable {engine : CoreDataplane} {now hold : Nat} {key other : RemoteReorderKey} {buffer final : RemoteReorderBuffer}
  {ready : List RemoteReorderEntry}

theorem RemoteReorderBuffer.Drains.sublist (drains : buffer.Drains now hold ready final) :
    final.entries.Sublist buffer.entries := by
  induction drains with
  | wait absent first waits => exact List.Sublist.refl _
  | done empty => exact List.Sublist.refl _
  | skip absent first due later ih => exact ih
  | take taken later ih =>
    obtain ⟨-, rfl⟩ := Prod.ext_iff.mp taken
    exact ih.trans List.filter_sublist

theorem RemoteReorderBuffer.Drains.first_waits (drains : buffer.Drains now hold ready final) :
    ∀ oldest ∈ final.entries.head?, now - oldest.receivedAt < hold := by
  induction drains with
  | wait absent first waits =>
    intro oldest head
    rw [first, List.head?_cons, Option.mem_some_iff] at head
    exact head ▸ waits.1
  | done empty => simp [empty]
  | skip absent first due later ih => exact ih
  | take taken later ih => exact ih

theorem all_wait_of_first {entries : List RemoteReorderEntry}
    (ordered : entries.Pairwise fun earlier later => earlier.receivedAt ≤ later.receivedAt)
    (first : ∀ oldest ∈ entries.head?, now - oldest.receivedAt < hold) :
    ∀ entry ∈ entries, now - entry.receivedAt < hold := by
  cases entries with
  | nil => simp
  | cons oldest rest =>
    have waits := first oldest rfl
    intro entry member
    rcases List.mem_cons.mp member with rfl | later
    · exact waits
    · have after := (List.pairwise_cons.mp ordered).1 entry later
      omega

theorem reorderHold_release (event : ReorderEvent) (engine : CoreDataplane) (pathId : PathId) :
    (event.release engine).2.reorderHoldForPath pathId = engine.reorderHoldForPath pathId := by
  rw [event.release_frame engine]
  rfl

/-- A flush looks at the first entry only. -/
theorem flush_idle_iff : (ReorderEvent.flush now key).opened engine = none ↔
    ∀ oldest ∈ (engine.buffered key).head?, now - oldest.receivedAt < engine.reorderHoldForPath oldest.pathId := by
  simp only [ReorderEvent.opened, CoreDataplane.buffered]
  cases engine.remoteReorder key with
  | none => simp
  | some buffer =>
    simp only [Option.bind_some, Option.elim_some]
    cases buffer.entries.head? with
    | none => simp
    | some oldest => simp

theorem flush_drains (drained : (ReorderEvent.flush now key).opened engine = some (buffer, hold)) :
    engine.buffered key = buffer.entries ∧
      ∃ oldest, buffer.entries.head? = some oldest ∧ hold = engine.reorderHoldForPath oldest.pathId := by
  obtain ⟨present, oldest, head, due, -⟩ := ReorderEvent.opened_flush drained
  exact ⟨by rw [CoreDataplane.buffered, present]; rfl, oldest, head, due⟩

theorem flush_prompt (ages : engine.AgesInOrder key) :
    ((ReorderEvent.flush now key).release engine).2.Prompt now key := by
  obtain ⟨ordered, shortest⟩ := ages
  intro entry member
  rw [reorderHold_release]
  cases drained : (ReorderEvent.flush now key).opened engine with
  | none =>
    rw [ReorderEvent.release_none drained] at member
    cases head : (engine.buffered key).head? with
    | none =>
      rw [List.head?_eq_none_iff.mp head] at member
      cases member
    | some oldest =>
      have waits := flush_idle_iff.mp drained oldest head
      have first : ∀ found ∈ (engine.buffered key).head?,
          now - found.receivedAt < engine.reorderHoldForPath oldest.pathId := by
        intro found same
        rw [← Option.some.inj (head.symm.trans same)]
        exact waits
      exact Nat.lt_of_lt_of_le (all_wait_of_first ordered first entry member) (shortest oldest head entry member)
  | some opened =>
    obtain ⟨start, hold⟩ := opened
    obtain ⟨waiting, oldest, head, rfl⟩ := flush_drains drained
    have drains := start.drained_drains now (engine.reorderHoldForPath oldest.pathId)
    rw [ReorderEvent.release_some drained] at member
    change entry ∈ (engine.settle key (start.drained now (engine.reorderHoldForPath oldest.pathId)).2).buffered key
      at member
    rw [CoreDataplane.settle_buffered] at member
    rw [waiting] at ordered shortest
    have all := all_wait_of_first (ordered.sublist drains.sublist) drains.first_waits
    exact Nat.lt_of_lt_of_le (all entry member) (shortest oldest head entry (drains.sublist.subset member))

theorem flush_keeps_prompt (prompt : engine.Prompt now key) :
    ((ReorderEvent.flush now other).release engine).2.Prompt now key := by
  by_cases here : key = other
  · subst here
    have idle : (ReorderEvent.flush now key).opened engine = none := by
      rw [flush_idle_iff]
      intro oldest head
      exact prompt oldest (List.mem_of_mem_head? head)
    rw [ReorderEvent.release_none idle]
    exact prompt
  · have same : ((ReorderEvent.flush now other).release engine).2.buffered key = engine.buffered key :=
      ReorderEvent.release_other here
    intro entry member
    rw [reorderHold_release]
    rw [same] at member
    exact prompt entry member

theorem flush_keeps_ages (different : key ≠ other) (ages : engine.AgesInOrder key) :
    ((ReorderEvent.flush now other).release engine).2.AgesInOrder key := by
  have same : ((ReorderEvent.flush now other).release engine).2.buffered key = engine.buffered key :=
    ReorderEvent.release_other different
  simp only [CoreDataplane.AgesInOrder, same, reorderHold_release]
  exact ages

/-- After a flush of all keys nothing is overdue. -/
theorem flushes_prompt {keys : List RemoteReorderKey} {run : ReorderRun}
    (ages : ∀ key ∈ keys, run.engine.Prompt now key ∨ run.engine.AgesInOrder key)
    (covered : key ∈ keys ∨ run.engine.Prompt now key) :
    (run.after (keys.map (.flush now))).engine.Prompt now key := by
  induction keys generalizing run with
  | nil => exact covered.resolve_left (by simp)
  | cons first rest ih =>
    have step (other : RemoteReorderKey) (before : run.engine.Prompt now other ∨ run.engine.AgesInOrder other) :
        (run.step (.flush now first)).engine.Prompt now other ∨
          (run.step (.flush now first)).engine.AgesInOrder other := by
      rcases before with prompt | ages
      · exact Or.inl (flush_keeps_prompt prompt)
      · by_cases here : other = first
        · exact Or.inl (here ▸ flush_prompt (here ▸ ages))
        · exact Or.inr (flush_keeps_ages here ages)
    refine ih (fun other member => step other (ages other (List.mem_cons_of_mem _ member))) ?_
    rcases covered with listed | prompt
    · rcases List.mem_cons.mp listed with rfl | later
      · rcases ages key List.mem_cons_self with prompt | ages
        · exact Or.inr (flush_keeps_prompt prompt)
        · exact Or.inr (flush_prompt ages)
      · exact Or.inl later
    · exact Or.inr (flush_keeps_prompt prompt)

theorem flushExpiredReorderBuffers_eq (os : Os) (now : Nat) (keys : List RemoteReorderKey) :
    flushExpiredReorderBuffers os now keys =
      (keys.map (ReorderEvent.flush now)).forM (·.program os) := by
  induction keys with
  | nil => rfl
  | cons key rest ih =>
    have split : flushExpiredReorderBuffers os now (key :: rest) =
        (flushExpiredReorderBuffers os now [key] >>= fun _ => flushExpiredReorderBuffers os now rest) := by
      rw [flushExpiredReorderBuffers, flushExpiredReorderBuffers, forM_singleton]
      rfl
    rw [split, ih]
    rfl

/-- Where nothing of a buffer is overdue yet or its payloads age in order, and emission succeeds, a flush at `now`
leaves no payload that has waited for the hold of its path. -/
theorem flush_leaves_nothing_overdue {os : Os} {machine : Machine} {keys : List RemoteReorderKey} (accepts : os.Accepts)
    (tidy : machine.Tidy) (known : ∀ key ∈ keys, machine.Serves key.serviceId)
    (listed : ∀ key, machine.engine.remoteReorder key ≠ none → key ∈ keys)
    (ages : ∀ key ∈ keys, machine.engine.Prompt now key ∨ machine.engine.AgesInOrder key) :
    Reaches (flushExpiredReorderBuffers os now keys) machine fun _ next => ∀ key, ∀ entry ∈ next.engine.buffered key,
      now - entry.receivedAt < next.engine.reorderHoldForPath entry.pathId := by
  have serves : ∀ event ∈ keys.map (ReorderEvent.flush now), machine.Serves event.key.serviceId := by
    intro event member
    obtain ⟨key, inside, rfl⟩ := List.mem_map.mp member
    exact known key inside
  rw [flushExpiredReorderBuffers_eq]
  refine (ReorderRun.shows_after accepts tidy serves).mono fun {_ next} shown => ?_
  intro key entry member
  have covered : key ∈ keys ∨ machine.engine.Prompt now key := by
    by_cases present : machine.engine.remoteReorder key = none
    · refine Or.inr fun waiting impossible => ?_
      rw [CoreDataplane.buffered, present] at impossible
      cases impossible
    · exact Or.inl (listed key present)
  have prompt : (ReorderRun.after ⟨machine.engine, []⟩ (keys.map (.flush now))).engine.Prompt now key :=
    flushes_prompt ages covered
  rw [CoreDataplane.buffered, shown.buffers] at member
  rw [CoreDataplane.reorderHoldForPath, shown.paths]
  exact prompt entry member

/-- Numbers 7 and 8 wait for number 6, since 100 and 200. -/
def agingEntries : List RemoteReorderEntry := [⟨7, 1, [1], ⟨1, true, false⟩, 100⟩, ⟨8, 1, [1], ⟨0, true, true⟩, 200⟩]

theorem agingEntries_sorted : Increasing RemoteReorderEntry.rank agingEntries := by
  rw [Increasing]
  decide

def agingMachine : Machine :=
  { heldMachine 1 with
    engine := (heldMachine 1).engine.settle ⟨300, none⟩ ⟨6, agingEntries, agingEntries_sorted⟩ }

theorem aging_in_order_flushes : agingMachine.engine.buffered ⟨300, none⟩ = agingEntries ∧
    Reaches (flushExpiredReorderBuffers .willing 1150 [⟨300, none⟩]) agingMachine fun _ next =>
      ∀ key, ∀ entry ∈ next.engine.buffered key,
        1150 - entry.receivedAt < next.engine.reorderHoldForPath entry.pathId := by
  have waiting : agingMachine.engine.buffered ⟨300, none⟩ = agingEntries := rfl
  refine ⟨waiting, flush_leaves_nothing_overdue Os.willing_accepts (Machine.tidy_of_settled rfl) ?_ ?_ ?_⟩
  · intro key member
    rw [List.mem_singleton.mp member]
    exact ⟨⟨_, List.mem_singleton_self _, rfl⟩, rfl⟩
  · intro key present
    rw [List.mem_singleton]
    by_contra different
    exact present (CoreDataplane.settle_other different _)
  · intro key member
    right
    rw [List.mem_singleton.mp member, CoreDataplane.AgesInOrder, waiting]
    decide

/-- Number 5 has waited since 0 and is overdue at 1500, but the flush looks at number 3, which came at 900. -/
theorem late_packet_hides_overdue : Started .willing 0 (heldConfig 1) (heldMachine 1) ∧
    let waiting := run .willing .transparent
      [.receiveListed [numberedPacket 0 1 0, numberedPacket 1 5 0, numberedPacket 2 3 900] ⟨900, [⟨300, none⟩]⟩]
      (heldMachine 1)
    let flushed := finalState (flushExpiredReorderBuffers .willing 1500 [⟨300, none⟩] waiting)
    (flushed.engine.buffered ⟨300, none⟩).map (fun entry => (entry.sequence, entry.pathId, entry.receivedAt)) =
        [(3, 1, 900), (5, 1, 0)] ∧
      flushed.engine.reorderHoldForPath 1 = 1000 :=
  ⟨⟨Net.blank, rfl, rfl⟩, by decide +kernel, by decide +kernel⟩

end Hold

end Gatherlink.Engine
