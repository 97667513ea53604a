import Gatherlink.Engine.DetailedReceive

/-! The reorder buffers over whole runs. The release loop ends, and between an arrival and its release every
payload is in exactly one place. -/

namespace Gatherlink.Engine
open Protocol Dataplane Lib.BigEndian Lib.Lookup Lib.Exec Lib.Sorted Lib.Streams

namespace RemoteReorderBuffer

/-- A buffer in which the loop would stop: its first entry is not due, and there is room. -/
def Waits (now hold : Nat) (buffer : RemoteReorderBuffer) (oldest : RemoteReorderEntry) : Prop :=
  now - oldest.receivedAt < hold ∧ buffer.entries.length ≤ REMOTE_REORDER_BUFFER_LIMIT

/-- The release loop as the source runs it, with no bound on its rounds. -/
inductive Drains (now hold : Nat) : RemoteReorderBuffer → List RemoteReorderEntry → RemoteReorderBuffer → Prop
  | take {buffer rest final entry ready} (taken : buffer.takeNext = (some entry, rest))
      (later : Drains now hold rest ready final) : Drains now hold buffer (entry :: ready) final
  | skip {buffer final oldest others ready} (absent : buffer.takeNext.1 = none)
      (first : buffer.entries = oldest :: others) (due : ¬buffer.Waits now hold oldest)
      (later : Drains now hold { buffer with nextSequence := oldest.sequence } ready final) :
      Drains now hold buffer ready final
  | wait {buffer oldest others} (absent : buffer.takeNext.1 = none) (first : buffer.entries = oldest :: others)
      (waits : buffer.Waits now hold oldest) : Drains now hold buffer [] buffer
  | done {buffer} (empty : buffer.entries = []) : Drains now hold buffer [] buffer

section Loop

variable {now hold : Nat} {buffer rest final : RemoteReorderBuffer} {entry oldest : RemoteReorderEntry}
  {ready others : List RemoteReorderEntry}

theorem takeNext_some (taken : buffer.takeNext = (some entry, rest)) :
    entry.sequence = buffer.nextSequence ∧ buffer.entries.Perm (entry :: rest.entries) ∧
      rest.nextSequence = max (buffer.nextSequence + 1) 1 := by
  obtain ⟨found, rfl⟩ := Prod.ext_iff.mp taken
  have same := List.find?_some found
  refine ⟨?_, takeAt_perm buffer.sorted found, rfl⟩
  exact UInt64.toNat_inj.mp (by simpa [RemoteReorderEntry.rank] using same)

theorem takeNext_rest (taken : buffer.takeNext = (some entry, rest)) {other : RemoteReorderEntry}
    (member : other ∈ rest.entries) : other ∈ buffer.entries ∧ other.sequence ≠ buffer.nextSequence := by
  obtain ⟨-, rfl⟩ := Prod.ext_iff.mp taken
  obtain ⟨listed, different⟩ := List.mem_filter.mp member
  refine ⟨listed, fun same => ?_⟩
  simp [RemoteReorderEntry.rank, same] at different

theorem takeNext_first (first : buffer.entries = oldest :: others) :
    ({ buffer with nextSequence := oldest.sequence } : RemoteReorderBuffer).takeNext.1 = some oldest := by
  simp [takeNext, takeAt, first, RemoteReorderEntry.rank]

/-- An entry costs at most two rounds, one to skip to it and one to take it; the last round stops. -/
def rounds (buffer : RemoteReorderBuffer) : Nat :=
  2 * buffer.entries.length + if buffer.takeNext.1.isSome then 0 else 1

theorem rounds_take (taken : buffer.takeNext = (some entry, rest)) : rest.rounds < buffer.rounds := by
  have fewer := (takeNext_some taken).2.1.length_eq
  rw [List.length_cons] at fewer
  have present : buffer.takeNext.1.isSome = true := by rw [taken]; rfl
  rw [rounds, rounds, if_pos present]
  split <;> omega

theorem rounds_skip (absent : buffer.takeNext.1 = none) (first : buffer.entries = oldest :: others) :
    ({ buffer with nextSequence := oldest.sequence } : RemoteReorderBuffer).rounds < buffer.rounds := by
  have missing : ¬buffer.takeNext.1.isSome = true := by simp [absent]
  have present : ({ buffer with nextSequence := oldest.sequence } : RemoteReorderBuffer).takeNext.1.isSome = true := by
    rw [takeNext_first first]
    rfl
  rw [rounds, rounds, if_pos present, if_neg missing]
  exact Nat.lt_succ_self _

theorem rounds_pos (buffer : RemoteReorderBuffer) : 0 < buffer.rounds := by
  cases first : buffer.entries with
  | nil => simp [rounds, takeNext, takeAt, first]
  | cons oldest others =>
    rw [rounds, first, List.length_cons]
    omega

theorem release_drains_of_le {fuel : Nat} (enough : buffer.rounds ≤ fuel) :
    Drains now hold buffer (buffer.release now hold fuel).1 (buffer.release now hold fuel).2 := by
  induction fuel generalizing buffer with
  | zero =>
    have positive := buffer.rounds_pos
    omega
  | succ fuel ih =>
    rw [release]
    rcases taken : buffer.takeNext with ⟨found, rest⟩
    cases found with
    | some entry =>
      have fewer := rounds_take taken
      exact .take taken (ih (by omega))
    | none =>
      have absent : buffer.takeNext.1 = none := by rw [taken]
      simp only
      split
      · rename_i empty
        exact .done empty
      · rename_i oldest others first
        have fewer := rounds_skip absent first
        split_ifs with waits
        · exact .wait absent first waits
        · exact .skip absent first waits (ih (by omega))

/-- What a drain lets go, and what it leaves. -/
def drained (buffer : RemoteReorderBuffer) (now hold : Nat) : List RemoteReorderEntry × RemoteReorderBuffer :=
  buffer.release now hold (2 * buffer.entries.length + 1)

/-- The bound on the rounds is never met: the loop of the source ends, and the model computes its result. -/
theorem drained_drains (buffer : RemoteReorderBuffer) (now hold : Nat) :
    Drains now hold buffer (buffer.drained now hold).1 (buffer.drained now hold).2 := by
  refine release_drains_of_le ?_
  unfold rounds
  split <;> omega

theorem Drains.perm (drains : Drains now hold buffer ready final) : buffer.entries.Perm (ready ++ final.entries) := by
  induction drains with
  | take taken later ih => exact (takeNext_some taken).2.1.trans (ih.cons _)
  | skip absent first due later ih => exact ih
  | wait absent first waits => exact List.Perm.refl _
  | done empty => exact List.Perm.refl _

theorem Drains.bounded (drains : Drains now hold buffer ready final) :
    final.entries.length ≤ REMOTE_REORDER_BUFFER_LIMIT := by
  induction drains with
  | take taken later ih => exact ih
  | skip absent first due later ih => exact ih
  | wait absent first waits => exact waits.2
  | done empty => simp [empty]

end Loop

end RemoteReorderBuffer

/-- What can happen to the reorder buffers: a payload that dedupe let through, or the flush of one key. -/
inductive ReorderEvent where
  | arrive (now : Nat) (pathId : PathId) (key : DedupeKey) (payload : Bytes) (observation : SequenceObservation)
  | flush (now : Nat) (key : RemoteReorderKey)
  deriving DecidableEq

namespace CoreDataplane

/-- The payloads that wait for one service and peer. -/
def buffered (engine : CoreDataplane) (key : RemoteReorderKey) : List RemoteReorderEntry :=
  (engine.remoteReorder key).elim [] (·.entries)

/-- What one arrival lets go on, itself included. -/
def arriveForReorder (engine : CoreDataplane) (now : Nat) (pathId : PathId) (key : DedupeKey) (payload : Bytes)
    (observation : SequenceObservation) : List RemoteReorderEntry × CoreDataplane :=
  let entry : RemoteReorderEntry := ⟨key.sequence, pathId, payload, observation, now⟩
  let hold := engine.reorderHoldForPath pathId
  if hold = 0 then ([entry], engine)
  else if (engine.remoteReorder ⟨key.serviceId, key.peerScope⟩).isNone ∧ observation.outOfOrder = false ∧
      observation.missingPackets = 0 then ([entry], engine)
  else engine.holdForReorder now hold ⟨key.serviceId, key.peerScope⟩ entry

end CoreDataplane

theorem forM_singleton {α : Type} (item : α) (body : α → Run PUnit) : [item].forM body = body item := by
  exact bind_pure_unit

namespace ReorderEvent

def now : ReorderEvent → Nat
  | arrive now _ _ _ _ => now
  | flush now _ => now

def key : ReorderEvent → RemoteReorderKey
  | arrive _ _ key _ _ => ⟨key.serviceId, key.peerScope⟩
  | flush _ key => key

def entries : ReorderEvent → List RemoteReorderEntry
  | arrive now pathId key payload observation => [⟨key.sequence, pathId, payload, observation, now⟩]
  | flush _ _ => []

/-- The payloads that an event lets go on, and the engine after it. -/
def release (event : ReorderEvent) (engine : CoreDataplane) : List RemoteReorderEntry × CoreDataplane :=
  match event with
  | arrive now pathId key payload observation => engine.arriveForReorder now pathId key payload observation
  | flush now key => engine.drainExpiredReorderReady now key

/-- The engine code that handles an event. -/
def program (os : Os) : ReorderEvent → Run PUnit
  | arrive now pathId key payload observation => queueRemotePayloadWithReorder os now pathId key payload observation
  | flush now key => flushExpiredReorderBuffers os now [key]

/-- The code releases what the event lets go on and hands it to the emit batch. -/
theorem program_eq (os : Os) (event : ReorderEvent) :
    event.program os = onEngine (modifyGet event.release) >>= queueReady os event.now event.key := by
  funext machine
  have released : onEngine (modifyGet event.release) machine =
      .ok (event.release machine.engine).1 { machine with engine := (event.release machine.engine).2 } := rfl
  rw [bind_ok released]
  cases event with
  | flush now key =>
    rw [program, flushExpiredReorderBuffers, forM_singleton]
    rfl
  | arrive now pathId key payload observation =>
    have alone (entry : RemoteReorderEntry) (scope : RemoteReorderKey) : queueReady os now scope [entry] =
        queueRemotePayloadSummary os now entry.pathId ⟨scope.serviceId, scope.peerScope, entry.sequence⟩
          entry.payload entry.observation := forM_singleton _ _
    rw [program, queueRemotePayloadWithReorder, bind_reads, bind_reads]
    simp only [ReorderEvent.release, CoreDataplane.arriveForReorder, ReorderEvent.now, ReorderEvent.key]
    by_cases zero : machine.engine.reorderHoldForPath pathId = 0
    · simp only [if_pos zero, alone]
    · by_cases passes : (machine.engine.remoteReorder ⟨key.serviceId, key.peerScope⟩).isNone ∧
          observation.outOfOrder = false ∧ observation.missingPackets = 0
      · have passed : (!(machine.engine.remoteReorder ⟨key.serviceId, key.peerScope⟩).isSome) = true ∧
            (!observation.outOfOrder) = true ∧ observation.missingPackets = 0 := by
          simpa using passes
        simp only [if_neg zero, if_pos passes, if_pos passed, alone]
      · have held : ¬((!(machine.engine.remoteReorder ⟨key.serviceId, key.peerScope⟩).isSome) = true ∧
            (!observation.outOfOrder) = true ∧ observation.missingPackets = 0) := by
          simpa using passes
        simp only [if_neg zero, if_neg passes, if_neg held]
        rfl

end ReorderEvent

namespace CoreDataplane

/-- The engine after a drain that leaves `rest`; an empty buffer is forgotten. -/
def settle (engine : CoreDataplane) (key : RemoteReorderKey) (rest : RemoteReorderBuffer) : CoreDataplane :=
  { engine with
    remoteReorder := if rest.entries.isEmpty then remove engine.remoteReorder key
      else insert engine.remoteReorder key rest }

/-- The buffer with the payload put in, opened where the gap starts if there was none. -/
def openedWith (engine : CoreDataplane) (key : RemoteReorderKey) (entry : RemoteReorderEntry) : RemoteReorderBuffer :=
  ((engine.remoteReorder key).getD (.new (if entry.sequence.toNat < entry.observation.missingPackets.toNat then 0
    else entry.sequence - entry.observation.missingPackets))).insertEntry entry

variable {engine : CoreDataplane}

theorem settle_other {key other : RemoteReorderKey} (different : other ≠ key)
    (rest : RemoteReorderBuffer) : (engine.settle key rest).remoteReorder other = engine.remoteReorder other := by
  unfold settle
  split
  · exact remove_of_ne _ different
  · exact insert_of_ne _ _ different

theorem settle_self (engine : CoreDataplane) (key : RemoteReorderKey) (rest : RemoteReorderBuffer) :
    (engine.settle key rest).remoteReorder key = if rest.entries.isEmpty then none else some rest := by
  unfold settle
  split <;> simp

theorem settle_buffered (engine : CoreDataplane) (key : RemoteReorderKey) (rest : RemoteReorderBuffer) :
    (engine.settle key rest).buffered key = rest.entries := by
  rw [buffered, settle_self]
  split
  · rename_i empty
    exact (List.isEmpty_iff.mp empty).symm
  · rfl

theorem drainReorderReady_some {key : RemoteReorderKey} {buffer : RemoteReorderBuffer}
    (present : engine.remoteReorder key = some buffer) (now hold : Nat) :
    engine.drainReorderReady now hold key =
      ((buffer.drained now hold).1, engine.settle key (buffer.drained now hold).2) := by
  rw [drainReorderReady, present]
  rfl

theorem settle_bufferEntry (engine : CoreDataplane) (key : RemoteReorderKey) (entry : RemoteReorderEntry)
    (rest : RemoteReorderBuffer) : (engine.bufferEntry key entry).settle key rest = engine.settle key rest := by
  have same : (engine.bufferEntry key entry).remoteReorder = insert engine.remoteReorder key
      (engine.openedWith key entry) := rfl
  unfold settle
  rw [same]
  congr 1
  funext other
  by_cases here : other = key
  · subst here
    split <;> simp
  · split
    · rw [remove_of_ne _ here, remove_of_ne _ here, insert_of_ne _ _ here]
    · rw [insert_of_ne _ _ here, insert_of_ne _ _ here, insert_of_ne _ _ here]

end CoreDataplane

namespace ReorderEvent

/-- The buffer that an event drains and the hold it drains by, if it drains one. -/
def opened (event : ReorderEvent) (engine : CoreDataplane) : Option (RemoteReorderBuffer × Nat) :=
  match event with
  | arrive now pathId key payload observation =>
      if engine.reorderHoldForPath pathId = 0 then none
      else if (engine.remoteReorder ⟨key.serviceId, key.peerScope⟩).isNone ∧ observation.outOfOrder = false ∧
          observation.missingPackets = 0 then none
      else some (engine.openedWith ⟨key.serviceId, key.peerScope⟩ ⟨key.sequence, pathId, payload, observation, now⟩,
        engine.reorderHoldForPath pathId)
  | flush now key =>
      (engine.remoteReorder key).bind fun buffer => buffer.entries.head?.bind fun oldest =>
        if now - oldest.receivedAt < engine.reorderHoldForPath oldest.pathId then none
        else some (buffer, engine.reorderHoldForPath oldest.pathId)

variable {event : ReorderEvent} {engine : CoreDataplane} {start : RemoteReorderBuffer} {hold now : Nat}

theorem opened_flush {key : RemoteReorderKey} (drained : (flush now key).opened engine = some (start, hold)) :
    engine.remoteReorder key = some start ∧ ∃ oldest, start.entries.head? = some oldest ∧
      hold = engine.reorderHoldForPath oldest.pathId ∧ ¬now - oldest.receivedAt < hold := by
  obtain ⟨buffer, present, looked⟩ := Option.bind_eq_some_iff.mp drained
  obtain ⟨oldest, head, due⟩ := Option.bind_eq_some_iff.mp looked
  split_ifs at due with early
  obtain ⟨rfl, rfl⟩ := Prod.ext_iff.mp (Option.some.inj due)
  exact ⟨present, oldest, head, rfl, early⟩

theorem release_none (idle : event.opened engine = none) :
    event.release engine = (event.entries, engine) := by
  cases event with
  | arrive now pathId key payload observation =>
    simp only [opened] at idle
    simp only [ReorderEvent.release, CoreDataplane.arriveForReorder]
    split_ifs at idle ⊢
    · rfl
    · rfl
  | flush now key =>
    simp only [ReorderEvent.release, CoreDataplane.drainExpiredReorderReady]
    split
    · rfl
    · rename_i oldest first
      obtain ⟨buffer, present, head⟩ := Option.bind_eq_some_iff.mp first
      simp only [opened, present, head, Option.bind_some] at idle
      split_ifs at idle ⊢
      rfl

theorem release_some (drained : event.opened engine = some (start, hold)) :
    event.release engine =
      ((start.drained event.now hold).1, engine.settle event.key (start.drained event.now hold).2) := by
  cases event with
  | arrive now pathId key payload observation =>
    simp only [opened] at drained
    simp only [ReorderEvent.release, CoreDataplane.arriveForReorder]
    split_ifs at drained ⊢
    obtain ⟨rfl, rfl⟩ := Prod.ext_iff.mp (Option.some.inj drained)
    have present : (engine.bufferEntry ⟨key.serviceId, key.peerScope⟩
        ⟨key.sequence, pathId, payload, observation, now⟩).remoteReorder ⟨key.serviceId, key.peerScope⟩ =
        some (engine.openedWith ⟨key.serviceId, key.peerScope⟩ ⟨key.sequence, pathId, payload, observation, now⟩) :=
      insert_self ..
    rw [CoreDataplane.holdForReorder, CoreDataplane.drainReorderReady_some present, CoreDataplane.settle_bufferEntry]
    rfl
  | flush now key =>
    obtain ⟨present, oldest, head, rfl, early⟩ := opened_flush drained
    simp only [ReorderEvent.release, CoreDataplane.drainExpiredReorderReady, present, Option.bind_some, head,
      if_neg early, CoreDataplane.drainReorderReady_some present]
    rfl

theorem openedWith_entries {key : RemoteReorderKey} {entry : RemoteReorderEntry} :
    (engine.openedWith key entry).entries = insertNew RemoteReorderEntry.rank entry (engine.buffered key) := by
  unfold CoreDataplane.openedWith CoreDataplane.buffered
  cases engine.remoteReorder key with
  | none => rfl
  | some buffer => rfl

theorem openedWith_perm {key : RemoteReorderKey} {entry : RemoteReorderEntry}
    (fresh : ∀ waiting ∈ engine.buffered key, waiting.sequence ≠ entry.sequence) :
    (engine.openedWith key entry).entries.Perm (entry :: engine.buffered key) := by
  have distinct : ∀ waiting ∈ engine.buffered key, waiting.rank ≠ entry.rank := by
    intro waiting member same
    exact fresh waiting member (UInt64.toNat_inj.mp same)
  rw [openedWith_entries]
  exact insertNew_perm distinct

theorem opened_perm (drained : event.opened engine = some (start, hold))
    (fresh : ∀ entry ∈ event.entries, ∀ waiting ∈ engine.buffered event.key, waiting.sequence ≠ entry.sequence) :
    start.entries.Perm (event.entries ++ engine.buffered event.key) := by
  cases event with
  | arrive now pathId key payload observation =>
    simp only [opened] at drained
    split_ifs at drained
    obtain ⟨rfl, rfl⟩ := Prod.ext_iff.mp (Option.some.inj drained)
    exact openedWith_perm (fresh _ (List.mem_singleton_self _))
  | flush now key =>
    obtain ⟨present, -⟩ := opened_flush drained
    simp only [ReorderEvent.key, ReorderEvent.entries, List.nil_append, CoreDataplane.buffered, present]
    exact List.Perm.refl _

/-- What is let go and what waits afterwards is what waited and what arrived. -/
theorem release_perm
    (fresh : ∀ entry ∈ event.entries, ∀ waiting ∈ engine.buffered event.key, waiting.sequence ≠ entry.sequence) :
    ((event.release engine).1 ++ (event.release engine).2.buffered event.key).Perm
      (event.entries ++ engine.buffered event.key) := by
  cases drained : event.opened engine with
  | none => rw [release_none drained]
  | some start =>
    obtain ⟨start, hold⟩ := start
    rw [release_some drained, CoreDataplane.settle_buffered]
    exact (start.drained_drains event.now hold).perm.symm.trans (opened_perm drained fresh)

/-- What waits is let go or waits on; an arrival joins it unless its number waits already. -/
theorem release_keeps : ∃ more : List RemoteReorderEntry, more.Sublist event.entries ∧
    ((event.release engine).1 ++ (event.release engine).2.buffered event.key).Perm
      (engine.buffered event.key ++ more) := by
  cases drained : event.opened engine with
  | none =>
    rw [release_none drained]
    exact ⟨_, List.Sublist.refl _, List.perm_append_comm⟩
  | some start =>
    obtain ⟨start, hold⟩ := start
    have drains := (start.drained_drains event.now hold).perm.symm
    rw [release_some drained, CoreDataplane.settle_buffered]
    cases event with
    | arrive now pathId key payload observation =>
      simp only [opened] at drained
      split_ifs at drained
      obtain ⟨rfl, rfl⟩ := Prod.ext_iff.mp (Option.some.inj drained)
      rw [openedWith_entries] at drains
      rcases insertNew_cases with same | perm
      · exact ⟨[], List.nil_sublist _, by rw [same] at drains; rwa [List.append_nil]⟩
      · exact ⟨_, List.Sublist.refl _, (drains.trans perm).trans (@List.perm_append_comm _ [_] _)⟩
    | flush now key =>
      obtain ⟨present, -⟩ := opened_flush drained
      refine ⟨[], List.nil_sublist _, ?_⟩
      simp only [ReorderEvent.key, CoreDataplane.buffered, present]
      simpa using drains

theorem release_other {other : RemoteReorderKey} (different : other ≠ event.key) :
    (event.release engine).2.buffered other = engine.buffered other := by
  cases drained : event.opened engine with
  | none => rw [release_none drained]
  | some start =>
    obtain ⟨start, hold⟩ := start
    rw [release_some drained, CoreDataplane.buffered, CoreDataplane.settle_other different, CoreDataplane.buffered]

theorem release_bounded (bounded : ∀ key, (engine.buffered key).length ≤ REMOTE_REORDER_BUFFER_LIMIT)
    (key : RemoteReorderKey) : ((event.release engine).2.buffered key).length ≤ REMOTE_REORDER_BUFFER_LIMIT := by
  by_cases here : key = event.key
  · subst here
    cases drained : event.opened engine with
    | none =>
      rw [release_none drained]
      exact bounded _
    | some start =>
      obtain ⟨start, hold⟩ := start
      rw [release_some drained, CoreDataplane.settle_buffered]
      exact (start.drained_drains event.now hold).bounded
  · rw [release_other here]
    exact bounded key

end ReorderEvent

/-- The engine together with what its buffers have let go. -/
structure ReorderRun where
  engine : CoreDataplane
  released : List (RemoteReorderKey × RemoteReorderEntry) := []

namespace ReorderRun

def step (run : ReorderRun) (event : ReorderEvent) : ReorderRun :=
  ⟨(event.release run.engine).2, run.released ++ (event.release run.engine).1.map (event.key, ·)⟩

def after (run : ReorderRun) (events : List ReorderEvent) : ReorderRun := events.foldl step run

def releasedFor (run : ReorderRun) (key : RemoteReorderKey) : List RemoteReorderEntry :=
  (run.released.filter (·.1 = key)).map (·.2)

end ReorderRun

def arrivalsFor (key : RemoteReorderKey) (events : List ReorderEvent) : List RemoteReorderEntry :=
  (events.filter (·.key = key)).flatMap (·.entries)

namespace ReorderRun

variable {run : ReorderRun} {arrived : RemoteReorderKey → List RemoteReorderEntry}

/-- Everything that arrived is released or waits, once, and no buffer is over its limit. -/
structure Conserves (arrived : RemoteReorderKey → List RemoteReorderEntry) (run : ReorderRun) : Prop where
  perm : ∀ key, (run.releasedFor key ++ run.engine.buffered key).Perm (arrived key)
  bounded : ∀ key, (run.engine.buffered key).length ≤ REMOTE_REORDER_BUFFER_LIMIT

theorem step_releasedFor (run : ReorderRun) (event : ReorderEvent) (key : RemoteReorderKey) :
    (run.step event).releasedFor key =
      run.releasedFor key ++ if event.key = key then (event.release run.engine).1 else [] := by
  simp only [releasedFor, step, List.filter_append, List.map_append, List.filter_map]
  split
  · rename_i here
    simp [here, Function.comp_def]
  · rename_i other
    simp [other, Function.comp_def]

theorem Conserves.step (conserves : run.Conserves arrived) (event : ReorderEvent)
    (fresh : ∀ entry ∈ event.entries, ∀ earlier ∈ arrived event.key, earlier.sequence ≠ entry.sequence) :
    (run.step event).Conserves fun key => arrived key ++ if event.key = key then event.entries else [] where
  perm key := by
    rw [step_releasedFor]
    by_cases here : event.key = key
    · subst here
      simp only [if_true]
      have unseen : ∀ entry ∈ event.entries, ∀ waiting ∈ run.engine.buffered event.key,
          waiting.sequence ≠ entry.sequence := by
        intro entry member waiting buffered
        exact fresh entry member waiting ((conserves.perm event.key).subset (List.mem_append_right _ buffered))
      have moved : List.Perm (run.releasedFor event.key ++
          ((event.release run.engine).1 ++ (event.release run.engine).2.buffered event.key))
          (run.releasedFor event.key ++ (run.engine.buffered event.key ++ event.entries)) :=
        ((ReorderEvent.release_perm unseen).trans List.perm_append_comm).append_left _
      rw [← List.append_assoc, ← List.append_assoc] at moved
      exact moved.trans ((conserves.perm event.key).append_right _)
    · simp only [if_neg here, List.append_nil]
      have same : (run.step event).engine.buffered key = run.engine.buffered key :=
        ReorderEvent.release_other (Ne.symm here)
      rw [same]
      exact conserves.perm key
  bounded := ReorderEvent.release_bounded conserves.bounded

theorem Conserves.after (conserves : run.Conserves arrived) {events : List ReorderEvent}
    (distinct : ∀ key, ((arrived key ++ arrivalsFor key events).map (·.sequence)).Nodup) :
    (run.after events).Conserves fun key => arrived key ++ arrivalsFor key events := by
  induction events generalizing run arrived with
  | nil => simpa [arrivalsFor, ReorderRun.after] using conserves
  | cons event rest ih =>
    have split (key : RemoteReorderKey) : arrivalsFor key (event :: rest) =
        (if event.key = key then event.entries else []) ++ arrivalsFor key rest := by
      unfold arrivalsFor
      by_cases here : event.key = key <;> simp [here]
    have fresh : ∀ entry ∈ event.entries, ∀ earlier ∈ arrived event.key, earlier.sequence ≠ entry.sequence := by
      intro entry member earlier before
      have apart := distinct event.key
      rw [split, if_pos rfl, List.map_append, List.nodup_append] at apart
      refine apart.2.2 _ (List.mem_map_of_mem before) _ (List.mem_map_of_mem ?_)
      exact List.mem_append_left _ member
    have later := ih (conserves.step event fresh) (by
      intro key
      rw [List.append_assoc, ← split]
      exact distinct key)
    simp only [split, ← List.append_assoc]
    exact later

end ReorderRun

section Machines

variable {os : Os} {machine : Machine} {event : ReorderEvent} {key : RemoteReorderKey}

theorem ReorderEvent.release_frame (event : ReorderEvent) (engine : CoreDataplane) :
    (event.release engine).2 = { engine with remoteReorder := (event.release engine).2.remoteReorder } := by
  cases drained : event.opened engine with
  | none => rw [release_none drained]
  | some start =>
    obtain ⟨start, hold⟩ := start
    rw [release_some drained]
    rfl

theorem ReorderEvent.release_congr (event : ReorderEvent) {engine other : CoreDataplane}
    (paths : other.paths = engine.paths) (buffers : other.remoteReorder = engine.remoteReorder) :
    (event.release other).1 = (event.release engine).1 ∧
      (event.release other).2.remoteReorder = (event.release engine).2.remoteReorder := by
  have holds : other.reorderHoldForPath = engine.reorderHoldForPath := by
    funext pathId
    rw [CoreDataplane.reorderHoldForPath, paths, CoreDataplane.reorderHoldForPath]
  have opens : event.opened other = event.opened engine := by
    cases event with
    | arrive now pathId key payload observation =>
      simp only [ReorderEvent.opened, CoreDataplane.openedWith, holds, buffers]
    | flush now key => simp only [ReorderEvent.opened, holds, buffers]
  cases drained : event.opened engine with
  | none =>
    rw [release_none drained, release_none (opens.trans drained)]
    exact ⟨rfl, buffers⟩
  | some start =>
    obtain ⟨start, hold⟩ := start
    rw [release_some drained, release_some (opens.trans drained)]
    simp [CoreDataplane.settle, buffers]

/-- What an application gets of a released entry. -/
def RemoteReorderKey.content (key : RemoteReorderKey) (entry : RemoteReorderEntry) : DedupeKey × Bytes :=
  (⟨key.serviceId, key.peerScope, entry.sequence⟩, entry.payload)

theorem queueReady_reaches {now : Nat} (accepts : os.Accepts) (tidy : machine.Tidy)
    (serves : machine.Serves key.serviceId) (ready : List RemoteReorderEntry) :
    Reaches (queueReady os now key ready) machine fun _ next => Emitted (ready.map key.content) machine next := by
  induction ready generalizing machine with
  | nil => exact Reaches.pure (Emitted.nothing tidy)
  | cons entry rest ih =>
    refine Reaches.bind (queueRemotePayloadSummary_reaches accepts tidy serves) fun _ middle first => ?_
    refine (ih first.tidy (serves.same (congrArg Footing.ground first.footing))).mono fun later => ?_
    exact first.trans later

/-- The machine's buffers are those of the run, and what the run released has been handed on. -/
structure ReorderRun.Shows (run : ReorderRun) (start machine : Machine) : Prop where
  buffers : machine.engine.remoteReorder = run.engine.remoteReorder
  paths : machine.engine.paths = run.engine.paths
  serving : ∀ {serviceId}, start.Serves serviceId → machine.Serves serviceId
  handedOn : ∀ key, streams scopeOf machine.handedOn key =
    streams scopeOf start.handedOn key ++ (run.releasedFor key).map key.content
  tidy : machine.Tidy

theorem streams_content (key other : RemoteReorderKey) (entries : List RemoteReorderEntry) :
    streams scopeOf (entries.map key.content) other = if key = other then entries.map other.content else [] := by
  have scope (entry : RemoteReorderEntry) : scopeOf (key.content entry) = key := rfl
  rw [streams, List.filter_map, Function.comp_def]
  simp only [scope]
  split
  · rename_i here
    subst here
    simp
  · rename_i different
    simp [different]

/-- Where emission succeeds, the code of an event releases what the event lets go and hands it on. -/
theorem ReorderEvent.program_reaches (accepts : os.Accepts) (tidy : machine.Tidy)
    (serves : machine.Serves event.key.serviceId) :
    Reaches (event.program os) machine fun _ next =>
      Emitted ((event.release machine.engine).1.map event.key.content)
        { machine with engine := (event.release machine.engine).2 } next := by
  have frame := event.release_frame machine.engine
  have released : onEngine (modifyGet event.release) machine =
      .ok (event.release machine.engine).1 { machine with engine := (event.release machine.engine).2 } := rfl
  have serving : Machine.Serves { machine with engine := (event.release machine.engine).2 } event.key.serviceId := by
    rw [frame]
    exact serves
  have clean : Machine.Tidy { machine with engine := (event.release machine.engine).2 } := by
    rw [frame]
    exact ⟨tidy.keyed, tidy.batched⟩
  rw [event.program_eq os]
  refine Reaches.bind (show Reaches _ machine (fun value next => value = (event.release machine.engine).1 ∧
    next = { machine with engine := (event.release machine.engine).2 }) from ⟨_, _, released, rfl, rfl⟩) ?_
  rintro _ _ ⟨rfl, rfl⟩
  exact queueReady_reaches accepts clean serving _

theorem ReorderRun.Shows.step {run : ReorderRun} {start : Machine} (accepts : os.Accepts)
    (shows : run.Shows start machine)
    (serves : start.Serves event.key.serviceId) :
    Reaches (event.program os) machine fun _ next => (run.step event).Shows start next := by
  obtain ⟨ready, buffers⟩ := event.release_congr shows.paths shows.buffers
  have frame := event.release_frame machine.engine
  have serving : ∀ {serviceId}, start.Serves serviceId →
      Machine.Serves { machine with engine := (event.release machine.engine).2 } serviceId := by
    intro serviceId served
    have here := shows.serving served
    rw [frame]
    exact here
  refine (event.program_reaches accepts shows.tidy (shows.serving serves)).mono fun {_ next} emitted => ?_
  have ground : next.ground = _ := congrArg Footing.ground emitted.footing
  exact
    { buffers := (congrArg Ground.remoteReorder ground).trans buffers
      paths := by
        have same : next.engine.paths = (event.release machine.engine).2.paths := congrArg Ground.paths ground
        rw [same, frame, ReorderRun.step, event.release_frame run.engine]
        exact shows.paths
      serving := fun served => (serving served).same ground
      handedOn := by
        intro key
        have passed := congrFun emitted.handedOn key
        rw [passed, streams_append]
        simp only [streams_content, step_releasedFor, List.map_append, ← List.append_assoc]
        have before :
            streams scopeOf (Machine.handedOn { machine with engine := (event.release machine.engine).2 }) key =
              streams scopeOf start.handedOn key ++ (run.releasedFor key).map key.content := shows.handedOn key
        simp only [before, ready]
        split <;> rfl
      tidy := emitted.tidy }

theorem ReorderRun.shows_after {events : List ReorderEvent} (accepts : os.Accepts) (tidy : machine.Tidy)
    (known : ∀ event ∈ events, machine.Serves event.key.serviceId) :
    Reaches (events.forM (·.program os)) machine fun _ next =>
      (ReorderRun.after ⟨machine.engine, []⟩ events).Shows machine next := by
  refine Reaches.forM (fun done reached => (ReorderRun.after ⟨machine.engine, []⟩ done).Shows machine reached) ?_ ?_
  · intro done event rest reached split shows
    rw [ReorderRun.after, List.foldl_append]
    exact shows.step accepts (known event (by simp [split]))
  · exact ⟨rfl, rfl, fun served => served, fun key => by simp [ReorderRun.after, ReorderRun.releasedFor], tidy⟩

end Machines

/-- Every payload that arrives is released once or still waits, whatever the clock does; every drain ends, and leaves
no buffer over its limit. Where emission succeeds, what is released is what applications get. -/
theorem reorder_conserves {machine : Machine} {events : List ReorderEvent}
    (idle : ∀ key, machine.engine.remoteReorder key = none)
    (known : ∀ event ∈ events, machine.Serves event.key.serviceId)
    (distinct : ∀ key, ((arrivalsFor key events).map (·.sequence)).Nodup) :
    let run := ReorderRun.after ⟨machine.engine, []⟩ events
    (∀ key, (run.releasedFor key ++ run.engine.buffered key).Perm (arrivalsFor key events)) ∧
      (∀ key, (run.engine.buffered key).length ≤ REMOTE_REORDER_BUFFER_LIMIT) ∧
      (∀ (buffer : RemoteReorderBuffer) (now hold : Nat),
        buffer.Drains now hold (buffer.drained now hold).1 (buffer.drained now hold).2) ∧
      ∀ os : Os, os.Accepts → machine.Tidy → Reaches (events.forM (·.program os)) machine fun _ next =>
        next.engine.remoteReorder = run.engine.remoteReorder ∧
          ∀ key, streams scopeOf next.handedOn key =
            streams scopeOf machine.handedOn key ++ (run.releasedFor key).map key.content := by
  intro run
  have start : ReorderRun.Conserves (fun _ => []) ⟨machine.engine, []⟩ :=
    { perm := fun key => by simp [ReorderRun.releasedFor, CoreDataplane.buffered, idle]
      bounded := fun key => by simp [CoreDataplane.buffered, idle] }
  have conserves : run.Conserves fun key => [] ++ arrivalsFor key events := start.after (by simpa using distinct)
  refine ⟨?_, conserves.bounded, fun buffer now hold => buffer.drained_drains now hold, ?_⟩
  · intro key
    have kept := conserves.perm key
    rwa [List.nil_append] at kept
  · intro os accepts tidy
    exact (ReorderRun.shows_after accepts tidy known).mono fun shows => ⟨shows.buffers, shows.handedOn⟩

/-- A gap that is filled two steps later. -/
def filledGap : List ReorderEvent :=
  [.arrive 0 1 ⟨300, none, 5⟩ [1] ⟨0, false, false⟩, .arrive 1 1 ⟨300, none, 7⟩ [3] ⟨1, false, false⟩,
    .arrive 2 1 ⟨300, none, 6⟩ [2] ⟨0, true, true⟩, .flush 3 ⟨300, none⟩]

theorem filled_gap_conserves : Started .willing 0 (heldConfig 1000) (heldMachine 1000) ∧
    let run := ReorderRun.after ⟨(heldMachine 1000).engine, []⟩ filledGap
    (run.releasedFor ⟨300, none⟩).map (·.sequence) = [5, 6, 7] ∧
      ∀ key, (run.releasedFor key ++ run.engine.buffered key).Perm (arrivalsFor key filledGap) := by
  have known : ∀ event ∈ filledGap, (heldMachine 1000).Serves event.key.serviceId := by
    have service : ∀ event ∈ filledGap, event.key.serviceId = 300 := by decide
    intro event member
    rw [service event member]
    exact ⟨⟨_, List.mem_singleton_self _, rfl⟩, rfl⟩
  have distinct : ∀ key, ((arrivalsFor key filledGap).map (·.sequence)).Nodup := by
    have scope : ∀ event ∈ filledGap, event.key = ⟨300, none⟩ := by decide
    intro key
    by_cases here : key = ⟨300, none⟩
    · subst here
      decide
    · have nothing : filledGap.filter (·.key = key) = [] := by
        rw [List.filter_eq_nil_iff]
        intro event member
        rw [scope event member]
        simpa using Ne.symm here
      rw [arrivalsFor, nothing]
      exact List.nodup_nil
  exact ⟨⟨Net.blank, rfl, rfl⟩, by decide, (reorder_conserves (fun _ => rfl) known distinct).1⟩

end Gatherlink.Engine
