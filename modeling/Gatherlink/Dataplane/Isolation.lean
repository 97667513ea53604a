import Gatherlink.Dataplane.Reassembly
import Gatherlink.Dataplane.Udp

/-! Which datagrams can meet in the reassembly map. The map is keyed by the sender's 32-bit datagram
id alone, so datagrams are kept apart only as long as no fragment finds the entry of another one. -/

namespace Gatherlink.Dataplane
open Protocol Lib.BigEndian Lib.Lookup

/-- What a receiver knows a datagram by. A session is its index here and its receive key: the index of a static session,
and the one that a reapply brings again, do not tell two senders apart. -/
structure Origin where
  peerScope : Option UInt32
  receiveKey : Option Crypto.Key
  serviceId : ServiceId
  sequence : SequenceNumber
  deriving DecidableEq

def Push.origin (push : Push) : Origin :=
  ⟨push.peerScope, push.receiveKey, push.frame.serviceId, push.frame.sequence⟩

section Log

/-- `P` holds of every push of a log and the pushes before it. -/
def Throughout (P : List Push → Push → Prop) (log : List Push) : Prop :=
  ∀ before push after, log = before ++ push :: after → P before push

variable {P : List Push → Push → Prop} {log : List Push}

theorem throughout_nil : Throughout P [] := by
  intro before push after empty
  simp at empty

theorem throughout_snoc {push : Push} :
    Throughout P (log ++ [push]) ↔ Throughout P log ∧ P log push := by
  constructor
  · intro all
    exact ⟨fun before other after split => all before other (after ++ [push]) (by simp [split]), all log push [] rfl⟩
  · rintro ⟨earlier, last⟩ before other after split
    rcases List.eq_nil_or_concat after with rfl | ⟨init, final, rfl⟩
    · obtain ⟨rfl, same⟩ := List.append_inj' split rfl
      cases same
      exact last
    · rw [List.concat_eq_append, ← List.cons_append, ← List.append_assoc] at split
      exact earlier before other init (List.append_inj' split rfl).1

theorem throughout_iff :
    Throughout P log ↔ ∀ position : Fin log.length, P (log.take position) log[position] := by
  constructor
  · intro all position
    exact all _ _ (log.drop (position + 1)) (by simp)
  · intro all before push after split
    subst split
    simpa using all ⟨before.length, by simp⟩

instance {P : List Push → Push → Prop} [∀ before push, Decidable (P before push)] (log : List Push) :
    Decidable (Throughout P log) := decidable_of_iff _ throughout_iff.symm

def reassembled (log : List Push) : FragmentReassembly := FragmentReassembly.default.pushAll (log.map (·.frame))

theorem reassembled_snoc (log : List Push) (push : Push) :
    reassembled (log ++ [push]) = ((reassembled log).pushFrameOrPayload push.frame).2 := by
  simp [reassembled, FragmentReassembly.pushAll]

def Replays : List Push → Prop :=
  Throughout fun before push => push.result = ((reassembled before).pushFrameOrPayload push.frame).1

/-- The datagram that last fed the entry of an id. -/
def feeder (log : List Push) (id : UInt32) : Option Origin :=
  log.foldl (fun fed push => if reassemblyId push.frame = some id then some push.origin else fed) none

theorem feeder_snoc (log : List Push) (push : Push) (id : UInt32) :
    feeder (log ++ [push]) id = if reassemblyId push.frame = some id then some push.origin else feeder log id := by
  simp [feeder]

/-- No fragment finds the entry of another datagram under its id. -/
def Undisturbed : List Push → Prop :=
  Throughout fun before push => ∀ id ∈ reassemblyId push.frame,
    (reassembled before).datagrams id ≠ none → feeder before id = some push.origin

instance (log : List Push) : Decidable (Undisturbed log) :=
  -- one id at most: an instance that tries them all would not evaluate
  have _one (before : List Push) (push : Push) := Option.decidableForallMem (p := fun id =>
    (reassembled before).datagrams id ≠ none → feeder before id = some push.origin) (reassemblyId push.frame)
  inferInstanceAs (Decidable (Throughout _ log))

def pushesOf (origin : Origin) (log : List Push) : List Push := log.filter (·.origin = origin)

end Log

/-- The push carries the piece at `index` of the datagram `id`. -/
def Push.Supplies (push : Push) (id : UInt32) (index : Nat) (piece : Bytes) : Prop :=
  ∃ fragment, push.frame.fragment = some fragment ∧ fragment.datagramId = id ∧
    fragment.fragmentIndex.toNat = index ∧ push.frame.payload = piece

section Entry

variable {reassembly other : FragmentReassembly} {frame : Frame}

/-- A push looks at the entry of its own id only. -/
theorem pushFrameOrPayload_congr
    (same : ∀ id, reassemblyId frame = some id → reassembly.datagrams id = other.datagrams id) :
    (reassembly.pushFrameOrPayload frame).1 = (other.pushFrameOrPayload frame).1 ∧
      ∀ id, reassemblyId frame = some id → (reassembly.pushFrameOrPayload frame).2.datagrams id =
        (other.pushFrameOrPayload frame).2.datagrams id := by
  unfold FragmentReassembly.pushFrameOrPayload
  cases carried : frame.fragment with
  | none => exact ⟨rfl, by simp [reassemblyId, carried]⟩
  | some fragment =>
    have here := same fragment.datagramId (by simp [reassemblyId, carried])
    simp only [here]
    split
    · refine ⟨rfl, fun id mine => ?_⟩
      obtain rfl : fragment.datagramId = id := by simpa [reassemblyId, carried] using mine
      simp
    · refine ⟨rfl, fun id mine => ?_⟩
      obtain rfl : fragment.datagramId = id := by simpa [reassemblyId, carried] using mine
      simp

theorem mapM_id_eq_some {slots : List (Option Bytes)} {pieces : List Bytes} (complete : slots.mapM id = some pieces) :
    slots = pieces.map some := by
  induction slots generalizing pieces with
  | nil =>
    obtain rfl : [] = pieces := by simpa using complete
    rfl
  | cons slot rest ih =>
    cases slot with
    | none => simp [List.mapM_cons] at complete
    | some piece =>
      obtain ⟨others, tail, rfl⟩ : ∃ others, rest.mapM id = some others ∧ piece :: others = pieces := by
        simpa [List.mapM_cons, Option.bind_eq_some_iff] using complete
      rw [List.map_cons, ih tail]

theorem push_fills (buffer : FragmentBuffer) (fragment : FragmentInfo) (payload : Bytes) :
    (∀ index piece, (buffer.push fragment payload).2.chunks[index]? = some (some piece) →
      (fragment.fragmentIndex.toNat = index ∧ payload = piece) ∨ buffer.chunks[index]? = some (some piece)) ∧
    ∀ whole, (buffer.push fragment payload).1 = .ok (some whole) →
      ∃ pieces : List Bytes, (buffer.push fragment payload).2.chunks = pieces.map some ∧ whole = pieces.flatten := by
  unfold FragmentBuffer.push
  by_cases agrees : fragment.originalLen.toNat ≠ buffer.originalLen
  · simp only [if_pos agrees]
    exact ⟨fun _ _ filled => .inr filled, by simp⟩
  by_cases inside : fragment.fragmentIndex.toNat < buffer.chunks.length
  · simp only [if_neg agrees, dif_pos inside]
    have slots : ∀ index piece, (buffer.store _ payload inside).chunks[index]? = some (some piece) →
        (fragment.fragmentIndex.toNat = index ∧ payload = piece) ∨ buffer.chunks[index]? = some (some piece) := by
      intro index piece filled
      rw [FragmentBuffer.store, List.getElem?_set] at filled
      grind
    split_ifs
    · exact ⟨slots, by simp⟩
    · split
      · exact ⟨slots, by simp⟩
      · rename_i pieces complete
        split_ifs
        · exact ⟨slots, by simp⟩
        · refine ⟨slots, fun whole returned => ⟨pieces, mapM_id_eq_some complete, ?_⟩⟩
          simpa using returned.symm
  · simp only [if_neg agrees, dif_neg inside]
    exact ⟨fun _ _ filled => .inr filled, by simp⟩

variable {fragment : FragmentInfo} {index : Nat} {piece : Bytes} {buffer : FragmentBuffer}

theorem entry_slots {entry : Option FragmentBuffer}
    (filled : (entry.getD (.new fragment)).chunks[index]? = some (some piece)) :
    ∃ buffer, entry = some buffer ∧ buffer.chunks[index]? = some (some piece) := by
  cases entry with
  | none => simp [FragmentBuffer.new, List.getElem?_replicate] at filled
  | some buffer => exact ⟨buffer, rfl, filled⟩

theorem pushFrameOrPayload_slots (carried : frame.fragment = some fragment)
    (present : (reassembly.pushFrameOrPayload frame).2.datagrams fragment.datagramId = some buffer)
    (filled : buffer.chunks[index]? = some (some piece)) :
    (fragment.fragmentIndex.toNat = index ∧ frame.payload = piece) ∨
      ∃ earlier, reassembly.datagrams fragment.datagramId = some earlier ∧
        earlier.chunks[index]? = some (some piece) := by
  have fills := (push_fills ((reassembly.datagrams fragment.datagramId).getD (.new fragment)) fragment
    frame.payload).1 index piece
  unfold FragmentReassembly.pushFrameOrPayload at present
  simp only [carried] at present
  split at present
  · simp at present
  · rename_i stored _ pushed
    simp only [insert_self, Option.some.injEq] at present
    rw [pushed, present] at fills
    exact (fills filled).imp id entry_slots

theorem pushFrameOrPayload_whole {whole : Bytes} (carried : frame.fragment = some fragment)
    (returned : (reassembly.pushFrameOrPayload frame).1 = .ok (some whole)) :
    ∃ pieces : List Bytes, whole = pieces.flatten ∧ ∀ index piece, pieces[index]? = some piece →
      (fragment.fragmentIndex.toNat = index ∧ frame.payload = piece) ∨
        ∃ earlier, reassembly.datagrams fragment.datagramId = some earlier ∧
          earlier.chunks[index]? = some (some piece) := by
  obtain ⟨fills, joins⟩ := push_fills ((reassembly.datagrams fragment.datagramId).getD (.new fragment)) fragment
    frame.payload
  rw [FragmentReassembly.pushFrameOrPayload_result carried] at returned
  obtain ⟨pieces, full, rfl⟩ := joins whole returned
  refine ⟨pieces, rfl, fun index piece there => ?_⟩
  exact (fills index piece (by simp [full, there])).imp id entry_slots

theorem reassembled_slots (log : List Push) {id : UInt32}
    (present : (reassembled log).datagrams id = some buffer) (filled : buffer.chunks[index]? = some (some piece)) :
    ∃ source ∈ log, source.Supplies id index piece := by
  induction log using List.reverseRecOn generalizing buffer with
  | nil => simp [reassembled, FragmentReassembly.pushAll, FragmentReassembly.default] at present
  | append_singleton log push ih =>
    rw [reassembled_snoc] at present
    by_cases mine : reassemblyId push.frame = some id
    · obtain ⟨fragment, carried, rfl⟩ := Option.map_eq_some_iff.mp mine
      rcases pushFrameOrPayload_slots carried present filled with ⟨position, same⟩ | ⟨earlier, there, kept⟩
      · exact ⟨push, by simp, fragment, carried, rfl, position, same⟩
      · obtain ⟨source, member, supplied⟩ := ih there kept
        exact ⟨source, by simp [member], supplied⟩
    · rw [FragmentReassembly.pushFrameOrPayload_other mine] at present
      obtain ⟨source, member, supplied⟩ := ih present filled
      exact ⟨source, by simp [member], supplied⟩

end Entry

section Isolation

variable {log : List Push}

theorem entry_found {push : Push} {id : UInt32}
    (own : (reassembled log).datagrams id ≠ none → feeder log id = some push.origin) :
    (if feeder log id = some push.origin then (reassembled log).datagrams id else none) =
      (reassembled log).datagrams id := by
  by_cases absent : (reassembled log).datagrams id = none
  · simp [absent]
  · rw [if_pos (own absent)]

/-- Each datagram's entry is the one it would have if it were alone. -/
theorem reassembled_alone (undisturbed : Undisturbed log) (origin : Origin) (id : UInt32) :
    (reassembled (pushesOf origin log)).datagrams id =
      if feeder log id = some origin then (reassembled log).datagrams id else none := by
  induction log using List.reverseRecOn generalizing id with
  | nil => simp [pushesOf, feeder, reassembled, FragmentReassembly.pushAll, FragmentReassembly.default]
  | append_singleton log push ih =>
    obtain ⟨earlier, last⟩ := throughout_snoc.mp undisturbed
    by_cases own : push.origin = origin
    · subst own
      have split : pushesOf push.origin (log ++ [push]) = pushesOf push.origin log ++ [push] := by simp [pushesOf]
      have same : ∀ id, reassemblyId push.frame = some id →
          (reassembled (pushesOf push.origin log)).datagrams id = (reassembled log).datagrams id :=
        fun id mine => (ih earlier id).trans (entry_found (last id mine))
      rw [split, reassembled_snoc, reassembled_snoc, feeder_snoc]
      by_cases mine : reassemblyId push.frame = some id
      · rw [if_pos mine, if_pos rfl]
        exact (pushFrameOrPayload_congr same).2 id mine
      · rw [if_neg mine, FragmentReassembly.pushFrameOrPayload_other mine,
          FragmentReassembly.pushFrameOrPayload_other mine]
        exact ih earlier id
    · have split : pushesOf origin (log ++ [push]) = pushesOf origin log := by simp [pushesOf, own]
      rw [split, ih earlier id, reassembled_snoc, feeder_snoc]
      by_cases mine : reassemblyId push.frame = some id
      · -- another datagram took the entry over, so it was empty or not this one's
        have away : some push.origin ≠ some origin := by simpa using own
        rw [if_pos mine, if_neg away]
        by_cases fed : feeder log id = some origin
        · rw [if_pos fed]
          by_contra present
          exact own (Option.some.inj ((last id mine present).symm.trans fed))
        · rw [if_neg fed]
      · rw [if_neg mine, FragmentReassembly.pushFrameOrPayload_other mine]

/-- The answer to each push is the one its datagram would get if it were alone. -/
def Isolated (before : List Push) (push : Push) : Prop :=
  push.result = ((reassembled (pushesOf push.origin before)).pushFrameOrPayload push.frame).1

theorem isolated_of_undisturbed (undisturbed : Undisturbed log) (replays : Replays log) :
    Throughout Isolated log := by
  intro before push after split
  have earlier : Undisturbed before := fun first other rest cut => undisturbed first other (rest ++ push :: after)
    (by simp [split, cut])
  have same : ∀ id, reassemblyId push.frame = some id →
      (reassembled (pushesOf push.origin before)).datagrams id = (reassembled before).datagrams id :=
    fun id mine => (reassembled_alone earlier push.origin id).trans
      (entry_found (undisturbed before push after split id mine))
  rw [Isolated, (pushFrameOrPayload_congr same).1]
  exact replays before push after split

/-- A payload returned for a fragment is put together from pieces of one datagram, each at its place. -/
def OneDatagram (before : List Push) (push : Push) : Prop :=
  ∀ whole id, reassemblyId push.frame = some id → push.result = .ok (some whole) →
    ∃ pieces : List Bytes, whole = pieces.flatten ∧ ∀ index piece, pieces[index]? = some piece →
      ∃ source ∈ before ++ [push], source.origin = push.origin ∧ source.Supplies id index piece

theorem Isolated.oneDatagram {before : List Push} {push : Push} (isolated : Isolated before push) :
    OneDatagram before push := by
  intro whole id mine returned
  obtain ⟨fragment, carried, rfl⟩ := Option.map_eq_some_iff.mp mine
  rw [isolated] at returned
  obtain ⟨pieces, joined, found⟩ := pushFrameOrPayload_whole carried returned
  refine ⟨pieces, joined, fun index piece there => ?_⟩
  rcases found index piece there with ⟨position, same⟩ | ⟨earlier, present, filled⟩
  · exact ⟨push, by simp, rfl, fragment, carried, rfl, position, same⟩
  · obtain ⟨source, member, supplied⟩ := reassembled_slots _ present filled
    obtain ⟨inside, own⟩ := List.mem_filter.mp member
    exact ⟨source, by simp [inside], by simpa using own, supplied⟩

end Isolation

end Gatherlink.Dataplane
