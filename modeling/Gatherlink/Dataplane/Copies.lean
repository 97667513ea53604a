import Gatherlink.Dataplane.Reassembly

/-! Fragments of several copies of one datagram in one reassembly entry. Copies that are cut alike
complete each other; copies that are cut differently can be made to clash. -/

namespace Gatherlink.Dataplane
open Protocol Lib.BigEndian Lib.Chunks

/-- `frame` has the given place in the datagram `id` of `length` bytes. -/
structure HasPlace (id : UInt32) (length count index : Nat) (frame : Frame) (fragment : FragmentInfo) : Prop where
  carried : frame.fragment = some fragment
  datagramId : fragment.datagramId = id
  originalLen : fragment.originalLen.toNat = length
  fragmentCount : fragment.fragmentCount.toNat = count
  fragmentIndex : fragment.fragmentIndex.toNat = index

namespace FragmentReassembly

/-- The buffer that a fragment will meet has the pieces at `indexes`. -/
def Meets (reassembly : FragmentReassembly) (fragment : FragmentInfo) (pieces : List Bytes) (indexes : Finset Nat) :
    Prop :=
  ((reassembly.datagrams fragment.datagramId).getD (.new fragment)).chunks = arrived pieces indexes ∧
    ((reassembly.datagrams fragment.datagramId).getD (.new fragment)).originalLen = fragment.originalLen.toNat

/-- The entry of a datagram has the pieces at `indexes`. -/
def Keeps (reassembly : FragmentReassembly) (id : UInt32) (length : Nat) (pieces : List Bytes) (indexes : Finset Nat) :
    Prop :=
  ∃ buffer, reassembly.datagrams id = some buffer ∧ buffer.chunks = arrived pieces indexes ∧
    buffer.originalLen = length

variable {reassembly : FragmentReassembly} {id : UInt32} {length count index : Nat} {frame : Frame}
  {fragment : FragmentInfo} {pieces : List Bytes} {indexes : Finset Nat}

theorem Keeps.meets (keeps : reassembly.Keeps id length pieces indexes)
    (place : HasPlace id length count index frame fragment) : reassembly.Meets fragment pieces indexes := by
  obtain ⟨buffer, present, chunks, originalLen⟩ := keeps
  rw [Meets, place.datagramId, present, place.originalLen]
  exact ⟨chunks, originalLen⟩

theorem meets_absent (absent : reassembly.datagrams id = none)
    (place : HasPlace id length pieces.length index frame fragment) : reassembly.Meets fragment pieces ∅ := by
  rw [Meets, place.datagramId, absent, arrived_empty, ← place.fragmentCount]
  exact ⟨rfl, rfl⟩

theorem pushFrameOrPayload_meets (place : HasPlace id length count index frame fragment)
    (meets : reassembly.Meets fragment pieces indexes) (piece : pieces[index]? = some frame.payload) :
    (reassembly.pushFrameOrPayload frame).1 =
        (if ∀ i < pieces.length, i ∈ insert index indexes then
          if pieces.flatten.length = length then .ok (some pieces.flatten) else .error .invalidFragmentPlan
        else .ok none) ∧
      (¬(∀ i < pieces.length, i ∈ insert index indexes) →
        (reassembly.pushFrameOrPayload frame).2.Keeps id length pieces (insert index indexes)) := by
  obtain ⟨stored, chunks, originalLen, pushed⟩ :=
    FragmentBuffer.push_arrived meets.1 meets.2.symm place.fragmentIndex piece
  rw [meets.2, place.originalLen] at pushed originalLen
  refine ⟨by rw [pushFrameOrPayload_result place.carried, pushed], fun missing => ?_⟩
  rw [if_neg missing] at pushed
  unfold pushFrameOrPayload
  simp only [place.carried, pushed]
  exact ⟨stored, by simp [place.datagramId], chunks, originalLen⟩

theorem opens_entry (absent : reassembly.datagrams id = none)
    (place : HasPlace id length pieces.length 0 frame fragment) (piece : pieces[0]? = some frame.payload)
    (several : 1 < pieces.length) : (reassembly.pushFrameOrPayload frame).1 = .ok none ∧
      (reassembly.pushFrameOrPayload frame).2.Keeps id length pieces {0} := by
  have notFull : ¬∀ i < pieces.length, i ∈ insert 0 (∅ : Finset Nat) := by
    intro full
    have next := full 1 several
    simp at next
  obtain ⟨answer, kept⟩ := pushFrameOrPayload_meets place (meets_absent absent place) piece
  rw [if_neg notFull] at answer
  exact ⟨answer, kept notFull⟩

theorem Keeps.refuses (keeps : reassembly.Keeps id length pieces indexes)
    (place : HasPlace id length count index frame fragment) (outside : pieces.length ≤ index) :
    (reassembly.pushFrameOrPayload frame).1 = .error .invalidFragmentPlan := by
  obtain ⟨buffer, present, chunks, originalLen⟩ := keeps
  rw [pushFrameOrPayload_result place.carried, place.datagramId, present, Option.getD_some, FragmentBuffer.push]
  have noSlot : ¬fragment.fragmentIndex.toNat < buffer.chunks.length := by
    rw [place.fragmentIndex, chunks, arrived_length]
    omega
  simp [place.originalLen, originalLen, noSlot]

/-- None of the frames completes or fails anything. -/
def Waits (reassembly : FragmentReassembly) : List Frame → Prop
  | [] => True
  | frame :: rest =>
    (reassembly.pushFrameOrPayload frame).1 = .ok none ∧ (reassembly.pushFrameOrPayload frame).2.Waits rest

theorem Keeps.waits (frames : List Frame) {missing : Nat} (keeps : reassembly.Keeps id length pieces indexes)
    (inside : missing < pieces.length) (absent : missing ∉ indexes)
    (placed : ∀ frame ∈ frames, ∃ count index fragment, HasPlace id length count index frame fragment ∧
      pieces[index]? = some frame.payload ∧ index ≠ missing) :
    reassembly.Waits frames ∧ ∃ collected, (reassembly.pushAll frames).Keeps id length pieces collected ∧
      indexes ⊆ collected ∧ ∀ frame ∈ frames, ∀ {count index fragment},
        HasPlace id length count index frame fragment → index ∈ collected := by
  induction frames generalizing reassembly indexes with
  | nil => exact ⟨trivial, indexes, keeps, Finset.Subset.refl _, by simp⟩
  | cons frame rest ih =>
    obtain ⟨count, index, fragment, place, piece, different⟩ := placed frame (by simp)
    have absent' : missing ∉ insert index indexes := by
      simp only [Finset.mem_insert, not_or]
      exact ⟨different.symm, absent⟩
    have notFull : ¬∀ i < pieces.length, i ∈ insert index indexes := fun full => absent' (full missing inside)
    obtain ⟨answer, kept⟩ := pushFrameOrPayload_meets place (keeps.meets place) piece
    rw [if_neg notFull] at answer
    obtain ⟨waits, collected, keeps', below, reached⟩ := ih (kept notFull) absent'
      fun other member => placed other (by simp [member])
    refine ⟨⟨answer, waits⟩, collected, keeps', fun i member => below (by simp [member]), ?_⟩
    intro other member count' index' fragment' place'
    rcases List.mem_cons.mp member with rfl | later
    · have same : fragment' = fragment := Option.some.inj (place'.carried.symm.trans place.carried)
      rw [← place'.fragmentIndex, same, place.fragmentIndex]
      exact below (Finset.mem_insert_self ..)
    · exact reached other later place'

end FragmentReassembly

section Clash

open FragmentReassembly

/-- The fragments of a copy that was cut into pieces of `size` bytes. -/
structure Cut (id : UInt32) (size : Nat) (payload : Bytes) (frames : List Frame) : Prop where
  length : frames.length = (chunks size payload).length
  place : ∀ {index frame}, frames[index]? = some frame → ∃ fragment,
    HasPlace id payload.length (chunks size payload).length index frame fragment ∧
      (chunks size payload)[index]? = some frame.payload

variable {reassembly : FragmentReassembly} {id : UInt32} {payload : Bytes} {small large : Nat}
  {first second : List Frame}

/-- Some of the fragments arrive in an order in which the last is refused. -/
def FragmentReassembly.Clashes (reassembly : FragmentReassembly) (first second : List Frame) : Prop :=
  ∃ init last, (init ++ [last]).Subperm (first ++ second) ∧ reassembly.Waits init ∧
    ((reassembly.pushAll init).pushFrameOrPayload last).1 = .error .invalidFragmentPlan

variable (absent : reassembly.datagrams id = none) (one : Cut id small payload first)
  (two : Cut id large payload second)
include absent one two

/-- More fragments on one path than on another: the last of them has no slot in the other's entry. -/
theorem cuts_clash_of_count (fewer : second.length < first.length) (several : 1 < second.length) :
    reassembly.Clashes first second := by
  obtain ⟨opener, opens⟩ : ∃ frame, second[0]? = some frame := ⟨_, List.getElem?_eq_getElem (by omega)⟩
  obtain ⟨outsider, comes⟩ : ∃ frame, first[first.length - 1]? = some frame :=
    ⟨_, List.getElem?_eq_getElem (by omega)⟩
  obtain ⟨openFragment, openPlace, openPiece⟩ := two.place opens
  obtain ⟨fragment, place, -⟩ := one.place comes
  obtain ⟨answer, kept⟩ := opens_entry absent openPlace openPiece (two.length ▸ several)
  refine ⟨[opener], outsider, ?_, ⟨answer, trivial⟩, ?_⟩
  · have sub : ([outsider] ++ [opener]).Sublist (first ++ second) :=
      (List.singleton_sublist.mpr (List.mem_of_getElem? comes)).append
        (List.singleton_sublist.mpr (List.mem_of_getElem? opens))
    exact (List.perm_append_comm.subperm_right).mp sub.subperm
  · refine kept.refuses place ?_
    rw [← two.length]
    omega

/-- As many fragments on both paths: the first of one and the others of the other have the wrong length. -/
theorem cuts_clash_of_size (same : first.length = second.length) (several : 1 < second.length)
    (positive : 0 < small) (smaller : small < large) (fits : large < payload.length) :
    reassembly.Clashes first second := by
  obtain ⟨opener, opens⟩ : ∃ frame, first[0]? = some frame := ⟨_, List.getElem?_eq_getElem (by omega)⟩
  obtain ⟨openFragment, openPlace, openPiece⟩ := one.place opens
  -- the pieces that meet: the first one of the small cut, and all but the first of the large cut
  obtain ⟨head, tail, cut⟩ : ∃ head tail, chunks large payload = head :: tail :=
    List.exists_cons_of_length_pos (by rw [← two.length]; omega)
  have count : (opener.payload :: tail).length = (chunks small payload).length := by
    rw [← one.length, same, two.length, cut]
    rfl
  have later (index : Nat) (frame : Frame) (here : second[index + 1]? = some frame) :
      ∃ fragment, HasPlace id payload.length (chunks large payload).length (index + 1) frame fragment ∧
        (opener.payload :: tail)[index + 1]? = some frame.payload := by
    obtain ⟨fragment, place, piece⟩ := two.place here
    exact ⟨fragment, place, by simpa [cut] using piece⟩
  have wrong : (opener.payload :: tail).flatten.length ≠ payload.length := by
    have whole := congrArg List.length (flatten_chunks (Nat.lt_trans positive smaller) payload)
    have headLength : head.length = large := by
      rw [chunks_head (by rw [cut]; rfl : (chunks large payload)[0]? = some head), List.length_take]
      omega
    have openLength : opener.payload.length = small := by
      rw [chunks_head openPiece, List.length_take]
      omega
    rw [cut] at whole
    simp only [List.flatten_cons, List.length_append] at whole ⊢
    omega
  obtain ⟨skipped, rest, rfl⟩ : ∃ skipped rest, second = skipped :: rest :=
    List.exists_cons_of_length_pos (by omega)
  rcases List.eq_nil_or_concat rest with rfl | ⟨init, last, rfl⟩
  · simp at several
  rw [List.concat_eq_append] at *
  have lastPosition : (opener.payload :: tail).length = init.length + 2 := by
    rw [count, ← one.length, same]
    simp
  obtain ⟨answer, kept⟩ := opens_entry absent (count.symm ▸ openPlace) rfl (by omega)
  have lastInside : init.length + 1 < (opener.payload :: tail).length := by omega
  have middle (position : Nat) (frame : Frame) (here : init[position]? = some frame) :
      ∃ fragment, HasPlace id payload.length (chunks large payload).length (position + 1) frame fragment ∧
        (opener.payload :: tail)[position + 1]? = some frame.payload := by
    refine later position frame ?_
    rw [List.getElem?_cons_succ, List.getElem?_append_left (List.getElem?_eq_some_iff.mp here).1]
    exact here
  obtain ⟨waits, collected, keeps, below, reached⟩ := kept.waits init lastInside (by simp) fun frame member => by
    obtain ⟨position, here⟩ := List.mem_iff_getElem?.mp member
    obtain ⟨fragment, place, piece⟩ := middle position frame here
    exact ⟨_, _, fragment, place, piece, by have := (List.getElem?_eq_some_iff.mp here).1; omega⟩
  obtain ⟨fragment, place, piece⟩ := later init.length last (by simp)
  have full : ∀ i < (opener.payload :: tail).length, i ∈ insert (init.length + 1) collected := by
    intro i inside
    rcases Nat.eq_zero_or_pos i with rfl | later'
    · exact Finset.mem_insert_of_mem (below (by simp))
    · by_cases final : i = init.length + 1
      · rw [final]
        exact Finset.mem_insert_self ..
      · obtain ⟨frame, here⟩ : ∃ frame, init[i - 1]? = some frame := ⟨_, List.getElem?_eq_getElem (by omega)⟩
        obtain ⟨fragment', place', -⟩ := middle (i - 1) frame here
        have found := reached frame (List.mem_of_getElem? here) place'
        rw [Nat.sub_add_cancel later'] at found
        exact Finset.mem_insert_of_mem found
  refine ⟨opener :: init, last, ?_, ⟨answer, waits⟩, ?_⟩
  · have sub : ([opener] ++ (init ++ [last])).Sublist (first ++ (skipped :: (init ++ [last]))) :=
      (List.singleton_sublist.mpr (List.mem_of_getElem? opens)).append (List.sublist_cons_self ..)
    exact sub.subperm
  · have pushed := (pushFrameOrPayload_meets place (keeps.meets place) piece).1
    rw [if_pos full, if_neg wrong] at pushed
    exact pushed

/-- Copies that are cut into pieces of different sizes can be made to fail each other. -/
theorem cuts_clash (positive : 0 < small) (smaller : small < large) (fits : large < payload.length) :
    reassembly.Clashes first second := by
  have several : 1 < second.length := by
    rw [two.length, chunks_length, Nat.lt_div_iff_mul_lt (by omega)]
    omega
  have atMost : second.length ≤ first.length := by
    rw [one.length, two.length]
    exact chunks_length_anti positive (Nat.le_of_lt smaller) payload
  rcases Nat.lt_or_eq_of_le atMost with fewer | same
  · exact cuts_clash_of_count absent one two fewer several
  · exact cuts_clash_of_size absent one two same.symm several positive smaller fits

end Clash

end Gatherlink.Dataplane
