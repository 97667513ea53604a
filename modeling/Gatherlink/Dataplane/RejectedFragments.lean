import Gatherlink.Dataplane.Reassembly

/-! What a fragment leaves behind when it is rejected. A fragment that contradicts an open entry is refused
before it is stored; one that completes an entry of the wrong total length is stored first, and stays. -/

namespace Gatherlink.Dataplane
open Protocol Lib.BigEndian Lib.Lookup

namespace FragmentBuffer

variable {buffer : FragmentBuffer} {fragment : FragmentInfo} {payload : Bytes}

theorem eq_of_slots {left right : FragmentBuffer} (lengths : left.originalLen = right.originalLen)
    (slots : left.chunks = right.chunks) : left = right := by
  obtain ⟨originalLen, chunks, received, counted⟩ := left
  obtain ⟨originalLen', chunks', received', counted'⟩ := right
  simp only at lengths slots
  subst lengths slots counted counted'
  rfl

/-- The entry already has these very bytes in the fragment's slot. -/
def Repeats (buffer : FragmentBuffer) (fragment : FragmentInfo) (payload : Bytes) : Prop :=
  buffer.chunks[fragment.fragmentIndex.toNat]? = some (some payload)

/-- The fragment disagrees with the entry about the total length or points past its slots. -/
def Contradicts (buffer : FragmentBuffer) (fragment : FragmentInfo) : Prop :=
  fragment.originalLen.toNat ≠ buffer.originalLen ∨ buffer.chunks.length ≤ fragment.fragmentIndex.toNat

theorem push_contradicts (contradicts : buffer.Contradicts fragment) :
    buffer.push fragment payload = (.error .invalidFragmentPlan, buffer) := by
  unfold push
  by_cases other : fragment.originalLen.toNat ≠ buffer.originalLen
  · simp only [if_pos other]
  · have outside : ¬fragment.fragmentIndex.toNat < buffer.chunks.length :=
      Nat.not_lt.mpr (contradicts.resolve_left other)
    simp only [if_neg other, dif_neg outside]

theorem push_stores (agrees : ¬buffer.Contradicts fragment) :
    (buffer.push fragment payload).2.originalLen = buffer.originalLen ∧
      (buffer.push fragment payload).2.chunks = buffer.chunks.set fragment.fragmentIndex.toNat (some payload) := by
  rw [Contradicts, not_or, not_not, Nat.not_le] at agrees
  unfold push
  simp only [if_neg (not_not.mpr agrees.1), dif_pos agrees.2]
  split
  · exact ⟨rfl, rfl⟩
  · split
    · exact ⟨rfl, rfl⟩
    · split <;> exact ⟨rfl, rfl⟩

theorem push_unchanged_iff :
    (buffer.push fragment payload).2 = buffer ↔ buffer.Contradicts fragment ∨ buffer.Repeats fragment payload := by
  by_cases contradicts : buffer.Contradicts fragment
  · simp [push_contradicts contradicts, contradicts]
  · obtain ⟨lengths, slots⟩ := @push_stores buffer fragment payload contradicts
    simp only [contradicts, false_or, Repeats]
    rw [Contradicts, not_or, Nat.not_le] at contradicts
    constructor
    · intro same
      rw [same] at slots
      rw [slots, List.getElem?_set_self contradicts.2]
    · intro repeated
      refine eq_of_slots lengths (slots.trans ?_)
      apply List.ext_getElem?
      intro position
      rw [List.getElem?_set]
      split_ifs with here inside
      · rw [← here, repeated]
      · exact absurd contradicts.2 inside
      · rfl

end FragmentBuffer

namespace FragmentReassembly

variable {reassembly : FragmentReassembly} {frame : Frame} {fragment : FragmentInfo} {error : DataplaneError}

theorem rejected_entry (carried : frame.fragment = some fragment)
    (rejected : (reassembly.pushFrameOrPayload frame).1 = .error error) :
    (reassembly.pushFrameOrPayload frame).2.datagrams = insert reassembly.datagrams fragment.datagramId
      (((reassembly.datagrams fragment.datagramId).getD (.new fragment)).push fragment frame.payload).2 := by
  unfold pushFrameOrPayload at rejected ⊢
  simp only [carried] at rejected ⊢
  split at rejected
  · cases rejected
  · rename_i pushed
    rw [pushed]

theorem rejected_unchanged (carried : frame.fragment = some fragment)
    (rejected : (reassembly.pushFrameOrPayload frame).1 = .error error) :
    (reassembly.pushFrameOrPayload frame).2 = reassembly ↔
      ∃ buffer, reassembly.datagrams fragment.datagramId = some buffer ∧
        (buffer.push fragment frame.payload).2 = buffer := by
  have entry := rejected_entry carried rejected
  constructor
  · intro same
    rw [same] at entry
    have here := congrFun entry fragment.datagramId
    rw [insert_self] at here
    cases present : reassembly.datagrams fragment.datagramId with
    | none =>
      rw [present] at here
      cases here
    | some buffer =>
      rw [present, Option.getD_some] at here
      exact ⟨buffer, rfl, (Option.some.inj here).symm⟩
  · rintro ⟨buffer, present, same⟩
    rw [present, Option.getD_some, same, Lib.Lookup.insert, ← present, Function.update_eq_self] at entry
    exact congrArg FragmentReassembly.mk entry

def answers (reassembly : FragmentReassembly) (frames : List Frame) : List (Except DataplaneError (Option Bytes)) :=
  reassembly.resultsWhere (fun _ => true) frames

/-- A rejected fragment leaves no trace, now or in anything that comes later, exactly when its datagram has an
entry already that it contradicts or whose bytes it repeats. -/
theorem rejected_traceless_iff (carried : frame.fragment = some fragment)
    (rejected : (reassembly.pushFrameOrPayload frame).1 = .error error) :
    ((reassembly.pushFrameOrPayload frame).2 = reassembly ∧
        ∀ later, (reassembly.pushFrameOrPayload frame).2.answers later = reassembly.answers later) ↔
      ∃ buffer, reassembly.datagrams fragment.datagramId = some buffer ∧
        (fragment.originalLen.toNat ≠ buffer.originalLen ∨ buffer.chunks.length ≤ fragment.fragmentIndex.toNat ∨
          buffer.chunks[fragment.fragmentIndex.toNat]? = some (some frame.payload)) := by
  have unchanged := rejected_unchanged carried rejected
  simp only [FragmentBuffer.push_unchanged_iff, FragmentBuffer.Contradicts, FragmentBuffer.Repeats, or_assoc]
    at unchanged
  constructor
  · rintro ⟨same, -⟩
    exact unchanged.mp same
  · intro refused
    have same := unchanged.mpr refused
    exact ⟨same, fun later => by rw [same]⟩

section Poisoned

def pieceOfNine (index count length : UInt16) (payload : Bytes)
    (fits : decide (index.toNat < count.toNat ∧ payload.length ≤ MAX_FRAME_PAYLOAD_LEN) = true) : Frame :=
  ⟨.data, 256, 1, 1, some ⟨9, index, count, length, (of_decide_eq_true fits).1⟩, payload, (of_decide_eq_true fits).2⟩

/-- The only fragment of a datagram of five bytes, with three of them. -/
def shortPiece : Frame := pieceOfNine 0 1 5 [1, 2, 3] (Eq.refl true)

/-- A later datagram of five bytes in two pieces. -/
def laterPieces : List Frame :=
  [pieceOfNine 0 2 5 [1, 2, 3] (Eq.refl true), pieceOfNine 1 2 5 [4, 5] (Eq.refl true)]

/-- A refusal of the second kind, at an entry opened by an earlier fragment. -/
theorem rejected_traceless_iff_open :
    let opened := (default.pushFrameOrPayload (pieceOfNine 0 2 5 [1, 2, 3] (Eq.refl true))).2
    (opened.pushFrameOrPayload (pieceOfNine 0 2 4 [7] (Eq.refl true))).1 = .error .invalidFragmentPlan ∧
      (opened.pushFrameOrPayload (pieceOfNine 0 2 4 [7] (Eq.refl true))).2 = opened := by
  intro opened
  have refused : (opened.pushFrameOrPayload (pieceOfNine 0 2 4 [7] (Eq.refl true))).1 =
      .error .invalidFragmentPlan := by rfl
  exact ⟨refused, ((rejected_traceless_iff rfl refused).mpr ⟨_, rfl, Or.inl (by decide)⟩).1⟩

/-- The short piece is rejected but stays, and the next datagram under its id is never delivered. -/
theorem short_piece_poisons :
    (default.pushFrameOrPayload shortPiece).1 = .error .invalidFragmentPlan ∧
      (default.pushFrameOrPayload shortPiece).2 ≠ default ∧
      default.answers laterPieces = [.ok none, .ok (some [1, 2, 3, 4, 5])] ∧
      (default.pushFrameOrPayload shortPiece).2.answers laterPieces =
        [.error .invalidFragmentPlan, .error .invalidFragmentPlan] := by
  refine ⟨by rfl, ?_, by rfl, by rfl⟩
  intro same
  have entry := congrArg (fun reassembly => (reassembly.datagrams 9).isSome) same
  exact absurd entry (by decide)

end Poisoned

end FragmentReassembly

end Gatherlink.Dataplane
