import Gatherlink.Protocol.Frame

/-! The frame codec in both directions: what the encoders write, the decoders read back, and what the
decoders accept, the encoders write again. The items of a batch payload are read back as well. -/

namespace Gatherlink.Protocol
open Lib.BigEndian

section Fields

private theorem toBe_u16 (value : UInt16) : fromBe (toBe 2 value.toNat) = value.toNat :=
  fromBe_toBe_of_lt 2 _ (by have := value.toNat_lt; omega)

private theorem toBe_u32 (value : UInt32) : fromBe (toBe 4 value.toNat) = value.toNat :=
  fromBe_toBe_of_lt 4 _ (by have := value.toNat_lt; omega)

private theorem toBe_u64 (value : UInt64) : fromBe (toBe 8 value.toNat) = value.toNat :=
  fromBe_toBe_of_lt 8 _ (by have := value.toNat_lt; omega)

theorem decodeFragmentMetadata_encode (fragment : FragmentInfo) :
    decodeFragmentMetadata (encodeFragmentMetadata fragment) = .ok fragment := by
  obtain ⟨datagramId, fragmentIndex, fragmentCount, originalLen, inRange⟩ := fragment
  have id := readBe_append 4 [] (toBe 4 datagramId.toNat) (toBe 2 fragmentIndex.toNat ++
    (toBe 2 fragmentCount.toNat ++ toBe 2 originalLen.toNat)) 0 rfl (toBe_length ..)
  have index := readBe_append 2 (toBe 4 datagramId.toNat) (toBe 2 fragmentIndex.toNat)
    (toBe 2 fragmentCount.toNat ++ toBe 2 originalLen.toNat) 4 (toBe_length ..) (toBe_length ..)
  have count := readBe_append 2 (toBe 4 datagramId.toNat ++ toBe 2 fragmentIndex.toNat)
    (toBe 2 fragmentCount.toNat) (toBe 2 originalLen.toNat) 6 (by simp) (toBe_length ..)
  have length := readBe_append 2 (toBe 4 datagramId.toNat ++ toBe 2 fragmentIndex.toNat ++
    toBe 2 fragmentCount.toNat) (toBe 2 originalLen.toNat) [] 8 (by simp) (toBe_length ..)
  simp only [List.nil_append, List.append_nil, List.append_assoc] at id index count length
  have valid : ¬(fragmentCount = 0 ∨ fragmentCount ≤ fragmentIndex ∨ 65535 < originalLen.toNat) := by
    have bound := originalLen.toNat_lt
    rintro (zero | behind | long)
    · simp [zero] at inRange
    · exact absurd (UInt16.le_iff_toNat_le.mp behind) (by omega)
    · omega
  simp only [decodeFragmentMetadata, encodeFragmentMetadata, List.append_assoc, id, index, count, length,
    toBe_u16, toBe_u32, FragmentInfo.new, UInt32.ofNat_toNat, UInt16.ofNat_toNat]
  rw [if_neg (by simp [FRAGMENT_METADATA_LEN]), dif_neg valid]

private theorem toNat_readBe_two (input : Bytes) (offset : Nat) :
    (UInt16.ofNat (readBe 2 input offset)).toNat = readBe 2 input offset :=
  UInt16.toNat_ofNat_of_lt (readBe_lt 2 input offset)

private theorem toNat_readBe_four (input : Bytes) (offset : Nat) :
    (UInt32.ofNat (readBe 4 input offset)).toNat = readBe 4 input offset :=
  UInt32.toNat_ofNat_of_lt (readBe_lt 4 input offset)

private theorem toNat_readBe_eight (input : Bytes) (offset : Nat) :
    (UInt64.ofNat (readBe 8 input offset)).toNat = readBe 8 input offset :=
  UInt64.toNat_ofNat_of_lt (readBe_lt 8 input offset)

private theorem drop_eq_field_append (input : Bytes) (offset width : Nat) :
    input.drop offset = (input.drop offset).take width ++ input.drop (offset + width) := by
  rw [← List.drop_drop, List.take_append_drop]

theorem encodeFragmentMetadata_decode {input : Bytes} {fragment : FragmentInfo}
    (decoded : decodeFragmentMetadata input = .ok fragment) : encodeFragmentMetadata fragment = input := by
  unfold decodeFragmentMetadata at decoded
  split at decoded
  · contradiction
  · rename_i size
    have length : input.length = 10 := by simpa [FRAGMENT_METADATA_LEN] using size
    unfold FragmentInfo.new at decoded
    split at decoded
    · contradiction
    · obtain rfl := Except.ok.inj decoded
      simp only [encodeFragmentMetadata, toNat_readBe_two, toNat_readBe_four]
      rw [toBe_readBe (by omega), toBe_readBe (by omega), toBe_readBe (by omega), toBe_readBe (by omega)]
      have last : input.drop 10 = [] := List.drop_eq_nil_iff.mpr length.le
      have split := drop_eq_field_append input
      calc _ = (input.drop 0).take 4 ++ ((input.drop 4).take 2 ++ ((input.drop 6).take 2 ++
            ((input.drop 8).take 2 ++ input.drop 10))) := by rw [last]; simp
        _ = input := by rw [← split 8 2, ← split 6 2, ← split 4 2, ← split 0 4, List.drop_zero]

end Fields

section Kinds

theorem kindBits (frame : Frame) :
    FrameKind.fromU8 (frame.kindFlags &&& KIND_MASK) = .ok frame.kind := by
  unfold Frame.kindFlags
  cases frame.fragment.isSome <;> cases frame.kind <;> rfl

theorem parseKindFlags_kindFlags (frame : Frame) :
    parseKindFlags frame.kindFlags = .ok frame.fragment.isSome := by
  unfold Frame.kindFlags
  cases frame.fragment.isSome <;> cases frame.kind <;> rfl

variable {flags : UInt8} {hasFragment : Bool}

theorem kind_of_parsed (parsed : parseKindFlags flags = .ok hasFragment) :
    ∃ kind, FrameKind.fromU8 (flags &&& KIND_MASK) = .ok kind := by
  unfold parseKindFlags at parsed
  split at parsed
  · contradiction
  · cases known : FrameKind.fromU8 (flags &&& KIND_MASK) with
    | error error => simp [known, bind, Except.bind] at parsed
    | ok kind => exact ⟨kind, rfl⟩

theorem kindFlags_of_parsed {kind : FrameKind} (known : FrameKind.fromU8 (flags &&& KIND_MASK) = .ok kind)
    (parsed : parseKindFlags flags = .ok hasFragment) :
    flags = if hasFragment then kind.toU8 ||| FLAG_FRAGMENT_PRESENT else kind.toU8 := by
  revert flags
  cases kind <;> cases hasFragment <;> decide +kernel

end Kinds

namespace Frame

theorem encodedMetadata_length (frame : Frame) : frame.encodedMetadata.length = frame.metadataLen := by
  unfold encodedMetadata metadataLen
  cases frame.fragment <;> simp [encodeFragmentMetadata, FRAGMENT_METADATA_LEN]

theorem encodeV1_length (frame : Frame) : frame.encodeV1.length = frame.encodedV1Len := by
  simp only [encodeV1, encodedV1Len, List.length_cons, List.length_append, toBe_length, encodedMetadata_length,
    V1_HEADER_LEN]
  omega

theorem encodeV2_length (frame : Frame) : frame.encodeV2.length = frame.encodedV2Len := by
  simp only [encodeV2, encodedV2Len, List.length_cons, List.length_append, toBe_length,
    encodedMetadata_length, V2_HEADER_LEN]
  omega

/-- The fixed header in front of the fragment metadata. -/
private def headerV2 (frame : Frame) : Bytes :=
  frame.kindFlags :: (toBe 2 frame.serviceId.toNat ++ toBe 2 frame.pathId.toNat ++
    toBe 8 frame.sequence.toNat)

private theorem headerV2_length (frame : Frame) : frame.headerV2.length = V2_HEADER_LEN := by
  simp [headerV2, V2_HEADER_LEN]

private theorem encodeV2_split (frame : Frame) :
    frame.encodeV2 = frame.headerV2 ++ frame.encodedMetadata ++ frame.payload := by
  simp [encodeV2, headerV2]

private theorem decodeFragment_encodeV2 (frame : Frame) :
    decodeFragment frame.fragment.isSome frame.encodeV2 V2_HEADER_LEN = .ok frame.fragment := by
  have rest : frame.encodeV2.drop V2_HEADER_LEN = frame.encodedMetadata ++ frame.payload := by
    rw [encodeV2_split, List.append_assoc, ← headerV2_length frame, List.drop_left]
  have metadata := encodedMetadata_length frame
  unfold decodeFragment
  rw [rest]
  cases present : frame.fragment with
  | none => rfl
  | some fragment =>
    simp only [encodedMetadata, metadataLen, present, Option.isSome_some, if_true] at metadata ⊢
    rw [← metadata, List.take_left, decodeFragmentMetadata_encode]
    rfl

theorem decodeV2_encodeV2 (frame : Frame) : decodeV2 frame.encodeV2 = .ok frame := by
  have service := readBe_append 2 [frame.kindFlags] (toBe 2 frame.serviceId.toNat)
    (toBe 2 frame.pathId.toNat ++ (toBe 8 frame.sequence.toNat ++ (frame.encodedMetadata ++ frame.payload)))
    1 rfl (toBe_length ..)
  have path := readBe_append 2 (frame.kindFlags :: toBe 2 frame.serviceId.toNat) (toBe 2 frame.pathId.toNat)
    (toBe 8 frame.sequence.toNat ++ (frame.encodedMetadata ++ frame.payload)) 3 (by simp) (toBe_length ..)
  have sequence := readBe_append 8
    (frame.kindFlags :: (toBe 2 frame.serviceId.toNat ++ toBe 2 frame.pathId.toNat))
    (toBe 8 frame.sequence.toNat) (frame.encodedMetadata ++ frame.payload) 5 (by simp) (toBe_length ..)
  have shape : frame.encodeV2 = frame.kindFlags :: (toBe 2 frame.serviceId.toNat ++
      (toBe 2 frame.pathId.toNat ++ (toBe 8 frame.sequence.toNat ++
        (frame.encodedMetadata ++ frame.payload)))) := by
    simp [encodeV2]
  simp only [List.cons_append, List.nil_append, List.append_assoc, ← shape] at service path sequence
  have long : ¬frame.encodeV2.length < V2_HEADER_LEN := by
    rw [encodeV2_length, encodedV2Len]
    omega
  have whole : ¬frame.encodeV2.length <
      V2_HEADER_LEN + if frame.fragment.isSome then FRAGMENT_METADATA_LEN else 0 := by
    rw [encodeV2_length, encodedV2Len, metadataLen]
    omega
  have first : frame.encodeV2.getD 0 0 = frame.kindFlags := by rw [shape]; rfl
  have payload : frame.encodeV2.drop
      (V2_HEADER_LEN + if frame.fragment.isSome then FRAGMENT_METADATA_LEN else 0) = frame.payload := by
    have offset : V2_HEADER_LEN + (if frame.fragment.isSome then FRAGMENT_METADATA_LEN else 0) =
        (frame.headerV2 ++ frame.encodedMetadata).length := by
      rw [List.length_append, headerV2_length, encodedMetadata_length, metadataLen]
    rw [encodeV2_split, offset, List.drop_left]
  have fits : ¬MAX_FRAME_PAYLOAD_LEN < frame.payload.length := Nat.not_lt.mpr frame.payloadFits
  unfold decodeV2
  simp only [if_neg long, first, kindBits, parseKindFlags_kindFlags, if_neg whole, service, path, sequence,
    payload, decodeFragment_encodeV2, toBe_u16, toBe_u64, UInt16.ofNat_toNat, UInt64.ofNat_toNat, Frame.new,
    dif_neg fits, bind, Except.bind]

variable {input : Bytes} {frame : Frame}

theorem take_copyWithin {headerLen : Nat} :
    (copyWithin input headerLen).take (input.length - headerLen) = input.drop headerLen := by
  rw [copyWithin, ← List.length_drop, List.take_left]

theorem decodeV2Owned_eq (input : Bytes) : decodeV2Owned input = decodeV2 input := by
  simp only [decodeV2Owned, decodeV2, take_copyWithin]

theorem decodeV2Owned_encodeV2 (frame : Frame) : decodeV2Owned frame.encodeV2 = .ok frame := by
  rw [decodeV2Owned_eq, decodeV2_encodeV2]

theorem frame_new_eq_ok {kind : FrameKind} {serviceId : ServiceId} {pathId : PathId} {sequence : SequenceNumber}
    {fragment : Option FragmentInfo} {payload : Bytes}
    (made : Frame.new kind serviceId pathId sequence fragment payload = .ok frame) :
    frame.kind = kind ∧ frame.serviceId = serviceId ∧ frame.pathId = pathId ∧ frame.sequence = sequence ∧
      frame.fragment = fragment ∧ frame.payload = payload := by
  unfold Frame.new at made
  split at made
  · contradiction
  · obtain rfl := Except.ok.inj made
    exact ⟨rfl, rfl, rfl, rfl, rfl, rfl⟩

theorem encodedMetadata_decodeFragment {hasFragment : Bool} {offset : Nat}
    (decoded : decodeFragment hasFragment input offset = .ok frame.fragment) :
    frame.fragment.isSome = hasFragment ∧ frame.encodedMetadata =
      (input.drop offset).take (if hasFragment then FRAGMENT_METADATA_LEN else 0) := by
  cases hasFragment with
  | false =>
    have whole : frame.fragment = none := (Except.ok.inj decoded).symm
    simp [whole, encodedMetadata]
  | true =>
    simp only [decodeFragment, if_true] at decoded
    cases metadata : decodeFragmentMetadata ((input.drop offset).take FRAGMENT_METADATA_LEN) with
    | error error => simp [metadata, bind, Except.bind] at decoded
    | ok fragment =>
      simp only [metadata, bind, Except.bind, Except.ok.injEq] at decoded
      simp [← decoded, encodedMetadata, encodeFragmentMetadata_decode metadata]

theorem decodeV2_eq_ok (decoded : decodeV2 input = .ok frame) :
    ∃ hasFragment, V2_HEADER_LEN ≤ input.length ∧
      FrameKind.fromU8 (input.getD 0 0 &&& KIND_MASK) = .ok frame.kind ∧
      parseKindFlags (input.getD 0 0) = .ok hasFragment ∧
      decodeFragment hasFragment input V2_HEADER_LEN = .ok frame.fragment ∧
      frame.serviceId = UInt16.ofNat (readBe 2 input 1) ∧ frame.pathId = UInt16.ofNat (readBe 2 input 3) ∧
      frame.sequence = UInt64.ofNat (readBe 8 input 5) ∧
      frame.payload = input.drop (V2_HEADER_LEN + if hasFragment then FRAGMENT_METADATA_LEN else 0) := by
  unfold decodeV2 at decoded
  by_cases short : input.length < V2_HEADER_LEN
  · rw [if_pos short] at decoded
    contradiction
  cases known : FrameKind.fromU8 (input.getD 0 0 &&& KIND_MASK) with
  | error error => simp only [if_neg short, known, bind, Except.bind, reduceCtorEq] at decoded
  | ok kind =>
    cases parsed : parseKindFlags (input.getD 0 0) with
    | error error => simp only [if_neg short, known, parsed, bind, Except.bind, reduceCtorEq] at decoded
    | ok hasFragment =>
      simp only [if_neg short, known, parsed, bind, Except.bind] at decoded
      by_cases cut : input.length < V2_HEADER_LEN + if hasFragment then FRAGMENT_METADATA_LEN else 0
      · rw [if_pos cut] at decoded
        contradiction
      rw [if_neg cut] at decoded
      cases pieces : decodeFragment hasFragment input V2_HEADER_LEN with
      | error error => simp only [pieces, reduceCtorEq] at decoded
      | ok fragment =>
        simp only [pieces] at decoded
        obtain ⟨rfl, service, path, sequence, rfl, payload⟩ := frame_new_eq_ok decoded
        exact ⟨hasFragment, Nat.le_of_not_lt short, rfl, rfl, pieces, service, path, sequence, payload⟩

theorem encodeV2_decodeV2 (decoded : decodeV2 input = .ok frame) :
    frame.encodeV2 = input := by
  obtain ⟨hasFragment, long, known, parsed, pieces, service, path, sequence, payload⟩ := decodeV2_eq_ok decoded
  obtain ⟨present, metadata⟩ := encodedMetadata_decodeFragment pieces
  have flags : frame.kindFlags = input.getD 0 0 := by
    rw [kindFlags_of_parsed known parsed, kindFlags, present]
  have room : 13 ≤ input.length := long
  have split := drop_eq_field_append input
  have first : input.getD 0 0 :: input.drop 1 = input := by
    cases input with
    | nil => simp at room
    | cons byte rest => rfl
  calc frame.encodeV2
      = input.getD 0 0 :: ((input.drop 1).take 2 ++ ((input.drop 3).take 2 ++ ((input.drop 5).take 8 ++
          ((input.drop 13).take (if hasFragment then FRAGMENT_METADATA_LEN else 0) ++
            input.drop (13 + if hasFragment then FRAGMENT_METADATA_LEN else 0))))) := by
        simp only [encodeV2, flags, metadata, payload, service, path, sequence, toNat_readBe_two,
          toNat_readBe_eight, List.append_assoc]
        rw [toBe_readBe (by omega), toBe_readBe (by omega), toBe_readBe (by omega)]
        rfl
    _ = input := by rw [← split 13, ← split 5 8, ← split 3 2, ← split 1 2, first]

/-- Version 1 is version 2 behind the version byte. -/
theorem decodeV1_cons_iff {version : UInt8} {rest : Bytes} :
    decodeV1 (version :: rest) = .ok frame ↔ version = PROTOCOL_VERSION ∧ decodeV2 rest = .ok frame := by
  have header (hasFragment : Bool) : V1_HEADER_LEN + (if hasFragment then FRAGMENT_METADATA_LEN else 0) =
      V2_HEADER_LEN + (if hasFragment then FRAGMENT_METADATA_LEN else 0) + 1 := by
    simp only [V1_HEADER_LEN, V2_HEADER_LEN]
    omega
  have flags : (version :: rest).getD 1 0 = rest.getD 0 0 := rfl
  have shifted (hasFragment : Bool) : decodeFragment hasFragment (version :: rest) V1_HEADER_LEN =
      decodeFragment hasFragment rest V2_HEADER_LEN := rfl
  unfold decodeV1 decodeV2
  by_cases short : rest.length < V2_HEADER_LEN
  · have short' : (version :: rest).length < V1_HEADER_LEN := Nat.succ_lt_succ short
    rw [if_pos short, if_pos short']
    exact ⟨nofun, fun both => nomatch both.2⟩
  have long' : ¬(version :: rest).length < V1_HEADER_LEN := fun less => short (Nat.lt_of_succ_lt_succ less)
  by_cases current : version = PROTOCOL_VERSION
  · have first : (version :: rest).getD 0 0 = PROTOCOL_VERSION := current
    cases parsed : parseKindFlags (rest.getD 0 0) with
    | error error =>
      cases known : FrameKind.fromU8 (rest.getD 0 0 &&& KIND_MASK) <;>
        simp only [if_neg short, if_neg long', first, ne_eq, not_true_eq_false, if_false, flags, parsed, known, bind,
          Except.bind, reduceCtorEq, and_false]
    | ok hasFragment =>
      obtain ⟨kind, known⟩ := kind_of_parsed parsed
      have room : (version :: rest).length < V1_HEADER_LEN + (if hasFragment then FRAGMENT_METADATA_LEN else 0) ↔
          rest.length < V2_HEADER_LEN + if hasFragment then FRAGMENT_METADATA_LEN else 0 := by
        rw [header, List.length_cons, Nat.succ_lt_succ_iff]
      have payload : (version :: rest).drop (V1_HEADER_LEN + if hasFragment then FRAGMENT_METADATA_LEN else 0) =
          rest.drop (V2_HEADER_LEN + if hasFragment then FRAGMENT_METADATA_LEN else 0) := by
        rw [header, List.drop_succ_cons]
      rw [and_iff_right current]
      simp only [if_neg short, if_neg long', first, ne_eq, not_true_eq_false, if_false, flags, parsed, known, shifted,
        room, payload, readBe_cons, bind, Except.bind]
  · have old : (version :: rest).getD 0 0 ≠ PROTOCOL_VERSION := current
    rw [if_neg long', if_pos old]
    exact ⟨nofun, fun both => absurd both.1 current⟩

/-- The codec is a bijection between frames and the byte strings it accepts, in both versions. -/
theorem codec_exact :
    (∀ frame, decodeV1 (encodeV1 frame) = .ok frame ∧ decodeV2 (encodeV2 frame) = .ok frame) ∧
    (∀ input frame, decodeV1 input = .ok frame → encodeV1 frame = input) ∧
    (∀ input frame, decodeV2 input = .ok frame → encodeV2 frame = input) ∧
    (∀ input, decodeV2Owned input = decodeV2 input) ∧
    ∀ frame, encodeV1 frame = PROTOCOL_VERSION :: encodeV2 frame := by
  refine ⟨fun frame => ⟨?_, decodeV2_encodeV2 frame⟩, ?_, fun _ _ => encodeV2_decodeV2, decodeV2Owned_eq,
    fun _ => rfl⟩
  · exact decodeV1_cons_iff.mpr ⟨rfl, decodeV2_encodeV2 frame⟩
  · intro input frame decoded
    cases input with
    | nil => contradiction
    | cons version rest =>
      obtain ⟨rfl, body⟩ := decodeV1_cons_iff.mp decoded
      change PROTOCOL_VERSION :: encodeV2 frame = _
      rw [encodeV2_decodeV2 body]

end Frame

section Batch

theorem encodedItems_length (payloads : List Bytes) :
    (encodedItems payloads).length = (payloads.map fun payload => 2 + payload.length).sum := by
  induction payloads with
  | nil => rfl
  | cons payload rest ih =>
    rw [encodedItems, List.length_append, List.length_append, toBe_length, ih, List.map_cons, List.sum_cons]

theorem length_le_encodedItems (payloads : List Bytes) : payloads.length ≤ (encodedItems payloads).length := by
  induction payloads with
  | nil => exact Nat.le_refl 0
  | cons payload rest ih =>
    simp only [encodedItems, List.length_append, toBe_length, List.length_cons]
    omega

theorem checkBatchItems_eq_ok (total : Nat) (payloads : List Bytes)
    (within : total + (encodedItems payloads).length ≤ MAX_FRAME_PAYLOAD_LEN) :
    checkBatchItems total payloads = .ok () := by
  induction payloads generalizing total with
  | nil => rfl
  | cons payload rest ih =>
    simp only [encodedItems, List.length_append, toBe_length] at within
    have item : ¬65535 < payload.length := by unfold MAX_FRAME_PAYLOAD_LEN at within; omega
    have running : ¬MAX_FRAME_PAYLOAD_LEN < total + (2 + payload.length) := by omega
    rw [checkBatchItems, if_neg item, if_neg running]
    exact ih _ (by omega)

theorem decodeBatchItems_encodedItems (payloads : List Bytes) (before : Bytes)
    (small : ∀ payload ∈ payloads, payload.length ≤ 65535) :
    decodeBatchItems (before ++ encodedItems payloads) payloads.length before.length =
      .ok (payloads, (before ++ encodedItems payloads).length) := by
  induction payloads generalizing before with
  | nil => simp [decodeBatchItems, encodedItems]
  | cons payload rest ih =>
    have size : payload.length < 256 ^ 2 := by
      have := small payload (by simp)
      omega
    have length := readBe_append 2 before (toBe 2 payload.length) (payload ++ encodedItems rest)
      before.length rfl (toBe_length ..)
    rw [fromBe_toBe_of_lt 2 _ size, List.append_assoc] at length
    have item : ((before ++ encodedItems (payload :: rest)).drop (before.length + 2)).take payload.length =
        payload := by
      have front : before ++ encodedItems (payload :: rest) =
          (before ++ toBe 2 payload.length) ++ (payload ++ encodedItems rest) := by
        simp [encodedItems]
      have position : before.length + 2 = (before ++ toBe 2 payload.length).length := by simp
      rw [front, position, List.drop_left, List.take_left]
    have tail := ih (before ++ toBe 2 payload.length ++ payload)
      (fun other member => small other (by simp [member]))
    have regroup : before ++ toBe 2 payload.length ++ payload ++ encodedItems rest =
        before ++ encodedItems (payload :: rest) := by
      simp [encodedItems]
    have cursor : (before ++ toBe 2 payload.length ++ payload).length =
        before.length + 2 + payload.length := by
      simp
      omega
    rw [regroup, cursor] at tail
    have total : (before ++ encodedItems (payload :: rest)).length =
        before.length + 2 + payload.length + (encodedItems rest).length := by
      simp [encodedItems]
      omega
    have header : ¬(before ++ encodedItems (payload :: rest)).length < before.length + 2 := by omega
    have whole : ¬(before ++ encodedItems (payload :: rest)).length <
        before.length + 2 + payload.length := by omega
    have read : readBe 2 (before ++ encodedItems (payload :: rest)) before.length = payload.length := by
      rw [← length]
      simp [encodedItems]
    simp only [List.length_cons, decodeBatchItems, if_neg header, read, if_neg whole, tail, item, bind,
      Except.bind]

theorem encodeBatchPayload_eq_ok (payloads : List Bytes) (nonempty : payloads ≠ [])
    (within : 2 + (encodedItems payloads).length ≤ MAX_FRAME_PAYLOAD_LEN) :
    encodeBatchPayload payloads = .ok (toBe 2 payloads.length ++ encodedItems payloads) := by
  have count := length_le_encodedItems payloads
  have few : ¬65535 < payloads.length := by unfold MAX_FRAME_PAYLOAD_LEN at within; omega
  simp [encodeBatchPayload, List.isEmpty_eq_false_iff.mpr nonempty, if_neg few,
    checkBatchItems_eq_ok 2 payloads within, bind, Except.bind]

theorem decodeBatchPayload_encode (payloads : List Bytes) (nonempty : payloads ≠ [])
    (few : payloads.length ≤ 65535) (small : ∀ payload ∈ payloads, payload.length ≤ 65535) :
    decodeBatchPayload (toBe 2 payloads.length ++ encodedItems payloads) = .ok payloads := by
  have count := readBe_append 2 [] (toBe 2 payloads.length) (encodedItems payloads) 0 rfl (toBe_length ..)
  rw [fromBe_toBe_of_lt 2 _ (by omega), List.nil_append] at count
  have items := decodeBatchItems_encodedItems payloads (toBe 2 payloads.length) small
  rw [toBe_length] at items
  have some : ¬payloads.length = 0 := fun zero => nonempty (List.length_eq_zero_iff.mp zero)
  unfold decodeBatchPayload
  simp only [count, items, if_neg some, bind, Except.bind, if_true]
  rw [if_neg (by rw [List.length_append, toBe_length]; omega)]

/-- The items are all that stands between two cursors of the input. -/
structure ItemsBetween (input : Bytes) (payloads : List Bytes) (cursor stop : Nat) : Prop where
  small : ∀ payload ∈ payloads, payload.length ≤ 65535
  inside : stop ≤ input.length
  covered : input.drop cursor = encodedItems payloads ++ input.drop stop

theorem ItemsBetween.cons {input : Bytes} {payloads : List Bytes} {cursor stop : Nat}
    (inside : cursor + 2 + readBe 2 input cursor ≤ input.length)
    (rest : ItemsBetween input payloads (cursor + 2 + readBe 2 input cursor) stop) :
    ItemsBetween input ((input.drop (cursor + 2)).take (readBe 2 input cursor) :: payloads) cursor stop := by
  have length : ((input.drop (cursor + 2)).take (readBe 2 input cursor)).length = readBe 2 input cursor := by
    rw [List.length_take, List.length_drop]
    omega
  constructor
  · intro payload member
    rcases List.mem_cons.mp member with rfl | member
    · have bound := readBe_lt 2 input cursor
      omega
    · exact rest.small payload member
  · exact rest.inside
  · calc input.drop cursor
        = (input.drop cursor).take 2 ++ ((input.drop (cursor + 2)).take (readBe 2 input cursor) ++
            input.drop (cursor + 2 + readBe 2 input cursor)) := by
          rw [← drop_eq_field_append, ← drop_eq_field_append]
      _ = toBe 2 (readBe 2 input cursor) ++ ((input.drop (cursor + 2)).take (readBe 2 input cursor) ++
            (encodedItems payloads ++ input.drop stop)) := by
          rw [toBe_readBe (by omega), rest.covered]
      _ = _ := by
          rw [encodedItems, length]
          simp

variable {input output : Bytes} {payloads : List Bytes}

theorem decodeBatchItems_eq_ok {count cursor stop : Nat}
    (inside : cursor ≤ input.length) (decoded : decodeBatchItems input count cursor = .ok (payloads, stop)) :
    payloads.length = count ∧ ItemsBetween input payloads cursor stop := by
  induction count generalizing cursor payloads with
  | zero =>
    obtain ⟨rfl, rfl⟩ := Prod.mk.inj (Except.ok.inj decoded)
    exact ⟨rfl, ⟨by simp, inside, rfl⟩⟩
  | succ count ih =>
    simp only [decodeBatchItems] at decoded
    split at decoded
    · contradiction
    split at decoded
    · contradiction
    · rename_i short
      cases later : decodeBatchItems input count (cursor + 2 + readBe 2 input cursor) with
      | error error => rw [later] at decoded; contradiction
      | ok result =>
        rw [later] at decoded
        obtain ⟨rfl, rfl⟩ := Prod.mk.inj (Except.ok.inj decoded)
        have tail := ih (by omega) later
        exact ⟨congrArg (· + 1) tail.1, tail.2.cons (by omega)⟩

/-- What the decoder accepts is the count and the encoding of the items it returns. -/
theorem decodeBatchPayload_eq_ok (decoded : decodeBatchPayload input = .ok payloads) :
    payloads ≠ [] ∧ input = toBe 2 payloads.length ++ encodedItems payloads := by
  unfold decodeBatchPayload at decoded
  split at decoded
  · contradiction
  rename_i header
  simp only at decoded
  split at decoded
  · contradiction
  rename_i some
  cases items : decodeBatchItems input (readBe 2 input 0) 2 with
  | error error => rw [items] at decoded; contradiction
  | ok result =>
    obtain ⟨found, cursor⟩ := result
    simp only [items, bind, Except.bind] at decoded
    split at decoded
    · rename_i last
      obtain rfl := Except.ok.inj decoded
      obtain ⟨count, between⟩ := decodeBatchItems_eq_ok (by omega) items
      constructor
      · rintro rfl
        exact some count.symm
      · calc input = (input.drop 0).take 2 ++ input.drop 2 := by rw [List.drop_zero, List.take_append_drop]
          _ = toBe 2 (readBe 2 input 0) ++ (encodedItems found ++ input.drop cursor) := by
            rw [toBe_readBe (by omega), between.covered]
          _ = _ := by rw [count, last, List.drop_length, List.append_nil]
    · contradiction

theorem checkBatchItems_within {total : Nat} (start : total ≤ MAX_FRAME_PAYLOAD_LEN)
    (checked : checkBatchItems total payloads = .ok ()) :
    total + (encodedItems payloads).length ≤ MAX_FRAME_PAYLOAD_LEN := by
  induction payloads generalizing total with
  | nil => exact start
  | cons payload rest ih =>
    rw [checkBatchItems] at checked
    split at checked
    · contradiction
    split at checked
    · contradiction
    · rename_i running
      have tail := ih (Nat.le_of_not_lt running) checked
      simp only [encodedItems, List.length_append, toBe_length]
      omega

theorem encodeBatchPayload_within (encoded : encodeBatchPayload payloads = .ok output) :
    payloads ≠ [] ∧ output = toBe 2 payloads.length ++ encodedItems payloads ∧
      2 + (encodedItems payloads).length ≤ MAX_FRAME_PAYLOAD_LEN := by
  unfold encodeBatchPayload at encoded
  split at encoded
  · contradiction
  rename_i nonempty
  split at encoded
  · contradiction
  cases checked : checkBatchItems 2 payloads with
  | error error => rw [checked] at encoded; contradiction
  | ok result =>
    rw [checked] at encoded
    exact ⟨by simpa using nonempty, (Except.ok.inj encoded).symm,
      checkBatchItems_within (by unfold MAX_FRAME_PAYLOAD_LEN; omega) checked⟩

theorem payload_le_encodedItems {payload : Bytes} (member : payload ∈ payloads) :
    payload.length ≤ (encodedItems payloads).length := by
  induction payloads with
  | nil => cases member
  | cons first rest ih =>
    simp only [encodedItems, List.length_append, toBe_length]
    rcases List.mem_cons.mp member with rfl | member
    · omega
    · have tail := ih member
      omega

theorem decodeBatchPayload_encodeBatchPayload
    (encoded : encodeBatchPayload payloads = .ok output) : decodeBatchPayload output = .ok payloads := by
  obtain ⟨nonempty, rfl, within⟩ := encodeBatchPayload_within encoded
  unfold MAX_FRAME_PAYLOAD_LEN at within
  apply decodeBatchPayload_encode payloads nonempty
  · have count := length_le_encodedItems payloads
    omega
  · intro payload member
    have size := payload_le_encodedItems member
    omega

theorem encodeBatchPayload_decodeBatchPayload
    (bounded : input.length ≤ MAX_FRAME_PAYLOAD_LEN) (decoded : decodeBatchPayload input = .ok payloads) :
    encodeBatchPayload payloads = .ok input := by
  obtain ⟨nonempty, rfl⟩ := decodeBatchPayload_eq_ok decoded
  apply encodeBatchPayload_eq_ok payloads nonempty
  simpa using bounded

/-- A frame's payload has at most `MAX_FRAME_PAYLOAD_LEN` bytes. On such inputs the encoder and the decoder of batch
payloads are inverse to each other. -/
theorem batch_payload_grammar :
    (∀ payloads : List Bytes, payloads ≠ [] →
      (toBe 2 payloads.length ++ encodedItems payloads).length ≤ MAX_FRAME_PAYLOAD_LEN →
      (encodeBatchPayload payloads >>= decodeBatchPayload) = .ok payloads) ∧
    ∀ input : Bytes, input.length ≤ MAX_FRAME_PAYLOAD_LEN →
      ((∃ payloads, decodeBatchPayload input = .ok payloads) ↔ ∃ payloads, encodeBatchPayload payloads = .ok input) ∧
      ∀ payloads, decodeBatchPayload input = .ok payloads → encodeBatchPayload payloads = .ok input := by
  constructor
  · intro payloads nonempty within
    have encoded := encodeBatchPayload_eq_ok payloads nonempty (by simpa using within)
    rw [encoded]
    exact decodeBatchPayload_encodeBatchPayload encoded
  · intro input bounded
    constructor
    · constructor
      · rintro ⟨payloads, decoded⟩
        exact ⟨payloads, encodeBatchPayload_decodeBatchPayload bounded decoded⟩
      · rintro ⟨payloads, encoded⟩
        exact ⟨payloads, decodeBatchPayload_encodeBatchPayload encoded⟩
    · intro payloads decoded
      exact encodeBatchPayload_decodeBatchPayload bounded decoded

theorem two_payloads_in_grammar :
    encodeBatchPayload [[1, 2], []] = .ok [0, 2, 0, 2, 1, 2, 0, 0] ∧
      (encodeBatchPayload [[1, 2], []] >>= decodeBatchPayload) = .ok [[1, 2], []] :=
  ⟨by decide, batch_payload_grammar.1 [[1, 2], []] (by decide) (by decide)⟩

theorem decodes_unencodable {long : Bytes} (length : long.length = 65535) :
    decodeBatchPayload (toBe 2 2 ++ encodedItems [long, []]) = .ok [long, []] ∧
      ∀ others, encodeBatchPayload others ≠ .ok (toBe 2 2 ++ encodedItems [long, []]) := by
  constructor
  · apply decodeBatchPayload_encode [long, []] (by simp) (by simp)
    intro payload member
    rcases List.mem_pair.mp member with rfl | rfl
    · exact length.le
    · exact Nat.zero_le _
  · intro others encoded
    obtain ⟨-, same, within⟩ := encodeBatchPayload_within encoded
    have total := congrArg List.length same
    simp only [encodedItems, List.length_append, toBe_length, List.length_nil, length] at total
    unfold MAX_FRAME_PAYLOAD_LEN at within
    omega

/-- The decoder reads a batch that the encoder refuses to write: two items, of which one has 65535 bytes. -/
theorem longer_batch_decodes :
    ∃ input payloads, decodeBatchPayload input = .ok payloads ∧ ∀ others, encodeBatchPayload others ≠ .ok input :=
  ⟨_, _, decodes_unencodable (@List.length_replicate UInt8 65535 0)⟩

end Batch

end Gatherlink.Protocol
