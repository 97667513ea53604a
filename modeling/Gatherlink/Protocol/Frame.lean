import Gatherlink.Lib.BigEndian

/-! The compact frame carried between peers: data, control and batch frames, with fixed
fragment metadata when one datagram is split. Compact v1 is the plaintext form; compact v2 is
the same frame without the version byte, used as AEAD plaintext. -/

namespace Gatherlink.Protocol
open Lib.BigEndian

abbrev ServiceId := UInt16
abbrev PathId := UInt16
abbrev SequenceNumber := UInt64

def RESERVED_SERVICE_ID_END : ServiceId := 255

def isReservedServiceId (serviceId : ServiceId) : Bool :=
  serviceId ≤ RESERVED_SERVICE_ID_END

def PROTOCOL_VERSION : UInt8 := 1
def V1_HEADER_LEN : Nat := 14
def V2_HEADER_LEN : Nat := 13
def MAX_FRAME_PAYLOAD_LEN : Nat := 65535
def FRAGMENT_METADATA_LEN : Nat := 10

def KIND_MASK : UInt8 := 0b00000011
def FLAG_FRAGMENT_PRESENT : UInt8 := 0b00000100
def KIND_FLAGS_RESERVED_MASK : UInt8 := 0b11111000

inductive ProtocolError where
  | bufferTooSmall
  | unsupportedVersion (version : UInt8)
  | unknownFrameKind (kind : UInt8)
  | unknownFlags (flags : UInt16)
  | payloadTooLarge (length : Nat)
  | batchItemTooLarge (length : Nat)
  | batchTooLarge (length : Nat)
  | emptyBatch
  | invalidFragment
  | malformedFragment
  | malformedBatch
  | malformedControl
  | controlTooLarge (length : Nat)
  deriving DecidableEq, Repr

inductive FrameKind where
  | data
  | control
  | batch
  deriving DecidableEq, Repr

def FrameKind.toU8 : FrameKind → UInt8
  | .data => 0
  | .control => 1
  | .batch => 2

def FrameKind.fromU8 (value : UInt8) : Except ProtocolError FrameKind :=
  if value = 0 then .ok .data
  else if value = 1 then .ok .control
  else if value = 2 then .ok .batch
  else .error (.unknownFrameKind value)

/-- Validated fragment metadata: the only constructor rejects an index outside the count. -/
structure FragmentInfo where
  datagramId : UInt32
  fragmentIndex : UInt16
  fragmentCount : UInt16
  originalLen : UInt16
  indexInRange : fragmentIndex.toNat < fragmentCount.toNat
  deriving DecidableEq

def FragmentInfo.new (datagramId : UInt32) (fragmentIndex fragmentCount : UInt16) (originalLen : Nat) :
    Except ProtocolError FragmentInfo :=
  if invalid : fragmentCount = 0 ∨ fragmentCount ≤ fragmentIndex ∨ 65535 < originalLen then
    .error .invalidFragment
  else .ok ⟨datagramId, fragmentIndex, fragmentCount, UInt16.ofNat originalLen, by
    simp only [not_or, UInt16.not_le] at invalid
    exact UInt16.lt_iff_toNat_lt.mp invalid.2.1⟩

/-- A compact frame; its payload always fits the 16-bit length the protocol reserves for it. -/
structure Frame where
  kind : FrameKind
  serviceId : ServiceId
  pathId : PathId
  sequence : SequenceNumber
  fragment : Option FragmentInfo
  payload : Bytes
  payloadFits : payload.length ≤ MAX_FRAME_PAYLOAD_LEN
  deriving DecidableEq

def Frame.new (kind : FrameKind) (serviceId : ServiceId) (pathId : PathId) (sequence : SequenceNumber)
    (fragment : Option FragmentInfo) (payload : Bytes) : Except ProtocolError Frame :=
  if large : MAX_FRAME_PAYLOAD_LEN < payload.length then .error (.payloadTooLarge payload.length)
  else .ok ⟨kind, serviceId, pathId, sequence, fragment, payload, Nat.le_of_not_lt large⟩

def encodedItems : List Bytes → Bytes
  | [] => []
  | payload :: rest => toBe 2 payload.length ++ payload ++ encodedItems rest

/-- The running length check of the batch encoder, item by item. -/
def checkBatchItems : Nat → List Bytes → Except ProtocolError Unit
  | _, [] => .ok ()
  | total, payload :: rest =>
      if 65535 < payload.length then .error (.batchItemTooLarge payload.length)
      else if MAX_FRAME_PAYLOAD_LEN < total + (2 + payload.length) then
        .error (.batchTooLarge (total + (2 + payload.length)))
      else checkBatchItems (total + (2 + payload.length)) rest

def encodeBatchPayload (payloads : List Bytes) : Except ProtocolError Bytes :=
  if payloads.isEmpty then .error .emptyBatch
  else if 65535 < payloads.length then .error (.batchTooLarge payloads.length)
  else do
    checkBatchItems 2 payloads
    .ok (toBe 2 payloads.length ++ encodedItems payloads)

/-- The decoder's loop: `count` items from `cursor` on, with the cursor it stops at. -/
def decodeBatchItems (input : Bytes) : Nat → Nat → Except ProtocolError (List Bytes × Nat)
  | 0, cursor => .ok ([], cursor)
  | count + 1, cursor =>
      if input.length < cursor + 2 then .error .malformedBatch
      else
        let itemLen := readBe 2 input cursor
        if input.length < cursor + 2 + itemLen then .error .malformedBatch
        else do
          let (rest, stop) ← decodeBatchItems input count (cursor + 2 + itemLen)
          .ok ((input.drop (cursor + 2)).take itemLen :: rest, stop)

variable (input : Bytes)

def decodeBatchPayload : Except ProtocolError (List Bytes) :=
  if input.length < 2 then .error .malformedBatch
  else
    let itemCount := readBe 2 input 0
    if itemCount = 0 then .error .emptyBatch
    else do
      let (payloads, cursor) ← decodeBatchItems input itemCount 2
      if cursor = input.length then .ok payloads else .error .malformedBatch

namespace Frame

def data (serviceId : ServiceId) (pathId : PathId) (sequence : SequenceNumber) (payload : Bytes) :
    Except ProtocolError Frame :=
  Frame.new .data serviceId pathId sequence none payload

def batch (serviceId : ServiceId) (pathId : PathId) (sequence : SequenceNumber) (payloads : List Bytes) :
    Except ProtocolError Frame := do
  let payload ← encodeBatchPayload payloads
  Frame.new .batch serviceId pathId sequence none payload

def newFragment (serviceId : ServiceId) (pathId : PathId) (sequence : SequenceNumber)
    (fragment : FragmentInfo) (payload : Bytes) : Except ProtocolError Frame :=
  Frame.new .data serviceId pathId sequence (some fragment) payload

def batchPayloads (frame : Frame) : Except ProtocolError (List Bytes) :=
  if frame.kind ≠ .batch then .error (.unknownFrameKind frame.kind.toU8)
  else decodeBatchPayload frame.payload

def metadataLen (frame : Frame) : Nat :=
  if frame.fragment.isSome then FRAGMENT_METADATA_LEN else 0

def encodedV1Len (frame : Frame) : Nat := V1_HEADER_LEN + frame.metadataLen + frame.payload.length
def encodedV2Len (frame : Frame) : Nat := V2_HEADER_LEN + frame.metadataLen + frame.payload.length

end Frame

def encodeFragmentMetadata (fragment : FragmentInfo) : Bytes :=
  toBe 4 fragment.datagramId.toNat ++ toBe 2 fragment.fragmentIndex.toNat ++
    toBe 2 fragment.fragmentCount.toNat ++ toBe 2 fragment.originalLen.toNat

def decodeFragmentMetadata : Except ProtocolError FragmentInfo :=
  if input.length ≠ FRAGMENT_METADATA_LEN then .error .malformedFragment
  else FragmentInfo.new (UInt32.ofNat (readBe 4 input 0)) (UInt16.ofNat (readBe 2 input 4))
    (UInt16.ofNat (readBe 2 input 6)) (readBe 2 input 8)

def parseKindFlags (kindFlags : UInt8) : Except ProtocolError Bool := do
  if kindFlags &&& KIND_FLAGS_RESERVED_MASK ≠ 0 then
    throw (.unknownFlags (kindFlags &&& KIND_FLAGS_RESERVED_MASK).toUInt16)
  let _ ← FrameKind.fromU8 (kindFlags &&& KIND_MASK)
  pure (kindFlags &&& FLAG_FRAGMENT_PRESENT != 0)

namespace Frame

def kindFlags (frame : Frame) : UInt8 :=
  if frame.fragment.isSome then frame.kind.toU8 ||| FLAG_FRAGMENT_PRESENT else frame.kind.toU8

def encodedMetadata (frame : Frame) : Bytes :=
  match frame.fragment with
  | some fragment => encodeFragmentMetadata fragment
  | none => []

def encodeV2 (frame : Frame) : Bytes :=
  frame.kindFlags :: (toBe 2 frame.serviceId.toNat ++ toBe 2 frame.pathId.toNat ++
    toBe 8 frame.sequence.toNat ++ frame.encodedMetadata ++ frame.payload)

def encodeV1 (frame : Frame) : Bytes :=
  PROTOCOL_VERSION :: frame.kindFlags :: (toBe 2 frame.serviceId.toNat ++
    toBe 2 frame.pathId.toNat ++ toBe 8 frame.sequence.toNat ++ frame.encodedMetadata ++ frame.payload)

def decodeFragment (hasFragment : Bool) (input : Bytes) (headerLen : Nat) :
    Except ProtocolError (Option FragmentInfo) :=
  if hasFragment then do
    let fragment ← decodeFragmentMetadata ((input.drop headerLen).take FRAGMENT_METADATA_LEN)
    .ok (some fragment)
  else .ok none

def decodeV1 : Except ProtocolError Frame := do
  if input.length < V1_HEADER_LEN then throw .bufferTooSmall
  let version := input.getD 0 0
  if version ≠ PROTOCOL_VERSION then throw (.unsupportedVersion version)
  let kindFlags := input.getD 1 0
  let hasFragment ← parseKindFlags kindFlags
  let headerLen := V1_HEADER_LEN + if hasFragment then FRAGMENT_METADATA_LEN else 0
  if input.length < headerLen then throw .bufferTooSmall
  let fragment ← decodeFragment hasFragment input V1_HEADER_LEN
  let kind ← FrameKind.fromU8 (kindFlags &&& KIND_MASK)
  Frame.new kind (UInt16.ofNat (readBe 2 input 2)) (UInt16.ofNat (readBe 2 input 4))
    (UInt64.ofNat (readBe 8 input 6)) fragment (input.drop headerLen)

/-- The v2 decoder takes the kind before the reserved flags. -/
def decodeV2 : Except ProtocolError Frame := do
  if input.length < V2_HEADER_LEN then throw .bufferTooSmall
  let kindFlags := input.getD 0 0
  let kind ← FrameKind.fromU8 (kindFlags &&& KIND_MASK)
  let hasFragment ← parseKindFlags kindFlags
  let headerLen := V2_HEADER_LEN + if hasFragment then FRAGMENT_METADATA_LEN else 0
  if input.length < headerLen then throw .bufferTooSmall
  let fragment ← decodeFragment hasFragment input V2_HEADER_LEN
  Frame.new kind (UInt16.ofNat (readBe 2 input 1)) (UInt16.ofNat (readBe 2 input 3))
    (UInt64.ofNat (readBe 8 input 5)) fragment (input.drop headerLen)

/-- The bytes from `start` on are copied over the front of the buffer; what lies behind them stays. -/
def copyWithin (buffer : Bytes) (start : Nat) : Bytes :=
  buffer.drop start ++ buffer.drop (buffer.length - start)

/-- The owned decoder moves the payload to the front of the buffer it was given. -/
def decodeV2Owned : Except ProtocolError Frame := do
  if input.length < V2_HEADER_LEN then throw .bufferTooSmall
  let kindFlags := input.getD 0 0
  let kind ← FrameKind.fromU8 (kindFlags &&& KIND_MASK)
  let hasFragment ← parseKindFlags kindFlags
  let headerLen := V2_HEADER_LEN + if hasFragment then FRAGMENT_METADATA_LEN else 0
  if input.length < headerLen then throw .bufferTooSmall
  let fragment ← decodeFragment hasFragment input V2_HEADER_LEN
  Frame.new kind (UInt16.ofNat (readBe 2 input 1)) (UInt16.ofNat (readBe 2 input 3))
    (UInt64.ofNat (readBe 8 input 5)) fragment ((copyWithin input headerLen).take (input.length - headerLen))

end Frame

end Gatherlink.Protocol
