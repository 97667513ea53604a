import Gatherlink.Crypto.Replay
import Gatherlink.Lib.BigEndian

/-! The compact authenticated transport envelope: a clear 13-byte header, the AEAD ciphertext and
a 16-byte tag. The cipher itself is a parameter. -/

namespace Gatherlink.Crypto
open Lib.BigEndian

inductive CryptoError where
  | silentDrop
  | invalidInput
  deriving DecidableEq

abbrev Key := Vector UInt8 32

/-- The detached in-place AEAD interface the envelope calls: key, nonce, associated data, text. -/
structure Aead where
  encryptInPlaceDetached : Key → Bytes → Bytes → Bytes → Option (Bytes × Bytes)
  decryptInPlaceDetached : Key → Bytes → Bytes → Bytes → Bytes → Option Bytes

/-- What a cipher promises about its own output. -/
structure Aead.Correct (aead : Aead) : Prop where
  tagLength : ∀ {key nonce ad plaintext ciphertext tag},
    aead.encryptInPlaceDetached key nonce ad plaintext = some (ciphertext, tag) → tag.length = 16
  opens : ∀ {key nonce ad plaintext ciphertext tag},
    aead.encryptInPlaceDetached key nonce ad plaintext = some (ciphertext, tag) →
      aead.decryptInPlaceDetached key nonce ad ciphertext tag = some plaintext

/-- A cipher that hides nothing and tags with the key, to run the model with. -/
def Aead.transparent : Aead where
  encryptInPlaceDetached key _ _ plaintext := some (plaintext, key.toList.take 16)
  decryptInPlaceDetached key _ _ ciphertext tag := if tag = key.toList.take 16 then some ciphertext else none

theorem Aead.transparent_correct : Aead.transparent.Correct where
  tagLength {key _ _ _ _ _} output := by
    simp only [transparent, Option.some.injEq, Prod.mk.injEq] at output
    simp [← output.2]
  opens output := by
    simp only [transparent, Option.some.injEq, Prod.mk.injEq] at output
    simp [transparent, output]

/-- The cipher opens a text inside the caller's buffer, which keeps its length. -/
def Aead.InPlace (aead : Aead) : Prop :=
  ∀ {key nonce ad ciphertext tag plaintext},
    aead.decryptInPlaceDetached key nonce ad ciphertext tag = some plaintext → plaintext.length = ciphertext.length

theorem Aead.transparent_inPlace : Aead.transparent.InPlace := by
  intro key nonce ad ciphertext tag plaintext opened
  simp only [transparent, Option.ite_none_right_eq_some, Option.some.injEq] at opened
  rw [opened.2]

def PACKET_TYPE_ENCRYPTED_DATA_V1 : UInt8 := 1
def ENCRYPTED_DATA_HEADER_LEN : Nat := 13
def AEAD_TAG_LEN : Nat := 16

/-- The ASCII bytes of `GATHERLINK_DATA_V1`. -/
def AEAD_DOMAIN : Bytes := [71, 65, 84, 72, 69, 82, 76, 73, 78, 75, 95, 68, 65, 84, 65, 95, 86, 49]

def nonceFromCounter (counter : Nat) : Bytes := [0, 0, 0, 0] ++ toBe 8 counter

def associatedData (header : Bytes) : Bytes := AEAD_DOMAIN ++ header

structure DecryptedPacket where
  receiverIndex : UInt32
  counter : Nat
  plaintext : Bytes
  deriving DecidableEq

structure ByteRange where
  start : Nat
  stop : Nat
  deriving DecidableEq

def ByteRange.len (range : ByteRange) : Nat := range.stop - range.start

def ByteRange.slice (range : ByteRange) (buffer : Bytes) : Bytes := (buffer.take range.stop).drop range.start

theorem ByteRange.slice_length {range : ByteRange} {buffer : Bytes} (inside : range.stop ≤ buffer.length) :
    (range.slice buffer).length = range.len := by
  simp [slice, len, Nat.min_eq_left inside]

theorem ByteRange.slice_append (front middle back : Bytes) :
    slice ⟨front.length, front.length + middle.length⟩ (front ++ middle ++ back) = middle := by
  rw [slice, ← List.length_append, List.take_left, List.drop_left]

structure DecryptedPacketInPlace where
  receiverIndex : UInt32
  counter : Nat
  plaintextRange : ByteRange
  deriving DecidableEq

/-- What an in-place answer denotes in the buffer it was opened in. -/
def DecryptedPacketInPlace.read (decrypted : DecryptedPacketInPlace) (buffer : Bytes) : DecryptedPacket :=
  ⟨decrypted.receiverIndex, decrypted.counter, decrypted.plaintextRange.slice buffer⟩

def envelopeHeader (receiverIndex : UInt32) (counter : Nat) : Bytes :=
  PACKET_TYPE_ENCRYPTED_DATA_V1 :: (toBe 4 receiverIndex.toNat ++ toBe 8 counter)

section Cipher

variable (aead : Aead)

/-- `plaintext` is what the caller's writer appends behind the header. -/
def encryptFrameWithCipherWriter (receiverIndex : UInt32) (cipher : Key) (counter plaintextLen : Nat)
    (plaintext : Bytes) : Except CryptoError Bytes :=
  let header := envelopeHeader receiverIndex counter
  if (header ++ plaintext).length ≠ ENCRYPTED_DATA_HEADER_LEN + plaintextLen then .error .invalidInput
  else
    match aead.encryptInPlaceDetached cipher (nonceFromCounter counter) (associatedData header) plaintext with
    | none => .error .silentDrop
    | some (ciphertext, tag) => .ok (header ++ ciphertext ++ tag)

def encryptFrameWithCounter (receiverIndex : UInt32) (key : Key) (counter : Nat) (plaintextFrame : Bytes) :
    Except CryptoError Bytes :=
  encryptFrameWithCipherWriter aead receiverIndex key counter plaintextFrame.length plaintextFrame

def decryptPacketWithCipher (cipher : Key) (packet : Bytes) : Except CryptoError DecryptedPacket :=
  if packet.length < ENCRYPTED_DATA_HEADER_LEN + AEAD_TAG_LEN then .error .silentDrop
  else if packet.getD 0 0 ≠ PACKET_TYPE_ENCRYPTED_DATA_V1 then .error .silentDrop
  else
    let receiverIndex := UInt32.ofNat (readBe 4 packet 1)
    let counter := readBe 8 packet 5
    let ciphertextEnd := packet.length - AEAD_TAG_LEN
    let ciphertext := (packet.take ciphertextEnd).drop ENCRYPTED_DATA_HEADER_LEN
    match aead.decryptInPlaceDetached cipher (nonceFromCounter counter)
        (associatedData (packet.take ENCRYPTED_DATA_HEADER_LEN)) ciphertext (packet.drop ciphertextEnd) with
    | none => .error .silentDrop
    | some plaintext => .ok ⟨receiverIndex, counter, plaintext⟩

/-- The caller's buffer afterwards stands next to the answer. -/
def decryptPacketWithCipherInPlace (cipher : Key) (packet : Bytes) :
    Except CryptoError DecryptedPacketInPlace × Bytes :=
  if packet.length < ENCRYPTED_DATA_HEADER_LEN + AEAD_TAG_LEN then (.error .silentDrop, packet)
  else if packet.getD 0 0 ≠ PACKET_TYPE_ENCRYPTED_DATA_V1 then (.error .silentDrop, packet)
  else
    let receiverIndex := UInt32.ofNat (readBe 4 packet 1)
    let counter := readBe 8 packet 5
    let ciphertextEnd := packet.length - AEAD_TAG_LEN
    let headerAndCiphertext := packet.take ciphertextEnd
    let tag := packet.drop ciphertextEnd
    let header := headerAndCiphertext.take ENCRYPTED_DATA_HEADER_LEN
    match aead.decryptInPlaceDetached cipher (nonceFromCounter counter) (associatedData header)
        (headerAndCiphertext.drop ENCRYPTED_DATA_HEADER_LEN) tag with
    | none => (.error .silentDrop, packet)
    | some plaintext =>
        (.ok ⟨receiverIndex, counter, ⟨ENCRYPTED_DATA_HEADER_LEN, ciphertextEnd⟩⟩, header ++ plaintext ++ tag)

variable {error : CryptoError}

theorem decryptPacketWithCipher_error {cipher : Key} {packet : Bytes}
    (failed : decryptPacketWithCipher aead cipher packet = .error error) : error = .silentDrop := by
  unfold decryptPacketWithCipher at failed
  split_ifs at failed
  · exact (Except.error.inj failed).symm
  · exact (Except.error.inj failed).symm
  · simp only at failed
    split at failed
    · exact (Except.error.inj failed).symm
    · cases failed

/-- The demultiplexing hint read before authentication. -/
def clearReceiverIndex (packet : Bytes) : Except CryptoError UInt32 :=
  if packet.length < ENCRYPTED_DATA_HEADER_LEN + AEAD_TAG_LEN then .error .silentDrop
  else if packet.getD 0 0 ≠ PACKET_TYPE_ENCRYPTED_DATA_V1 then .error .silentDrop
  else .ok (UInt32.ofNat (readBe 4 packet 1))

theorem clearReceiverIndex_error {packet : Bytes}
    (failed : clearReceiverIndex packet = .error error) : error = .silentDrop := by
  unfold clearReceiverIndex at failed
  split_ifs at failed <;> exact (Except.error.inj failed).symm

end Cipher

def clearCounter (packet : Bytes) : Nat := readBe 8 packet 5

theorem first_counter_fits : 0 < 2 ^ 64 := by norm_num

/-- Directional state of one session. The next counter is always a 64-bit value. -/
structure TransportKeys where
  localReceiverIndex : UInt32
  remoteReceiverIndex : UInt32
  sendCipher : Key
  receiveCipher : Key
  nextSendCounter : Nat
  replayWindow : ReplayWindow
  counterFits : nextSendCounter < 2 ^ 64

structure ReservedSendCounters where
  receiverIndex : UInt32
  cipher : Key
  firstCounter : Nat

namespace TransportKeys

def newWithReceiverIndexes (localReceiverIndex remoteReceiverIndex : UInt32) (sendKey receiveKey : Key) :
    TransportKeys where
  localReceiverIndex := localReceiverIndex
  remoteReceiverIndex := remoteReceiverIndex
  sendCipher := sendKey
  receiveCipher := receiveKey
  nextSendCounter := 0
  replayWindow := ReplayWindow.default
  counterFits := first_counter_fits

variable (aead : Aead)

variable (keys : TransportKeys)

def encryptFrameWithPlaintext (plaintextLen : Nat) (plaintext : Bytes) :
    Except CryptoError Bytes × TransportKeys :=
  if fits : keys.nextSendCounter + 1 < 2 ^ 64 then
    (encryptFrameWithCipherWriter aead keys.remoteReceiverIndex keys.sendCipher keys.nextSendCounter
      plaintextLen plaintext,
      { keys with nextSendCounter := keys.nextSendCounter + 1, counterFits := fits })
  else (.error .invalidInput, keys)

def reserveSendCounters (count : Nat) :
    Except CryptoError ReservedSendCounters × TransportKeys :=
  if fits : keys.nextSendCounter + count < 2 ^ 64 then
    (.ok ⟨keys.remoteReceiverIndex, keys.sendCipher, keys.nextSendCounter⟩,
      { keys with nextSendCounter := keys.nextSendCounter + count, counterFits := fits })
  else (.error .invalidInput, keys)

/-- Authentication first, then the receiver index, then the replay window. -/
def decryptPacket (packet : Bytes) :
    Except CryptoError DecryptedPacket × TransportKeys :=
  match decryptPacketWithCipher aead keys.receiveCipher packet with
  | .error error => (.error error, keys)
  | .ok decrypted =>
      if decrypted.receiverIndex ≠ keys.localReceiverIndex then (.error .silentDrop, keys)
      else
        let (fresh, window) := keys.replayWindow.accept decrypted.counter
        if fresh then (.ok decrypted, { keys with replayWindow := window })
        else (.error .silentDrop, { keys with replayWindow := window })

def decryptPacketInPlace (packet : Bytes) :
    Except CryptoError DecryptedPacketInPlace × Bytes × TransportKeys :=
  match decryptPacketWithCipherInPlace aead keys.receiveCipher packet with
  | (.error error, buffer) => (.error error, buffer, keys)
  | (.ok decrypted, buffer) =>
      if decrypted.receiverIndex ≠ keys.localReceiverIndex then (.error .silentDrop, buffer, keys)
      else
        let (fresh, window) := keys.replayWindow.accept decrypted.counter
        if fresh then (.ok decrypted, buffer, { keys with replayWindow := window })
        else (.error .silentDrop, buffer, { keys with replayWindow := window })

theorem decryptPacket_cases (packet : Bytes) :
    (∃ decrypted, decryptPacketWithCipher aead keys.receiveCipher packet = .ok decrypted ∧
      decrypted.receiverIndex = keys.localReceiverIndex ∧ ¬keys.replayWindow.Blocks decrypted.counter ∧
      keys.decryptPacket aead packet =
        (.ok decrypted, { keys with replayWindow := (keys.replayWindow.accept decrypted.counter).2 })) ∨
    keys.decryptPacket aead packet = (.error .silentDrop, keys) := by
  unfold decryptPacket
  cases opened : decryptPacketWithCipher aead keys.receiveCipher packet with
  | error error => exact Or.inr (by rw [decryptPacketWithCipher_error aead opened])
  | ok decrypted =>
    by_cases other : decrypted.receiverIndex ≠ keys.localReceiverIndex
    · exact Or.inr (if_pos other)
    · simp only [if_neg other]
      by_cases blocked : keys.replayWindow.Blocks decrypted.counter
      · rw [ReplayWindow.accept_of_blocks blocked]
        exact Or.inr rfl
      · refine Or.inl ⟨decrypted, rfl, not_not.mp other, blocked, ?_⟩
        rw [ReplayWindow.Blocks, Bool.not_eq_false] at blocked
        rw [blocked, if_pos rfl]

end TransportKeys

def ReservedSendCounters.encryptFrameWithPlaintext (aead : Aead) (counters : ReservedSendCounters)
    (offset plaintextLen : Nat) (plaintext : Bytes) : Except CryptoError Bytes :=
  if counters.firstCounter + offset < 2 ^ 64 then
    encryptFrameWithCipherWriter aead counters.receiverIndex counters.cipher
      (counters.firstCounter + offset) plaintextLen plaintext
  else .error .invalidInput

section Shape

variable {aead : Aead}

theorem envelopeHeader_length (receiverIndex : UInt32) (counter : Nat) :
    (envelopeHeader receiverIndex counter).length = ENCRYPTED_DATA_HEADER_LEN := by
  simp [envelopeHeader, ENCRYPTED_DATA_HEADER_LEN]

variable {receiverIndex : UInt32} {cipher : Key} {counter plaintextLen : Nat} {plaintext packet : Bytes}

theorem encryptFrame_shape
    (sealing : encryptFrameWithCipherWriter aead receiverIndex cipher counter plaintextLen plaintext = .ok packet) :
    ∃ ciphertext tag, aead.encryptInPlaceDetached cipher (nonceFromCounter counter)
        (associatedData (envelopeHeader receiverIndex counter)) plaintext = some (ciphertext, tag) ∧
      packet = envelopeHeader receiverIndex counter ++ ciphertext ++ tag := by
  unfold encryptFrameWithCipherWriter at sealing
  by_cases length : (envelopeHeader receiverIndex counter ++ plaintext).length ≠
      ENCRYPTED_DATA_HEADER_LEN + plaintextLen
  · rw [if_pos length] at sealing
    contradiction
  · rw [if_neg length] at sealing
    split at sealing
    · contradiction
    · rename_i ciphertext tag output
      exact ⟨ciphertext, tag, output, (Except.ok.inj sealing).symm⟩

private theorem readBe_header_counter (receiverIndex : UInt32) (counter : Nat) (rest : Bytes)
    (fits : counter < 2 ^ 64) : readBe 8 (envelopeHeader receiverIndex counter ++ rest) 5 = counter := by
  have read := readBe_append 8 (PACKET_TYPE_ENCRYPTED_DATA_V1 :: toBe 4 receiverIndex.toNat) (toBe 8 counter)
    rest 5 (by simp) (toBe_length ..)
  rw [fromBe_toBe_of_lt 8 counter (by omega)] at read
  rw [show envelopeHeader receiverIndex counter ++ rest = PACKET_TYPE_ENCRYPTED_DATA_V1 ::
    toBe 4 receiverIndex.toNat ++ toBe 8 counter ++ rest by simp [envelopeHeader], read]

theorem clearCounter_sealed (fits : counter < 2 ^ 64)
    (sealing : encryptFrameWithCipherWriter aead receiverIndex cipher counter plaintextLen plaintext = .ok packet) :
    clearCounter packet = counter := by
  obtain ⟨ciphertext, tag, -, rfl⟩ := encryptFrame_shape sealing
  rw [clearCounter, List.append_assoc, readBe_header_counter _ _ _ fits]

theorem decrypted_counter {decrypted : DecryptedPacket}
    (opened : decryptPacketWithCipher aead cipher packet = .ok decrypted) :
    decrypted.counter = clearCounter packet := by
  unfold decryptPacketWithCipher at opened
  split at opened
  · simp at opened
  · split at opened
    · simp at opened
    · simp only at opened
      split at opened
      · simp at opened
      · rw [← Except.ok.inj opened]
        rfl

private theorem readBe_header_receiver (receiverIndex : UInt32) (counter : Nat) (rest : Bytes) :
    UInt32.ofNat (readBe 4 (envelopeHeader receiverIndex counter ++ rest) 1) = receiverIndex := by
  have read := readBe_append 4 [PACKET_TYPE_ENCRYPTED_DATA_V1] (toBe 4 receiverIndex.toNat)
    (toBe 8 counter ++ rest) 1 rfl (toBe_length ..)
  rw [fromBe_toBe_of_lt 4 _ (by have := receiverIndex.toNat_lt; omega)] at read
  rw [show envelopeHeader receiverIndex counter ++ rest = [PACKET_TYPE_ENCRYPTED_DATA_V1] ++
    toBe 4 receiverIndex.toNat ++ (toBe 8 counter ++ rest) by simp [envelopeHeader], read]
  simp

/-- A correct cipher opens what it sealed, and the opener recovers index, counter and text. -/
theorem decryptPacketWithCipher_sealed (correct : aead.Correct) (fits : counter < 2 ^ 64)
    (sealing : encryptFrameWithCipherWriter aead receiverIndex cipher counter plaintextLen plaintext = .ok packet) :
    decryptPacketWithCipher aead cipher packet = .ok ⟨receiverIndex, counter, plaintext⟩ := by
  obtain ⟨ciphertext, tag, output, rfl⟩ := encryptFrame_shape sealing
  have tagLength := correct.tagLength output
  have headerLength := envelopeHeader_length receiverIndex counter
  have total : (envelopeHeader receiverIndex counter ++ ciphertext ++ tag).length =
      ENCRYPTED_DATA_HEADER_LEN + ciphertext.length + AEAD_TAG_LEN := by
    rw [List.length_append, List.length_append, headerLength, tagLength, AEAD_TAG_LEN]
  have ending : (envelopeHeader receiverIndex counter ++ ciphertext ++ tag).length - AEAD_TAG_LEN =
      (envelopeHeader receiverIndex counter ++ ciphertext).length := by
    rw [List.length_append, tagLength, AEAD_TAG_LEN, Nat.add_sub_cancel]
  have header : (envelopeHeader receiverIndex counter ++ ciphertext ++ tag).take ENCRYPTED_DATA_HEADER_LEN =
      envelopeHeader receiverIndex counter := by
    rw [← headerLength, List.append_assoc, List.take_left]
  have body : ((envelopeHeader receiverIndex counter ++ ciphertext ++ tag).take
      (envelopeHeader receiverIndex counter ++ ciphertext).length).drop ENCRYPTED_DATA_HEADER_LEN =
      ciphertext := by
    rw [List.take_left, ← headerLength, List.drop_left]
  have first : (envelopeHeader receiverIndex counter ++ ciphertext ++ tag).getD 0 0 =
      PACKET_TYPE_ENCRYPTED_DATA_V1 := rfl
  have long : ¬(envelopeHeader receiverIndex counter ++ ciphertext ++ tag).length <
      ENCRYPTED_DATA_HEADER_LEN + AEAD_TAG_LEN := by omega
  have carried : readBe 8 (envelopeHeader receiverIndex counter ++ ciphertext ++ tag) 5 = counter := by
    rw [List.append_assoc, readBe_header_counter _ _ _ fits]
  have addressed : UInt32.ofNat (readBe 4 (envelopeHeader receiverIndex counter ++ ciphertext ++ tag) 1) =
      receiverIndex := by
    rw [List.append_assoc, readBe_header_receiver]
  unfold decryptPacketWithCipher
  rw [if_neg long, if_neg (not_not.mpr first)]
  simp only [ending, header, body, carried, addressed, List.drop_left, correct.opens output]

theorem clearReceiverIndex_sealed (correct : aead.Correct)
    (sealing : encryptFrameWithCipherWriter aead receiverIndex cipher counter plaintextLen plaintext = .ok packet) :
    clearReceiverIndex packet = .ok receiverIndex := by
  obtain ⟨ciphertext, tag, output, rfl⟩ := encryptFrame_shape sealing
  have tagLength := correct.tagLength output
  have headerLength := envelopeHeader_length receiverIndex counter
  have long : ¬(envelopeHeader receiverIndex counter ++ ciphertext ++ tag).length <
      ENCRYPTED_DATA_HEADER_LEN + AEAD_TAG_LEN := by
    simp [headerLength, tagLength, AEAD_TAG_LEN]
  have first : (envelopeHeader receiverIndex counter ++ ciphertext ++ tag).getD 0 0 =
      PACKET_TYPE_ENCRYPTED_DATA_V1 := rfl
  unfold clearReceiverIndex
  rw [if_neg long, if_neg (not_not.mpr first), List.append_assoc, readBe_header_receiver]

end Shape

section InPlace

variable {aead : Aead}

theorem slice_opened {packet plaintext : Bytes} (long : ENCRYPTED_DATA_HEADER_LEN + AEAD_TAG_LEN ≤ packet.length)
    (kept : plaintext.length = ((packet.take (packet.length - AEAD_TAG_LEN)).drop ENCRYPTED_DATA_HEADER_LEN).length) :
    ByteRange.slice ⟨ENCRYPTED_DATA_HEADER_LEN, packet.length - AEAD_TAG_LEN⟩
      (packet.take ENCRYPTED_DATA_HEADER_LEN ++ plaintext ++ packet.drop (packet.length - AEAD_TAG_LEN)) =
        plaintext := by
  have headerLength : (packet.take ENCRYPTED_DATA_HEADER_LEN).length = ENCRYPTED_DATA_HEADER_LEN := by
    rw [List.length_take]
    omega
  have ending : packet.length - AEAD_TAG_LEN = ENCRYPTED_DATA_HEADER_LEN + plaintext.length := by
    rw [kept, List.length_drop, List.length_take]
    omega
  have located := ByteRange.slice_append (packet.take ENCRYPTED_DATA_HEADER_LEN) plaintext
    (packet.drop (packet.length - AEAD_TAG_LEN))
  rw [headerLength, ← ending] at located
  exact located

/-- Opening a packet in its buffer answers as opening a copy does, and the range lies inside the buffer. -/
theorem decryptPacketWithCipherInPlace_read (inPlace : aead.InPlace) (cipher : Key) (packet : Bytes) :
    (decryptPacketWithCipherInPlace aead cipher packet).1.map
        (·.read (decryptPacketWithCipherInPlace aead cipher packet).2) = decryptPacketWithCipher aead cipher packet ∧
      ∀ decrypted, (decryptPacketWithCipherInPlace aead cipher packet).1 = .ok decrypted →
        decrypted.plaintextRange.stop ≤ (decryptPacketWithCipherInPlace aead cipher packet).2.length := by
  unfold decryptPacketWithCipherInPlace decryptPacketWithCipher
  by_cases short : packet.length < ENCRYPTED_DATA_HEADER_LEN + AEAD_TAG_LEN
  · simp [short, Except.map]
  · by_cases other : packet.getD 0 0 ≠ PACKET_TYPE_ENCRYPTED_DATA_V1
    · simp only [if_neg short, if_pos other]
      exact ⟨rfl, fun _ impossible => by cases impossible⟩
    · have header : (packet.take (packet.length - AEAD_TAG_LEN)).take ENCRYPTED_DATA_HEADER_LEN =
          packet.take ENCRYPTED_DATA_HEADER_LEN := by
        rw [List.take_take, Nat.min_eq_left (by omega)]
      simp only [if_neg short, if_neg other, header]
      split
      · simp [Except.map, *]
      · rename_i plaintext opened
        simp only [Except.map, DecryptedPacketInPlace.read, slice_opened (Nat.not_lt.mp short) (inPlace opened)]
        refine ⟨trivial, ?_⟩
        rintro decrypted ⟨⟩
        have kept := inPlace opened
        simp only [List.length_append, List.length_take, List.length_drop, kept]
        omega

theorem TransportKeys.decryptPacketInPlace_read (inPlace : aead.InPlace) (keys : TransportKeys) (packet : Bytes) :
    keys.decryptPacket aead packet =
        ((keys.decryptPacketInPlace aead packet).1.map (·.read (keys.decryptPacketInPlace aead packet).2.1),
          (keys.decryptPacketInPlace aead packet).2.2) ∧
      ∀ decrypted, (keys.decryptPacketInPlace aead packet).1 = .ok decrypted →
        decrypted.plaintextRange.stop ≤ (keys.decryptPacketInPlace aead packet).2.1.length := by
  obtain ⟨copy, inside⟩ := decryptPacketWithCipherInPlace_read inPlace keys.receiveCipher packet
  unfold decryptPacket decryptPacketInPlace
  rw [← copy]
  generalize decryptPacketWithCipherInPlace aead keys.receiveCipher packet = opened at inside ⊢
  obtain ⟨failure | decrypted, buffer⟩ := opened
  · simp [Except.map]
  · simp only [Except.map, DecryptedPacketInPlace.read]
    by_cases other : decrypted.receiverIndex ≠ keys.localReceiverIndex
    · simp [other]
    · simp only [if_neg other]
      cases (keys.replayWindow.accept decrypted.counter).1 with
      | false => simp
      | true =>
        simp only [if_pos]
        exact ⟨trivial, inside⟩

end InPlace

end Gatherlink.Crypto
