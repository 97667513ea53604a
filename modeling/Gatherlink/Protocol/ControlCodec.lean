import Gatherlink.Lib.Exec
import Gatherlink.Protocol.Control

/-! Control payloads survive encoding and decoding exactly if every message passes its constructor's check
and no optional number is present with the value zero. -/

namespace Gatherlink.Protocol
open Lib Lib.BigEndian Lib.Tlv
open Lib.Exec (except_bind_iff)

section Fields

@[simp] theorem be16_length (value : UInt16) : (be16 value).length = 2 := toBe_length ..
@[simp] theorem be32_length (value : UInt32) : (be32 value).length = 4 := toBe_length ..
@[simp] theorem be64_length (value : UInt64) : (be64 value).length = 8 := toBe_length ..

variable {width offset : Nat} {rest : Bytes}

@[simp] theorem readU16_be16 (value : UInt16) (rest : Bytes) : readU16 (be16 value ++ rest) 0 = value := by
  rw [readU16, be16, readBe_toBe_append, Nat.mod_eq_of_lt (by simpa using value.toNat_lt), UInt16.ofNat_toNat]

@[simp] theorem readU32_be32 (value : UInt32) (rest : Bytes) : readU32 (be32 value ++ rest) 0 = value := by
  rw [readU32, be32, readBe_toBe_append, Nat.mod_eq_of_lt (by simpa using value.toNat_lt), UInt32.ofNat_toNat]

@[simp] theorem readU64_be64 (value : UInt64) (rest : Bytes) : readU64 (be64 value ++ rest) 0 = value := by
  rw [readU64, be64, readBe_toBe_append, Nat.mod_eq_of_lt (by simpa using value.toNat_lt), UInt64.ofNat_toNat]

@[simp] theorem readU16_be16_last (value : UInt16) : readU16 (be16 value) 0 = value := by
  simpa using readU16_be16 value []

@[simp] theorem readU32_be32_last (value : UInt32) : readU32 (be32 value) 0 = value := by
  simpa using readU32_be32 value []

@[simp] theorem readU64_be64_last (value : UInt64) : readU64 (be64 value) 0 = value := by
  simpa using readU64_be64 value []

variable {front : Bytes} {α : Type}

section
variable (past : front.length ≤ offset)
include past

theorem readBe_past :
    readBe width (front ++ rest) offset = readBe width rest (offset - front.length) := by
  unfold readBe
  rw [List.drop_append, List.drop_eq_nil_of_le past, List.nil_append]

@[simp] theorem readU16_past :
    readU16 (front ++ rest) offset = readU16 rest (offset - front.length) := by
  rw [readU16, readU16, readBe_past past]

@[simp] theorem readU32_past :
    readU32 (front ++ rest) offset = readU32 rest (offset - front.length) := by
  rw [readU32, readU32, readBe_past past]

@[simp] theorem readU64_past :
    readU64 (front ++ rest) offset = readU64 rest (offset - front.length) := by
  rw [readU64, readU64, readBe_past past]

@[simp] theorem getD_past :
    (front ++ rest).getD offset 0 = rest.getD (offset - front.length) 0 :=
  List.getD_append_right _ _ _ _ past

end

@[simp] theorem readU64_behind {byte : UInt8} (behind : 0 < offset) :
    readU64 (byte :: rest) offset = readU64 rest (offset - 1) :=
  @readU64_past offset rest [byte] behind

theorem optional_getD [DecidableEq α] [OfNat α 0] {value : Option α} (present : value ≠ some 0) :
    optional (value.getD 0) = value := by
  cases value with
  | none => simp [optional]
  | some number =>
    have nonzero : number ≠ 0 := fun zero => present (by rw [zero])
    simp [optional, nonzero]

theorem optional_ne_zero [DecidableEq α] [OfNat α 0] (value : α) : optional value ≠ some 0 := by
  unfold optional
  split
  · simp
  · rename_i nonzero
    simpa using nonzero

end Fields

/-- A message that its constructor accepts, with no optional number present as zero. -/
def ControlMessage.WellFormed : ControlMessage → Prop
  | .pathAssignment assignment => assignment.packetCount ≠ 0
  | .missingRange range => range.packetCount ≠ 0
  | .pathMetadata metadata => (Utf8.encode metadata.name).length ∈ Finset.Icc 1 255
  | .pathCapacity capacity =>
      capacity.txBps ≠ some 0 ∧ capacity.rxBps ≠ some 0 ∧ ¬(capacity.txBps = none ∧ capacity.rxBps = none)
  | .pathLatency latency =>
      (∀ value ∈ [latency.txCurrentUs, latency.txMeanUs, latency.rxCurrentUs, latency.rxMeanUs], value ≠ some 0) ∧
        ∃ value ∈ [latency.txCurrentUs, latency.txMeanUs, latency.rxCurrentUs, latency.rxMeanUs], value ≠ none
  | .pathMtu mtu =>
      validMtuPair mtu.txLinkMtu mtu.txFrameMtu = true ∧ validMtuPair mtu.rxLinkMtu mtu.rxFrameMtu = true ∧
        ¬(mtu.txLinkMtu = none ∧ mtu.rxLinkMtu = none)
  | .internalClockSync sync =>
      sync.exchangeId ≠ 0 ∧ sync.originUs ≠ 0 ∧ sync.receiveUs ≠ some 0 ∧ sync.transmitUs ≠ some 0 ∧
        (sync.mode = .response → sync.receiveUs ≠ none ∧ sync.transmitUs ≠ none)
  | .sinkTime report => report.sinkUnixUs ≠ 0 ∧ report.sinkInternalUs ≠ 0
  | .serviceMetadata service | .serviceEndpointAssertion service | .serviceDisable service =>
      USER_SERVICE_ID_START ≤ service.serviceId ∧ (Utf8.encode service.text).length ∈ Finset.Icc 1 255
  | .serviceSchedulerPolicy policy => USER_SERVICE_ID_START ≤ policy.serviceId
  | .pathPressure pressure => pressure.lossPpm ≤ 1000000
  | .schedulerStatus status =>
      ∀ mode ∈ [status.configuredMode, status.effectiveMode, status.rustMode],
        (Utf8.encode mode).length ∈ Finset.Icc 1 63
  | .dataTransmitSample sample => sample.packetCount ≠ 0 ∧ sample.transmitUs ≠ 0

section Checks

variable {ε α β : Type} {result : β} {text : String} {id : UInt16} {refused : Prop} [Decidable refused] {error : ε}

theorem map_ok_iff {make : α → β} {read : Except ε α} :
    make <$> read = .ok result ↔ ∃ value, read = .ok value ∧ make value = result := by
  cases read <;> simp [Functor.map, Except.map]

theorem checked_iff {read : Except ε β} :
    (if refused then .error error else read) = .ok result ↔ ¬refused ∧ read = .ok result := by
  by_cases reason : refused <;> simp [reason]

theorem named_iff {longest : Nat} : ¬((Utf8.encode text).isEmpty ∨ longest < (Utf8.encode text).length) ↔
    (Utf8.encode text).length ∈ Finset.Icc 1 longest := by
  rw [List.isEmpty_iff, ← List.length_eq_zero_iff, Finset.mem_Icc]
  omega

theorem PathMetadata.new_iff {metadata : PathMetadata} : PathMetadata.new id text = .ok metadata ↔
    (Utf8.encode text).length ∈ Finset.Icc 1 255 ∧ mk id text = metadata := by
  rw [new, checked_iff, named_iff, Except.ok.injEq]

theorem ServiceText.new_iff {service : ServiceText} : ServiceText.new id text = .ok service ↔
    (USER_SERVICE_ID_START ≤ id ∧ (Utf8.encode text).length ∈ Finset.Icc 1 255) ∧ mk id text = service := by
  rw [new, checked_iff, not_or, named_iff, UInt16.not_lt, Except.ok.injEq]

theorem SchedulerStatus.new_iff {configured effective rust : String} {status : SchedulerStatus} :
    SchedulerStatus.new configured effective rust = .ok status ↔
      (∀ mode ∈ [configured, effective, rust], (Utf8.encode mode).length ∈ Finset.Icc 1 63) ∧
        mk configured effective rust = status := by
  simp only [new, checked_iff, not_exists, not_and, named_iff, Except.ok.injEq]

end Checks

section RoundTrip

variable {text : String}

theorem decodeNamed_encodeNamed {α : Type} (make : UInt16 → String → Except ProtocolError α) (id : UInt16)
    (short : (Utf8.encode text).length ≤ 255) : decodeNamed make (encodeNamed id text) = make id text := by
  have size : (UInt8.ofNat (Utf8.encode text).length).toNat = (Utf8.encode text).length :=
    UInt8.toNat_ofNat_of_lt (by simpa using Nat.lt_succ_of_le short)
  have length : (encodeNamed id text).length = 3 + (Utf8.encode text).length := by
    simp [encodeNamed]
    omega
  have counted : (encodeNamed id text).getD 2 0 = UInt8.ofNat (Utf8.encode text).length := by
    rfl
  have body : (encodeNamed id text).drop 3 = Utf8.encode text := by
    simp [encodeNamed, List.drop_append, be16_length]
  have first : readU16 (encodeNamed id text) 0 = id := readU16_be16 ..
  unfold decodeNamed
  rw [if_neg (by omega), counted, size, if_neg (not_not.mpr length), body, Utf8.decode_encode, first]

theorem validMtuPair_nonzero {link frame : Option UInt16} (valid : validMtuPair link frame = true) :
    link ≠ some 0 ∧ frame ≠ some 0 := by
  cases link with
  | none =>
    cases frame with
    | none => simp
    | some frame => contradiction
  | some link =>
    cases frame with
    | none => contradiction
    | some frame =>
      simp only [validMtuPair, gt_iff_lt, Bool.and_eq_true, decide_eq_true_eq] at valid
      have positive : 0 < frame.toNat := UInt16.lt_iff_toNat_lt.mp valid.1
      have within : frame.toNat ≤ link.toNat := UInt16.le_iff_toNat_le.mp valid.2
      refine ⟨?_, ?_⟩
      · rintro ⟨rfl⟩
        exact absurd (positive.trans_le within) (by decide)
      · rintro ⟨rfl⟩
        exact absurd positive (by decide)

theorem ClockSyncMode.fromU8_asU8 (mode : ClockSyncMode) : ClockSyncMode.fromU8 mode.asU8 = .ok mode := by
  cases mode <;> rfl

theorem NtpState.fromU8_asU8 (state : NtpState) : NtpState.fromU8 state.asU8 = .ok state := by
  cases state <;> rfl

theorem encodeLenPrefixed_slice (short : (Utf8.encode text).length ≤ 255) (before rest : Bytes) :
    (before ++ (encodeLenPrefixed text ++ rest)).length =
        before.length + 1 + (Utf8.encode text).length + rest.length ∧
      ((before ++ (encodeLenPrefixed text ++ rest)).getD before.length 0).toNat = (Utf8.encode text).length ∧
      ((before ++ (encodeLenPrefixed text ++ rest)).drop (before.length + 1)).take (Utf8.encode text).length =
        Utf8.encode text := by
  refine ⟨?_, ?_, ?_⟩
  · simp [encodeLenPrefixed]
    omega
  · rw [getD_past le_rfl, Nat.sub_self]
    exact UInt8.toNat_ofNat_of_lt' (Nat.lt_succ_of_le short)
  · have front : before ++ (encodeLenPrefixed text ++ rest) =
        (before ++ [UInt8.ofNat (Utf8.encode text).length]) ++ (Utf8.encode text ++ rest) := by
      simp [encodeLenPrefixed]
    have position : before.length + 1 = (before ++ [UInt8.ofNat (Utf8.encode text).length]).length := by simp
    rw [front, position, List.drop_left, List.take_left]

theorem encodeLenPrefixed_length (text : String) : (encodeLenPrefixed text).length = 1 + (Utf8.encode text).length := by
  simp [encodeLenPrefixed]
  omega

theorem readLenPrefixedString_encode (size : (Utf8.encode text).length ∈ Finset.Icc 1 63) (before rest : Bytes) :
    readLenPrefixedString (before ++ (encodeLenPrefixed text ++ rest)) before.length =
      .ok (text, before.length + (encodeLenPrefixed text).length) := by
  obtain ⟨some, short⟩ := Finset.mem_Icc.mp size
  obtain ⟨total, counted, body⟩ := encodeLenPrefixed_slice (short.trans (by decide)) before rest
  unfold readLenPrefixedString
  rw [if_neg (by omega)]
  simp only [counted, body, Utf8.decode_encode]
  rw [if_neg (by omega), encodeLenPrefixed_length, ← Nat.add_assoc]

theorem decodeSchedulerStatus_encode {status : SchedulerStatus}
    (sizes : ∀ mode ∈ [status.configuredMode, status.effectiveMode, status.rustMode],
      (Utf8.encode mode).length ∈ Finset.Icc 1 63) :
    decodeSchedulerStatus (encodeLenPrefixed status.configuredMode ++ (encodeLenPrefixed status.effectiveMode ++
      encodeLenPrefixed status.rustMode)) = .ok status := by
  have first := readLenPrefixedString_encode (sizes status.configuredMode (by simp)) []
    (encodeLenPrefixed status.effectiveMode ++ encodeLenPrefixed status.rustMode)
  have second := readLenPrefixedString_encode (sizes status.effectiveMode (by simp))
    (encodeLenPrefixed status.configuredMode) (encodeLenPrefixed status.rustMode)
  have third := readLenPrefixedString_encode (sizes status.rustMode (by simp))
    (encodeLenPrefixed status.configuredMode ++ encodeLenPrefixed status.effectiveMode) []
  simp only [List.nil_append, List.append_nil, List.append_assoc, List.length_append, List.length_nil, Nat.zero_add]
    at first second third
  simp only [decodeSchedulerStatus, first, second, third, bind, Except.bind]
  rw [if_neg (by simp; omega)]
  exact SchedulerStatus.new_iff.mpr ⟨sizes, rfl⟩

theorem decodeMessage_encodeMessage {message : ControlMessage} (wellFormed : message.WellFormed) :
    decodeMessage (encodeMessage message).1 (encodeMessage message).2 = .ok message := by
  cases message with
  | pathAssignment assignment =>
    have counted : assignment.packetCount ≠ 0 := wellFormed
    simp [encodeMessage, decodeMessage, sized, PathAssignment.new, counted]
  | missingRange range =>
    have counted : range.packetCount ≠ 0 := wellFormed
    simp [encodeMessage, decodeMessage, sized, MissingRange.new, counted]
  | pathMetadata metadata =>
    have made : PathMetadata.new metadata.pathId metadata.name = .ok metadata :=
      PathMetadata.new_iff.mpr ⟨wellFormed, rfl⟩
    simp [encodeMessage, decodeMessage, decodeNamed_encodeNamed _ _ (Finset.mem_Icc.mp wellFormed).2, made]
  | pathCapacity capacity =>
    obtain ⟨tx, rx, known⟩ := wellFormed
    simp [encodeMessage, decodeMessage, sized, optionalU64, optional_getD tx, optional_getD rx,
      PathCapacity.new, tx, rx,
      known]
  | pathLatency latency =>
    obtain ⟨nonzero, value, member, known⟩ := wellFormed
    have accepted : PathLatency.new latency.pathId latency.txCurrentUs latency.txMeanUs latency.rxCurrentUs
        latency.rxMeanUs = .ok latency :=
      if_neg fun absent => known (Option.isNone_iff_eq_none.mp (List.all_eq_true.mp absent value member))
    have read (value : Option UInt32) (member : value ∈ [latency.txCurrentUs, latency.txMeanUs, latency.rxCurrentUs,
        latency.rxMeanUs]) : optional (value.getD 0) = value := optional_getD (nonzero value member)
    simp [encodeMessage, decodeMessage, sized, optionalU32, read latency.txCurrentUs (by simp),
      read latency.txMeanUs (by simp), read latency.rxCurrentUs (by simp), read latency.rxMeanUs (by simp), accepted]
  | pathMtu mtu =>
    obtain ⟨tx, rx, known⟩ := wellFormed
    simp [encodeMessage, decodeMessage, sized, optionalU16, optional_getD (validMtuPair_nonzero tx).1,
      optional_getD (validMtuPair_nonzero tx).2, optional_getD (validMtuPair_nonzero rx).1,
      optional_getD (validMtuPair_nonzero rx).2, PathMtu.new, tx, rx, known]
  | internalClockSync sync =>
    obtain ⟨exchange, origin, receive, transmit, complete⟩ := wellFormed
    have answered : ¬(sync.mode = .response ∧ (sync.receiveUs = none ∨ sync.transmitUs = none)) :=
      fun ⟨response, absent⟩ => absent.elim (complete response).1 (complete response).2
    simp [encodeMessage, decodeMessage, decodeInternalClockSync, sized, ClockSyncMode.fromU8_asU8, optionalU64,
      optional_getD receive, optional_getD transmit, InternalClockSync.new, exchange, origin, if_neg answered, bind,
      Except.bind]
  | sinkTime report =>
    obtain ⟨unix, internal⟩ := wellFormed
    simp [encodeMessage, decodeMessage, decodeSinkTime, sized, NtpState.fromU8_asU8, SinkTime.new, unix, internal, bind,
      Except.bind]
  | serviceMetadata service | serviceEndpointAssertion service | serviceDisable service =>
    have made := ServiceText.new_iff.mpr ⟨wellFormed, rfl⟩
    simp [encodeMessage, decodeMessage, decodeNamed_encodeNamed _ _ (Finset.mem_Icc.mp wellFormed.2).2, made]
  | serviceSchedulerPolicy policy =>
    have user : ¬policy.serviceId < USER_SERVICE_ID_START := UInt16.not_lt.mpr wellFormed
    simp [encodeMessage, decodeMessage, sized, ServiceSchedulerPolicy.new, user]
  | pathPressure pressure =>
    have possible : ¬1000000 < pressure.lossPpm := UInt32.not_lt.mpr wellFormed
    simp [encodeMessage, decodeMessage, decodePathPressure, sized, PathPressure.new, possible]
  | schedulerStatus status => simp [encodeMessage, decodeMessage, decodeSchedulerStatus_encode wellFormed]
  | dataTransmitSample sample =>
    obtain ⟨counted, timed⟩ := wellFormed
    simp [encodeMessage, decodeMessage, sized, DataTransmitSample.new, counted, timed]

end RoundTrip

section Accepted

variable {value : Bytes}

theorem made_of_decodeNamed {α : Type} {make : UInt16 → String → Except ProtocolError α} {result : α}
    (decoded : decodeNamed make value = .ok result) : ∃ id text, make id text = .ok result := by
  simp only [decodeNamed, checked_iff] at decoded
  obtain ⟨-, -, counted⟩ := decoded
  cases text : Utf8.decode (value.drop 3) with
  | none =>
    rw [text] at counted
    cases counted
  | some name =>
    rw [text] at counted
    exact ⟨_, name, counted⟩

/-- Every decoder ends in the constructor's check, after zeros have become absent. -/
theorem wellFormed_of_decodeMessage {kind : UInt8} {message : ControlMessage}
    (decoded : decodeMessage kind value = .ok message) : message.WellFormed := by
  unfold decodeMessage at decoded
  split at decoded
  all_goals simp only [map_ok_iff, sized, checked_iff, except_bind_iff, Except.ok.injEq,
    reduceCtorEq, PathAssignment.new,
    MissingRange.new, PathCapacity.new, PathLatency.new, PathMtu.new, decodeInternalClockSync, InternalClockSync.new,
    decodeSinkTime, SinkTime.new, ServiceSchedulerPolicy.new, decodePathPressure, PathPressure.new,
    decodeSchedulerStatus, SchedulerStatus.new_iff, DataTransmitSample.new] at decoded
  case h_1 | h_2 =>
    obtain ⟨_, ⟨-, counted, rfl⟩, rfl⟩ := decoded
    exact counted
  case h_3 =>
    obtain ⟨_, made, rfl⟩ := decoded
    obtain ⟨id, text, made⟩ := made_of_decodeNamed made
    obtain ⟨named, rfl⟩ := PathMetadata.new_iff.mp made
    exact named
  case h_4 =>
    obtain ⟨_, ⟨-, checked, rfl⟩, rfl⟩ := decoded
    simpa [ControlMessage.WellFormed] using checked
  case h_5 =>
    obtain ⟨_, ⟨-, checked, rfl⟩, rfl⟩ := decoded
    refine ⟨by simp [optionalU32, optional_ne_zero], ?_⟩
    simpa [imp_iff_not_or] using checked
  case h_6 =>
    obtain ⟨_, ⟨-, checked, rfl⟩, rfl⟩ := decoded
    simpa [ControlMessage.WellFormed] using checked
  case h_7 =>
    obtain ⟨_, ⟨-, mode, -, present, complete, rfl⟩, rfl⟩ := decoded
    obtain ⟨exchange, origin⟩ := not_or.mp present
    refine ⟨exchange, origin, optional_ne_zero _, optional_ne_zero _, ?_⟩
    intro response
    exact not_or.mp fun absent => complete ⟨response, absent⟩
  case h_8 =>
    obtain ⟨_, ⟨-, state, -, present, rfl⟩, rfl⟩ := decoded
    exact not_or.mp present
  case h_9 | h_10 | h_11 =>
    obtain ⟨_, made, rfl⟩ := decoded
    obtain ⟨id, text, made⟩ := made_of_decodeNamed made
    obtain ⟨named, rfl⟩ := ServiceText.new_iff.mp made
    exact named
  case h_12 =>
    obtain ⟨_, ⟨-, user, rfl⟩, rfl⟩ := decoded
    exact UInt16.not_lt.mp user
  case h_13 =>
    obtain ⟨_, ⟨-, possible, rfl⟩, rfl⟩ := decoded
    exact UInt32.not_lt.mp possible
  case h_14 =>
    obtain ⟨_, ⟨_, -, _, -, _, -, -, named, rfl⟩, rfl⟩ := decoded
    exact named
  case h_15 =>
    obtain ⟨_, ⟨-, present, rfl⟩, rfl⟩ := decoded
    exact not_or.mp present

end Accepted

section Bytes

/-- A payload of records, as either encoder writes it. -/
def payloadBytes (records : List Record) : Bytes :=
  CONTROL_PAYLOAD_VERSION :: (toBe 2 records.length ++ packAll records)

variable {records : List Record}

theorem payloadBytes_length : (payloadBytes records).length = 3 + (packAll records).length := by
  simp [payloadBytes]
  omega

theorem payloadBytes_header :
    ¬((payloadBytes records).length < 3 ∨ (payloadBytes records).getD 0 0 ≠ CONTROL_PAYLOAD_VERSION) := by
  rw [payloadBytes_length, not_or, not_not]
  exact ⟨by omega, rfl⟩

theorem payloadBytes_count (short : (payloadBytes records).length ≤ 65535) :
    readBe 2 (payloadBytes records) 1 = records.length := by
  have space := packAll_length_ge records
  rw [payloadBytes_length] at short
  rw [payloadBytes, readBe_cons, readBe_toBe_append, Nat.mod_eq_of_lt (by omega)]

theorem payloadBytes_small (short : (payloadBytes records).length ≤ 65535) :
    ∀ record ∈ records, record.2.length < 65536 := by
  intro record member
  have inside := packAll_length_mem member
  rw [payloadBytes_length] at short
  omega

theorem walk_payloadBytes {σ ε : Type} (error : ε) (step : σ → UInt8 → Bytes → Except ε σ)
    (short : (payloadBytes records).length ≤ 65535) (state : σ) :
    walk error step (payloadBytes records) (readBe 2 (payloadBytes records) 1) 3 state =
      (records.foldlM (fun state record => step state record.1 record.2) state).map
        fun final => ((payloadBytes records).length, final) := by
  rw [payloadBytes_count short]
  exact walk_packAll error step (CONTROL_PAYLOAD_VERSION :: toBe 2 records.length) records
    (payloadBytes_small short) state

end Bytes

namespace ControlPayload

variable {output bytes : Bytes} {messages : List ControlMessage}

theorem encodeFrom_ok (encoded : encodeFrom output messages = .ok bytes) :
    bytes = output ++ packAll (messages.map encodeMessage) ∧ (messages ≠ [] → bytes.length ≤ 65535) := by
  induction messages generalizing output with
  | nil =>
    cases encoded
    exact ⟨by simp [packAll], fun some => absurd rfl some⟩
  | cons message rest ih =>
    obtain ⟨short, encoded⟩ := checked_iff.mp encoded
    obtain ⟨whole, bounded⟩ := ih encoded
    refine ⟨by rw [whole, List.append_assoc]; rfl, fun _ => ?_⟩
    by_cases last : rest = []
    · rw [whole, last]
      simpa [packAll] using short
    · exact bounded last

/-- The decoder's loop reads every record, and keeps the messages in order. -/
theorem collect_iff {records : List Record} {before result : List ControlMessage} :
    records.foldlM (fun state record => collect state record.1 record.2) before = .ok result ↔
      ∃ messages, List.Forall₂ (fun record message => decodeMessage record.1 record.2 = .ok message) records messages ∧
        result = before ++ messages := by
  induction records generalizing before with
  | nil =>
    constructor
    · intro collected
      cases collected
      exact ⟨[], .nil, by simp⟩
    · rintro ⟨messages, read, rfl⟩
      cases read
      simp [pure, Except.pure]
  | cons record rest ih =>
    rw [List.foldlM_cons]
    constructor
    · intro collected
      obtain ⟨next, stepped, collected⟩ := except_bind_iff.mp collected
      obtain ⟨message, read, rfl⟩ := map_ok_iff.mp stepped
      obtain ⟨messages, reads, rfl⟩ := ih.mp collected
      exact ⟨message :: messages, .cons read reads, by simp⟩
    · rintro ⟨messages, reads, rfl⟩
      cases reads with
      | cons read reads =>
        rename_i message messages
        have first : collect before record.1 record.2 = .ok (before ++ [message]) := by
          rw [collect, read]
          rfl
        rw [first]
        exact ih.mpr ⟨messages, reads, by simp⟩

theorem reads_encoded (wellFormed : ∀ message ∈ messages, message.WellFormed) :
    List.Forall₂ (fun record message => decodeMessage record.1 record.2 = .ok message)
      (messages.map encodeMessage) messages := by
  rw [List.forall₂_map_left_iff, List.forall₂_same]
  exact fun message member => decodeMessage_encodeMessage (wellFormed message member)

theorem wellFormed_of_reads {records : List Record}
    (reads : List.Forall₂ (fun record message => decodeMessage record.1 record.2 = .ok message) records messages) :
    ∀ message ∈ messages, message.WellFormed := by
  induction reads with
  | nil => simp
  | cons read _ ih =>
    intro message member
    rcases List.mem_cons.mp member with rfl | later
    · exact wellFormed_of_decodeMessage read
    · exact ih message later

variable {payload : ControlPayload}

theorem encode_ok (encoded : payload.encode = .ok bytes) :
    bytes = payloadBytes (payload.messages.map encodeMessage) ∧ bytes.length ≤ 65535 := by
  obtain ⟨whole, bounded⟩ := encodeFrom_ok encoded
  have same : bytes = payloadBytes (payload.messages.map encodeMessage) := by
    rw [whole, payloadBytes, List.length_map]
    rfl
  refine ⟨same, ?_⟩
  by_cases empty : payload.messages = []
  · rw [whole, empty]
    decide
  · exact bounded empty

theorem decode_payloadBytes {records : List Record} (some : records ≠ [])
    (short : (payloadBytes records).length ≤ 65535) :
    decode (payloadBytes records) = .ok payload ↔
      ∃ messages, List.Forall₂ (fun record message => decodeMessage record.1 record.2 = .ok message) records messages ∧
        payload = ⟨messages⟩ := by
  have counts : readBe 2 (payloadBytes records) 1 ≠ 0 := by
    rw [payloadBytes_count short]
    exact fun none => some (List.length_eq_zero_iff.mp none)
  unfold decode
  rw [if_neg payloadBytes_header]
  simp only [counts, if_false]
  rw [walk_payloadBytes _ _ short]
  cases collected : records.foldlM (fun state record => collect state record.1 record.2) [] with
  | error error =>
    simp only [Except.map, bind, Except.bind, reduceCtorEq, false_iff]
    rintro ⟨messages, reads, -⟩
    rw [collect_iff.mpr ⟨messages, reads, rfl⟩] at collected
    contradiction
  | ok read =>
    obtain ⟨found, reads, same⟩ := collect_iff.mp collected
    rw [List.nil_append] at same
    simp only [Except.map, bind, Except.bind, ne_eq, not_true_eq_false, if_false, Except.ok.injEq]
    constructor
    · rintro rfl
      exact ⟨found, reads, by rw [same]⟩
    · rintro ⟨others, again, rfl⟩
      rw [collect_iff.mpr ⟨others, again, (List.nil_append _).symm⟩] at collected
      exact congrArg ControlPayload.mk (Except.ok.inj collected).symm

theorem decode_encode_iff {payload : ControlPayload} (encoded : payload.encode = .ok bytes) :
    decode bytes = .ok payload ↔ payload.messages ≠ [] ∧ ∀ message ∈ payload.messages, message.WellFormed := by
  obtain ⟨rfl, short⟩ := encode_ok encoded
  obtain ⟨messages⟩ := payload
  have decodes (some : messages ≠ []) :=
    @decode_payloadBytes ⟨messages⟩ (messages.map encodeMessage) (mt List.map_eq_nil_iff.mp some) short
  constructor
  · intro decoded
    have some : messages ≠ [] := by
      rintro rfl
      cases decoded
    refine ⟨some, ?_⟩
    obtain ⟨read, reads, ⟨⟩⟩ := (decodes some).mp decoded
    exact wellFormed_of_reads reads
  · rintro ⟨some, wellFormed⟩
    exact (decodes some).mpr ⟨messages, reads_encoded wellFormed, rfl⟩

/-- A retransmission request and a capacity known in one direction. -/
theorem decode_encode_iff_of_capacity :
    (do decode (← encode ⟨[.missingRange ⟨7, 2⟩, .pathCapacity ⟨1, some 1000, none⟩]⟩)) =
      .ok ⟨[.missingRange ⟨7, 2⟩, .pathCapacity ⟨1, some 1000, none⟩]⟩ := by
  have encoded : encode ⟨[.missingRange ⟨7, 2⟩, .pathCapacity ⟨1, some 1000, none⟩]⟩ =
      .ok ([1, 0, 2, 2, 0, 12, 0, 0, 0, 0, 0, 0, 0, 7, 0, 0, 0, 2] ++
        [4, 0, 18, 0, 1, 0, 0, 0, 0, 0, 0, 3, 232, 0, 0, 0, 0, 0, 0, 0, 0]) := by
    decide
  apply (decode_encode_iff encoded).mpr
  refine ⟨List.cons_ne_nil _ _, ?_⟩
  simp [ControlMessage.WellFormed]

/-- The constructors accept a latency report with a zero measurement, but zero is the sign of an absent one
on the wire: the decoder gives a different report. -/
theorem zero_latency_lost :
    (do ControlPayload.new [.pathLatency (← PathLatency.new 1 (some 0) (some 5) none none)]) =
        .ok ⟨[.pathLatency ⟨1, some 0, some 5, none, none⟩]⟩ ∧
      (do decode (← encode ⟨[.pathLatency ⟨1, some 0, some 5, none, none⟩]⟩)) =
        .ok ⟨[.pathLatency ⟨1, none, some 5, none, none⟩]⟩ := by
  decide

end ControlPayload

end Gatherlink.Protocol
