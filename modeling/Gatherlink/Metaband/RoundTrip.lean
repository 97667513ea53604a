import Gatherlink.Metaband.Payload
import Gatherlink.Protocol.ControlCodec

/-! What the control plane's decoder makes of what its encoder wrote. -/

namespace Gatherlink.Metaband
open Lib Lib.BigEndian Lib.Tlv
open Lib.Exec (except_bind_iff)
open Protocol (ControlType SchedulerStatus CONTROL_PAYLOAD_VERSION checked_iff encodeLenPrefixed)

section Numbers

/-- A number that fits in `width` unsigned bytes. -/
def Fits (width : Nat) (value : Int) : Prop := 0 ≤ value ∧ value < 256 ^ width

/-- An optional number that is written as itself: present ones are positive. -/
def Positive (width : Nat) (value : Option Int) : Prop := ∀ number, value = some number → 0 < number ∧ Fits width number

/-- An optional number that may be present as zero. -/
def Natural (width : Nat) (value : Option Int) : Prop := ∀ number, value = some number → Fits width number

variable {width offset : Nat} {value : Int} {number : Option Int} {bytes rest : Bytes}

theorem toBytes_eq_ok : toBytes width value = .ok bytes ↔ Fits width value ∧ bytes = toBe width value.toNat := by
  rw [toBytes, checked_iff, not_or, Int.not_lt, Int.not_le, Except.ok.injEq, @eq_comm _ bytes]
  rfl

@[simp] theorem appendByte_eq_ok :
    appendByte value = .ok bytes ↔ Fits 1 value ∧ bytes = [UInt8.ofNat value.toNat] := by
  have inside : ¬(value < 0 ∨ 255 < value) ↔ Fits 1 value := by
    unfold Fits
    omega
  rw [appendByte, checked_iff, inside, Except.ok.injEq, @eq_comm _ bytes]

theorem checked_toBytes_iff {refused : Prop} [Decidable refused] {error : EncodeError} :
    ((if refused then .error error else .ok value) >>= toBytes width) = .ok bytes ↔
      (¬refused ∧ Fits width value) ∧ bytes = toBe width value.toNat := by
  rw [and_assoc, ← toBytes_eq_ok]
  by_cases reason : refused <;> simp [reason, bind, Except.bind]

theorem zero_eq_ok : toBytes width 0 = .ok bytes ↔ bytes = toBe width 0 := by
  simp [toBytes_eq_ok, Fits]

theorem optionalNumber_eq_ok {limit : Int} {text : String} (largest : limit + 1 = 256 ^ width) :
    (optionalNumber limit text number >>= toBytes width) = .ok bytes ↔
      Positive width number ∧ bytes = toBe width (number.getD 0).toNat := by
  cases number with
  | none => exact zero_eq_ok.trans (by simp [Positive])
  | some number =>
    rw [optionalNumber, checked_toBytes_iff]
    simp only [Positive, Fits, Option.some.injEq, forall_eq', Option.getD_some]
    refine and_congr_left' ?_
    omega

@[simp] theorem appendU16_eq_ok : appendU16 value = .ok bytes ↔ Fits 2 value ∧ bytes = toBe 2 value.toNat :=
  toBytes_eq_ok

@[simp] theorem appendU32_eq_ok : appendU32 value = .ok bytes ↔ Fits 4 value ∧ bytes = toBe 4 value.toNat :=
  toBytes_eq_ok

@[simp] theorem appendU64_eq_ok : appendU64 value = .ok bytes ↔ Fits 8 value ∧ bytes = toBe 8 value.toNat :=
  toBytes_eq_ok

@[simp] theorem optionalU16_eq_ok : (optionalU16 number >>= appendU16) = .ok bytes ↔
    Positive 2 number ∧ bytes = toBe 2 (number.getD 0).toNat := optionalNumber_eq_ok (by decide)

@[simp] theorem optionalU32_eq_ok : (optionalU32 number >>= appendU32) = .ok bytes ↔
    Positive 4 number ∧ bytes = toBe 4 (number.getD 0).toNat := optionalNumber_eq_ok (by decide)

@[simp] theorem optionalU64_eq_ok : (optionalU64 number >>= appendU64) = .ok bytes ↔
    Positive 8 number ∧ bytes = toBe 8 (number.getD 0).toNat := optionalNumber_eq_ok (by decide)

@[simp] theorem counterU32_eq_ok :
    (counterU32 value >>= appendU32) = .ok bytes ↔ Fits 4 value ∧ bytes = toBe 4 value.toNat := by
  refine checked_toBytes_iff.trans (and_congr_left' ?_)
  unfold Fits U32_MAX
  omega

@[simp] theorem optionalMetricU32_eq_ok :
    (optionalMetricU32 number >>= appendU32) = .ok bytes ↔
      Natural 4 number ∧ bytes = toBe 4 (number.getD 0).toNat := by
  cases number with
  | none =>
    change toBytes 4 0 = .ok bytes ↔ _
    simp [zero_eq_ok, Natural]
  | some number =>
    refine checked_toBytes_iff.trans (and_congr_left' ?_)
    simp only [Natural, Fits, U32_MAX, Option.some.injEq, forall_eq']
    omega

@[simp] theorem readInt_front (fits : Fits width value) : readInt width (toBe width value.toNat ++ rest) 0 = value := by
  have small : value.toNat < 256 ^ width := by
    have bound := fits.2
    zify
    rw [Int.toNat_of_nonneg fits.1]
    exact_mod_cast bound
  rw [readInt, readBe_toBe_append, Nat.mod_eq_of_lt small, Int.toNat_of_nonneg fits.1]

@[simp] theorem readInt_last (fits : Fits width value) : readInt width (toBe width value.toNat) 0 = value := by
  simpa using @readInt_front width value [] fits

@[simp] theorem readInt_past {front : Bytes} (past : front.length ≤ offset) :
    readInt width (front ++ rest) offset = readInt width rest (offset - front.length) := by
  rw [readInt, readInt, Protocol.readBe_past past]

@[simp] theorem readInt_behind {byte : UInt8} (behind : 0 < offset) :
    readInt width (byte :: rest) offset = readInt width rest (offset - 1) :=
  @readInt_past width offset rest [byte] behind

theorem byte_toNat (fits : Fits 1 value) : ((UInt8.ofNat value.toNat).toNat : Int) = value := by
  have small : value.toNat < 2 ^ 8 := by
    obtain ⟨low, high⟩ := fits
    omega
  rw [UInt8.toNat_ofNat_of_lt' small, Int.toNat_of_nonneg fits.1]

theorem Positive.fits (positive : Positive width number) : Fits width (number.getD 0) := by
  cases number with
  | none => exact ⟨le_rfl, by simp⟩
  | some number => exact (positive number rfl).2

theorem Positive.decoded (positive : Positive width number) : decodeOptional (number.getD 0) = number := by
  cases number with
  | none => rfl
  | some number => exact if_neg (positive number rfl).1.ne'

/-- What is left of an optional number if zero stands for an absent one. -/
def nonzero (number : Option Int) : Option Int := if number = some 0 then none else number

theorem nonzero_eq_self : nonzero number = number ↔ number ≠ some 0 := by
  unfold nonzero
  by_cases zero : number = some 0 <;> simp [zero]

theorem Natural.fits (natural : Natural width number) : Fits width (number.getD 0) := by
  cases number with
  | none => exact ⟨le_rfl, by simp⟩
  | some number => exact natural number rfl

theorem decodeOptional_getD (number : Option Int) : decodeOptional (number.getD 0) = nonzero number := by
  cases number with
  | none => rfl
  | some number => by_cases zero : number = 0 <;> simp [decodeOptional, nonzero, zero]

end Numbers

section Fields

/-- The fields were written one after the other as `value`. -/
def Wrote (fields : List (Except EncodeError Bytes)) (value : Bytes) : Prop :=
  ∃ parts, fields.mapM id = .ok parts ∧ value = parts.flatten

variable {field : Except EncodeError Bytes} {fields : List (Except EncodeError Bytes)} {value bytes : Bytes}

@[simp] theorem wrote_nil : Wrote [] value ↔ value = [] := by
  constructor
  · rintro ⟨parts, written, rfl⟩
    cases written
    rfl
  · rintro rfl
    exact ⟨[], rfl, rfl⟩

@[simp] theorem wrote_cons :
    Wrote (field :: fields) value ↔ ∃ first, field = .ok first ∧ ∃ rest, Wrote fields rest ∧ value = first ++ rest := by
  constructor
  · rintro ⟨parts, written, rfl⟩
    rw [List.mapM_cons] at written
    obtain ⟨first, wrote, written⟩ := except_bind_iff.mp written
    obtain ⟨later, others, written⟩ := except_bind_iff.mp written
    cases written
    exact ⟨first, wrote, later.flatten, ⟨later, others, rfl⟩, rfl⟩
  · rintro ⟨first, rfl, rest, ⟨parts, written, rfl⟩, rfl⟩
    refine ⟨first :: parts, ?_, rfl⟩
    rw [List.mapM_cons, written]
    rfl

theorem message_eq_ok {kind : ControlType} {length : Nat} :
    message kind length fields = .ok bytes ↔
      ∃ value, Wrote fields value ∧ bytes = kind.toU8 :: (toBe 2 length ++ value) := by
  constructor
  · intro written
    obtain ⟨parts, wrote, written⟩ := except_bind_iff.mp written
    cases written
    exact ⟨parts.flatten, ⟨parts, wrote, rfl⟩, rfl⟩
  · rintro ⟨value, ⟨parts, wrote, rfl⟩, rfl⟩
    rw [message, wrote]
    rfl

end Fields

section Facts

/-- A clock message that is a request, or a response with both of the responder's readings. -/
def InternalClockSyncMessage.Complete (sync : InternalClockSyncMessage) : Prop :=
  sync.mode = 1 ∨ sync.mode = 2 ∧ sync.receiveUs ≠ none ∧ sync.transmitUs ≠ none

instance (sync : InternalClockSyncMessage) : Decidable sync.Complete := inferInstanceAs (Decidable (_ ∨ _))

namespace PathLatencyStats

def metrics (stats : PathLatencyStats) : List (Option Int) :=
  [stats.rttUs, stats.clockErrorUs, stats.txJitterUs, stats.rxJitterUs, stats.txP95Us, stats.rxP95Us]

/-- The statistics after encoding and decoding. -/
def settled (stats : PathLatencyStats) : PathLatencyStats :=
  ⟨nonzero stats.rttUs, nonzero stats.clockErrorUs, nonzero stats.txJitterUs, nonzero stats.rxJitterUs,
    nonzero stats.txP95Us, nonzero stats.rxP95Us⟩

variable {stats : PathLatencyStats}

theorem settled_eq_self : stats.settled = stats ↔ some 0 ∉ stats.metrics := by
  obtain ⟨rtt, error, txJitter, rxJitter, txP95, rxP95⟩ := stats
  simp [settled, mk.injEq, nonzero_eq_self, metrics, ne_comm]

end PathLatencyStats

/-- What a message is after encoding and decoding: a statistic of zero is lost, and a clock message that is
neither a request nor a complete response is refused. -/
def Fact.received : Fact → Option Fact
  | .pathLatencyStats path stats => some (.pathLatencyStats path stats.settled)
  | .internalClockSync sync => if sync.Complete then some (.internalClockSync sync) else none
  | fact => some fact

/-- The record that was written for a fact, and what the decoder reads from it. -/
def Sent (fact : Fact) (record : Record) : Prop :=
  record.2.length < 65536 ∧ decodeFact record.1 record.2 = fact.received.map some

def Arrives (fact : Fact) (bytes : Bytes) : Prop := ∃ record, bytes = pack record ∧ Sent fact record

variable {bytes : Bytes} {fact : Fact} {path : Int} {text error : String} {status : SchedulerStatus}

theorem sent_of_message {length : Nat} {fields : List (Except EncodeError Bytes)}
    (written : message fact.kind length fields = .ok bytes) (short : length < 65536)
    (reads : ∀ value, Wrote fields value →
      value.length = length ∧ decodeFact fact.kind.toU8 value = fact.received.map some) : Arrives fact bytes := by
  obtain ⟨value, wrote, rfl⟩ := message_eq_ok.mp written
  obtain ⟨size, read⟩ := reads value wrote
  exact ⟨(fact.kind.toU8, value), by rw [pack, size], by rw [size]; exact short, read⟩

theorem sent_pathCapacity {capacity : PathCapacity} (encoded : encodePathCapacity path capacity = .ok bytes) :
    Arrives (.pathCapacity path capacity) bytes := by
  refine sent_of_message (checked_iff.mp encoded).2 (by decide) fun value wrote => ?_
  simp [and_assoc] at wrote
  obtain ⟨path, tx, rx, rfl⟩ := wrote
  simp [Fact.kind, Fact.received, decodeFact, decodePathCapacityValue, exactly, path, tx.fits, rx.fits, tx.decoded,
    rx.decoded]

theorem sent_pathLatency {latency : PathLatency} (encoded : encodePathLatency path latency = .ok bytes) :
    Arrives (.pathLatency path latency) bytes := by
  refine sent_of_message (checked_iff.mp encoded).2 (by decide) fun value wrote => ?_
  simp [and_assoc] at wrote
  obtain ⟨path, txCurrent, txMean, rxCurrent, rxMean, rfl⟩ := wrote
  simp [Fact.kind, Fact.received, decodeFact, decodePathLatencyValue, exactly, path, txCurrent.fits, txMean.fits,
    rxCurrent.fits, rxMean.fits, txCurrent.decoded, txMean.decoded, rxCurrent.decoded, rxMean.decoded]

theorem sent_pathLatencyStats (encoded : encodePathLatencyStats path stats = .ok bytes) :
    Arrives (.pathLatencyStats path stats) bytes := by
  refine sent_of_message (checked_iff.mp encoded).2 (by decide) fun value wrote => ?_
  simp [and_assoc] at wrote
  obtain ⟨path, rtt, error, txJitter, rxJitter, txP95, rxP95, rfl⟩ := wrote
  simp [Fact.kind, Fact.received, decodeFact, decodePathLatencyStatsValue, exactly, path, rtt.fits, error.fits,
    txJitter.fits, rxJitter.fits, txP95.fits, rxP95.fits, decodeOptional_getD, PathLatencyStats.settled]

theorem sent_pathMtu {mtu : PathMtu} (encoded : encodePathMtu path mtu = .ok bytes) :
    Arrives (.pathMtu path mtu) bytes := by
  obtain ⟨inside, written⟩ := checked_iff.mp encoded
  have valid : mtu.Valid := by
    by_contra bad
    exact inside (.inr (.inr bad))
  refine sent_of_message written (by decide) fun value wrote => ?_
  simp [and_assoc] at wrote
  obtain ⟨path, txLink, txFrame, rxLink, rxFrame, rfl⟩ := wrote
  simp [Fact.kind, Fact.received, decodeFact, decodePathMtuValue, exactly, path, txLink.fits, txFrame.fits, rxLink.fits,
    rxFrame.fits, txLink.decoded, txFrame.decoded, rxLink.decoded, rxFrame.decoded, valid]

theorem sent_pathPressure {pressure : PathPressure} (encoded : encodePathPressure path pressure = .ok bytes) :
    Arrives (.pathPressure path pressure) bytes := by
  obtain ⟨possible, written⟩ := checked_iff.mp (checked_iff.mp encoded).2
  refine sent_of_message written (by decide) fun value wrote => ?_
  simp [and_assoc] at wrote
  obtain ⟨path, loss, packets, depth, age, failures, gaps, reorder, drops, flight, flightBytes, predicted, buffered,
    oldest, observed, rfl⟩ := wrote
  simp [Fact.kind, Fact.received, decodeFact, decodePathPressureValue, exactly, path, loss, packets, depth, age,
    failures, gaps, reorder, drops, flight, flightBytes, predicted, buffered, oldest, observed, Int.not_lt.mp possible]

theorem sent_dataTransmitSample {sample : DataTransmitSample} (encoded : encodeDataTransmitSample sample = .ok bytes) :
    Arrives (.dataTransmitSample sample) bytes := by
  obtain ⟨inside, written⟩ := checked_iff.mp encoded
  have counted : 0 < sample.packetCount := by omega
  have timed : 0 < sample.transmitUs := by omega
  refine sent_of_message written (by decide) fun value wrote => ?_
  simp [and_assoc] at wrote
  obtain ⟨path, first, count, transmit, rfl⟩ := wrote
  simp [Fact.kind, Fact.received, decodeFact, decodeDataTransmitSampleValue, exactly, path, first, count, transmit,
    counted, timed]

theorem sent_sinkTime {report : SinkTimeMessage} (encoded : encodeSinkTime report = .ok bytes) :
    Arrives (.sinkTime report) bytes := by
  obtain ⟨inside, written⟩ := checked_iff.mp encoded
  simp only [not_or, not_not] at inside
  obtain ⟨-, -, unix, internal, state⟩ := inside
  refine sent_of_message written (by decide) fun value wrote => ?_
  simp [and_assoc] at wrote
  obtain ⟨path, unixFits, internalFits, stateFits, rfl⟩ := wrote
  have code := byte_toNat stateFits
  generalize UInt8.ofNat report.ntpState.toNat = byte at code
  simp only [List.mem_cons, List.not_mem_nil, or_false] at state
  simp [Fact.kind, Fact.received, decodeFact, decodeSinkTimeValue, exactly, path, unixFits, internalFits, code, unix,
    internal]
  omega

theorem sent_internalClockSync (encoded : encodeInternalClockSync sync = .ok bytes) :
    Arrives (.internalClockSync sync) bytes := by
  obtain ⟨inside, written⟩ := checked_iff.mp encoded
  refine sent_of_message written (by decide) fun value wrote => ?_
  simp [and_assoc] at wrote
  obtain ⟨exchangeFits, path, mode, originFits, receive, transmit, rfl⟩ := wrote
  have code := byte_toNat mode
  generalize UInt8.ofNat sync.mode.toNat = byte at code
  have started : ¬(sync.exchangeId ≤ 0 ∨ sync.originUs ≤ 0) := by omega
  simp [Fact.kind, Fact.received, decodeFact, decodeInternalClockSyncValue, exactly, exchangeFits, path, code,
    originFits, receive.fits, transmit.fits, receive.decoded, transmit.decoded]
  rw [if_neg started]
  have complete_iff : sync.Complete ↔ ¬(¬sync.mode = 1 ∧ ¬sync.mode = 2) ∧
      ¬(sync.mode = 2 ∧ (sync.receiveUs = none ∨ sync.transmitUs = none)) := by
    unfold InternalClockSyncMessage.Complete
    by_cases request : sync.mode = 1
    · simp [request]
    · simp [request, not_or]
      tauto
  by_cases unknown : ¬sync.mode = 1 ∧ ¬sync.mode = 2
  · simp [complete_iff, unknown]
  · by_cases unanswered : sync.mode = 2 ∧ (sync.receiveUs = none ∨ sync.transmitUs = none) <;>
      simp [complete_iff, unknown, unanswered]

theorem sent_serviceSchedulerPolicy {service : Int} {policy : ServiceSchedulerPolicy}
    (encoded : encodeServiceSchedulerPolicy service policy = .ok bytes) :
    Arrives (.serviceSchedulerPolicy service policy) bytes := by
  obtain ⟨inside, written⟩ := checked_iff.mp encoded
  have user : USER_SERVICE_ID_START ≤ service := by omega
  have choice : policy.pathPolicy ≤ 2 := by omega
  refine sent_of_message written (by decide) fun value wrote => ?_
  simp [and_assoc] at wrote
  obtain ⟨serviceFits, fanout, below, idle, hold, run, path, rfl⟩ := wrote
  have code := byte_toNat path
  generalize UInt8.ofNat policy.pathPolicy.toNat = byte at code
  have known : byte.toNat ≤ 2 := by omega
  simp [Fact.kind, Fact.received, decodeFact, decodeServiceSchedulerPolicyValue, exactly, serviceFits, fanout, below,
    idle, hold, run, code, user, known]

theorem decodeTextValue_wrote {lowest id : Int} {value : Bytes} (low : lowest ≤ id) (some : text ≠ "")
    (wrote : Wrote [appendU16 id, appendByte (Utf8.encode text).length, .ok (Utf8.encode text)] value) :
    value.length = 3 + (Utf8.encode text).length ∧ decodeTextValue lowest value = .some (id, text) := by
  simp [and_assoc] at wrote
  obtain ⟨idFits, size, rfl⟩ := wrote
  have code := byte_toNat size
  rw [Int.toNat_natCast] at code
  generalize UInt8.ofNat (Utf8.encode text).length = byte at code
  have counted : byte.toNat = (Utf8.encode text).length := by exact_mod_cast code
  have total : (toBe 2 id.toNat ++ byte :: Utf8.encode text).length = 3 + (Utf8.encode text).length := by
    simp
    omega
  have body : (toBe 2 id.toNat ++ byte :: Utf8.encode text).drop 3 = Utf8.encode text := by simp [List.drop_append]
  refine ⟨total, ?_⟩
  unfold decodeTextValue
  rw [if_neg (by omega), if_neg, body]
  · simp [idFits, some]
  · simp [idFits, low, counted]
    omega

theorem sent_text {lowest id : Int} (encoded : encodeText fact.kind lowest error id text = .ok bytes)
    (reads : ∀ value, decodeTextValue lowest value = some (id, text) →
      decodeFact fact.kind.toU8 value = fact.received.map some) : Arrives fact bytes := by
  obtain ⟨inside, written⟩ := checked_iff.mp encoded
  simp only [not_or, List.isEmpty_iff, Int.not_lt, Nat.not_lt, Utf8.encode_eq_nil] at inside
  obtain ⟨low, -, some, short⟩ := inside
  refine sent_of_message written (by omega) fun value wrote => ?_
  obtain ⟨size, read⟩ := decodeTextValue_wrote low some wrote
  exact ⟨size, reads value read⟩

theorem decodeWord_encodeWord {table : List (Option String)} {word : Option String} {code : Int}
    (encoded : encodeWord (none :: table) error word = .ok code) {byte : UInt8} (same : (byte.toNat : Int) = code) :
    decodeWord (none :: table) byte = word ∧ (word = none → byte = 0) := by
  unfold encodeWord at encoded
  split at encoded
  · contradiction
  · rename_i place found
    obtain rfl := Except.ok.inj encoded
    have position : byte.toNat = place := by exact_mod_cast same
    obtain ⟨inside, held, earlier⟩ := List.idxOf?_eq_some_iff.mp found
    rw [decodeWord, position, List.getElem?_eq_getElem inside, held]
    refine ⟨rfl, ?_⟩
    rintro rfl
    -- the absent word stands at place 0, and the code is the first place of the word
    rcases Nat.eq_zero_or_pos place with first | later
    · exact UInt8.toNat_inj.mp (position.trans first)
    · exact absurd rfl (earlier 0 later)

theorem sent_pathLatencyQuality {quality : PathLatencyQuality}
    (encoded : encodePathLatencyQuality path quality = .ok bytes) :
    Arrives (.pathLatencyQuality path quality) bytes := by
  refine sent_of_message (checked_iff.mp encoded).2 (by decide) fun value wrote => ?_
  simp only [wrote_cons, wrote_nil, appendU16_eq_ok, and_assoc, exists_and_left, exists_eq_left, exists_eq_right',
    List.append_nil] at wrote
  obtain ⟨path, rest, ⟨source, wroteSource, confidence, wroteConfidence, rfl⟩, rfl⟩ := wrote
  obtain ⟨sourceCode, sourceKnown, wroteSource⟩ := except_bind_iff.mp wroteSource
  obtain ⟨confidenceCode, confidenceKnown, wroteConfidence⟩ := except_bind_iff.mp wroteConfidence
  obtain ⟨sourceFits, rfl⟩ := appendByte_eq_ok.mp wroteSource
  obtain ⟨confidenceFits, rfl⟩ := appendByte_eq_ok.mp wroteConfidence
  obtain ⟨sourceRead, sourceZero⟩ := decodeWord_encodeWord sourceKnown (byte_toNat sourceFits)
  obtain ⟨confidenceRead, confidenceZero⟩ := decodeWord_encodeWord confidenceKnown (byte_toNat confidenceFits)
  generalize UInt8.ofNat sourceCode.toNat = one at *
  generalize UInt8.ofNat confidenceCode.toNat = two at *
  have sourceRead : decodeLatencySource one = quality.source := sourceRead
  have confidenceRead : decodeLatencyConfidence two = quality.confidence := confidenceRead
  simp [Fact.kind, Fact.received, decodeFact, decodePathLatencyQualityValue, exactly, path, sourceRead, confidenceRead]
  exact ⟨sourceZero, confidenceZero⟩

theorem readText_encode (size : (Utf8.encode text).length ∈ Finset.Icc 1 255) (before rest : Bytes) :
    readText (before ++ (encodeLenPrefixed text ++ rest)) before.length =
      some (text, before.length + (encodeLenPrefixed text).length) := by
  obtain ⟨some, short⟩ := Finset.mem_Icc.mp size
  obtain ⟨total, counted, body⟩ := Protocol.encodeLenPrefixed_slice short before rest
  unfold readText
  rw [if_neg (by omega)]
  simp only [counted, body, Utf8.decode_encode]
  rw [if_neg (by omega), Protocol.encodeLenPrefixed_length, ← Nat.add_assoc]

theorem decodeSchedulerStatusValue_encode
    (sizes : ∀ mode ∈ [status.configuredMode, status.effectiveMode, status.rustMode],
      (Utf8.encode mode).length ∈ Finset.Icc 1 255) :
    decodeSchedulerStatusValue (encodeLenPrefixed status.configuredMode ++
      (encodeLenPrefixed status.effectiveMode ++ encodeLenPrefixed status.rustMode)) = some status := by
  obtain ⟨configured, effective, rust⟩ := status
  have first := readText_encode (sizes configured (by simp)) []
    (encodeLenPrefixed effective ++ encodeLenPrefixed rust)
  have second := readText_encode (sizes effective (by simp)) (encodeLenPrefixed configured)
    (encodeLenPrefixed rust)
  have third := readText_encode (sizes rust (by simp))
    (encodeLenPrefixed configured ++ encodeLenPrefixed effective) []
  simp only [List.nil_append, List.append_nil, List.append_assoc, List.length_append, List.length_nil, Nat.zero_add]
    at first second third
  simp only [decodeSchedulerStatusValue, first, second, third, bind, Option.bind]
  rw [if_neg (by simp; omega)]

theorem sent_schedulerStatus (encoded : encodeSchedulerStatus status = .ok bytes) :
    Arrives (.schedulerStatus status) bytes := by
  obtain ⟨inside, written⟩ := checked_iff.mp encoded
  have sizes : ∀ mode ∈ [status.configuredMode, status.effectiveMode, status.rustMode],
      (Utf8.encode mode).length ∈ Finset.Icc 1 63 := by
    intro mode member
    by_contra bad
    refine inside (List.any_eq_true.mpr ⟨Utf8.encode mode, List.mem_map_of_mem member, ?_⟩)
    rw [Finset.mem_Icc, not_and_or, Nat.not_le, Nat.not_le] at bad
    simpa [List.isEmpty_iff, ← List.length_eq_zero_iff] using bad
  have configured := Finset.mem_Icc.mp (sizes status.configuredMode (by simp))
  have effective := Finset.mem_Icc.mp (sizes status.effectiveMode (by simp))
  have rust := Finset.mem_Icc.mp (sizes status.rustMode (by simp))
  refine sent_of_message written ?_ fun value wrote => ?_
  · simp
    omega
  · simp only [List.flatMap_cons, List.flatMap_nil, List.cons_append, List.nil_append, wrote_cons, wrote_nil,
      appendByte_eq_ok, and_assoc, exists_and_left, Except.ok.injEq, exists_eq_left, exists_eq_left', List.append_nil,
      Int.toNat_natCast] at wrote
    obtain ⟨-, -, -, rfl⟩ := wrote
    have read := decodeSchedulerStatusValue_encode fun mode member =>
      Finset.Icc_subset_Icc_right (by decide) (sizes mode member)
    simp only [encodeLenPrefixed, List.cons_append] at read
    refine ⟨?_, ?_⟩
    · simp
      omega
    · simp [Fact.kind, Fact.received, decodeFact, read]

theorem sent_of_encodeFact (encoded : encodeFact fact = .ok bytes) : Arrives fact bytes := by
  cases fact with
  | pathMetadata | serviceMetadata | serviceEndpointAssertion | serviceDisable =>
    refine sent_text encoded fun value read => ?_
    simp [Fact.kind, Fact.received, decodeFact, decodePathMetadataValue, decodeServiceMetadataValue,
      decodeServiceEndpointAssertionValue, decodeServiceDisableValue, read]
  | serviceSchedulerPolicy service policy => exact sent_serviceSchedulerPolicy encoded
  | pathCapacity path capacity => exact sent_pathCapacity encoded
  | pathLatency path latency => exact sent_pathLatency encoded
  | pathLatencyQuality path quality => exact sent_pathLatencyQuality encoded
  | pathLatencyStats path stats => exact sent_pathLatencyStats encoded
  | pathMtu path mtu => exact sent_pathMtu encoded
  | pathPressure path pressure => exact sent_pathPressure encoded
  | schedulerStatus status => exact sent_schedulerStatus encoded
  | dataTransmitSample sample => exact sent_dataTransmitSample encoded
  | internalClockSync sync => exact sent_internalClockSync encoded
  | sinkTime report => exact sent_sinkTime encoded

end Facts

section Payload

variable {facts : List Fact} {records : List Record}

theorem sent_of_mapM {messages : List Bytes} (encoded : facts.mapM encodeFact = .ok messages) :
    ∃ records, messages.flatten = packAll records ∧ List.Forall₂ Sent facts records := by
  induction facts generalizing messages with
  | nil =>
    cases encoded
    exact ⟨[], rfl, .nil⟩
  | cons fact rest ih =>
    rw [List.mapM_cons] at encoded
    obtain ⟨first, wrote, encoded⟩ := except_bind_iff.mp encoded
    obtain ⟨later, others, encoded⟩ := except_bind_iff.mp encoded
    cases encoded
    obtain ⟨record, rfl, sent⟩ := sent_of_encodeFact wrote
    obtain ⟨records, whole, all⟩ := ih others
    exact ⟨record :: records, by rw [List.flatten_cons, whole, packAll_cons], .cons sent all⟩

theorem gather_sent (sent : List.Forall₂ Sent facts records) (frame : ControlFrame) :
    records.foldlM (fun frame record => gather frame record.1 record.2) frame =
      match facts.mapM Fact.received with
      | none => .error ()
      | some read => .ok (read.foldl .record frame) := by
  induction sent generalizing frame with
  | nil => rfl
  | cons first _ ih =>
    rename_i fact record facts records _
    have step : gather frame record.1 record.2 =
        match fact.received with
        | none => .error ()
        | some read => .ok (frame.record read) := by
      rw [gather, first.2]
      cases fact.received <;> rfl
    rw [List.foldlM_cons, List.mapM_cons, step]
    cases fact.received with
    | none => rfl
    | some read =>
      refine (ih (frame.record read)).trans ?_
      cases facts.mapM Fact.received <;> rfl

theorem decodeControlPayload_payloadBytes (short : (Protocol.payloadBytes records).length ≤ 65535) :
    decodeControlPayload (Protocol.payloadBytes records) =
      (records.foldlM (fun frame record => gather frame record.1 record.2) ControlFacts.empty).toOption := by
  unfold decodeControlPayload
  rw [if_neg Protocol.payloadBytes_header, Protocol.walk_payloadBytes _ _ short]
  cases records.foldlM (fun frame record => gather frame record.1 record.2) ControlFacts.empty with
  | error error => rfl
  | ok frame => simp [Except.map, Except.toOption]

section Record

variable {α δ : Type}

theorem foldl_record (make : α → Fact) (get : ControlFrame → δ) (put : ControlFrame → δ → ControlFrame)
    (step : δ → α → δ) (items : List α) (frame : ControlFrame)
    (acts : ∀ frame item, frame.record (make item) = put frame (step (get frame) item) := by intros; rfl)
    (get_put : ∀ frame part, get (put frame part) = part := by intros; rfl)
    (put_put : ∀ frame part other, put (put frame part) other = put frame other := by intros; rfl)
    (put_get : ∀ frame, put frame (get frame) = frame := by intros; rfl) :
    (items.map make).foldl ControlFacts.record frame = put frame (items.foldl step (get frame)) := by
  rw [List.foldl_map]
  exact foldl_part get put step acts get_put put_put put_get items frame

theorem foldl_record_entries (make : Int → α → Fact) (get : ControlFrame → Dict Int α)
    (put : ControlFrame → Dict Int α → ControlFrame) (items : List (Int × α)) (frame : ControlFrame)
    (acts : ∀ frame key value, frame.record (make key value) = put frame ((get frame).set key value) := by intros; rfl)
    (get_put : ∀ frame part, get (put frame part) = part := by intros; rfl)
    (put_put : ∀ frame part other, put (put frame part) other = put frame other := by intros; rfl)
    (put_get : ∀ frame, put frame (get frame) = frame := by intros; rfl) :
    (items.map fun entry => make entry.1 entry.2).foldl ControlFacts.record frame =
      put frame (items.foldl (fun dict entry => dict.set entry.1 entry.2) (get frame)) :=
  foldl_record _ get put _ items frame (fun _ _ => acts ..) get_put put_put put_get

theorem foldl_append_singleton (before items : List α) :
    items.foldl (fun built item => built ++ [item]) before = before ++ items := by
  induction items generalizing before with
  | nil => simp
  | cons item rest ih => simp [ih]

theorem record_facts (frame : ControlFrame) : frame.facts.foldl .record .empty = frame := by
  simp only [ControlFacts.facts, List.flatten_cons, List.flatten_nil, List.append_nil, List.foldl_append]
  rw [foldl_record_entries .pathMetadata (·.pathMetadata) fun frame dict => { frame with pathMetadata := dict },
    foldl_record_entries .serviceMetadata (·.serviceMetadata) fun frame dict => { frame with serviceMetadata := dict },
    foldl_record_entries .serviceEndpointAssertion (·.serviceEndpointAssertions)
      fun frame dict => { frame with serviceEndpointAssertions := dict },
    foldl_record_entries .serviceDisable (·.serviceDisables) fun frame dict => { frame with serviceDisables := dict },
    foldl_record_entries .serviceSchedulerPolicy (·.serviceSchedulerPolicies)
      fun frame dict => { frame with serviceSchedulerPolicies := dict },
    foldl_record_entries .pathCapacity (·.pathCapacityBps) fun frame dict => { frame with pathCapacityBps := dict },
    foldl_record_entries .pathLatency (·.pathLatencyUs) fun frame dict => { frame with pathLatencyUs := dict },
    foldl_record_entries .pathLatencyQuality (·.pathLatencyQuality)
      fun frame dict => { frame with pathLatencyQuality := dict },
    foldl_record_entries .pathLatencyStats (·.pathLatencyStats) fun frame dict =>
      { frame with pathLatencyStats := dict },
    foldl_record_entries .pathMtu (·.pathMtu) fun frame dict => { frame with pathMtu := dict },
    foldl_record_entries .pathPressure (·.pathPressure) fun frame dict => { frame with pathPressure := dict },
    foldl_record .schedulerStatus (·.schedulerStatus) (fun frame status => { frame with schedulerStatus := status })
      fun _ status => some status,
    foldl_record .dataTransmitSample (·.dataTransmitSamples)
      (fun frame samples => { frame with dataTransmitSamples := samples }) fun samples sample => samples ++ [sample],
    foldl_record .internalClockSync (·.internalClockSync) (fun frame syncs => { frame with internalClockSync := syncs })
      fun syncs sync => syncs ++ [sync],
    foldl_record .sinkTime (·.sinkTime) (fun frame reports => { frame with sinkTime := reports })
      fun reports report => reports ++ [report]]
  have status : frame.schedulerStatus.toList.foldl (fun _ status => some status) none = frame.schedulerStatus := by
    cases frame.schedulerStatus <;> rfl
  simp only [ControlFacts.empty, Dict.foldl_set_entries, foldl_append_singleton, List.nil_append, status]

end Record

variable {arguments : Arguments} {bytes : Bytes}

theorem encoded_records (encoded : encodeControlPayload arguments = .ok bytes) :
    ∃ records, records ≠ [] ∧ bytes = Protocol.payloadBytes records ∧ bytes.length ≤ 65535 ∧
      List.Forall₂ Sent arguments.frame.facts records := by
  obtain ⟨counted, encoded⟩ := checked_iff.mp encoded
  obtain ⟨count, wroteCount, encoded⟩ := except_bind_iff.mp encoded
  obtain ⟨messages, wrote, encoded⟩ := except_bind_iff.mp encoded
  obtain ⟨short, encoded⟩ := checked_iff.mp encoded
  obtain ⟨records, whole, sent⟩ := sent_of_mapM wrote
  obtain ⟨-, rfl⟩ := appendU16_eq_ok.mp wroteCount
  rw [Except.ok.inj encoded] at short
  refine ⟨records, ?_, ?_, Nat.not_lt.mp short, sent⟩
  · rintro rfl
    exact counted sent.length_eq
  · rw [← Except.ok.inj encoded, whole, Protocol.payloadBytes, sent.length_eq]
    rfl

/-- What was encoded arrives, message by message. -/
theorem decode_encoded (encoded : encodeControlPayload arguments = .ok bytes) :
    decodeControlPayload bytes =
      (arguments.frame.facts.mapM Fact.received).map fun read => read.foldl .record .empty := by
  obtain ⟨records, -, rfl, short, sent⟩ := encoded_records encoded
  rw [decodeControlPayload_payloadBytes short, gather_sent sent]
  cases arguments.frame.facts.mapM Fact.received <;> rfl

/-- A message as it arrives, if it is not refused. -/
def Fact.settled : Fact → Fact
  | .pathLatencyStats path stats => .pathLatencyStats path stats.settled
  | fact => fact

theorem Fact.settled_of_received {fact read : Fact} (received : fact.received = some read) : read = fact.settled := by
  cases fact with
  | internalClockSync sync =>
    simp only [Fact.received] at received
    split at received
    · exact (Option.some.inj received).symm
    · contradiction
  | _ => exact (Option.some.inj received).symm

theorem settled_of_mapM {read : List Fact} (received : facts.mapM Fact.received = some read) :
    read = facts.map Fact.settled ∧ ∀ fact ∈ facts, fact.received ≠ none := by
  induction facts generalizing read with
  | nil =>
    obtain rfl := Option.some.inj received
    exact ⟨rfl, by simp⟩
  | cons fact rest ih =>
    rw [List.mapM_cons] at received
    obtain ⟨one, first, received⟩ := Option.bind_eq_some_iff.mp received
    obtain ⟨others, later, received⟩ := Option.bind_eq_some_iff.mp received
    obtain rfl := Option.some.inj received
    obtain ⟨rfl, known⟩ := ih later
    refine ⟨by rw [List.map_cons, Fact.settled_of_received first], List.forall_mem_cons.mpr ⟨?_, known⟩⟩
    rw [first]
    exact Option.some_ne_none one

theorem mapM_received (whole : ∀ fact ∈ facts, fact.received = some fact) : facts.mapM Fact.received = some facts := by
  induction facts with
  | nil => rfl
  | cons fact rest ih =>
    rw [List.forall_mem_cons] at whole
    rw [List.mapM_cons, whole.1, ih whole.2]
    rfl

theorem settled_facts (frame : ControlFrame) :
    frame.facts.map Fact.settled =
      ControlFacts.facts { frame with pathLatencyStats := frame.pathLatencyStats.mapValues .settled } := by
  simp [ControlFacts.facts, Fact.settled, Dict.mapValues, Function.comp_def]

theorem mem_facts_sync {frame : ControlFrame} :
    Fact.internalClockSync sync ∈ frame.facts ↔ sync ∈ frame.internalClockSync := by
  simp [ControlFacts.facts]

theorem mem_facts_stats {frame : ControlFrame} {path : Int} :
    Fact.pathLatencyStats path stats ∈ frame.facts ↔ (path, stats) ∈ frame.pathLatencyStats.entries := by
  simp [ControlFacts.facts]

/-- The decoder returns what was encoded, exactly if every clock message is a request or a complete response
and no latency statistic is zero. -/
theorem decode_encodeControlPayload_iff {arguments : Arguments} {bytes : Bytes}
    (encoded : encodeControlPayload arguments = .ok bytes) :
    decodeControlPayload bytes = some arguments.frame ↔
      (∀ sync ∈ arguments.internalClockSync, sync.Complete) ∧
        ∀ entry ∈ arguments.pathLatencyStats.entries, some 0 ∉ entry.2.metrics := by
  rw [decode_encoded encoded]
  constructor
  · intro decoded
    obtain ⟨read, received, recorded⟩ := Option.map_eq_some_iff.mp decoded
    obtain ⟨rfl, known⟩ := settled_of_mapM received
    rw [settled_facts, record_facts] at recorded
    refine ⟨?_, ?_⟩
    · intro sync member
      have sent : Fact.internalClockSync sync ∈ arguments.frame.facts := mem_facts_sync.mpr member
      by_contra incomplete
      exact known _ sent (if_neg incomplete)
    · intro entry member
      have same : arguments.pathLatencyStats.mapValues .settled = arguments.pathLatencyStats :=
        congrArg ControlFacts.pathLatencyStats recorded
      have entries : arguments.pathLatencyStats.entries.map (fun entry => (entry.1, entry.2.settled)) =
          arguments.pathLatencyStats.entries := congrArg Dict.entries same
      have fixed := List.map_inj_left.mp (entries.trans (List.map_id _).symm) entry member
      exact PathLatencyStats.settled_eq_self.mp (congrArg Prod.snd fixed)
  · rintro ⟨complete, nonzero⟩
    rw [mapM_received, Option.map_some, record_facts]
    intro fact member
    cases fact with
    | internalClockSync sync => exact if_pos (complete sync (mem_facts_sync.mp member))
    | pathLatencyStats path stats =>
      have fixed := PathLatencyStats.settled_eq_self.mpr (nonzero (path, stats) (mem_facts_stats.mp member))
      rw [Fact.received, fixed]
    | _ => rfl

/-- A path with its name and a request for the peer's clock. -/
theorem decode_encodeControlPayload_iff_of_request :
    (do decodeControlPayload (← (encodeControlPayload { ControlFacts.empty with
        pathMetadata := Dict.empty.set 1 "dsl", internalClockSync := [⟨7, 1, 1, 1000, none, none⟩] }).toOption)) =
      some { ControlFacts.empty with
        pathMetadata := Dict.empty.set 1 "dsl", internalClockSync := [⟨7, 1, 1, 1000, none, none⟩] } := by
  have encoded : encodeControlPayload { ControlFacts.empty with
        pathMetadata := Dict.empty.set 1 "dsl", internalClockSync := [⟨7, 1, 1, 1000, none, none⟩] } =
      .ok ([1, 0, 2, 3, 0, 6, 0, 1, 3, 100, 115, 108] ++ [6, 0, 35, 0, 0, 0, 0, 0, 0, 0, 7, 0, 1, 1] ++
        [0, 0, 0, 0, 0, 0, 3, 232] ++ List.replicate 16 0) := by
    decide
  refine (decode_encodeControlPayload_iff encoded).mpr ⟨?_, ?_⟩
  · simp [InternalClockSyncMessage.Complete]
  · simp [ControlFacts.empty, Dict.empty]

/-- A round-trip time of zero comes back as an absent one, and a clock message of mode 3 is encoded but
makes the decoder refuse the whole payload. -/
theorem zero_statistic_lost :
    (do decodeControlPayload (← (encodeControlPayload { ControlFacts.empty with
        pathLatencyStats := Dict.empty.set 1 ⟨some 0, none, none, none, none, none⟩ }).toOption)) =
      some { ControlFacts.empty with
        pathLatencyStats := Dict.empty.set 1 ⟨none, none, none, none, none, none⟩ } ∧
    ((encodeControlPayload { ControlFacts.empty with
        internalClockSync := [⟨7, 1, 3, 1000, none, none⟩] }).toOption.map decodeControlPayload) = some none := by
  decide

end Payload

end Gatherlink.Metaband
