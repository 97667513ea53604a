import Gatherlink.Metaband.RoundTrip

/-! The control plane and the dataplane read the same bytes. Where both know a kind of message they mostly agree;
this module says exactly when a payload of one side reaches the other whole. -/

namespace Gatherlink.Metaband
open Lib Lib.BigEndian Lib.Tlv
open Lib.Exec (except_bind_iff)
open Protocol (ControlType ControlMessage ControlPayload decodeMessage encodeMessage readU16 readU32 readU64 map_ok_iff
  checked_iff)

section Facts

def number16 (value : UInt16) : Int := value.toNat
def number32 (value : UInt32) : Int := value.toNat
def number64 (value : UInt64) : Int := value.toNat

/-- What a message of the dataplane says in the control plane's terms. The control plane has no field for the
two sequence messages, and its policies and pressure reports have one number more. -/
def factOf : ControlMessage → Option Fact
  | .pathAssignment _ | .missingRange _ | .serviceSchedulerPolicy _ | .pathPressure _ => none
  | .pathMetadata metadata => some (.pathMetadata (number16 metadata.pathId) metadata.name)
  | .pathCapacity capacity => some (.pathCapacity (number16 capacity.pathId)
      ⟨capacity.txBps.map number64, capacity.rxBps.map number64⟩)
  | .pathLatency latency => some (.pathLatency (number16 latency.pathId)
      ⟨latency.txCurrentUs.map number32, latency.txMeanUs.map number32, latency.rxCurrentUs.map number32,
        latency.rxMeanUs.map number32⟩)
  | .pathMtu mtu => some (.pathMtu (number16 mtu.pathId)
      ⟨mtu.txLinkMtu.map number16, mtu.txFrameMtu.map number16, mtu.rxLinkMtu.map number16,
        mtu.rxFrameMtu.map number16⟩)
  | .internalClockSync sync => some (.internalClockSync ⟨number64 sync.exchangeId, number16 sync.pathId,
      sync.mode.asU8.toNat, number64 sync.originUs, sync.receiveUs.map number64, sync.transmitUs.map number64⟩)
  | .sinkTime report => some (.sinkTime ⟨number16 report.pathId, number64 report.sinkUnixUs,
      number64 report.sinkInternalUs, report.ntpState.asU8.toNat⟩)
  | .serviceMetadata service => some (.serviceMetadata (number16 service.serviceId) service.text)
  | .serviceEndpointAssertion service => some (.serviceEndpointAssertion (number16 service.serviceId) service.text)
  | .serviceDisable service => some (.serviceDisable (number16 service.serviceId) service.text)
  | .schedulerStatus status => some (.schedulerStatus status)
  | .dataTransmitSample sample => some (.dataTransmitSample ⟨number16 sample.pathId, number64 sample.firstSequence,
      number32 sample.packetCount, number64 sample.transmitUs⟩)

/-- A fact that the dataplane can read: it does not know qualities and statistics, its policies and pressure
reports have another length, and it wants a measurement in every report. -/
def Fact.Shared : Fact → Prop
  | .serviceSchedulerPolicy .. | .pathPressure .. | .pathLatencyQuality .. | .pathLatencyStats .. => False
  | .pathCapacity _ capacity => ¬(capacity.txBps = none ∧ capacity.rxBps = none)
  | .pathLatency _ latency =>
      ∃ value ∈ [latency.txCurrentUs, latency.txMeanUs, latency.rxCurrentUs, latency.rxMeanUs], value ≠ none
  | .schedulerStatus status =>
      ∀ mode ∈ [status.configuredMode, status.effectiveMode, status.rustMode], (Utf8.encode mode).length ≤ 63
  | .internalClockSync sync => sync.Complete
  | _ => True

end Facts

section Decoders

variable {kind : UInt8} {value : Bytes} {offset : Nat} {fact : Fact}

@[simp] theorem number16_readU16 : number16 (readU16 value offset) = readInt 2 value offset := by
  have small := readBe_lt 2 value offset
  rw [number16, readU16, readInt, UInt16.toNat_ofNat_of_lt' (by simpa using small)]

@[simp] theorem number32_readU32 : number32 (readU32 value offset) = readInt 4 value offset := by
  have small := readBe_lt 4 value offset
  rw [number32, readU32, readInt, UInt32.toNat_ofNat_of_lt' (by simpa using small)]

@[simp] theorem number64_readU64 : number64 (readU64 value offset) = readInt 8 value offset := by
  have small := readBe_lt 8 value offset
  rw [number64, readU64, readInt, UInt64.toNat_ofNat_of_lt' (by simpa using small)]

variable {α : Type} {refused : Prop} {result : α} {number : UInt32}

theorem absent_iff [Decidable refused] {read : Option α} :
    (if refused then none else read) = some result ↔ ¬refused ∧ read = some result := by
  by_cases reason : refused <;> simp [reason]

@[simp] theorem number16_eq_zero {number : UInt16} : number16 number = 0 ↔ number = 0 := by
  rw [number16, Nat.cast_eq_zero, ← UInt16.toNat_inj, UInt16.toNat_zero]

@[simp] theorem number32_eq_zero : number32 number = 0 ↔ number = 0 := by
  rw [number32, Nat.cast_eq_zero, ← UInt32.toNat_inj, UInt32.toNat_zero]

@[simp] theorem number64_eq_zero {number : UInt64} : number64 number = 0 ↔ number = 0 := by
  rw [number64, Nat.cast_eq_zero, ← UInt64.toNat_inj, UInt64.toNat_zero]

theorem number32_nonpos : number32 number ≤ 0 ↔ number = 0 := by
  rw [← number32_eq_zero]
  exact ⟨fun nonpos => le_antisymm nonpos (Int.natCast_nonneg _), fun zero => zero.le⟩

theorem number64_nonpos {number : UInt64} : number64 number ≤ 0 ↔ number = 0 := by
  rw [← number64_eq_zero]
  exact ⟨fun nonpos => le_antisymm nonpos (Int.natCast_nonneg _), fun zero => zero.le⟩

theorem optional_map [DecidableEq α] [OfNat α 0] {number : α → Int}
    (number_zero : ∀ read, number read = 0 ↔ read = 0) {read : α} :
    (Protocol.optional read).map number = decodeOptional (number read) := by
  unfold Protocol.optional decodeOptional
  by_cases zero : read = 0 <;> simp [zero, number_zero]

@[simp] theorem optionalU16_number : (Protocol.optionalU16 (readU16 value offset)).map number16 =
    decodeOptional (readInt 2 value offset) := by
  rw [← number16_readU16]
  exact optional_map fun _ => number16_eq_zero

@[simp] theorem optionalU32_number : (Protocol.optionalU32 (readU32 value offset)).map number32 =
    decodeOptional (readInt 4 value offset) := by
  rw [← number32_readU32]
  exact optional_map fun _ => number32_eq_zero

@[simp] theorem optionalU64_number : (Protocol.optionalU64 (readU64 value offset)).map number64 =
    decodeOptional (readInt 8 value offset) := by
  rw [← number64_readU64]
  exact optional_map fun _ => number64_eq_zero

theorem decodeNamed_iff {make : UInt16 → String → Except Protocol.ProtocolError α}
    {build : UInt16 → String → α} {lowest : Int}
    (makes : ∀ id text result, make id text = .ok result ↔
      (lowest ≤ number16 id ∧ (Utf8.encode text).length ∈ Finset.Icc 1 255) ∧ build id text = result) :
    Protocol.decodeNamed make value = .ok result ↔
      ∃ text, decodeTextValue lowest value = some (readInt 2 value 0, text) ∧
        build (readU16 value 0) text = result := by
  unfold Protocol.decodeNamed decodeTextValue
  by_cases short : value.length < 3
  · simp [short]
  by_cases size : value.length = 3 + (value.getD 2 0).toNat
  · cases decoded : Utf8.decode (value.drop 3) with
    | none => simp [short]
    | some text =>
      have length : (Utf8.encode text).length = (value.getD 2 0).toNat := by
        rw [Utf8.encode_decode decoded, List.length_drop]
        omega
      have byte := (value.getD 2 0).toNat_lt
      have filled : (Utf8.encode text).length ∈ Finset.Icc 1 255 ↔ text ≠ "" := by
        rw [Finset.mem_Icc, ne_eq, ← Utf8.encode_eq_nil, ← List.length_eq_zero_iff]
        omega
      simp only [short, ← size, ne_eq, not_true_eq_false, if_false, makes, number16_readU16,
        filled, or_false, absent_iff,
        Option.some.injEq, Prod.mk.injEq, true_and, Int.not_lt]
      constructor
      · rintro ⟨⟨low, some⟩, rfl⟩
        exact ⟨text, ⟨low, some, rfl⟩, rfl⟩
      · rintro ⟨other, ⟨low, some, rfl⟩, rfl⟩
        exact ⟨⟨low, some⟩, rfl⟩
  · rw [if_neg short, if_pos size, if_neg short, if_pos (.inr size)]
    simp

theorem user_iff {id : UInt16} : USER_SERVICE_ID_START ≤ number16 id ↔ Protocol.USER_SERVICE_ID_START ≤ id := by
  rw [UInt16.le_iff_toNat_le, number16, USER_SERVICE_ID_START]
  change _ ↔ 256 ≤ id.toNat
  omega

theorem pathMetadata_makes (id : UInt16) (text : String) (metadata : Protocol.PathMetadata) :
    Protocol.PathMetadata.new id text = .ok metadata ↔
      (0 ≤ number16 id ∧ (Utf8.encode text).length ∈ Finset.Icc 1 255) ∧
        Protocol.PathMetadata.mk id text = metadata := by
  have natural : 0 ≤ number16 id := Int.natCast_nonneg _
  simp [Protocol.PathMetadata.new_iff, natural]

theorem serviceText_makes (id : UInt16) (text : String) (service : Protocol.ServiceText) :
    Protocol.ServiceText.new id text = .ok service ↔
      (USER_SERVICE_ID_START ≤ number16 id ∧ (Utf8.encode text).length ∈ Finset.Icc 1 255) ∧
        Protocol.ServiceText.mk id text = service := by
  rw [Protocol.ServiceText.new_iff, user_iff]

/-- The two decoders of one kind of value agree on what both can express. -/
def Agree {α β : Type} (wrap : α → ControlMessage) (make : β → Fact) (built : Except Protocol.ProtocolError α)
    (read : Option β) : Prop :=
  ∀ fact, (∃ message, built = .ok message ∧ factOf (wrap message) = some fact) ↔
    (∃ result, read = some result ∧ make result = fact) ∧ fact.Shared

variable {α β : Type} {wrap : α → ControlMessage} {make : β → Fact} {built : Except Protocol.ProtocolError α}
  {read : Option β}

theorem Agree.sized (agree : Agree wrap make built read) (size : Nat) :
    Agree wrap make (Protocol.sized size value built) (exactly size value read) := by
  intro fact
  unfold Protocol.sized exactly
  by_cases other : value.length ≠ size
  · simp [other]
  · simpa [other] using agree fact

theorem Agree.decoded (agree : Agree wrap make built read) :
    (∃ message, wrap <$> built = .ok message ∧ factOf message = some fact) ↔
      read.map (fun result => some (make result)) = some (some fact) ∧ fact.Shared := by
  have inner := agree fact
  simp only [map_ok_iff, Option.map_eq_some_iff, Option.some.injEq]
  rw [← inner]
  constructor
  · rintro ⟨_, ⟨message, built, rfl⟩, same⟩
    exact ⟨message, built, same⟩
  · rintro ⟨message, built, same⟩
    exact ⟨_, ⟨message, built, rfl⟩, same⟩

theorem Agree.checked {refused absent : Prop} [Decidable refused] [Decidable absent] {message : α} {result : β}
    (same : factOf (wrap message) = some (make result)) (checks : ¬refused ↔ ¬absent ∧ (make result).Shared) :
    Agree wrap make (if refused then .error .malformedControl else .ok message)
      (if absent then none else some result) := by
  intro fact
  simp only [checked_iff, absent_iff, Except.ok.injEq, Option.some.injEq]
  constructor
  · rintro ⟨_, ⟨accepted, rfl⟩, known⟩
    obtain rfl := Option.some.inj (same.symm.trans known)
    exact ⟨⟨result, ⟨(checks.mp accepted).1, rfl⟩, rfl⟩, (checks.mp accepted).2⟩
  · rintro ⟨⟨_, ⟨present, rfl⟩, rfl⟩, shared⟩
    exact ⟨message, ⟨checks.mpr ⟨present, shared⟩, rfl⟩, same⟩

/-- The control plane reads a value that only the dataplane checks. -/
theorem Agree.unchecked {refused : Prop} [Decidable refused] {message : α} {result : β}
    (same : factOf (wrap message) = some (make result)) (checks : ¬refused ↔ (make result).Shared) :
    Agree wrap make (if refused then .error .malformedControl else .ok message) (some result) := by
  have agree := @Agree.checked _ _ wrap make refused False _ _ message result same (by simpa using checks)
  simpa using agree

theorem pathCapacity_agrees : Agree .pathCapacity (fun read : Int × PathCapacity => .pathCapacity read.1 read.2)
    (Protocol.PathCapacity.new (readU16 value 0) (Protocol.optionalU64 (readU64 value 2))
      (Protocol.optionalU64 (readU64 value 10)))
    (some (readInt 2 value 0, ⟨decodeOptional (readInt 8 value 2), decodeOptional (readInt 8 value 10)⟩)) := by
  apply Agree.unchecked
  · simp [factOf]
  · simp only [Fact.Shared, ← optionalU64_number, Option.map_eq_none_iff]
    have tx : Protocol.optionalU64 (readU64 value 2) ≠ some 0 := Protocol.optional_ne_zero _
    have rx : Protocol.optionalU64 (readU64 value 10) ≠ some 0 := Protocol.optional_ne_zero _
    simp [tx, rx]

theorem pathLatency_agrees : Agree .pathLatency (fun read : Int × PathLatency => .pathLatency read.1 read.2)
    (Protocol.PathLatency.new (readU16 value 0) (Protocol.optionalU32 (readU32 value 2))
      (Protocol.optionalU32 (readU32 value 6)) (Protocol.optionalU32 (readU32 value 10))
      (Protocol.optionalU32 (readU32 value 14)))
    (some (readInt 2 value 0, ⟨decodeOptional (readInt 4 value 2), decodeOptional (readInt 4 value 6),
      decodeOptional (readInt 4 value 10), decodeOptional (readInt 4 value 14)⟩)) := by
  apply Agree.unchecked
  · simp [factOf]
  · simp only [Fact.Shared, ← optionalU32_number]
    simp [-optionalU32_number]
    tauto

theorem validMtuPair_number {link frame : Option UInt16} :
    validMtuPair (link.map number16) (frame.map number16) = Protocol.validMtuPair link frame := by
  cases link with
  | none => cases frame <;> rfl
  | some link =>
    cases frame with
    | none => rfl
    | some frame =>
      simp [validMtuPair, Protocol.validMtuPair, number16, UInt16.lt_iff_toNat_lt, UInt16.le_iff_toNat_le]

theorem pathMtu_agrees {mtu : PathMtu} (sameMtu : mtu = ⟨decodeOptional (readInt 2 value 2),
      decodeOptional (readInt 2 value 4), decodeOptional (readInt 2 value 6), decodeOptional (readInt 2 value 8)⟩) :
    Agree .pathMtu (fun read : Int × PathMtu => .pathMtu read.1 read.2)
    (Protocol.PathMtu.new (readU16 value 0) (Protocol.optionalU16 (readU16 value 2))
      (Protocol.optionalU16 (readU16 value 4)) (Protocol.optionalU16 (readU16 value 6))
      (Protocol.optionalU16 (readU16 value 8)))
    (if ¬mtu.Valid then none else some (readInt 2 value 0, mtu)) := by
  apply Agree.checked
  · simp [factOf, sameMtu]
  · subst sameMtu
    simp only [PathMtu.Valid, ← optionalU16_number, validMtuPair_number, Option.map_eq_none_iff, Fact.Shared]
    simp

theorem dataTransmitSample_agrees : Agree .dataTransmitSample .dataTransmitSample
    (Protocol.DataTransmitSample.new (readU16 value 0) (readU64 value 2) (readU32 value 10) (readU64 value 14))
    (if readInt 4 value 10 ≤ 0 ∨ readInt 8 value 14 ≤ 0 then none
      else some ⟨readInt 2 value 0, readInt 8 value 2, readInt 4 value 10, readInt 8 value 14⟩) := by
  apply Agree.checked
  · simp [factOf]
  · simp [← number32_readU32, ← number64_readU64, number32_nonpos, number64_nonpos, Fact.Shared]

variable {error : Protocol.ProtocolError} {byte : UInt8} {cursor : Nat} {text : String}
  {status : Protocol.SchedulerStatus} {lowest : Int}

theorem Agree.neither : Agree wrap make (.error error) none := by
  intro fact
  simp

theorem byte_eq_of_toNat {code : Nat} (small : code < 256) (same : (byte.toNat : Int) = code) :
    byte = UInt8.ofNat code := by
  apply UInt8.toNat_inj.mp
  rw [UInt8.toNat_ofNat_of_lt' small]
  exact_mod_cast same

theorem ntpState_known {state : Protocol.NtpState} (known : Protocol.NtpState.fromU8 byte = .ok state) :
    state.asU8 = byte ∧ (byte.toNat : Int) ∈ [0, 1, 2] := by
  unfold Protocol.NtpState.fromU8 at known
  split_ifs at known <;> cases known <;> subst byte <;> decide

theorem ntpState_unknown
    (unknown : Protocol.NtpState.fromU8 byte = .error error) : (byte.toNat : Int) ∉ [0, 1, 2] := by
  simp only [List.mem_cons, List.not_mem_nil, or_false]
  rintro (same | same | same)
  all_goals
    rw [byte_eq_of_toNat (by decide) same] at unknown
    cases unknown

theorem clockSyncMode_known {mode : Protocol.ClockSyncMode} (known : Protocol.ClockSyncMode.fromU8 byte = .ok mode) :
    mode.asU8 = byte ∧ (byte.toNat : Int) ∈ [1, 2] := by
  unfold Protocol.ClockSyncMode.fromU8 at known
  split_ifs at known <;> cases known <;> subst byte <;> decide

theorem clockSyncMode_unknown
    (unknown : Protocol.ClockSyncMode.fromU8 byte = .error error) : (byte.toNat : Int) ∉ [1, 2] := by
  simp only [List.mem_cons, List.not_mem_nil, or_false]
  rintro (same | same)
  all_goals
    rw [byte_eq_of_toNat (by decide) same] at unknown
    cases unknown

theorem sinkTime_agrees : Agree .sinkTime .sinkTime (do
      let ntpState ← Protocol.NtpState.fromU8 (value.getD 18 0)
      Protocol.SinkTime.new (readU16 value 0) (readU64 value 2) (readU64 value 10) ntpState)
    (if ((value.getD 18 0).toNat : Int) ∉ [0, 1, 2] then none
      else if readInt 8 value 2 ≤ 0 ∨ readInt 8 value 10 ≤ 0 then none
      else some ⟨readInt 2 value 0, readInt 8 value 2, readInt 8 value 10, (value.getD 18 0).toNat⟩) := by
  cases known : Protocol.NtpState.fromU8 (value.getD 18 0) with
  | error error =>
    rw [if_pos (ntpState_unknown known)]
    exact Agree.neither
  | ok state =>
    obtain ⟨code, member⟩ := ntpState_known known
    rw [if_neg (not_not.mpr member)]
    apply Agree.checked
    · simp only [factOf, number16_readU16, number64_readU64, code]
    · simp [← number64_readU64, number64_nonpos, Fact.Shared]

theorem internalClockSync_agrees : Agree .internalClockSync .internalClockSync (do
      let mode ← Protocol.ClockSyncMode.fromU8 (value.getD 10 0)
      Protocol.InternalClockSync.new (readU64 value 0) (readU16 value 8) mode (readU64 value 11)
        (Protocol.optionalU64 (readU64 value 19)) (Protocol.optionalU64 (readU64 value 27)))
    (if ((value.getD 10 0).toNat : Int) ∉ [1, 2] then none
      else if readInt 8 value 0 ≤ 0 ∨ readInt 8 value 11 ≤ 0 then none
      else if ((value.getD 10 0).toNat : Int) = 2 ∧ (decodeOptional (readInt 8 value 19) = none ∨
          decodeOptional (readInt 8 value 27) = none) then none
      else some ⟨readInt 8 value 0, readInt 2 value 8, (value.getD 10 0).toNat, readInt 8 value 11,
        decodeOptional (readInt 8 value 19), decodeOptional (readInt 8 value 27)⟩) := by
  cases known : Protocol.ClockSyncMode.fromU8 (value.getD 10 0) with
  | error error =>
    rw [if_pos (clockSyncMode_unknown known)]
    exact Agree.neither
  | ok mode =>
    obtain ⟨code, member⟩ := clockSyncMode_known known
    simp only [← optionalU64_number, Option.map_eq_none_iff]
    simp only [← number64_readU64, number64_nonpos]
    rw [if_neg (not_not.mpr member)]
    change Agree _ _ (if _ then _ else _) _
    by_cases unstarted : readU64 value 0 = 0 ∨ readU64 value 11 = 0
    · rw [if_pos unstarted, if_pos unstarted]
      exact Agree.neither
    · rw [if_neg unstarted, if_neg unstarted]
      apply Agree.checked
      · simp only [factOf, number16_readU16, code]
      · rw [← code]
        simp only [Fact.Shared, InternalClockSyncMessage.Complete, ne_eq, Option.map_eq_none_iff]
        cases mode with
        | request => simp [Protocol.ClockSyncMode.asU8]
        | response => simp [Protocol.ClockSyncMode.asU8, -optionalU64_number]

theorem readText_length {next : Nat} (read : readText value cursor = some (text, next)) :
    (Utf8.encode text).length ∈ Finset.Icc 1 255 := by
  obtain ⟨inside, read⟩ := absent_iff.mp read
  obtain ⟨sized, read⟩ := absent_iff.mp read
  cases decoded : Utf8.decode ((value.drop (cursor + 1)).take (value.getD cursor 0).toNat) with
  | none =>
    rw [decoded] at read
    contradiction
  | some found =>
    rw [decoded] at read
    obtain ⟨rfl, rfl⟩ := Prod.mk.inj (Option.some.inj read)
    have byte := (value.getD cursor 0).toNat_lt
    rw [Utf8.encode_decode decoded, List.length_take, List.length_drop, Finset.mem_Icc]
    omega

theorem readLenPrefixedString_iff {result : String × Nat} :
    Protocol.readLenPrefixedString value cursor = .ok result ↔
      readText value cursor = some result ∧ (Utf8.encode result.1).length ≤ 63 := by
  unfold Protocol.readLenPrefixedString readText
  simp only [checked_iff, absent_iff]
  cases decoded : Utf8.decode ((value.drop (cursor + 1)).take (value.getD cursor 0).toNat) with
  | none => simp
  | some text =>
    simp only [Except.ok.injEq, Option.some.injEq]
    constructor
    · rintro ⟨inside, sized, rfl⟩
      refine ⟨⟨inside, by omega, rfl⟩, ?_⟩
      rw [Utf8.encode_decode decoded, List.length_take, List.length_drop]
      omega
    · rintro ⟨⟨inside, sized, rfl⟩, short⟩
      rw [Utf8.encode_decode decoded, List.length_take, List.length_drop] at short
      exact ⟨inside, by omega, rfl⟩

theorem readStatus_iff :
    decodeSchedulerStatusValue value = some status ↔
      ∃ first second, readText value 0 = some (status.configuredMode, first) ∧
        readText value first = some (status.effectiveMode, second) ∧
        readText value second = some (status.rustMode, value.length) := by
  simp only [decodeSchedulerStatusValue, Option.bind_eq_bind, Option.bind_eq_some_iff, absent_iff]
  constructor
  · rintro ⟨⟨configured, first⟩, one, ⟨effective, second⟩, two, ⟨rust, final⟩, three, whole, ⟨⟩⟩
    obtain rfl : final = value.length := not_not.mp whole
    exact ⟨first, second, one, two, three⟩
  · rintro ⟨first, second, one, two, three⟩
    exact ⟨_, one, _, two, _, three, not_not.mpr rfl, rfl⟩

theorem readStatus_lengths (read : decodeSchedulerStatusValue value = some status) :
    ∀ mode ∈ [status.configuredMode, status.effectiveMode, status.rustMode],
      (Utf8.encode mode).length ∈ Finset.Icc 1 255 := by
  obtain ⟨first, second, one, two, three⟩ := readStatus_iff.mp read
  exact List.forall_mem_cons.mpr ⟨readText_length one, List.forall_mem_cons.mpr ⟨readText_length two,
    List.forall_mem_singleton.mpr (readText_length three)⟩⟩

theorem decodeSchedulerStatus_iff :
    Protocol.decodeSchedulerStatus value = .ok status ↔
      decodeSchedulerStatusValue value = some status ∧
        ∀ mode ∈ [status.configuredMode, status.effectiveMode, status.rustMode], (Utf8.encode mode).length ≤ 63 := by
  rw [readStatus_iff]
  simp only [Protocol.decodeSchedulerStatus, except_bind_iff, checked_iff, Protocol.SchedulerStatus.new_iff,
    readLenPrefixedString_iff]
  constructor
  · rintro ⟨⟨configured, first⟩, ⟨one, -⟩, ⟨effective, second⟩, ⟨two, -⟩, ⟨rust, final⟩, ⟨three, -⟩, whole, sizes, rfl⟩
    obtain rfl : final = value.length := not_not.mp whole
    exact ⟨⟨first, second, one, two, three⟩, fun mode member => (Finset.mem_Icc.mp (sizes mode member)).2⟩
  · rintro ⟨⟨first, second, one, two, three⟩, short⟩
    refine ⟨_, ⟨one, short _ (by simp)⟩, _, ⟨two, short _ (by simp)⟩, _,
      ⟨three, short _ (by simp)⟩, not_not.mpr rfl, ?_,
      rfl⟩
    have filled := readStatus_lengths (readStatus_iff.mpr ⟨first, second, one, two, three⟩)
    exact fun mode member => Finset.mem_Icc.mpr ⟨(Finset.mem_Icc.mp (filled mode member)).1, short mode member⟩

theorem schedulerStatus_agrees : Agree .schedulerStatus .schedulerStatus (Protocol.decodeSchedulerStatus value)
    (decodeSchedulerStatusValue value) := by
  intro fact
  simp only [factOf, Option.some.injEq, decodeSchedulerStatus_iff]
  constructor
  · rintro ⟨status, ⟨read, short⟩, rfl⟩
    exact ⟨⟨status, read, rfl⟩, short⟩
  · rintro ⟨⟨status, read, rfl⟩, short⟩
    exact ⟨status, ⟨read, short⟩, rfl⟩

/-- Kinds whose messages neither side can express in the other's terms. -/
theorem Agree.unshared (silent : ∀ message, factOf (wrap message) = none) (unshared : ∀ result, ¬(make result).Shared) :
    Agree wrap make built read := by
  intro fact
  simp only [silent, reduceCtorEq, and_false, exists_false, false_iff]
  rintro ⟨⟨result, _, rfl⟩, shared⟩
  exact unshared result shared

theorem decodeTextValue_ok {id : Int} (read : decodeTextValue lowest value = some (id, text)) :
    id = readInt 2 value 0 ∧ lowest ≤ id ∧ (Utf8.encode text).length ∈ Finset.Icc 1 255 := by
  obtain ⟨short, read⟩ := absent_iff.mp read
  obtain ⟨sized, read⟩ := absent_iff.mp read
  cases decoded : Utf8.decode (value.drop 3) with
  | none =>
    rw [decoded] at read
    contradiction
  | some found =>
    rw [decoded] at read
    obtain ⟨filled, read⟩ := absent_iff.mp read
    obtain ⟨rfl, rfl⟩ := Prod.mk.inj (Option.some.inj read)
    have byte := (value.getD 2 0).toNat_lt
    rw [← Utf8.encode_eq_nil, ← List.length_eq_zero_iff] at filled
    have length := congrArg List.length (Utf8.encode_decode decoded)
    rw [List.length_drop] at length
    rw [Finset.mem_Icc]
    omega

theorem named_agrees {make : UInt16 → String → Except Protocol.ProtocolError α} {build : UInt16 → String → α}
    (say : Int → String → Fact)
    (makes : ∀ id text result, make id text = .ok result ↔
      (lowest ≤ number16 id ∧ (Utf8.encode text).length ∈ Finset.Icc 1 255) ∧ build id text = result)
    (states : ∀ id text, factOf (wrap (build id text)) = some (say (number16 id) text))
    (shared : ∀ id text, (say id text).Shared) :
    Agree wrap (fun read : Int × String => say read.1 read.2) (Protocol.decodeNamed make value)
      (decodeTextValue lowest value) := by
  intro fact
  simp only [decodeNamed_iff makes]
  constructor
  · rintro ⟨_, ⟨text, read, rfl⟩, same⟩
    rw [states, number16_readU16] at same
    obtain rfl := Option.some.inj same
    exact ⟨⟨_, read, rfl⟩, shared _ _⟩
  · rintro ⟨⟨⟨id, text⟩, read, rfl⟩, -⟩
    obtain ⟨rfl, -⟩ := decodeTextValue_ok read
    exact ⟨_, ⟨text, read, rfl⟩, by rw [states, number16_readU16]⟩

/-- On every record, the dataplane reads a fact exactly if the control plane reads it and both can express it. -/
theorem decoders_agree :
    (∃ message, decodeMessage kind value = .ok message ∧ factOf message = some fact) ↔
      decodeFact kind value = some (some fact) ∧ fact.Shared := by
  cases known : ControlType.fromU8 kind with
  | none => simp [decodeMessage, decodeFact, known]
  | some type =>
    simp only [decodeMessage, decodeFact, known]
    cases type with
    | pathMetadata => exact (named_agrees .pathMetadata pathMetadata_makes (fun _ _ => rfl) fun _ _ => trivial).decoded
    | serviceMetadata =>
      exact (named_agrees .serviceMetadata serviceText_makes (fun _ _ => rfl) fun _ _ => trivial).decoded
    | serviceEndpointAssertion =>
      exact (named_agrees .serviceEndpointAssertion serviceText_makes (fun _ _ => rfl) fun _ _ => trivial).decoded
    | serviceDisable =>
      exact (named_agrees .serviceDisable serviceText_makes (fun _ _ => rfl) fun _ _ => trivial).decoded
    | pathCapacity => exact (pathCapacity_agrees.sized 18).decoded
    | pathLatency => exact (pathLatency_agrees.sized 18).decoded
    | pathMtu => exact ((pathMtu_agrees rfl).sized 10).decoded
    | internalClockSync => exact (internalClockSync_agrees.sized 35).decoded
    | sinkTime => exact (sinkTime_agrees.sized 19).decoded
    | schedulerStatus => exact schedulerStatus_agrees.decoded
    | dataTransmitSample => exact (dataTransmitSample_agrees.sized 22).decoded
    | pathAssignment => simp [map_ok_iff, factOf]
    | missingRange => simp [map_ok_iff, factOf]
    | serviceSchedulerPolicy | pathPressure =>
      refine (Agree.unshared (fun _ => rfl) fun _ shared => ?_).decoded
      exact shared
    | pathLatencyQuality | pathLatencyStats =>
      simp only [reduceCtorEq, false_and, exists_false, Option.map_eq_some_iff, Option.some.injEq, false_iff]
      rintro ⟨⟨_, _, rfl⟩, shared⟩
      exact shared

/-- No value is read as a policy, or as a pressure report, by both sides: each refuses the length of the other. -/
theorem unshared_refused {type : ControlType} (unshared : type = .serviceSchedulerPolicy ∨ type = .pathPressure) :
    decodeMessage type.toU8 value = .error .malformedControl ∨ decodeFact type.toU8 value = none := by
  by_cases short : value.length = 28 ∨ value.length = 54
  · right
    rcases unshared with rfl | rfl <;> rcases short with short | short <;>
      simp [decodeFact, decodeServiceSchedulerPolicyValue, decodePathPressureValue, exactly, short]
  · left
    push Not at short
    rcases unshared with rfl | rfl <;> simp [decodeMessage, Protocol.decodePathPressure, Protocol.sized, short]

end Decoders

section Slots

/-- The place of a frame that a fact takes: messages about one path or service replace each other, and there is
one scheduler status. -/
def Fact.slot : Fact → Option (ControlType × Int)
  | .pathMetadata path _ => some (.pathMetadata, path)
  | .serviceMetadata service _ => some (.serviceMetadata, service)
  | .serviceEndpointAssertion service _ => some (.serviceEndpointAssertion, service)
  | .serviceDisable service _ => some (.serviceDisable, service)
  | .serviceSchedulerPolicy service _ => some (.serviceSchedulerPolicy, service)
  | .pathCapacity path _ => some (.pathCapacity, path)
  | .pathLatency path _ => some (.pathLatency, path)
  | .pathLatencyQuality path _ => some (.pathLatencyQuality, path)
  | .pathLatencyStats path _ => some (.pathLatencyStats, path)
  | .pathMtu path _ => some (.pathMtu, path)
  | .pathPressure path _ => some (.pathPressure, path)
  | .schedulerStatus _ => some (.schedulerStatus, 0)
  | .dataTransmitSample _ | .internalClockSync _ | .sinkTime _ => none

def Fact.Replaces (later earlier : Fact) : Prop := earlier.slot ≠ none ∧ earlier.slot = later.slot

def ControlFacts.Has (frame : ControlFrame) : Fact → Prop
  | .pathMetadata path name => (path, name) ∈ frame.pathMetadata.entries
  | .serviceMetadata service name => (service, name) ∈ frame.serviceMetadata.entries
  | .serviceEndpointAssertion service target => (service, target) ∈ frame.serviceEndpointAssertions.entries
  | .serviceDisable service reason => (service, reason) ∈ frame.serviceDisables.entries
  | .serviceSchedulerPolicy service policy => (service, policy) ∈ frame.serviceSchedulerPolicies.entries
  | .pathCapacity path capacity => (path, capacity) ∈ frame.pathCapacityBps.entries
  | .pathLatency path latency => (path, latency) ∈ frame.pathLatencyUs.entries
  | .pathLatencyQuality path quality => (path, quality) ∈ frame.pathLatencyQuality.entries
  | .pathLatencyStats path stats => (path, stats) ∈ frame.pathLatencyStats.entries
  | .pathMtu path mtu => (path, mtu) ∈ frame.pathMtu.entries
  | .pathPressure path pressure => (path, pressure) ∈ frame.pathPressure.entries
  | .schedulerStatus status => frame.schedulerStatus = some status
  | .dataTransmitSample sample => sample ∈ frame.dataTransmitSamples
  | .internalClockSync sync => sync ∈ frame.internalClockSync
  | .sinkTime report => report ∈ frame.sinkTime

variable {frame : ControlFrame} {fact : Fact} {facts : List Fact}

theorem mem_facts : fact ∈ frame.facts ↔ frame.Has fact := by
  cases fact <;> simp [ControlFacts.facts, ControlFacts.Has]

theorem has_record {other : Fact} :
    (frame.record fact).Has other ↔ other = fact ∨ frame.Has other ∧ ¬fact.Replaces other := by
  cases fact <;> cases other <;>
    simp [ControlFacts.record, ControlFacts.Has, Fact.Replaces, Fact.slot, Dict.mem_set]
  all_goals tauto

theorem recorded_of_has (has : (facts.foldl ControlFacts.record frame).Has fact) : fact ∈ facts ∨ frame.Has fact := by
  induction facts generalizing frame with
  | nil => exact .inr has
  | cons first rest ih =>
    rcases ih has with later | earlier
    · exact .inl (List.mem_cons_of_mem _ later)
    · rcases has_record.mp earlier with rfl | ⟨before, -⟩
      · exact .inl List.mem_cons_self
      · exact .inr before

theorem has_of_recorded
    (alone : ∀ later ∈ facts, later.Replaces fact → later = fact) (present : fact ∈ facts ∨ frame.Has fact) :
    (facts.foldl ControlFacts.record frame).Has fact := by
  induction facts generalizing frame with
  | nil => exact present.resolve_left List.not_mem_nil
  | cons first rest ih =>
    apply ih fun later member => alone later (List.mem_cons_of_mem _ member)
    by_cases again : fact ∈ rest
    · exact .inl again
    · refine .inr (has_record.mpr ?_)
      by_cases same : fact = first
      · exact .inl same
      · refine .inr ⟨?_, fun replaces => same (alone first List.mem_cons_self replaces).symm⟩
        rcases present with member | before
        · exact absurd member (List.not_mem_cons_of_ne_of_not_mem same again)
        · exact before

theorem has_unique {one two : Fact} (first : frame.Has one) (second : frame.Has two)
    (replaces : one.Replaces two) : one = two := by
  obtain ⟨keyed, same⟩ := replaces
  cases one <;> cases two <;> cases same <;>
    first
    | exact absurd rfl keyed
    | rw [Dict.value_unique first second]
    | rw [Option.some.inj (first.symm.trans second)]

end Slots

section Valid

variable {kind : UInt8} {value : Bytes} {fact : Fact} {message : ControlMessage}

/-- What the control plane's decoder demands of a fact. -/
def Fact.Valid : Fact → Prop
  | .pathMetadata _ text => (Utf8.encode text).length ∈ Finset.Icc 1 255
  | .serviceMetadata service text | .serviceEndpointAssertion service text | .serviceDisable service text =>
      USER_SERVICE_ID_START ≤ service ∧ (Utf8.encode text).length ∈ Finset.Icc 1 255
  | .pathCapacity _ capacity => capacity.txBps ≠ some 0 ∧ capacity.rxBps ≠ some 0
  | .pathLatency _ latency =>
      ∀ value ∈ [latency.txCurrentUs, latency.txMeanUs, latency.rxCurrentUs, latency.rxMeanUs], value ≠ some 0
  | .pathMtu _ mtu => mtu.Valid
  | .schedulerStatus status =>
      ∀ mode ∈ [status.configuredMode, status.effectiveMode, status.rustMode],
        (Utf8.encode mode).length ∈ Finset.Icc 1 255
  | .dataTransmitSample sample => 0 < sample.packetCount ∧ 0 < sample.transmitUs
  | .internalClockSync sync => 0 < sync.exchangeId ∧ 0 < sync.originUs ∧ sync.receiveUs ≠ some 0 ∧
      sync.transmitUs ≠ some 0 ∧ sync.Complete
  | .sinkTime report => 0 < report.sinkUnixUs ∧ 0 < report.sinkInternalUs
  | .serviceSchedulerPolicy .. | .pathPressure .. | .pathLatencyQuality .. | .pathLatencyStats .. => True

theorem decodeOptional_ne_zero (number : Int) : decodeOptional number ≠ some 0 := by
  unfold decodeOptional
  by_cases zero : number = 0 <;> simp [zero]

theorem valid_of_decodeFact (decoded : decodeFact kind value = some (some fact)) : fact.Valid := by
  unfold decodeFact at decoded
  split at decoded
  all_goals simp only [Option.map_eq_some_iff, Option.some.injEq, reduceCtorEq, exactly, absent_iff,
    decodePathCapacityValue, decodePathLatencyValue, decodePathMtuValue, decodeDataTransmitSampleValue,
    decodeInternalClockSyncValue, decodeSinkTimeValue, not_or, Int.not_le, not_not] at decoded
  case h_1 =>
    obtain ⟨⟨path, text⟩, read, rfl⟩ := decoded
    exact (decodeTextValue_ok read).2.2
  case h_2 | h_3 | h_4 =>
    obtain ⟨⟨service, text⟩, read, rfl⟩ := decoded
    exact (decodeTextValue_ok read).2
  case h_6 | h_7 =>
    obtain ⟨_, ⟨-, rfl⟩, rfl⟩ := decoded
    simp [Fact.Valid, decodeOptional_ne_zero]
  case h_5 | h_8 | h_9 | h_11 =>
    obtain ⟨_, -, rfl⟩ := decoded
    trivial
  case h_10 =>
    obtain ⟨_, ⟨-, valid, rfl⟩, rfl⟩ := decoded
    exact valid
  case h_12 =>
    obtain ⟨status, read, rfl⟩ := decoded
    exact readStatus_lengths read
  case h_13 =>
    obtain ⟨_, ⟨-, positive, rfl⟩, rfl⟩ := decoded
    exact positive
  case h_14 =>
    obtain ⟨_, ⟨-, mode, ⟨exchange, origin⟩, answered, rfl⟩, rfl⟩ := decoded
    refine ⟨exchange, origin, decodeOptional_ne_zero _, decodeOptional_ne_zero _, ?_⟩
    simp only [List.mem_cons, List.not_mem_nil, or_false] at mode
    exact mode.imp id fun response => ⟨response, not_or.mp fun absent => answered ⟨response, absent⟩⟩
  case h_15 =>
    obtain ⟨_, ⟨-, -, positive, rfl⟩, rfl⟩ := decoded
    exact positive

variable {rest : Bytes} {number : UInt32} {α : Type} {measured : Option α}

@[simp] theorem readInt_be16 {number : UInt16} :
    readInt 2 (Protocol.be16 number ++ rest) 0 = number16 number := by
  rw [← number16_readU16, Protocol.readU16_be16]

@[simp] theorem readInt_be32 :
    readInt 4 (Protocol.be32 number ++ rest) 0 = number32 number := by
  rw [← number32_readU32, Protocol.readU32_be32]

@[simp] theorem readInt_be32_last : readInt 4 (Protocol.be32 number) 0 = number32 number := by
  rw [← number32_readU32, Protocol.readU32_be32_last]

@[simp] theorem readInt_be64 {number : UInt64} :
    readInt 8 (Protocol.be64 number ++ rest) 0 = number64 number := by
  rw [← number64_readU64, Protocol.readU64_be64]

@[simp] theorem readInt_be64_last {number : UInt64} : readInt 8 (Protocol.be64 number) 0 = number64 number := by
  rw [← number64_readU64, Protocol.readU64_be64_last]

theorem decodeOptional_number [OfNat α 0] {number : α → Int} (number_zero : number 0 = 0)
    (present : measured.map number ≠ some 0) : decodeOptional (number (measured.getD 0)) = measured.map number := by
  cases measured with
  | none => exact if_pos number_zero
  | some value => exact if_neg fun zero => present (congrArg some zero)

theorem nonzero_of_number [OfNat α 0] {number : α → Int} (number_zero : number 0 = 0)
    (present : measured.map number ≠ some 0) : measured ≠ some 0 := by
  rintro rfl
  exact present (congrArg some number_zero)

theorem decodeFact_encodeMessage (known : factOf message = some fact) (valid : fact.Valid) :
    decodeFact (encodeMessage message).1 (encodeMessage message).2 = some (some fact) := by
  have through (wellFormed : message.WellFormed) :
      decodeFact (encodeMessage message).1 (encodeMessage message).2 = some (some fact) :=
    (decoders_agree.mp ⟨message, Protocol.decodeMessage_encodeMessage wellFormed, known⟩).1
  cases message with
  | pathAssignment | missingRange | serviceSchedulerPolicy | pathPressure => contradiction
  | pathMetadata metadata =>
    obtain rfl := Option.some.inj known
    exact through valid
  | serviceMetadata service | serviceEndpointAssertion service | serviceDisable service =>
    obtain rfl := Option.some.inj known
    exact through ⟨user_iff.mp valid.1, valid.2⟩
  | pathCapacity capacity =>
    obtain rfl := Option.some.inj known
    have tx := decodeOptional_number rfl valid.1
    have rx := decodeOptional_number rfl valid.2
    simp [encodeMessage, decodeFact, decodePathCapacityValue, exactly, tx, rx]
  | pathLatency latency =>
    obtain rfl := Option.some.inj known
    have read (measured : Option UInt32) (member : measured ∈ [latency.txCurrentUs, latency.txMeanUs,
        latency.rxCurrentUs, latency.rxMeanUs]) : decodeOptional (number32 (measured.getD 0)) =
          measured.map number32 := by
      apply decodeOptional_number rfl
      apply valid
      simpa using List.mem_map_of_mem (f := Option.map number32) member
    simp [encodeMessage, decodeFact, decodePathLatencyValue, exactly, read latency.txCurrentUs (by simp),
      read latency.txMeanUs (by simp), read latency.rxCurrentUs (by simp), read latency.rxMeanUs (by simp)]
  | pathMtu mtu =>
    obtain rfl := Option.some.inj known
    simp only [Fact.Valid, PathMtu.Valid, validMtuPair_number, Option.map_eq_none_iff] at valid
    exact through valid
  | internalClockSync sync =>
    obtain rfl := Option.some.inj known
    obtain ⟨exchange, origin, receive, transmit, complete⟩ := valid
    refine through ⟨mt number64_nonpos.mpr exchange.not_ge, mt number64_nonpos.mpr origin.not_ge,
      nonzero_of_number rfl receive, nonzero_of_number rfl transmit, ?_⟩
    intro response
    rcases complete with request | ⟨-, received, transmitted⟩
    · have mode : ((Protocol.ClockSyncMode.response.asU8.toNat : Nat) : Int) = 1 := response ▸ request
      contradiction
    · exact ⟨fun absent => received (by rw [absent]; rfl), fun absent => transmitted (by rw [absent]; rfl)⟩
  | sinkTime report =>
    obtain rfl := Option.some.inj known
    exact through ⟨mt number64_nonpos.mpr valid.1.not_ge, mt number64_nonpos.mpr valid.2.not_ge⟩
  | schedulerStatus status =>
    obtain rfl := Option.some.inj known
    simp [encodeMessage, decodeFact, decodeSchedulerStatusValue_encode valid]
  | dataTransmitSample sample =>
    obtain rfl := Option.some.inj known
    exact through ⟨mt number32_nonpos.mpr valid.1.not_ge, mt number64_nonpos.mpr valid.2.not_ge⟩

end Valid

section Exchange

variable {facts : List Fact} {records : List Record} {messages : List ControlMessage}

theorem received_of_shared {fact : Fact} (shared : fact.Shared) : fact.received = some fact := by
  cases fact with
  | internalClockSync sync => exact if_pos shared
  | pathLatencyStats path stats => exact shared.elim
  | _ => rfl

/-- The dataplane reads the facts that the control plane sent, exactly if it can express all of them. -/
theorem reads_sent_iff (sent : List.Forall₂ Sent facts records) :
    (∃ messages, List.Forall₂ (fun record message => decodeMessage record.1 record.2 = .ok message) records messages ∧
      messages.map factOf = facts.map some) ↔ ∀ fact ∈ facts, fact.Shared := by
  induction sent with
  | nil =>
    constructor
    · simp
    · intro _
      exact ⟨[], .nil, rfl⟩
  | cons first _ ih =>
    rename_i fact record facts records _
    rw [List.forall_mem_cons, ← ih]
    constructor
    · rintro ⟨_, reads, same⟩
      cases reads with
      | cons read reads =>
        obtain ⟨known, same⟩ := List.cons.inj same
        exact ⟨(decoders_agree.mp ⟨_, read, known⟩).2, _, reads, same⟩
    · rintro ⟨shared, messages, reads, same⟩
      have decoded : decodeFact record.1 record.2 = some (some fact) := by
        rw [first.2, received_of_shared shared]
        rfl
      obtain ⟨message, read, known⟩ := decoders_agree.mpr ⟨decoded, shared⟩
      exact ⟨message :: messages, .cons read reads, by rw [List.map_cons, List.map_cons, known, same]⟩

theorem gather_step_iff {before next : ControlFrame} {record : Record} :
    gather before record.1 record.2 = .ok next ↔
      ∃ read, decodeFact record.1 record.2 = some read ∧ next = read.toList.foldl .record before := by
  unfold gather
  rcases decodeFact record.1 record.2 with _ | _ | fact <;> simp [eq_comm]

theorem gather_iff {before frame : ControlFrame} :
    records.foldlM (fun frame record => gather frame record.1 record.2) before = .ok frame ↔
      ∃ reads, List.Forall₂ (fun record read => decodeFact record.1 record.2 = some read) records reads ∧
        frame = reads.reduceOption.foldl .record before := by
  induction records generalizing before with
  | nil => simp [pure, Except.pure, eq_comm]
  | cons record rest ih =>
    rw [List.foldlM_cons]
    constructor
    · intro gathered
      obtain ⟨next, stepped, gathered⟩ := except_bind_iff.mp gathered
      obtain ⟨read, decoded, rfl⟩ := gather_step_iff.mp stepped
      obtain ⟨reads, all, rfl⟩ := ih.mp gathered
      refine ⟨read :: reads, .cons decoded all, ?_⟩
      cases read <;> simp
    · rintro ⟨_, ⟨⟩ | @⟨_, read, _, reads, decoded, all⟩, rfl⟩
      rw [gather_step_iff.mpr ⟨read, decoded, rfl⟩]
      refine ih.mpr ⟨reads, all, ?_⟩
      cases read <;> simp

theorem not_has_empty {fact : Fact} : ¬ControlFacts.Has .empty fact := by
  cases fact <;> simp [ControlFacts.Has, ControlFacts.empty, Dict.empty]

theorem decoded_of_mem {reads : List (Option Fact)} {read : Option Fact}
    (all : List.Forall₂ (fun record read => decodeFact record.1 record.2 = some read) records reads)
    (member : read ∈ reads) : ∃ record : Record, decodeFact record.1 record.2 = some read := by
  induction all with
  | nil => contradiction
  | cons decoded _ ih =>
    rcases List.mem_cons.mp member with rfl | later
    · exact ⟨_, decoded⟩
    · exact ih later

theorem reads_encoded (same : messages.map factOf = facts.map some) (valid : ∀ fact ∈ facts, fact.Valid) :
    List.Forall₂ (fun record read => decodeFact record.1 record.2 = some read) (messages.map encodeMessage)
      (facts.map some) := by
  induction messages generalizing facts with
  | nil =>
    rw [List.map_nil, eq_comm, List.map_eq_nil_iff] at same
    subst same
    exact .nil
  | cons message rest ih =>
    obtain ⟨fact, facts, rfl, known, same⟩ := List.map_eq_cons_iff.mp same.symm
    rw [List.forall_mem_cons] at valid
    exact .cons (decodeFact_encodeMessage known.symm valid.1) (ih same.symm valid.2)

/-- No two of the facts take the same place with different contents. -/
def Consistent (facts : List Fact) : Prop := ∀ one ∈ facts, ∀ two ∈ facts, one.Replaces two → one = two

/-- The control plane reads the facts of the dataplane's messages, exactly if each is one that it accepts and no
two of them contradict each other. -/
theorem gathers_iff (same : messages.map factOf = facts.map some) :
    (∃ frame, (messages.map encodeMessage).foldlM (fun frame record => gather frame record.1 record.2) .empty =
        .ok frame ∧ ∀ fact, fact ∈ frame.facts ↔ fact ∈ facts) ↔
      (∀ fact ∈ facts, fact.Valid) ∧ Consistent facts := by
  constructor
  · rintro ⟨frame, gathered, agreed⟩
    obtain ⟨reads, all, rfl⟩ := gather_iff.mp gathered
    refine ⟨?_, ?_⟩
    · intro fact member
      have has := mem_facts.mp ((agreed fact).mpr member)
      have read : some fact ∈ reads := List.reduceOption_mem_iff.mp ((recorded_of_has has).resolve_right not_has_empty)
      obtain ⟨record, decoded⟩ := decoded_of_mem all read
      exact valid_of_decodeFact decoded
    · intro one first two second replaces
      exact has_unique (mem_facts.mp ((agreed one).mpr first)) (mem_facts.mp ((agreed two).mpr second)) replaces
  · rintro ⟨valid, consistent⟩
    have kept : (facts.map some).reduceOption = facts := by simp [List.reduceOption]
    refine ⟨facts.foldl .record .empty, gather_iff.mpr ⟨facts.map some, reads_encoded same valid, by rw [kept]⟩, ?_⟩
    intro fact
    rw [mem_facts]
    constructor
    · intro has
      exact (recorded_of_has has).resolve_right not_has_empty
    · intro member
      exact has_of_recorded (fun later present replaces => consistent later present fact member replaces) (.inl member)

theorem ok_of_toOption {ε α : Type} {read : Except ε α} {value : α} (present : read.toOption = some value) :
    read = .ok value := by
  cases read with
  | error error => contradiction
  | ok other => exact congrArg Except.ok (Option.some.inj present)

/-- A payload of either side reaches the other side whole, exactly if the facts in it are ones that both sides
can express. The dataplane wants a measurement in every report, and knows neither qualities and statistics nor the
control plane's form of policies and pressure reports. The control plane keeps one fact for each slot and knows
neither the sequence messages nor the dataplane's form of policies and pressure reports. -/
theorem wire_compatible_iff (bytes : Bytes) :
    (∀ arguments : Arguments, encodeControlPayload arguments = .ok bytes →
      ((∃ messages, ControlPayload.decode bytes = .ok ⟨messages⟩ ∧
          messages.map factOf = arguments.frame.facts.map some) ↔
        ∀ fact ∈ arguments.frame.facts, fact.Shared)) ∧
    (∀ payload : ControlPayload, payload.encode = .ok bytes →
      ((∃ (frame : ControlFrame) (facts : List Fact), decodeControlPayload bytes = some frame ∧
          payload.messages.map factOf = facts.map some ∧ ∀ fact, fact ∈ frame.facts ↔ fact ∈ facts) ↔
        ∃ facts : List Fact, payload.messages.map factOf = facts.map some ∧ (∀ fact ∈ facts, fact.Valid) ∧
          Consistent facts)) := by
  refine ⟨?_, ?_⟩
  · intro arguments encoded
    obtain ⟨records, some, rfl, short, sent⟩ := encoded_records encoded
    rw [← reads_sent_iff sent]
    constructor
    · rintro ⟨messages, decoded, same⟩
      obtain ⟨_, reads, ⟨⟩⟩ := (ControlPayload.decode_payloadBytes some short).mp decoded
      exact ⟨messages, reads, same⟩
    · rintro ⟨messages, reads, same⟩
      exact ⟨messages, (ControlPayload.decode_payloadBytes some short).mpr ⟨messages, reads, rfl⟩, same⟩
  · intro payload encoded
    obtain ⟨rfl, short⟩ := ControlPayload.encode_ok encoded
    rw [decodeControlPayload_payloadBytes short]
    constructor
    · rintro ⟨frame, facts, decoded, same, agreed⟩
      exact ⟨facts, same, (gathers_iff same).mp ⟨frame, ok_of_toOption decoded, agreed⟩⟩
    · rintro ⟨facts, same, accepted⟩
      obtain ⟨frame, gathered, agreed⟩ := (gathers_iff same).mpr accepted
      exact ⟨frame, facts, by rw [gathered]; rfl, same, agreed⟩

/-- The name and the capacity of a path cross in both directions. -/
theorem wire_compatible_iff_of_capacity :
    (∃ messages, ControlPayload.decode ([1, 0, 2, 3, 0, 6, 0, 1, 3, 100, 115, 108] ++ [4, 0, 18, 0, 1] ++
          [0, 0, 0, 0, 0, 0, 3, 232, 0, 0, 0, 0, 0, 0, 0, 0]) = .ok ⟨messages⟩ ∧
      messages.map factOf = [some (.pathMetadata 1 "dsl"), some (.pathCapacity 1 ⟨some 1000, none⟩)]) ∧
    ∃ (frame : ControlFrame) (facts : List Fact),
      decodeControlPayload ([1, 0, 2, 4, 0, 18, 0, 1, 0, 0, 0, 0, 0, 0, 3, 232, 0, 0, 0, 0, 0, 0, 0, 0] ++
          [3, 0, 6, 0, 1, 3, 100, 115, 108]) = some frame ∧
      [factOf (.pathCapacity ⟨1, some 1000, none⟩), factOf (.pathMetadata ⟨1, "dsl"⟩)] = facts.map some ∧
      ∀ fact, fact ∈ frame.facts ↔ fact ∈ facts := by
  have there : encodeControlPayload { (ControlFacts.empty : Arguments) with
      pathMetadata := Dict.empty.set 1 "dsl", pathCapacityBps := Dict.empty.set 1 ⟨some 1000, none⟩ } =
      .ok ([1, 0, 2, 3, 0, 6, 0, 1, 3, 100, 115, 108] ++ [4, 0, 18, 0, 1] ++
        [0, 0, 0, 0, 0, 0, 3, 232, 0, 0, 0, 0, 0, 0, 0, 0]) := by
    decide
  have back : ControlPayload.encode ⟨[.pathCapacity ⟨1, some 1000, none⟩, .pathMetadata ⟨1, "dsl"⟩]⟩ =
      .ok ([1, 0, 2, 4, 0, 18, 0, 1, 0, 0, 0, 0, 0, 0, 3, 232, 0, 0, 0, 0, 0, 0, 0, 0] ++
        [3, 0, 6, 0, 1, 3, 100, 115, 108]) := by
    decide
  refine ⟨((wire_compatible_iff _).1 _ there).mpr ?_, ((wire_compatible_iff _).2 _ back).mpr ?_⟩
  · intro fact member
    have known : fact = .pathMetadata 1 "dsl" ∨ fact = .pathCapacity 1 ⟨some 1000, none⟩ := by
      simpa [ControlFacts.facts, ControlFacts.frame, ControlFacts.empty, Dict.set, Dict.empty,
        Dict.mapValues] using member
    rcases known with rfl | rfl <;> simp [Fact.Shared]
  · have named : (Utf8.encode "dsl").length ∈ Finset.Icc 1 255 := by decide
    refine ⟨[.pathCapacity 1 ⟨some 1000, none⟩, .pathMetadata 1 "dsl"], rfl, ?_, ?_⟩
    · simpa [Fact.Valid] using named
    · simp [Consistent, Fact.Replaces, Fact.slot]

/-- A scheduler policy has 29 bytes in the control plane's form and 28 in the dataplane's: each side refuses a
whole payload because of a policy from the other. -/
theorem policies_incompatible :
    ((encodeControlPayload { (ControlFacts.empty : Arguments) with
        serviceSchedulerPolicies := Dict.empty.set 256 (.six 1 0 0 0 0 0) }).toOption.map ControlPayload.decode) =
      some (.error .malformedControl) ∧
    ((ControlPayload.encode ⟨[.serviceSchedulerPolicy ⟨256, 1, 0, 0, 0, 0⟩]⟩).toOption.map decodeControlPayload) =
      some none := by
  decide

end Exchange

end Gatherlink.Metaband
