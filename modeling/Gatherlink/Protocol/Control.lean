import Gatherlink.Lib.Tlv
import Gatherlink.Lib.Utf8
import Gatherlink.Protocol.Frame

/-! Control payloads of the dataplane: sparse messages as records of type, length and value behind a
version byte and a count. An absent number travels as zero. -/

namespace Gatherlink.Protocol
open Lib Lib.BigEndian Lib.Tlv

def CONTROL_PAYLOAD_VERSION : UInt8 := 1
def USER_SERVICE_ID_START : ServiceId := RESERVED_SERVICE_ID_END + 1

/-- The message types on the wire. The last two are known to the control plane only. -/
inductive ControlType where
  | pathAssignment
  | missingRange
  | pathMetadata
  | pathCapacity
  | pathLatency
  | internalClockSync
  | sinkTime
  | serviceMetadata
  | serviceEndpointAssertion
  | serviceDisable
  | pathMtu
  | serviceSchedulerPolicy
  | pathPressure
  | schedulerStatus
  | dataTransmitSample
  | pathLatencyQuality
  | pathLatencyStats
  deriving DecidableEq, Repr

namespace ControlType

def toU8 : ControlType → UInt8
  | .pathAssignment => 1
  | .missingRange => 2
  | .pathMetadata => 3
  | .pathCapacity => 4
  | .pathLatency => 5
  | .internalClockSync => 6
  | .sinkTime => 7
  | .serviceMetadata => 8
  | .serviceEndpointAssertion => 9
  | .serviceDisable => 10
  | .pathMtu => 11
  | .serviceSchedulerPolicy => 12
  | .pathPressure => 13
  | .schedulerStatus => 14
  | .dataTransmitSample => 15
  | .pathLatencyQuality => 16
  | .pathLatencyStats => 17

def all : List ControlType :=
  [.pathAssignment, .missingRange, .pathMetadata, .pathCapacity, .pathLatency, .internalClockSync, .sinkTime,
    .serviceMetadata, .serviceEndpointAssertion, .serviceDisable, .pathMtu, .serviceSchedulerPolicy, .pathPressure,
    .schedulerStatus, .dataTransmitSample, .pathLatencyQuality, .pathLatencyStats]

def fromU8 (value : UInt8) : Option ControlType := all.find? (·.toU8 == value)

@[simp] theorem fromU8_toU8 (kind : ControlType) : fromU8 kind.toU8 = some kind := by
  cases kind <;> rfl

end ControlType

section Messages

structure PathAssignment where
  firstSequence : SequenceNumber
  packetCount : UInt32
  pathId : PathId
  deriving DecidableEq

def PathAssignment.new (firstSequence : SequenceNumber) (packetCount : UInt32) (pathId : PathId) :
    Except ProtocolError PathAssignment :=
  if packetCount = 0 then .error .malformedControl else .ok ⟨firstSequence, packetCount, pathId⟩

structure MissingRange where
  firstSequence : SequenceNumber
  packetCount : UInt32
  deriving DecidableEq

def MissingRange.new (firstSequence : SequenceNumber) (packetCount : UInt32) : Except ProtocolError MissingRange :=
  if packetCount = 0 then .error .malformedControl else .ok ⟨firstSequence, packetCount⟩

structure DataTransmitSample where
  pathId : PathId
  firstSequence : SequenceNumber
  packetCount : UInt32
  transmitUs : UInt64
  deriving DecidableEq

def DataTransmitSample.new (pathId : PathId) (firstSequence : SequenceNumber) (packetCount : UInt32)
    (transmitUs : UInt64) : Except ProtocolError DataTransmitSample :=
  if packetCount = 0 ∨ transmitUs = 0 then .error .malformedControl
  else .ok ⟨pathId, firstSequence, packetCount, transmitUs⟩

structure PathMetadata where
  pathId : PathId
  name : String
  deriving DecidableEq

def PathMetadata.new (pathId : PathId) (name : String) : Except ProtocolError PathMetadata :=
  if (Utf8.encode name).isEmpty ∨ 255 < (Utf8.encode name).length then .error .malformedControl else .ok ⟨pathId, name⟩

/-- A service id with a text: a name, an endpoint that is asserted, or the reason for a stop. -/
structure ServiceText where
  serviceId : ServiceId
  text : String
  deriving DecidableEq

def ServiceText.new (serviceId : ServiceId) (text : String) : Except ProtocolError ServiceText :=
  if serviceId < USER_SERVICE_ID_START ∨ (Utf8.encode text).isEmpty ∨ 255 < (Utf8.encode text).length then
    .error .malformedControl
  else .ok ⟨serviceId, text⟩

abbrev ServiceMetadata := ServiceText
abbrev ServiceEndpointAssertion := ServiceText
abbrev ServiceDisable := ServiceText

structure ServiceSchedulerPolicy where
  serviceId : ServiceId
  fanout : UInt16
  fanoutBelowBytes : UInt32
  flowletIdleUs : UInt64
  flowletMaxHoldUs : UInt64
  pathRunDatagrams : UInt32
  deriving DecidableEq

def ServiceSchedulerPolicy.new (serviceId : ServiceId) (fanout : UInt16) (fanoutBelowBytes : UInt32)
    (flowletIdleUs flowletMaxHoldUs : UInt64) (pathRunDatagrams : UInt32) :
    Except ProtocolError ServiceSchedulerPolicy :=
  if serviceId < USER_SERVICE_ID_START then .error .malformedControl
  else .ok ⟨serviceId, fanout, fanoutBelowBytes, flowletIdleUs, flowletMaxHoldUs, pathRunDatagrams⟩

structure PathPressure where
  pathId : PathId
  lossPpm : UInt32
  queueDepthPackets : UInt32
  queueDepthBytes : UInt32
  queueOldestAgeUs : UInt32
  sendFailures : UInt32
  receiveGaps : UInt32
  reorderDepthPackets : UInt32
  localDrops : UInt32
  schedulerInFlightPackets : UInt32
  schedulerInFlightBytes : UInt32
  schedulerPredictedDeliveryUs : UInt32
  reorderBufferPackets : UInt32
  reorderBufferOldestAgeUs : UInt32
  deriving DecidableEq

def PathPressure.new (pressure : PathPressure) : Except ProtocolError PathPressure :=
  if 1000000 < pressure.lossPpm then .error .malformedControl else .ok pressure

structure SchedulerStatus where
  configuredMode : String
  effectiveMode : String
  rustMode : String
  deriving DecidableEq

def SchedulerStatus.new (configuredMode effectiveMode rustMode : String) : Except ProtocolError SchedulerStatus :=
  if ∃ mode ∈ [configuredMode, effectiveMode, rustMode],
      (Utf8.encode mode).isEmpty = true ∨ 63 < (Utf8.encode mode).length then .error .malformedControl
  else .ok ⟨configuredMode, effectiveMode, rustMode⟩

structure PathCapacity where
  pathId : PathId
  txBps : Option UInt64
  rxBps : Option UInt64
  deriving DecidableEq

def PathCapacity.new (pathId : PathId) (txBps rxBps : Option UInt64) : Except ProtocolError PathCapacity :=
  if txBps = some 0 ∨ rxBps = some 0 ∨ (txBps = none ∧ rxBps = none) then .error .malformedControl
  else .ok ⟨pathId, txBps, rxBps⟩

structure PathLatency where
  pathId : PathId
  txCurrentUs : Option UInt32
  txMeanUs : Option UInt32
  rxCurrentUs : Option UInt32
  rxMeanUs : Option UInt32
  deriving DecidableEq

def PathLatency.new (pathId : PathId) (txCurrentUs txMeanUs rxCurrentUs rxMeanUs : Option UInt32) :
    Except ProtocolError PathLatency :=
  if [txCurrentUs, txMeanUs, rxCurrentUs, rxMeanUs].all Option.isNone then .error .malformedControl
  else .ok ⟨pathId, txCurrentUs, txMeanUs, rxCurrentUs, rxMeanUs⟩

structure PathMtu where
  pathId : PathId
  txLinkMtu : Option UInt16
  txFrameMtu : Option UInt16
  rxLinkMtu : Option UInt16
  rxFrameMtu : Option UInt16
  deriving DecidableEq

def validMtuPair : Option UInt16 → Option UInt16 → Bool
  | none, none => true
  | some linkMtu, some frameMtu => frameMtu > 0 && frameMtu ≤ linkMtu
  | _, _ => false

def PathMtu.new (pathId : PathId) (txLinkMtu txFrameMtu rxLinkMtu rxFrameMtu : Option UInt16) :
    Except ProtocolError PathMtu :=
  if validMtuPair txLinkMtu txFrameMtu = false ∨ validMtuPair rxLinkMtu rxFrameMtu = false ∨
      (txLinkMtu = none ∧ rxLinkMtu = none) then .error .malformedControl
  else .ok ⟨pathId, txLinkMtu, txFrameMtu, rxLinkMtu, rxFrameMtu⟩

inductive ClockSyncMode where
  | request
  | response
  deriving DecidableEq

def ClockSyncMode.asU8 : ClockSyncMode → UInt8
  | .request => 1
  | .response => 2

def ClockSyncMode.fromU8 (value : UInt8) : Except ProtocolError ClockSyncMode :=
  if value = 1 then .ok .request else if value = 2 then .ok .response else .error .malformedControl

structure InternalClockSync where
  exchangeId : UInt64
  pathId : PathId
  mode : ClockSyncMode
  originUs : UInt64
  receiveUs : Option UInt64
  transmitUs : Option UInt64
  deriving DecidableEq

def InternalClockSync.new (exchangeId : UInt64) (pathId : PathId) (mode : ClockSyncMode) (originUs : UInt64)
    (receiveUs transmitUs : Option UInt64) : Except ProtocolError InternalClockSync :=
  if exchangeId = 0 ∨ originUs = 0 then .error .malformedControl
  else if mode = .response ∧ (receiveUs = none ∨ transmitUs = none) then .error .malformedControl
  else .ok ⟨exchangeId, pathId, mode, originUs, receiveUs, transmitUs⟩

inductive NtpState where
  | unknown
  | synchronized
  | unsynchronized
  deriving DecidableEq

def NtpState.asU8 : NtpState → UInt8
  | .unknown => 0
  | .synchronized => 1
  | .unsynchronized => 2

def NtpState.fromU8 (value : UInt8) : Except ProtocolError NtpState :=
  if value = 0 then .ok .unknown
  else if value = 1 then .ok .synchronized
  else if value = 2 then .ok .unsynchronized
  else .error .malformedControl

structure SinkTime where
  pathId : PathId
  sinkUnixUs : UInt64
  sinkInternalUs : UInt64
  ntpState : NtpState
  deriving DecidableEq

def SinkTime.new (pathId : PathId) (sinkUnixUs sinkInternalUs : UInt64) (ntpState : NtpState) :
    Except ProtocolError SinkTime :=
  if sinkUnixUs = 0 ∨ sinkInternalUs = 0 then .error .malformedControl
  else .ok ⟨pathId, sinkUnixUs, sinkInternalUs, ntpState⟩

inductive ControlMessage where
  | pathAssignment (assignment : PathAssignment)
  | missingRange (range : MissingRange)
  | pathMetadata (metadata : PathMetadata)
  | pathCapacity (capacity : PathCapacity)
  | pathLatency (latency : PathLatency)
  | pathMtu (mtu : PathMtu)
  | internalClockSync (sync : InternalClockSync)
  | sinkTime (sinkTime : SinkTime)
  | serviceMetadata (metadata : ServiceMetadata)
  | serviceEndpointAssertion (assertion : ServiceEndpointAssertion)
  | serviceDisable (disable : ServiceDisable)
  | serviceSchedulerPolicy (policy : ServiceSchedulerPolicy)
  | pathPressure (pressure : PathPressure)
  | schedulerStatus (status : SchedulerStatus)
  | dataTransmitSample (sample : DataTransmitSample)
  deriving DecidableEq

end Messages

section Encode

def be16 (value : UInt16) : Bytes := toBe 2 value.toNat
def be32 (value : UInt32) : Bytes := toBe 4 value.toNat
def be64 (value : UInt64) : Bytes := toBe 8 value.toNat

/-- An id, the length of a text in one byte, and the text. -/
def encodeNamed (id : UInt16) (text : String) : Bytes :=
  be16 id ++ (UInt8.ofNat (Utf8.encode text).length :: Utf8.encode text)

def encodeLenPrefixed (text : String) : Bytes :=
  UInt8.ofNat (Utf8.encode text).length :: Utf8.encode text

def encodeMessage : ControlMessage → Record
  | .pathAssignment assignment =>
      (ControlType.pathAssignment.toU8,
        be64 assignment.firstSequence ++ (be32 assignment.packetCount ++ be16 assignment.pathId))
  | .missingRange range => (ControlType.missingRange.toU8, be64 range.firstSequence ++ be32 range.packetCount)
  | .pathMetadata metadata => (ControlType.pathMetadata.toU8, encodeNamed metadata.pathId metadata.name)
  | .pathCapacity capacity =>
      (ControlType.pathCapacity.toU8,
        be16 capacity.pathId ++ (be64 (capacity.txBps.getD 0) ++ be64 (capacity.rxBps.getD 0)))
  | .pathLatency latency =>
      (ControlType.pathLatency.toU8,
        be16 latency.pathId ++ (be32 (latency.txCurrentUs.getD 0) ++ (be32 (latency.txMeanUs.getD 0) ++
          (be32 (latency.rxCurrentUs.getD 0) ++ be32 (latency.rxMeanUs.getD 0)))))
  | .pathMtu mtu =>
      (ControlType.pathMtu.toU8,
        be16 mtu.pathId ++ (be16 (mtu.txLinkMtu.getD 0) ++ (be16 (mtu.txFrameMtu.getD 0) ++
          (be16 (mtu.rxLinkMtu.getD 0) ++ be16 (mtu.rxFrameMtu.getD 0)))))
  | .internalClockSync sync =>
      (ControlType.internalClockSync.toU8,
        be64 sync.exchangeId ++ (be16 sync.pathId ++ (sync.mode.asU8 :: (be64 sync.originUs ++
          (be64 (sync.receiveUs.getD 0) ++ be64 (sync.transmitUs.getD 0))))))
  | .sinkTime sinkTime =>
      (ControlType.sinkTime.toU8,
        be16 sinkTime.pathId ++ (be64 sinkTime.sinkUnixUs ++ (be64 sinkTime.sinkInternalUs ++
          [sinkTime.ntpState.asU8])))
  | .serviceMetadata metadata => (ControlType.serviceMetadata.toU8, encodeNamed metadata.serviceId metadata.text)
  | .serviceEndpointAssertion assertion =>
      (ControlType.serviceEndpointAssertion.toU8, encodeNamed assertion.serviceId assertion.text)
  | .serviceDisable disable => (ControlType.serviceDisable.toU8, encodeNamed disable.serviceId disable.text)
  | .serviceSchedulerPolicy policy =>
      (ControlType.serviceSchedulerPolicy.toU8,
        be16 policy.serviceId ++ (be16 policy.fanout ++ (be32 policy.fanoutBelowBytes ++
          (be64 policy.flowletIdleUs ++ (be64 policy.flowletMaxHoldUs ++ be32 policy.pathRunDatagrams)))))
  | .pathPressure pressure =>
      (ControlType.pathPressure.toU8,
        be16 pressure.pathId ++ (be32 pressure.lossPpm ++ (be32 pressure.queueDepthPackets ++
          (be32 pressure.queueDepthBytes ++ (be32 pressure.queueOldestAgeUs ++ (be32 pressure.sendFailures ++
            (be32 pressure.receiveGaps ++ (be32 pressure.reorderDepthPackets ++ (be32 pressure.localDrops ++
              (be32 pressure.schedulerInFlightPackets ++ (be32 pressure.schedulerInFlightBytes ++
                (be32 pressure.schedulerPredictedDeliveryUs ++ (be32 pressure.reorderBufferPackets ++
                  be32 pressure.reorderBufferOldestAgeUs)))))))))))))
  | .schedulerStatus status =>
      (ControlType.schedulerStatus.toU8,
        encodeLenPrefixed status.configuredMode ++ (encodeLenPrefixed status.effectiveMode ++
          encodeLenPrefixed status.rustMode))
  | .dataTransmitSample sample =>
      (ControlType.dataTransmitSample.toU8,
        be16 sample.pathId ++ (be64 sample.firstSequence ++ (be32 sample.packetCount ++ be64 sample.transmitUs)))

end Encode

section Decode

def readU16 (input : Bytes) (offset : Nat) : UInt16 := UInt16.ofNat (readBe 2 input offset)
def readU32 (input : Bytes) (offset : Nat) : UInt32 := UInt32.ofNat (readBe 4 input offset)
def readU64 (input : Bytes) (offset : Nat) : UInt64 := UInt64.ofNat (readBe 8 input offset)

/-- Zero stands for an absent number. -/
def optional {α : Type} [DecidableEq α] [OfNat α 0] (value : α) : Option α := if value = 0 then none else some value

def optionalU16 (value : UInt16) : Option UInt16 := optional value
def optionalU32 (value : UInt32) : Option UInt32 := optional value
def optionalU64 (value : UInt64) : Option UInt64 := optional value

/-- A value of exactly `size` bytes. -/
def sized {α : Type} (size : Nat) (value : Bytes) (read : Except ProtocolError α) : Except ProtocolError α :=
  if value.length ≠ size then .error .malformedControl else read

/-- An id and a text that fills the rest of the value. -/
def decodeNamed {α : Type} (make : UInt16 → String → Except ProtocolError α) (value : Bytes) :
    Except ProtocolError α :=
  if value.length < 3 then .error .malformedControl
  else if value.length ≠ 3 + (value.getD 2 0).toNat then .error .malformedControl
  else
    match Utf8.decode (value.drop 3) with
    | none => .error .malformedControl
    | some text => make (readU16 value 0) text

def readLenPrefixedString (input : Bytes) (offset : Nat) : Except ProtocolError (String × Nat) :=
  if input.length ≤ offset then .error .malformedControl
  else
    let valueLen := (input.getD offset 0).toNat
    if valueLen = 0 ∨ 63 < valueLen ∨ input.length < offset + 1 + valueLen then .error .malformedControl
    else
      match Utf8.decode ((input.drop (offset + 1)).take valueLen) with
      | none => .error .malformedControl
      | some text => .ok (text, offset + 1 + valueLen)

def decodeSchedulerStatus (value : Bytes) : Except ProtocolError SchedulerStatus := do
  let (configuredMode, firstCursor) ← readLenPrefixedString value 0
  let (effectiveMode, secondCursor) ← readLenPrefixedString value firstCursor
  let (rustMode, finalCursor) ← readLenPrefixedString value secondCursor
  if finalCursor ≠ value.length then .error .malformedControl
  else SchedulerStatus.new configuredMode effectiveMode rustMode

def decodeInternalClockSync (value : Bytes) : Except ProtocolError InternalClockSync :=
  sized 35 value do
    let mode ← ClockSyncMode.fromU8 (value.getD 10 0)
    InternalClockSync.new (readU64 value 0) (readU16 value 8) mode (readU64 value 11)
      (optionalU64 (readU64 value 19)) (optionalU64 (readU64 value 27))

def decodeSinkTime (value : Bytes) : Except ProtocolError SinkTime :=
  sized 19 value do
    let ntpState ← NtpState.fromU8 (value.getD 18 0)
    SinkTime.new (readU16 value 0) (readU64 value 2) (readU64 value 10) ntpState

def decodePathPressure (value : Bytes) : Except ProtocolError PathPressure :=
  sized 54 value (PathPressure.new ⟨readU16 value 0, readU32 value 2, readU32 value 6, readU32 value 10,
    readU32 value 14, readU32 value 18, readU32 value 22, readU32 value 26, readU32 value 30, readU32 value 34,
    readU32 value 38, readU32 value 42, readU32 value 46, readU32 value 50⟩)

def decodeMessage (messageType : UInt8) (value : Bytes) : Except ProtocolError ControlMessage :=
  match ControlType.fromU8 messageType with
  | some .pathAssignment =>
      .pathAssignment <$> sized 14 value (PathAssignment.new (readU64 value 0) (readU32 value 8) (readU16 value 12))
  | some .missingRange => .missingRange <$> sized 12 value (MissingRange.new (readU64 value 0) (readU32 value 8))
  | some .pathMetadata => .pathMetadata <$> decodeNamed PathMetadata.new value
  | some .pathCapacity =>
      .pathCapacity <$> sized 18 value (PathCapacity.new (readU16 value 0) (optionalU64 (readU64 value 2))
        (optionalU64 (readU64 value 10)))
  | some .pathLatency =>
      .pathLatency <$> sized 18 value (PathLatency.new (readU16 value 0) (optionalU32 (readU32 value 2))
        (optionalU32 (readU32 value 6)) (optionalU32 (readU32 value 10)) (optionalU32 (readU32 value 14)))
  | some .pathMtu =>
      .pathMtu <$> sized 10 value (PathMtu.new (readU16 value 0) (optionalU16 (readU16 value 2))
        (optionalU16 (readU16 value 4)) (optionalU16 (readU16 value 6)) (optionalU16 (readU16 value 8)))
  | some .internalClockSync => .internalClockSync <$> decodeInternalClockSync value
  | some .sinkTime => .sinkTime <$> decodeSinkTime value
  | some .serviceMetadata => .serviceMetadata <$> decodeNamed ServiceText.new value
  | some .serviceEndpointAssertion => .serviceEndpointAssertion <$> decodeNamed ServiceText.new value
  | some .serviceDisable => .serviceDisable <$> decodeNamed ServiceText.new value
  | some .serviceSchedulerPolicy =>
      .serviceSchedulerPolicy <$> sized 28 value (ServiceSchedulerPolicy.new (readU16 value 0) (readU16 value 2)
        (readU32 value 4) (readU64 value 8) (readU64 value 16) (readU32 value 24))
  | some .pathPressure => .pathPressure <$> decodePathPressure value
  | some .schedulerStatus => .schedulerStatus <$> decodeSchedulerStatus value
  | some .dataTransmitSample =>
      .dataTransmitSample <$> sized 22 value (DataTransmitSample.new (readU16 value 0) (readU64 value 2)
        (readU32 value 10) (readU64 value 14))
  | some .pathLatencyQuality | some .pathLatencyStats | none => .error .malformedControl

end Decode

structure ControlPayload where
  messages : List ControlMessage
  deriving DecidableEq

namespace ControlPayload

def new (messages : List ControlMessage) : Except ProtocolError ControlPayload :=
  if messages.isEmpty ∨ 65535 < messages.length then .error .malformedControl else .ok ⟨messages⟩

/-- The encoder's loop: the length is checked after every message. -/
def encodeFrom (output : Bytes) : List ControlMessage → Except ProtocolError Bytes
  | [] => .ok output
  | message :: rest =>
      let output := output ++ pack (encodeMessage message)
      if 65535 < output.length then .error (.controlTooLarge output.length) else encodeFrom output rest

def encode (payload : ControlPayload) : Except ProtocolError Bytes :=
  encodeFrom (CONTROL_PAYLOAD_VERSION :: toBe 2 payload.messages.length) payload.messages

/-- The decoder's step over one record. -/
def collect (messages : List ControlMessage) (kind : UInt8) (value : Bytes) :
    Except ProtocolError (List ControlMessage) :=
  (messages ++ [·]) <$> decodeMessage kind value

def decode (input : Bytes) : Except ProtocolError ControlPayload :=
  if input.length < 3 ∨ input.getD 0 0 ≠ CONTROL_PAYLOAD_VERSION then .error .malformedControl
  else
    let messageCount := readBe 2 input 1
    if messageCount = 0 then .error .malformedControl
    else do
      let (cursor, messages) ← walk .malformedControl collect input messageCount 3 []
      if cursor ≠ input.length then .error .malformedControl else .ok ⟨messages⟩

end ControlPayload

end Gatherlink.Protocol
