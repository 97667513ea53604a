import Gatherlink.Lib.Dict
import Gatherlink.Protocol.Control

/-! The control plane's own codec for control payloads. Its integers are unbounded, so the encoder checks
ranges, and its decoder gathers the messages of a payload in dictionaries by path or service. -/

namespace Gatherlink.Metaband
open Lib Lib.BigEndian Lib.Tlv
open Protocol (ControlType SchedulerStatus CONTROL_PAYLOAD_VERSION)

def USER_SERVICE_ID_START : Int := 256
def U16_MAX : Int := 65535
def U32_MAX : Int := 4294967295
def U64_MAX : Int := 18446744073709551615

section Frame

/-- A policy as the caller may give it: the path policy was added to the tuple later. -/
inductive PolicyTuple where
  | five (fanout fanoutBelowBytes flowletIdleUs flowletMaxHoldUs pathRunDatagrams : Int)
  | six (fanout fanoutBelowBytes flowletIdleUs flowletMaxHoldUs pathRunDatagrams pathPolicy : Int)
  deriving DecidableEq

structure ServiceSchedulerPolicy where
  fanout : Int
  fanoutBelowBytes : Int
  flowletIdleUs : Int
  flowletMaxHoldUs : Int
  pathRunDatagrams : Int
  pathPolicy : Int
  deriving DecidableEq

def PolicyTuple.unpack : PolicyTuple → ServiceSchedulerPolicy
  | .five fanout below idle hold run => ⟨fanout, below, idle, hold, run, 0⟩
  | .six fanout below idle hold run path => ⟨fanout, below, idle, hold, run, path⟩

structure PathCapacity where
  txBps : Option Int
  rxBps : Option Int
  deriving DecidableEq

structure PathLatency where
  txCurrentUs : Option Int
  txMeanUs : Option Int
  rxCurrentUs : Option Int
  rxMeanUs : Option Int
  deriving DecidableEq

structure PathLatencyQuality where
  source : Option String
  confidence : Option String
  deriving DecidableEq

structure PathLatencyStats where
  rttUs : Option Int
  clockErrorUs : Option Int
  txJitterUs : Option Int
  rxJitterUs : Option Int
  txP95Us : Option Int
  rxP95Us : Option Int
  deriving DecidableEq

structure PathMtu where
  txLinkMtu : Option Int
  txFrameMtu : Option Int
  rxLinkMtu : Option Int
  rxFrameMtu : Option Int
  deriving DecidableEq

structure PathPressure where
  lossPpm : Int
  queueDepthPackets : Int
  queueDepthBytes : Int
  queueOldestAgeUs : Int
  sendFailures : Int
  receiveGaps : Int
  reorderDepthPackets : Int
  localDrops : Int
  schedulerInFlightPackets : Int
  schedulerInFlightBytes : Int
  schedulerPredictedDeliveryUs : Int
  reorderBufferPackets : Int
  reorderBufferOldestAgeUs : Int
  observedPackets : Int
  deriving DecidableEq

structure DataTransmitSample where
  pathId : Int
  firstSequence : Int
  packetCount : Int
  transmitUs : Int
  deriving DecidableEq

structure InternalClockSyncMessage where
  exchangeId : Int
  pathId : Int
  mode : Int
  originUs : Int
  receiveUs : Option Int
  transmitUs : Option Int
  deriving DecidableEq

structure SinkTimeMessage where
  pathId : Int
  sinkUnixUs : Int
  sinkInternalUs : Int
  ntpState : Int
  deriving DecidableEq

/-- The facts of a payload, with the policies in the form `Policy`. -/
structure ControlFacts (Policy : Type) where
  pathMetadata : Dict Int String
  serviceMetadata : Dict Int String
  serviceEndpointAssertions : Dict Int String
  serviceDisables : Dict Int String
  serviceSchedulerPolicies : Dict Int Policy
  pathCapacityBps : Dict Int PathCapacity
  pathLatencyUs : Dict Int PathLatency
  pathLatencyQuality : Dict Int PathLatencyQuality
  pathLatencyStats : Dict Int PathLatencyStats
  pathMtu : Dict Int PathMtu
  pathPressure : Dict Int PathPressure
  schedulerStatus : Option SchedulerStatus
  dataTransmitSamples : List DataTransmitSample
  internalClockSync : List InternalClockSyncMessage
  sinkTime : List SinkTimeMessage
  deriving DecidableEq

abbrev ControlFrame := ControlFacts ServiceSchedulerPolicy

/-- The arguments of the encoder. An argument that is left out is an empty one. -/
abbrev Arguments := ControlFacts PolicyTuple

def ControlFacts.empty {Policy : Type} : ControlFacts Policy :=
  ⟨.empty, .empty, .empty, .empty, .empty, .empty, .empty, .empty, .empty, .empty, .empty, none, [], [], []⟩

/-- The facts that the arguments state: a policy of five numbers has path policy 0. -/
def ControlFacts.frame (arguments : Arguments) : ControlFrame :=
  { arguments with serviceSchedulerPolicies := arguments.serviceSchedulerPolicies.mapValues PolicyTuple.unpack }

/-- One message of a payload. -/
inductive Fact where
  | pathMetadata (pathId : Int) (name : String)
  | serviceMetadata (serviceId : Int) (name : String)
  | serviceEndpointAssertion (serviceId : Int) (target : String)
  | serviceDisable (serviceId : Int) (reason : String)
  | serviceSchedulerPolicy (serviceId : Int) (policy : ServiceSchedulerPolicy)
  | pathCapacity (pathId : Int) (capacity : PathCapacity)
  | pathLatency (pathId : Int) (latency : PathLatency)
  | pathLatencyQuality (pathId : Int) (quality : PathLatencyQuality)
  | pathLatencyStats (pathId : Int) (stats : PathLatencyStats)
  | pathMtu (pathId : Int) (mtu : PathMtu)
  | pathPressure (pathId : Int) (pressure : PathPressure)
  | schedulerStatus (status : SchedulerStatus)
  | dataTransmitSample (sample : DataTransmitSample)
  | internalClockSync (sync : InternalClockSyncMessage)
  | sinkTime (message : SinkTimeMessage)
  deriving DecidableEq

namespace ControlFacts

/-- The messages for the facts of a frame, in the order of the encoder. -/
def facts (frame : ControlFrame) : List Fact :=
  [frame.pathMetadata.entries.map fun entry => Fact.pathMetadata entry.1 entry.2,
    frame.serviceMetadata.entries.map fun entry => Fact.serviceMetadata entry.1 entry.2,
    frame.serviceEndpointAssertions.entries.map fun entry => Fact.serviceEndpointAssertion entry.1 entry.2,
    frame.serviceDisables.entries.map fun entry => Fact.serviceDisable entry.1 entry.2,
    frame.serviceSchedulerPolicies.entries.map fun entry => Fact.serviceSchedulerPolicy entry.1 entry.2,
    frame.pathCapacityBps.entries.map fun entry => Fact.pathCapacity entry.1 entry.2,
    frame.pathLatencyUs.entries.map fun entry => Fact.pathLatency entry.1 entry.2,
    frame.pathLatencyQuality.entries.map fun entry => Fact.pathLatencyQuality entry.1 entry.2,
    frame.pathLatencyStats.entries.map fun entry => Fact.pathLatencyStats entry.1 entry.2,
    frame.pathMtu.entries.map fun entry => Fact.pathMtu entry.1 entry.2,
    frame.pathPressure.entries.map fun entry => Fact.pathPressure entry.1 entry.2,
    frame.schedulerStatus.toList.map Fact.schedulerStatus,
    frame.dataTransmitSamples.map Fact.dataTransmitSample,
    frame.internalClockSync.map Fact.internalClockSync,
    frame.sinkTime.map Fact.sinkTime].flatten

/-- Add one message to a frame. A later message for the same path or service replaces the earlier one. -/
def record (frame : ControlFrame) : Fact → ControlFrame
  | .pathMetadata path name => { frame with pathMetadata := frame.pathMetadata.set path name }
  | .serviceMetadata service name => { frame with serviceMetadata := frame.serviceMetadata.set service name }
  | .serviceEndpointAssertion service target =>
      { frame with serviceEndpointAssertions := frame.serviceEndpointAssertions.set service target }
  | .serviceDisable service reason => { frame with serviceDisables := frame.serviceDisables.set service reason }
  | .serviceSchedulerPolicy service policy =>
      { frame with serviceSchedulerPolicies := frame.serviceSchedulerPolicies.set service policy }
  | .pathCapacity path capacity => { frame with pathCapacityBps := frame.pathCapacityBps.set path capacity }
  | .pathLatency path latency => { frame with pathLatencyUs := frame.pathLatencyUs.set path latency }
  | .pathLatencyQuality path quality => { frame with pathLatencyQuality := frame.pathLatencyQuality.set path quality }
  | .pathLatencyStats path stats => { frame with pathLatencyStats := frame.pathLatencyStats.set path stats }
  | .pathMtu path mtu => { frame with pathMtu := frame.pathMtu.set path mtu }
  | .pathPressure path pressure => { frame with pathPressure := frame.pathPressure.set path pressure }
  | .schedulerStatus status => { frame with schedulerStatus := some status }
  | .dataTransmitSample sample => { frame with dataTransmitSamples := frame.dataTransmitSamples ++ [sample] }
  | .internalClockSync sync => { frame with internalClockSync := frame.internalClockSync ++ [sync] }
  | .sinkTime message => { frame with sinkTime := frame.sinkTime ++ [message] }

end ControlFacts

def Fact.kind : Fact → ControlType
  | .pathMetadata .. => .pathMetadata
  | .serviceMetadata .. => .serviceMetadata
  | .serviceEndpointAssertion .. => .serviceEndpointAssertion
  | .serviceDisable .. => .serviceDisable
  | .serviceSchedulerPolicy .. => .serviceSchedulerPolicy
  | .pathCapacity .. => .pathCapacity
  | .pathLatency .. => .pathLatency
  | .pathLatencyQuality .. => .pathLatencyQuality
  | .pathLatencyStats .. => .pathLatencyStats
  | .pathMtu .. => .pathMtu
  | .pathPressure .. => .pathPressure
  | .schedulerStatus .. => .schedulerStatus
  | .dataTransmitSample .. => .dataTransmitSample
  | .internalClockSync .. => .internalClockSync
  | .sinkTime .. => .sinkTime

end Frame

section Encode

inductive EncodeError where
  | valueError (text : String)
  | overflowError
  deriving DecidableEq

/-- `int.to_bytes` in network order. -/
def toBytes (width : Nat) (value : Int) : Except EncodeError Bytes :=
  if value < 0 ∨ 256 ^ width ≤ value then .error .overflowError else .ok (toBe width value.toNat)

def appendU16 (value : Int) : Except EncodeError Bytes := toBytes 2 value
def appendU32 (value : Int) : Except EncodeError Bytes := toBytes 4 value
def appendU64 (value : Int) : Except EncodeError Bytes := toBytes 8 value

/-- `bytearray.append`. -/
def appendByte (value : Int) : Except EncodeError Bytes :=
  if value < 0 ∨ 255 < value then .error (.valueError "byte must be in range(0, 256)")
  else .ok [UInt8.ofNat value.toNat]

/-- An absent number is written as 0, so a number that is present has to be positive. -/
def optionalNumber (limit : Int) (text : String) : Option Int → Except EncodeError Int
  | none => .ok 0
  | some value => if value ≤ 0 ∨ limit < value then .error (.valueError text) else .ok value

def optionalU64 : Option Int → Except EncodeError Int := optionalNumber U64_MAX "path capacity value out of range"
def optionalU32 : Option Int → Except EncodeError Int := optionalNumber U32_MAX "path latency value out of range"
def optionalU16 : Option Int → Except EncodeError Int := optionalNumber U16_MAX "path MTU value out of range"

/-- A statistic may be present as 0. -/
def optionalMetricU32 : Option Int → Except EncodeError Int
  | none => .ok 0
  | some value =>
      if value < 0 ∨ U32_MAX < value then .error (.valueError "path metric value out of range") else .ok value

def counterU32 (value : Int) : Except EncodeError Int :=
  if value < 0 ∨ U32_MAX < value then .error (.valueError "path pressure counter value out of range") else .ok value

/-- A message of the given type and length, with the fields written in order. -/
def message (kind : ControlType) (length : Nat) (fields : List (Except EncodeError Bytes)) :
    Except EncodeError Bytes := do
  let parts ← fields.mapM id
  .ok (kind.toU8 :: (toBe 2 length ++ parts.flatten))

def encodeText (kind : ControlType) (lowest : Int) (error : String) (id : Int) (text : String) :
    Except EncodeError Bytes :=
  let encoded := Utf8.encode text
  if id < lowest ∨ U16_MAX < id ∨ encoded.isEmpty ∨ 255 < encoded.length then .error (.valueError error)
  else message kind (3 + encoded.length) [appendU16 id, appendByte encoded.length, .ok encoded]

def encodePathMetadata : Int → String → Except EncodeError Bytes :=
  encodeText .pathMetadata 0 "path metadata value out of range"

def encodeServiceMetadata : Int → String → Except EncodeError Bytes :=
  encodeText .serviceMetadata USER_SERVICE_ID_START "service metadata value out of range"

def encodeServiceEndpointAssertion : Int → String → Except EncodeError Bytes :=
  encodeText .serviceEndpointAssertion USER_SERVICE_ID_START "service endpoint assertion value out of range"

def encodeServiceDisable : Int → String → Except EncodeError Bytes :=
  encodeText .serviceDisable USER_SERVICE_ID_START "service disable value out of range"

def encodeServiceSchedulerPolicy (serviceId : Int) (policy : ServiceSchedulerPolicy) : Except EncodeError Bytes :=
  if serviceId < USER_SERVICE_ID_START ∨ U16_MAX < serviceId ∨ policy.fanout < 0 ∨ U16_MAX < policy.fanout ∨
      policy.fanoutBelowBytes < 0 ∨ U32_MAX < policy.fanoutBelowBytes ∨ policy.flowletIdleUs < 0 ∨
      U64_MAX < policy.flowletIdleUs ∨ policy.flowletMaxHoldUs < 0 ∨ U64_MAX < policy.flowletMaxHoldUs ∨
      policy.pathRunDatagrams < 0 ∨ U32_MAX < policy.pathRunDatagrams ∨ policy.pathPolicy < 0 ∨
      2 < policy.pathPolicy then
    .error (.valueError "service scheduler policy value out of range")
  else message .serviceSchedulerPolicy 29
    [appendU16 serviceId, appendU16 policy.fanout, appendU32 policy.fanoutBelowBytes, appendU64 policy.flowletIdleUs,
      appendU64 policy.flowletMaxHoldUs, appendU32 policy.pathRunDatagrams, appendByte policy.pathPolicy]

def onPath (error : String) (pathId : Int) (encode : Except EncodeError Bytes) : Except EncodeError Bytes :=
  if pathId < 0 ∨ U16_MAX < pathId then .error (.valueError error) else encode

variable (pathId : Int)

def encodePathCapacity (capacity : PathCapacity) : Except EncodeError Bytes :=
  onPath "path capacity path id out of range" pathId (message .pathCapacity 18
    [appendU16 pathId, optionalU64 capacity.txBps >>= appendU64, optionalU64 capacity.rxBps >>= appendU64])

def encodePathLatency (latency : PathLatency) : Except EncodeError Bytes :=
  onPath "path latency path id out of range" pathId (message .pathLatency 18
    [appendU16 pathId, optionalU32 latency.txCurrentUs >>= appendU32, optionalU32 latency.txMeanUs >>= appendU32,
      optionalU32 latency.rxCurrentUs >>= appendU32, optionalU32 latency.rxMeanUs >>= appendU32])

def LATENCY_SOURCES : List (Option String) :=
  [none, some "reply-rtt-half", some "clock-synced-one-way", some "data-traffic-one-way", some "rejected", some "peer"]

def LATENCY_CONFIDENCES : List (Option String) :=
  [none, some "coarse", some "warming", some "good", some "rejected"]

/-- The code of a word is its place in the table. -/
def encodeWord (table : List (Option String)) (error : String) (word : Option String) : Except EncodeError Int :=
  match table.idxOf? word with
  | none => .error (.valueError error)
  | some code => .ok code

def encodeLatencySource : Option String → Except EncodeError Int :=
  encodeWord LATENCY_SOURCES "path latency source value out of range"

def encodeLatencyConfidence : Option String → Except EncodeError Int :=
  encodeWord LATENCY_CONFIDENCES "path latency confidence value out of range"

def encodePathLatencyQuality (quality : PathLatencyQuality) : Except EncodeError Bytes :=
  onPath "path latency quality path id out of range" pathId (message .pathLatencyQuality 4
    [appendU16 pathId, encodeLatencySource quality.source >>= appendByte,
      encodeLatencyConfidence quality.confidence >>= appendByte])

def encodePathLatencyStats (stats : PathLatencyStats) : Except EncodeError Bytes :=
  onPath "path latency stats path id out of range" pathId (message .pathLatencyStats 26
    [appendU16 pathId, optionalMetricU32 stats.rttUs >>= appendU32, optionalMetricU32 stats.clockErrorUs >>= appendU32,
      optionalMetricU32 stats.txJitterUs >>= appendU32, optionalMetricU32 stats.rxJitterUs >>= appendU32,
      optionalMetricU32 stats.txP95Us >>= appendU32, optionalMetricU32 stats.rxP95Us >>= appendU32])

def validMtuPair : Option Int → Option Int → Bool
  | none, none => true
  | some linkMtu, some frameMtu => frameMtu > 0 && frameMtu ≤ linkMtu
  | _, _ => false

/-- The check that encoder and decoder share. -/
def PathMtu.Valid (mtu : PathMtu) : Prop :=
  validMtuPair mtu.txLinkMtu mtu.txFrameMtu = true ∧ validMtuPair mtu.rxLinkMtu mtu.rxFrameMtu = true ∧
    ¬(mtu.txLinkMtu = none ∧ mtu.rxLinkMtu = none)

instance (mtu : PathMtu) : Decidable mtu.Valid := inferInstanceAs (Decidable (_ ∧ _))

def encodePathMtu (mtu : PathMtu) : Except EncodeError Bytes :=
  if pathId < 0 ∨ U16_MAX < pathId ∨ ¬mtu.Valid then .error (.valueError "path MTU value out of range")
  else message .pathMtu 10
    [appendU16 pathId, optionalU16 mtu.txLinkMtu >>= appendU16, optionalU16 mtu.txFrameMtu >>= appendU16,
      optionalU16 mtu.rxLinkMtu >>= appendU16, optionalU16 mtu.rxFrameMtu >>= appendU16]

def encodePathPressure (pressure : PathPressure) : Except EncodeError Bytes :=
  onPath "path pressure path id out of range" pathId <|
    if 1000000 < pressure.lossPpm then .error (.valueError "path pressure loss value out of range")
    else message .pathPressure 58
      [appendU16 pathId, counterU32 pressure.lossPpm >>= appendU32,
        counterU32 pressure.queueDepthPackets >>= appendU32, counterU32 pressure.queueDepthBytes >>= appendU32,
        counterU32 pressure.queueOldestAgeUs >>= appendU32, counterU32 pressure.sendFailures >>= appendU32,
        counterU32 pressure.receiveGaps >>= appendU32, counterU32 pressure.reorderDepthPackets >>= appendU32,
        counterU32 pressure.localDrops >>= appendU32, counterU32 pressure.schedulerInFlightPackets >>= appendU32,
        counterU32 pressure.schedulerInFlightBytes >>= appendU32,
        counterU32 pressure.schedulerPredictedDeliveryUs >>= appendU32,
        counterU32 pressure.reorderBufferPackets >>= appendU32,
        counterU32 pressure.reorderBufferOldestAgeUs >>= appendU32, counterU32 pressure.observedPackets >>= appendU32]

def encodeSchedulerStatus (status : SchedulerStatus) : Except EncodeError Bytes :=
  let encoded := [Utf8.encode status.configuredMode, Utf8.encode status.effectiveMode, Utf8.encode status.rustMode]
  if encoded.any fun value => value.isEmpty || 63 < value.length then
    .error (.valueError "scheduler status value out of range")
  else message .schedulerStatus ((encoded.map List.length).sum + encoded.length)
    (encoded.flatMap fun value => [appendByte value.length, .ok value])

def encodeDataTransmitSample (sample : DataTransmitSample) : Except EncodeError Bytes :=
  if sample.pathId < 0 ∨ U16_MAX < sample.pathId ∨ sample.firstSequence < 0 ∨ 2 ^ 64 ≤ sample.firstSequence ∨
      sample.packetCount ≤ 0 ∨ U32_MAX < sample.packetCount ∨ sample.transmitUs ≤ 0 ∨ U64_MAX < sample.transmitUs then
    .error (.valueError "data transmit sample value out of range")
  else message .dataTransmitSample 22
    [appendU16 sample.pathId, appendU64 sample.firstSequence, appendU32 sample.packetCount,
      appendU64 sample.transmitUs]

/-- The mode is written as it comes. -/
def encodeInternalClockSync (sync : InternalClockSyncMessage) : Except EncodeError Bytes :=
  if sync.pathId < 0 ∨ U16_MAX < sync.pathId ∨ sync.exchangeId ≤ 0 ∨ sync.originUs ≤ 0 then
    .error (.valueError "internal clock sync value out of range")
  else message .internalClockSync 35
    [appendU64 sync.exchangeId, appendU16 sync.pathId, appendByte sync.mode, appendU64 sync.originUs,
      optionalU64 sync.receiveUs >>= appendU64, optionalU64 sync.transmitUs >>= appendU64]

def encodeSinkTime (report : SinkTimeMessage) : Except EncodeError Bytes :=
  if report.pathId < 0 ∨ U16_MAX < report.pathId ∨ report.sinkUnixUs ≤ 0 ∨ report.sinkInternalUs ≤ 0 ∨
      report.ntpState ∉ [0, 1, 2] then
    .error (.valueError "sink time value out of range")
  else message .sinkTime 19
    [appendU16 report.pathId, appendU64 report.sinkUnixUs, appendU64 report.sinkInternalUs,
      appendByte report.ntpState]

def encodeFact : Fact → Except EncodeError Bytes
  | .pathMetadata path name => encodePathMetadata path name
  | .serviceMetadata service name => encodeServiceMetadata service name
  | .serviceEndpointAssertion service target => encodeServiceEndpointAssertion service target
  | .serviceDisable service reason => encodeServiceDisable service reason
  | .serviceSchedulerPolicy service policy => encodeServiceSchedulerPolicy service policy
  | .pathCapacity path capacity => encodePathCapacity path capacity
  | .pathLatency path latency => encodePathLatency path latency
  | .pathLatencyQuality path quality => encodePathLatencyQuality path quality
  | .pathLatencyStats path stats => encodePathLatencyStats path stats
  | .pathMtu path mtu => encodePathMtu path mtu
  | .pathPressure path pressure => encodePathPressure path pressure
  | .schedulerStatus status => encodeSchedulerStatus status
  | .dataTransmitSample sample => encodeDataTransmitSample sample
  | .internalClockSync sync => encodeInternalClockSync sync
  | .sinkTime report => encodeSinkTime report

def encodeControlPayload (arguments : Arguments) : Except EncodeError Bytes := do
  let facts := arguments.frame.facts
  if facts.length = 0 then .error (.valueError "control payload must include at least one message")
  else
    let count ← appendU16 facts.length
    let messages ← facts.mapM encodeFact
    let output := CONTROL_PAYLOAD_VERSION :: (count ++ messages.flatten)
    if 65535 < output.length then .error (.valueError "control payload is too large") else .ok output

end Encode

section Decode

/-- `int.from_bytes` of a slice, in network order. -/
def readInt (width : Nat) (value : Bytes) (offset : Nat) : Int := readBe width value offset

def decodeOptional (value : Int) : Option Int := if value = 0 then none else some value

/-- A value of exactly `size` bytes. -/
def exactly {α : Type} (size : Nat) (value : Bytes) (read : Option α) : Option α :=
  if value.length ≠ size then none else read

/-- An id and a text that fills the rest of the value. -/
def decodeTextValue (lowest : Int) (value : Bytes) : Option (Int × String) :=
  if value.length < 3 then none
  else if readInt 2 value 0 < lowest ∨ value.length ≠ 3 + (value.getD 2 0).toNat then none
  else
    match Utf8.decode (value.drop 3) with
    | none => none
    | some text => if text = "" then none else some (readInt 2 value 0, text)

def decodePathMetadataValue : Bytes → Option (Int × String) := decodeTextValue 0
def decodeServiceMetadataValue : Bytes → Option (Int × String) := decodeTextValue USER_SERVICE_ID_START
def decodeServiceEndpointAssertionValue : Bytes → Option (Int × String) := decodeTextValue USER_SERVICE_ID_START
def decodeServiceDisableValue : Bytes → Option (Int × String) := decodeTextValue USER_SERVICE_ID_START

variable (value : Bytes)

def decodeServiceSchedulerPolicyValue : Option (Int × ServiceSchedulerPolicy) :=
  exactly 29 value <|
    if readInt 2 value 0 < USER_SERVICE_ID_START then none
    else if 2 < (value.getD 28 0).toNat then none
    else some (readInt 2 value 0, ⟨readInt 2 value 2, readInt 4 value 4, readInt 8 value 8, readInt 8 value 16,
      readInt 4 value 24, (value.getD 28 0).toNat⟩)

def decodePathCapacityValue : Option (Int × PathCapacity) :=
  exactly 18 value <|
    some (readInt 2 value 0, ⟨decodeOptional (readInt 8 value 2), decodeOptional (readInt 8 value 10)⟩)

def decodePathLatencyValue : Option (Int × PathLatency) :=
  exactly 18 value <|
    some (readInt 2 value 0, ⟨decodeOptional (readInt 4 value 2), decodeOptional (readInt 4 value 6),
      decodeOptional (readInt 4 value 10), decodeOptional (readInt 4 value 14)⟩)

/-- The word behind a code, if there is one. Code 0 stands for no word. -/
def decodeWord (table : List (Option String)) (code : UInt8) : Option String := (table[code.toNat]?).join

def decodeLatencySource : UInt8 → Option String := decodeWord LATENCY_SOURCES
def decodeLatencyConfidence : UInt8 → Option String := decodeWord LATENCY_CONFIDENCES

def decodePathLatencyQualityValue : Option (Int × PathLatencyQuality) :=
  exactly 4 value <|
    let source := decodeLatencySource (value.getD 2 0)
    let confidence := decodeLatencyConfidence (value.getD 3 0)
    if source = none ∧ value.getD 2 0 ≠ 0 then none
    else if confidence = none ∧ value.getD 3 0 ≠ 0 then none
    else some (readInt 2 value 0, ⟨source, confidence⟩)

def decodePathLatencyStatsValue : Option (Int × PathLatencyStats) :=
  exactly 26 value <|
    some (readInt 2 value 0, ⟨decodeOptional (readInt 4 value 2), decodeOptional (readInt 4 value 6),
      decodeOptional (readInt 4 value 10), decodeOptional (readInt 4 value 14), decodeOptional (readInt 4 value 18),
      decodeOptional (readInt 4 value 22)⟩)

def decodePathMtuValue : Option (Int × PathMtu) :=
  exactly 10 value <|
    let mtu : PathMtu := ⟨decodeOptional (readInt 2 value 2), decodeOptional (readInt 2 value 4),
      decodeOptional (readInt 2 value 6), decodeOptional (readInt 2 value 8)⟩
    if ¬mtu.Valid then none else some (readInt 2 value 0, mtu)

def decodePathPressureValue : Option (Int × PathPressure) :=
  exactly 58 value <|
    if 1000000 < readInt 4 value 2 then none
    else some (readInt 2 value 0, ⟨readInt 4 value 2, readInt 4 value 6, readInt 4 value 10, readInt 4 value 14,
      readInt 4 value 18, readInt 4 value 22, readInt 4 value 26, readInt 4 value 30, readInt 4 value 34,
      readInt 4 value 38, readInt 4 value 42, readInt 4 value 46, readInt 4 value 50, readInt 4 value 54⟩)

/-- One round of the status loop. -/
def readText (cursor : Nat) : Option (String × Nat) :=
  if value.length ≤ cursor then none
  else
    let valueLen := (value.getD cursor 0).toNat
    if valueLen = 0 ∨ value.length < cursor + 1 + valueLen then none
    else
      match Utf8.decode ((value.drop (cursor + 1)).take valueLen) with
      | none => none
      | some text => some (text, cursor + 1 + valueLen)

def decodeSchedulerStatusValue : Option SchedulerStatus := do
  let (configured, firstCursor) ← readText value 0
  let (effective, secondCursor) ← readText value firstCursor
  let (rustMode, finalCursor) ← readText value secondCursor
  if finalCursor ≠ value.length then none else some ⟨configured, effective, rustMode⟩

def decodeDataTransmitSampleValue : Option DataTransmitSample :=
  exactly 22 value <|
    if readInt 4 value 10 ≤ 0 ∨ readInt 8 value 14 ≤ 0 then none
    else some ⟨readInt 2 value 0, readInt 8 value 2, readInt 4 value 10, readInt 8 value 14⟩

def decodeInternalClockSyncValue : Option InternalClockSyncMessage :=
  exactly 35 value <|
    let mode : Int := (value.getD 10 0).toNat
    if mode ∉ [1, 2] then none
    else if readInt 8 value 0 ≤ 0 ∨ readInt 8 value 11 ≤ 0 then none
    else
      let receiveUs := decodeOptional (readInt 8 value 19)
      let transmitUs := decodeOptional (readInt 8 value 27)
      if mode = 2 ∧ (receiveUs = none ∨ transmitUs = none) then none
      else some ⟨readInt 8 value 0, readInt 2 value 8, mode, readInt 8 value 11, receiveUs, transmitUs⟩

def decodeSinkTimeValue : Option SinkTimeMessage :=
  exactly 19 value <|
    let ntpState : Int := (value.getD 18 0).toNat
    if ntpState ∉ [0, 1, 2] then none
    else if readInt 8 value 2 ≤ 0 ∨ readInt 8 value 10 ≤ 0 then none
    else some ⟨readInt 2 value 0, readInt 8 value 2, readInt 8 value 10, ntpState⟩

/-- The message of a record: `none` if its value is malformed, `some none` if the type is not known here. -/
def decodeFact (messageType : UInt8) (value : Bytes) : Option (Option Fact) :=
  match ControlType.fromU8 messageType with
  | some .pathMetadata => (decodePathMetadataValue value).map fun read => some (.pathMetadata read.1 read.2)
  | some .serviceMetadata => (decodeServiceMetadataValue value).map fun read => some (.serviceMetadata read.1 read.2)
  | some .serviceEndpointAssertion =>
      (decodeServiceEndpointAssertionValue value).map fun read => some (.serviceEndpointAssertion read.1 read.2)
  | some .serviceDisable => (decodeServiceDisableValue value).map fun read => some (.serviceDisable read.1 read.2)
  | some .serviceSchedulerPolicy =>
      (decodeServiceSchedulerPolicyValue value).map fun read => some (.serviceSchedulerPolicy read.1 read.2)
  | some .pathCapacity => (decodePathCapacityValue value).map fun read => some (.pathCapacity read.1 read.2)
  | some .pathLatency => (decodePathLatencyValue value).map fun read => some (.pathLatency read.1 read.2)
  | some .pathLatencyQuality =>
      (decodePathLatencyQualityValue value).map fun read => some (.pathLatencyQuality read.1 read.2)
  | some .pathLatencyStats => (decodePathLatencyStatsValue value).map fun read => some (.pathLatencyStats read.1 read.2)
  | some .pathMtu => (decodePathMtuValue value).map fun read => some (.pathMtu read.1 read.2)
  | some .pathPressure => (decodePathPressureValue value).map fun read => some (.pathPressure read.1 read.2)
  | some .schedulerStatus => (decodeSchedulerStatusValue value).map fun status => some (.schedulerStatus status)
  | some .dataTransmitSample =>
    (decodeDataTransmitSampleValue value).map fun sample => some (.dataTransmitSample sample)
  | some .internalClockSync => (decodeInternalClockSyncValue value).map fun sync => some (.internalClockSync sync)
  | some .sinkTime => (decodeSinkTimeValue value).map fun report => some (.sinkTime report)
  | some .pathAssignment | some .missingRange | none => some none

/-- The decoder's step over one record. -/
def gather (frame : ControlFrame) (messageType : UInt8) (value : Bytes) : Except Unit ControlFrame :=
  match decodeFact messageType value with
  | none => .error ()
  | some none => .ok frame
  | some (some fact) => .ok (frame.record fact)

def decodeControlPayload (payload : Bytes) : Option ControlFrame :=
  if payload.length < 3 ∨ payload.getD 0 0 ≠ CONTROL_PAYLOAD_VERSION then none
  else
    match walk () gather payload (readBe 2 payload 1) 3 .empty with
    | .error () => none
    | .ok (cursor, frame) => if cursor ≠ payload.length then none else some frame

end Decode

end Gatherlink.Metaband
