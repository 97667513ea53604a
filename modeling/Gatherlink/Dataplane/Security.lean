import Gatherlink.Dataplane.Config
import Gatherlink.Lib.Lookup
import Gatherlink.Protocol.FrameCodec

/-! Transport security as the dataplane executes it: which session protects an outbound frame,
which one opens an inbound packet, and how a config is compiled into session state. -/

namespace Gatherlink.Dataplane
open Protocol Crypto Lib.BigEndian Lib.Lookup

inductive TransportSecurity where
  | none
  | static (keys : TransportKeys)
  | staticSessions (sessions : HashMap UInt32 TransportKeys) (serviceSessions : HashMap ServiceId UInt32)
      (defaultSession : Option UInt32)

structure UnprotectedFrame where
  frame : Frame
  localReceiverIndex : Option UInt32

inductive ReservedFrameProtection where
  | none
  | secure (counters : ReservedSendCounters)

namespace TransportSecurity

variable (sessions : List TransportSecuritySessionConfig)

def compileSessions : HashMap UInt32 TransportKeys :=
  ofList (sessions.map fun session => (session.localReceiverIndex,
    TransportKeys.newWithReceiverIndexes session.localReceiverIndex session.remoteReceiverIndex
      session.sendKey session.receiveKey))

/-- The first session that names a service keeps it. -/
def compileServiceSessions : HashMap ServiceId UInt32 :=
  fun serviceId => (sessions.find? (·.serviceIds.contains serviceId)).map (·.localReceiverIndex)

def compileStaticSessions : TransportSecurity :=
  .staticSessions (compileSessions sessions) (compileServiceSessions sessions)
    (match (sessions.map (·.localReceiverIndex)).dedup with
      | [only] => some only
      | _ => .none)

def fromConfig : TransportSecurityConfig → TransportSecurity
  | .none => .none
  | .static localReceiverIndex remoteReceiverIndex sendKey receiveKey =>
      .static (.newWithReceiverIndexes localReceiverIndex remoteReceiverIndex sendKey receiveKey)
  | .staticSessions sessions => compileStaticSessions sessions

/-- Run `use` on the keys of the session chosen for an outbound service, and put them back. -/
def withSendKeys {α : Type} (security : TransportSecurity) (serviceId : ServiceId)
    (sessionKey : Option UInt32) (plain : α) (use : TransportKeys → Except CryptoError α × TransportKeys) :
    Except CryptoError α × TransportSecurity :=
  match security with
  | .none => (.ok plain, .none)
  | .static keys => ((use keys).1, .static (use keys).2)
  | .staticSessions sessions serviceSessions defaultSession =>
      match (sessionKey <|> serviceSessions serviceId) <|> defaultSession with
      | .none => (.error .silentDrop, security)
      | some chosen =>
          match sessions chosen with
          | .none => (.error .silentDrop, security)
          | some keys => ((use keys).1,
              .staticSessions (insert sessions chosen (use keys).2) serviceSessions defaultSession)

def sendKeyFor (security : TransportSecurity) (serviceId : ServiceId) (sessionKey : Option UInt32) : Option Key :=
  match security with
  | .none => .none
  | .static keys => some keys.sendCipher
  | .staticSessions sessions serviceSessions defaultSession =>
      (((sessionKey <|> serviceSessions serviceId) <|> defaultSession).bind sessions).map (·.sendCipher)

variable (aead : Aead)

def protectFrameForServiceOrSession (security : TransportSecurity) (serviceId : ServiceId)
    (sessionKey : Option UInt32) (frame : Frame) : Except CryptoError Bytes × TransportSecurity :=
  security.withSendKeys serviceId sessionKey frame.encodeV1
    (·.encryptFrameWithPlaintext aead frame.encodedV2Len frame.encodeV2)

def reserveFrameProtectionBatch (security : TransportSecurity) (serviceId : ServiceId)
    (sessionKey : Option UInt32) (count : Nat) :
    Except CryptoError ReservedFrameProtection × TransportSecurity :=
  security.withSendKeys serviceId sessionKey .none fun keys =>
    ((keys.reserveSendCounters count).1.map .secure, (keys.reserveSendCounters count).2)

def sessionKeyForService (security : TransportSecurity) (serviceId : ServiceId) : Option UInt32 :=
  match security with
  | .none | .static _ => .none
  | .staticSessions _ serviceSessions defaultSession => serviceSessions serviceId <|> defaultSession

def pathFrameLen (security : TransportSecurity) (frame : Frame) : Nat :=
  match security with
  | .none => frame.encodedV1Len
  | .static _ | .staticSessions .. => frame.encodedV2Len

/-- Compact v2 has a shorter header, so a frame that fits as v1 fits however it is protected. -/
theorem pathFrameLen_le (security : TransportSecurity) (frame : Frame) :
    security.pathFrameLen frame ≤ frame.encodedV1Len := by
  cases security <;> simp [pathFrameLen, Frame.encodedV1Len, Frame.encodedV2Len, V1_HEADER_LEN,
    V2_HEADER_LEN]

/-- An authenticated, not replayed packet with the receive key that opened it and its session. -/
structure OpenedPacket where
  key : Key
  counter : Nat
  plaintext : Bytes
  localReceiverIndex : Option UInt32

def openWith (keys : TransportKeys) (localReceiverIndex : Option UInt32) (packet : Bytes) :
    Except CryptoError OpenedPacket × TransportKeys :=
  match keys.decryptPacket aead packet with
  | (.ok decrypted, next) =>
      (.ok ⟨keys.receiveCipher, decrypted.counter, decrypted.plaintext, localReceiverIndex⟩, next)
  | (.error error, next) => (.error error, next)

/-- Session lookup by the clear receiver index, then AEAD, receiver-index and replay checks. -/
def openPacket (security : TransportSecurity) (packet : Bytes) :
    Except CryptoError OpenedPacket × TransportSecurity :=
  match security with
  | .none => (.error .silentDrop, .none)
  | .static keys => ((openWith aead keys .none packet).1, .static (openWith aead keys .none packet).2)
  | .staticSessions sessions serviceSessions defaultSession =>
      match clearReceiverIndex packet with
      | .error error => (.error error, security)
      | .ok receiverIndex =>
          match sessions receiverIndex with
          | .none => (.error .silentDrop, security)
          | some keys => ((openWith aead keys (some receiverIndex) packet).1,
              .staticSessions (insert sessions receiverIndex (openWith aead keys (some receiverIndex) packet).2)
                serviceSessions defaultSession)

/-- Plain transport decodes compact v1; secure transport opens the packet and decodes compact v2. -/
def unprotectPacketWithSession (security : TransportSecurity) (packet : Bytes) :
    Except CryptoError UnprotectedFrame × TransportSecurity :=
  match security with
  | .none => ((Frame.decodeV1 packet).toOption.elim (.error .silentDrop) fun frame => .ok ⟨frame, .none⟩, .none)
  | .static _ | .staticSessions .. =>
      match openPacket aead security packet with
      | (.error error, next) => (.error error, next)
      | (.ok opened, next) =>
          match Frame.decodeV2Owned opened.plaintext with
          | .error _ => (.error .silentDrop, next)
          | .ok frame => (.ok ⟨frame, opened.localReceiverIndex⟩, next)

end TransportSecurity

def ReservedFrameProtection.protectFrame (aead : Aead) (protection : ReservedFrameProtection) (index : Nat)
    (frame : Frame) : Except CryptoError Bytes :=
  match protection with
  | .none => .ok frame.encodeV1
  | .secure counters => counters.encryptFrameWithPlaintext aead index frame.encodedV2Len frame.encodeV2

end Gatherlink.Dataplane
