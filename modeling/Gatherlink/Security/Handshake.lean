import Gatherlink.Security.Identity

/-! Session setup with signed documents: an initiation and a response, each a canonical document under an
Ed25519 signature, and the keys compiled from the ephemeral and static secrets. Ephemeral keys and receiver
indexes that the code draws at random are arguments. -/

namespace Gatherlink.Security

def HANDSHAKE_INIT_DOMAIN : String := "GATHERLINK_HANDSHAKE_INIT_V1"
def HANDSHAKE_RESPONSE_DOMAIN : String := "GATHERLINK_HANDSHAKE_RESPONSE_V1"
def HANDSHAKE_SECRET_DOMAIN : String := "GATHERLINK_AUTH_HANDSHAKE_SECRET_V1"
def HANDSHAKE_TRANSCRIPT_DOMAIN : String := "GATHERLINK_AUTH_HANDSHAKE_TRANSCRIPT_V1"

variable {B : Type}

section Documents

@[ext] structure SignedDocument (B : Type) where
  domain : String
  body : Document B
  signerNodeId : String
  signerPublicKey : B
  signature : B
  deriving DecidableEq

namespace Document

/-- Reads of a field of the expected kind. A `KeyError` is the name of the field. -/
def number? (body : Document B) (name : String) : Option Int :=
  match body.lookup name with
  | some (.number value) => some value
  | _ => none

def text? (body : Document B) (name : String) : Option String :=
  match body.lookup name with
  | some (.text value) => some value
  | _ => none

def bytes? (body : Document B) (name : String) : Option B :=
  match body.lookup name with
  | some (.bytes value) => some value
  | _ => none

def time? (body : Document B) (name : String) : Option Int :=
  match body.lookup name with
  | some (.time value) => some value
  | _ => none

def required {α : Type} (name : String) : Option α → Except String α
  | none => throw name
  | some value => pure value

end Document

variable (crypto : Primitives B)

def signedMessage (domain : String) (body : Document B) : B :=
  crypto.append (crypto.ascii domain) (crypto.canonicalCbor body)

def SignedDocument.verify (document : SignedDocument B) : Except String Unit :=
  if crypto.verify document.signerPublicKey (signedMessage crypto document.domain document.body) document.signature then
    pure ()
  else throw "InvalidSignature"

variable {crypto}

def signDocument (identity : NodeIdentity crypto) (domain : String) (body : Document B) : SignedDocument B where
  domain
  body
  signerNodeId := identity.nodeId
  signerPublicKey := identity.ed25519Public
  signature := crypto.sign identity.ed25519Private (signedMessage crypto domain body)

variable (crypto)

def documentBodyHash (document : SignedDocument B) : B := crypto.sha256 (crypto.canonicalCbor document.body)

def verifyDocumentSigner [DecidableEq B] (document : SignedDocument B) (identity : IdentityPublicRecord B) :
    Except String Unit := do
  let (nodeId, ed25519Public, _) ← identity.publicBytes crypto
  if document.signerNodeId ≠ nodeId ∨ document.signerPublicKey ≠ ed25519Public then throw silentDrop

def requireBodyNotExpired (body : Document B) (now : Int) : Except String Unit := do
  let expiresAt ← Document.required "expires_at" (body.time? "expires_at")
  let createdAt ← Document.required "created_at" (body.time? "created_at")
  requireNotExpired createdAt expiresAt now

end Documents

structure PendingHandshakeInitiation (B : Type) where
  document : SignedDocument B
  ephemeralPrivate : B
  createdAt : Int
  expiresAt : Int

structure AcceptedHandshake (B : Type) where
  response : SignedDocument B
  session : AuthenticatedSessionPlan B

def initiationBody (generation : Nat) (initiatorNodeId responderNodeId : String) (receiverIndex : Int)
    (ephemeralPublic : B) (createdAt expiresAt : Int) (capabilities : List String) : Document B :=
  [("schema_version", .number 1), ("topology_generation", .number generation),
    ("initiator_node_id", .text initiatorNodeId), ("responder_node_id", .text responderNodeId),
    ("initiator_receiver_index", .number receiverIndex), ("initiator_ephemeral_x25519", .bytes ephemeralPublic),
    ("created_at", .time createdAt), ("expires_at", .time expiresAt), ("capabilities", .texts capabilities)]

def responseBody (generation : Nat) (initiatorNodeId responderNodeId : String) (initiationHash ephemeralPublic : B)
    (receiverIndex : Int) (createdAt expiresAt : Int) : Document B :=
  [("schema_version", .number 1), ("topology_generation", .number generation),
    ("initiator_node_id", .text initiatorNodeId), ("responder_node_id", .text responderNodeId),
    ("initiation_hash", .bytes initiationHash), ("responder_ephemeral_x25519", .bytes ephemeralPublic),
    ("receiver_index", .number receiverIndex), ("responder_receiver_index", .number receiverIndex),
    ("created_at", .time createdAt), ("expires_at", .time expiresAt)]

variable (crypto : Primitives B)

section Compile

/-- The first key is for what the initiator sends. -/
def deriveDirectionalSessionKeys (sharedSecret transcriptHash : B) : Except String (B × B) := do
  if crypto.length sharedSecret ≠ 32 then throw "shared_secret must be 32 bytes"
  pure (crypto.hkdf transcriptHash (crypto.ascii "GATHERLINK_TRANSPORT_KEYS_V1") sharedSecret)

def handshakeTranscriptHash (initiation response : Document B) : B :=
  crypto.sha256 (crypto.append (crypto.append (crypto.ascii HANDSHAKE_TRANSCRIPT_DOMAIN)
    (crypto.canonicalCbor initiation))
    (crypto.canonicalCbor response))

/-- The role holds the ephemeral private key that it needs: `_compile_handshake_security` is never called without it. -/
def compileHandshakeSecurity (localIdentity : NodeIdentity crypto) (peerIdentity : IdentityPublicRecord B)
    (role : StaticSessionRole) (localReceiverIndex remoteReceiverIndex : Int) (initiation response : Document B)
    (initiatorEphemeralPublic responderEphemeralPublic ephemeralPrivate : B) :
    Except String (StaticTransportSecurityMaterial B) := do
  validateReceiverIndex localReceiverIndex
  validateReceiverIndex remoteReceiverIndex
  let (_, _, peerX25519Public) ← peerIdentity.publicBytes crypto
  let (dh1, dh2) ← match role with
    | .initiator => do
        let dh1 ← crypto.exchange ephemeralPrivate peerX25519Public
        let dh2 ← crypto.exchange localIdentity.x25519Private responderEphemeralPublic
        pure (dh1, dh2)
    | .responder => do
        let dh1 ← crypto.exchange localIdentity.x25519Private initiatorEphemeralPublic
        let dh2 ← crypto.exchange ephemeralPrivate peerX25519Public
        pure (dh1, dh2)
  let handshakeSecret := crypto.sha256 (crypto.append (crypto.append (crypto.ascii HANDSHAKE_SECRET_DOMAIN) dh1) dh2)
  let (initiatorToResponder, responderToInitiator) ←
    deriveDirectionalSessionKeys crypto handshakeSecret (handshakeTranscriptHash crypto initiation response)
  let (sendKey, receiveKey) := match role with
    | .initiator => (initiatorToResponder, responderToInitiator)
    | .responder => (responderToInitiator, initiatorToResponder)
  pure { receiverIndex := remoteReceiverIndex, localReceiverIndex, remoteReceiverIndex, sendKey, receiveKey }

end Compile

section Initiation

variable (localIdentity : NodeIdentity crypto) (peerIdentity : IdentityPublicRecord B) (topology : TopologyBundleBody B)

/-- An empty list of capabilities is replaced like a missing one. -/
def createHandshakeInitiation (receiverIndex : Int) (now : Int) (lifetimeSeconds : Int) (capabilities : List String)
    (ephemeralPrivate : B) : Except String (PendingHandshakeInitiation B) := do
  let createdAt := now
  let expiresAt := afterSeconds createdAt lifetimeSeconds
  validateLifetime lifetimeSeconds "handshake lifetime"
  validateReceiverIndex receiverIndex
  let localPublic := localIdentity.publicRecord
  requireTopologyMember topology localPublic
  requireTopologyMember topology peerIdentity
  let capabilities := if capabilities.isEmpty then ["compact-v2", "chacha20poly1305"] else capabilities
  let body := initiationBody topology.generation localPublic.nodeId peerIdentity.nodeId receiverIndex
    (crypto.x25519Public ephemeralPrivate) createdAt expiresAt capabilities
  pure { document := signDocument localIdentity HANDSHAKE_INIT_DOMAIN body, ephemeralPrivate, createdAt, expiresAt }

end Initiation

variable [DecidableEq B]

section Acceptance

def verifiedInitiationBody (document : SignedDocument B) (topology : TopologyBundleBody B)
    (responderIdentity : IdentityPublicRecord B) (now : Int) : Except String Unit := do
  if document.domain ≠ HANDSHAKE_INIT_DOMAIN then throw silentDrop
  document.verify crypto
  let body := document.body
  if (body.number? "schema_version").getD 0 ≠ 1 then throw silentDrop
  if (body.number? "topology_generation").getD 0 ≠ topology.generation then throw silentDrop
  if body.text? "responder_node_id" ≠ some responderIdentity.nodeId then throw silentDrop
  let initiator ← topologyIdentityByNodeId topology ((body.text? "initiator_node_id").getD "")
  verifyDocumentSigner crypto document initiator
  requireBodyNotExpired body now

def acceptHandshakeInitiation (responderIdentity : NodeIdentity crypto) (initiation : SignedDocument B)
    (topology : TopologyBundleBody B) (receiverIndex : Int) (now : Int) (sessionLifetimeSeconds : Int)
    (responderEphemeralPrivate : B) : Except String (AcceptedHandshake B) := do
  let acceptedAt := now
  validateReceiverIndex receiverIndex
  let responderPublic := responderIdentity.publicRecord
  verifiedInitiationBody crypto initiation topology responderPublic acceptedAt
  let initiatorPublic ← topologyIdentityByNodeId topology ((initiation.body.text? "initiator_node_id").getD "")
  let responderEphemeralPublic := crypto.x25519Public responderEphemeralPrivate
  let expiresAt := afterSeconds acceptedAt sessionLifetimeSeconds
  let body := responseBody topology.generation initiatorPublic.nodeId responderPublic.nodeId
    (documentBodyHash crypto initiation) responderEphemeralPublic receiverIndex acceptedAt expiresAt
  let response := signDocument responderIdentity HANDSHAKE_RESPONSE_DOMAIN body
  let remoteReceiverIndex ←
    Document.required "initiator_receiver_index" (initiation.body.number? "initiator_receiver_index")
  let initiatorEphemeralPublic ←
    Document.required "initiator_ephemeral_x25519" (initiation.body.bytes? "initiator_ephemeral_x25519")
  let security ← compileHandshakeSecurity crypto responderIdentity initiatorPublic .responder receiverIndex
    remoteReceiverIndex initiation.body response.body initiatorEphemeralPublic responderEphemeralPublic
    responderEphemeralPrivate
  pure
    { response
      session :=
        { localNodeId := responderPublic.nodeId
          peerNodeId := initiatorPublic.nodeId
          topologyGeneration := topology.generation
          receiverIndex
          role := .responder
          createdAt := acceptedAt
          expiresAt
          security } }

end Acceptance

section Completion

def verifiedResponseBody (document : SignedDocument B) (pending : PendingHandshakeInitiation B)
    (topology : TopologyBundleBody B) (initiatorIdentity : IdentityPublicRecord B) (now : Int) :
    Except String Unit := do
  if document.domain ≠ HANDSHAKE_RESPONSE_DOMAIN then throw silentDrop
  document.verify crypto
  let body := document.body
  if (body.number? "schema_version").getD 0 ≠ 1 then throw silentDrop
  if (body.number? "topology_generation").getD 0 ≠ topology.generation then throw silentDrop
  if body.text? "initiator_node_id" ≠ some initiatorIdentity.nodeId then throw silentDrop
  if body.bytes? "initiation_hash" ≠ some (documentBodyHash crypto pending.document) then throw silentDrop
  -- any member may sign: the responder is not compared with the one that the initiation names
  let responder ← topologyIdentityByNodeId topology ((body.text? "responder_node_id").getD "")
  verifyDocumentSigner crypto document responder
  requireBodyNotExpired body now

def completeHandshakeInitiator (localIdentity : NodeIdentity crypto) (pending : PendingHandshakeInitiation B)
    (response : SignedDocument B) (topology : TopologyBundleBody B) (now : Int) :
    Except String (AuthenticatedSessionPlan B) := do
  let completedAt := now
  let localPublic := localIdentity.publicRecord
  verifiedResponseBody crypto response pending topology localPublic completedAt
  let responderPublic ← topologyIdentityByNodeId topology ((response.body.text? "responder_node_id").getD "")
  let remoteReceiverIndex ←
    Document.required "responder_receiver_index" (response.body.number? "responder_receiver_index")
  let localReceiverIndex ←
    Document.required "initiator_receiver_index" (pending.document.body.number? "initiator_receiver_index")
  let initiatorEphemeralPublic ←
    Document.required "initiator_ephemeral_x25519" (pending.document.body.bytes? "initiator_ephemeral_x25519")
  let responderEphemeralPublic ←
    Document.required "responder_ephemeral_x25519" (response.body.bytes? "responder_ephemeral_x25519")
  let security ← compileHandshakeSecurity crypto localIdentity responderPublic .initiator localReceiverIndex
    remoteReceiverIndex pending.document.body response.body initiatorEphemeralPublic responderEphemeralPublic
    pending.ephemeralPrivate
  let expiresAt ← Document.required "expires_at" (response.body.time? "expires_at")
  pure
    { localNodeId := localPublic.nodeId
      peerNodeId := responderPublic.nodeId
      topologyGeneration := topology.generation
      receiverIndex := remoteReceiverIndex
      role := .initiator
      createdAt := completedAt
      expiresAt
      security }

end Completion

end Gatherlink.Security
