import Gatherlink.Security.Identity

/-! Noise IK session setup. Ephemeral keys and receiver indexes that the code draws at random are
arguments. -/

namespace Gatherlink.Security

def NOISE_IK_PROTOCOL_NAME : String := "Noise_IK_25519_ChaChaPoly_SHA256_GatherlinkV1"
def NOISE_SESSION_KEY_INFO : String := "GATHERLINK_NOISE_IK_TRANSPORT_KEYS_V1"
def DEFAULT_NOISE_HANDSHAKE_LIFETIME_SECONDS : Int := 30

section Messages

structure NoiseInitiation (B : Type) where
  schemaVersion : Int
  protocol : String
  topologyGeneration : Int
  initiatorNodeId : String
  responderNodeId : String
  initiatorReceiverIndex : Int
  initiatorEphemeralX25519 : B
  encryptedInitiatorStaticX25519 : B
  createdAt : Int
  expiresAt : Int
  deriving DecidableEq

structure NoiseResponse (B : Type) where
  schemaVersion : Int
  protocol : String
  topologyGeneration : Int
  initiatorNodeId : String
  responderNodeId : String
  initiationHash : B
  responderEphemeralX25519 : B
  receiverIndex : Int
  responderReceiverIndex : Int
  createdAt : Int
  expiresAt : Int
  deriving DecidableEq

structure PendingNoiseInitiation (B : Type) where
  message : NoiseInitiation B
  ephemeralPrivate : B
  createdAt : Int
  expiresAt : Int
  deriving DecidableEq

structure AcceptedNoiseHandshake (B : Type) where
  response : NoiseResponse B
  session : AuthenticatedSessionPlan B
  deriving DecidableEq

def NoiseInitiation.document {B : Type} (message : NoiseInitiation B) : Document B :=
  [("schema_version", .number message.schemaVersion), ("protocol", .text message.protocol),
    ("topology_generation", .number message.topologyGeneration), ("initiator_node_id", .text message.initiatorNodeId),
    ("responder_node_id", .text message.responderNodeId),
    ("initiator_receiver_index", .number message.initiatorReceiverIndex),
    ("initiator_ephemeral_x25519", .bytes message.initiatorEphemeralX25519),
    ("encrypted_initiator_static_x25519", .bytes message.encryptedInitiatorStaticX25519),
    ("created_at", .time message.createdAt), ("expires_at", .time message.expiresAt)]

theorem NoiseInitiation.document_injective {B : Type} : Function.Injective (NoiseInitiation.document (B := B)) := by
  intro one two same
  cases one
  cases two
  simpa [NoiseInitiation.document] using same

end Messages

variable {B : Type} (crypto : Primitives B)

structure NoiseState (B : Type) where
  ck : B
  h : B

namespace NoiseState

variable (state : NoiseState B)

def mixHash (value : B) : NoiseState B :=
  { state with h := crypto.sha256 (crypto.append state.h value) }

/-- The returned key is the second half of the output. -/
def mixKey (inputKeyMaterial : B) : B × NoiseState B :=
  let (first, second) := crypto.hkdf state.ck (crypto.ascii "noise-mix-key") inputKeyMaterial
  (second, { state with ck := first })

def forPair (topology : TopologyBundleBody B) (initiatorNodeId responderNodeId : String) : NoiseState B :=
  let h := crypto.sha256 (crypto.ascii NOISE_IK_PROTOCOL_NAME)
  mixHash crypto ⟨h, h⟩ (crypto.ascii ("GATHERLINK_NOISE_IK_PROLOGUE_V1" ++ toString topology.generation ++
    topology.issuerNodeId ++ initiatorNodeId ++ responderNodeId))

def encryptAndHash (key plaintext : B) : B × NoiseState B :=
  let ciphertext := crypto.encrypt key (crypto.zeros 12) plaintext state.h
  (ciphertext, state.mixHash crypto ciphertext)

def decryptAndHash (key ciphertext : B) : Except String (B × NoiseState B) :=
  match crypto.decrypt key (crypto.zeros 12) ciphertext state.h with
  | none => throw silentDrop
  | some plaintext => pure (plaintext, state.mixHash crypto ciphertext)

def deriveTransportKeys : B × B :=
  crypto.hkdf state.ck (crypto.append (crypto.ascii NOISE_SESSION_KEY_INFO) state.h) (crypto.ascii "")

/-- The steps up to the key of the first message, which both sides make alike. -/
def opening (topology : TopologyBundleBody B) (initiatorNodeId responderNodeId : String)
    (responderStatic initiatorEphemeral secret : B) : B × NoiseState B :=
  let state := forPair crypto topology initiatorNodeId responderNodeId
  let state := state.mixHash crypto responderStatic
  let state := state.mixHash crypto initiatorEphemeral
  state.mixKey crypto secret

/-- The steps after the first message, which both sides make alike. The last secret is the first one again. -/
def closing (statics responderEphemeral ephemerals secret : B) : B × B :=
  let (_, state) := state.mixKey crypto statics
  let state := state.mixHash crypto responderEphemeral
  let (_, state) := state.mixKey crypto ephemerals
  let (_, state) := state.mixKey crypto secret
  state.deriveTransportKeys crypto

end NoiseState

def topologyIdentityByX25519 [DecidableEq B] (topology : TopologyBundleBody B) (x25519Public : B) :
    Except String (IdentityPublicRecord B) :=
  let rec search : List (IdentityPublicRecord B) → Except String (IdentityPublicRecord B)
    | [] => throw silentDrop
    | identity :: rest =>
        if identity.nodeId ∈ topology.revokedNodeIds then search rest
        else do
          let (_, _, candidate) ← identity.publicBytes crypto
          if candidate = x25519Public then pure identity else search rest
  search topology.nodes

section Initiation

variable (localIdentity : NodeIdentity crypto) (peerIdentity : IdentityPublicRecord B) (topology : TopologyBundleBody B)

def createNoiseIkInitiation (receiverIndex : Int) (now : Int) (lifetimeSeconds : Int) (ephemeralPrivate : B) :
    Except String (PendingNoiseInitiation B) := do
  let createdAt := now
  let expiresAt := afterSeconds createdAt lifetimeSeconds
  validateLifetime lifetimeSeconds "handshake lifetime"
  validateReceiverIndex receiverIndex
  let localPublic := localIdentity.publicRecord
  requireTopologyMember topology localPublic
  requireTopologyMember topology peerIdentity
  let (_, _, peerStaticPublic) ← peerIdentity.publicBytes crypto
  let ephemeralPublic := crypto.x25519Public ephemeralPrivate
  let es ← crypto.exchange ephemeralPrivate peerStaticPublic
  let (k, state) := NoiseState.opening crypto topology localPublic.nodeId peerIdentity.nodeId peerStaticPublic
    ephemeralPublic es
  let (encryptedStatic, _) := state.encryptAndHash crypto k localIdentity.x25519Public
  -- the message does not depend on the state after this exchange, but the exchange can fail
  let _ ← crypto.exchange localIdentity.x25519Private peerStaticPublic
  pure
    { message :=
        { schemaVersion := 1
          protocol := "noise-ik"
          topologyGeneration := topology.generation
          initiatorNodeId := localPublic.nodeId
          responderNodeId := peerIdentity.nodeId
          initiatorReceiverIndex := receiverIndex
          initiatorEphemeralX25519 := ephemeralPublic
          encryptedInitiatorStaticX25519 := encryptedStatic
          createdAt
          expiresAt }
      ephemeralPrivate
      createdAt
      expiresAt }

end Initiation

section Acceptance

def verifiedNoiseInitiationHeader (message : NoiseInitiation B) (topology : TopologyBundleBody B)
    (responderIdentity : IdentityPublicRecord B) (now : Int) : Except String Unit := do
  if message.protocol ≠ "noise-ik" ∨ message.schemaVersion ≠ 1 then throw silentDrop
  if message.topologyGeneration ≠ topology.generation then throw silentDrop
  if message.responderNodeId ≠ responderIdentity.nodeId then throw silentDrop
  validateReceiverIndex message.initiatorReceiverIndex
  requireNotExpired message.createdAt message.expiresAt now
  let _ ← topologyIdentityByNodeId topology message.initiatorNodeId

def messageHash (message : NoiseInitiation B) : B := crypto.sha256 (crypto.canonicalJson message.document)

/-- The response to an initiation and the responder's end of the session. -/
def AcceptedNoiseHandshake.build (initiation : NoiseInitiation B) (generation : Nat)
    (initiatorNodeId responderNodeId : String) (receiverIndex : Int) (acceptedAt : Int)
    (sessionLifetimeSeconds : Int) (responderEphemeralPublic receiveKey sendKey : B) : AcceptedNoiseHandshake B where
  response :=
    { schemaVersion := 1
      protocol := "noise-ik"
      topologyGeneration := generation
      initiatorNodeId
      responderNodeId
      initiationHash := messageHash crypto initiation
      responderEphemeralX25519 := responderEphemeralPublic
      receiverIndex
      responderReceiverIndex := receiverIndex
      createdAt := acceptedAt
      expiresAt := afterSeconds acceptedAt sessionLifetimeSeconds }
  session :=
    { localNodeId := responderNodeId
      peerNodeId := initiatorNodeId
      topologyGeneration := generation
      receiverIndex
      role := .responder
      createdAt := acceptedAt
      expiresAt := afterSeconds acceptedAt sessionLifetimeSeconds
      security :=
        { receiverIndex
          localReceiverIndex := receiverIndex
          remoteReceiverIndex := initiation.initiatorReceiverIndex
          sendKey
          receiveKey } }

variable [DecidableEq B]

def acceptNoiseIkInitiation (responderIdentity : NodeIdentity crypto) (initiation : NoiseInitiation B)
    (topology : TopologyBundleBody B) (receiverIndex : Int) (now : Int) (sessionLifetimeSeconds : Int)
    (responderEphemeralPrivate : B) : Except String (AcceptedNoiseHandshake B) := do
  validateReceiverIndex receiverIndex
  validateLifetime sessionLifetimeSeconds "session lifetime"
  let responderPublic := responderIdentity.publicRecord
  verifiedNoiseInitiationHeader initiation topology responderPublic now
  let initiatorEphemeralPublic := initiation.initiatorEphemeralX25519
  if crypto.length initiatorEphemeralPublic ≠ 32 then throw silentDrop
  let es ← crypto.exchange responderIdentity.x25519Private initiatorEphemeralPublic
  let (k, state) := NoiseState.opening crypto topology initiation.initiatorNodeId responderPublic.nodeId
    responderIdentity.x25519Public initiatorEphemeralPublic es
  let (initiatorStaticPublic, state) ← state.decryptAndHash crypto k initiation.encryptedInitiatorStaticX25519
  let initiatorPublic ← topologyIdentityByX25519 crypto topology initiatorStaticPublic
  if initiatorPublic.nodeId ≠ initiation.initiatorNodeId then throw silentDrop
  let ss ← crypto.exchange responderIdentity.x25519Private initiatorStaticPublic
  let responderEphemeralPublic := crypto.x25519Public responderEphemeralPrivate
  let ee ← crypto.exchange responderEphemeralPrivate initiatorEphemeralPublic
  let last ← crypto.exchange responderIdentity.x25519Private initiatorEphemeralPublic
  let (receiveKey, sendKey) := state.closing crypto ss responderEphemeralPublic ee last
  pure (.build crypto initiation topology.generation initiatorPublic.nodeId responderPublic.nodeId receiverIndex now
    sessionLifetimeSeconds responderEphemeralPublic receiveKey sendKey)

end Acceptance

section Completion

variable [DecidableEq B]

def verifiedNoiseResponse (message : NoiseResponse B) (pending : PendingNoiseInitiation B)
    (topology : TopologyBundleBody B) (initiatorIdentity : IdentityPublicRecord B) (now : Int) :
    Except String Unit := do
  if message.protocol ≠ "noise-ik" ∨ message.schemaVersion ≠ 1 then throw silentDrop
  if message.topologyGeneration ≠ topology.generation then throw silentDrop
  if message.initiatorNodeId ≠ initiatorIdentity.nodeId then throw silentDrop
  if message.initiationHash ≠ messageHash crypto pending.message then throw silentDrop
  validateReceiverIndex message.responderReceiverIndex
  requireNotExpired message.createdAt message.expiresAt now
  let _ ← topologyIdentityByNodeId topology message.responderNodeId

def initiatorSession (pending : PendingNoiseInitiation B) (response : NoiseResponse B) (generation : Nat)
    (localNodeId peerNodeId : String) (completedAt : Int) (sendKey receiveKey : B) :
    AuthenticatedSessionPlan B where
  localNodeId
  peerNodeId
  topologyGeneration := generation
  receiverIndex := response.responderReceiverIndex
  role := .initiator
  createdAt := completedAt
  expiresAt := response.expiresAt
  security :=
    { receiverIndex := response.responderReceiverIndex
      localReceiverIndex := pending.message.initiatorReceiverIndex
      remoteReceiverIndex := response.responderReceiverIndex
      sendKey
      receiveKey }

def completeNoiseIkInitiator (localIdentity : NodeIdentity crypto) (pending : PendingNoiseInitiation B)
    (response : NoiseResponse B) (topology : TopologyBundleBody B) (now : Int) :
    Except String (AuthenticatedSessionPlan B) := do
  let localPublic := localIdentity.publicRecord
  verifiedNoiseResponse crypto response pending topology localPublic now
  let responderPublic ← topologyIdentityByNodeId topology response.responderNodeId
  let initiatorEphemeralPublic := pending.message.initiatorEphemeralX25519
  let responderEphemeralPublic := response.responderEphemeralX25519
  if crypto.length responderEphemeralPublic ≠ 32 then throw silentDrop
  let (_, _, responderStaticPublic) ← responderPublic.publicBytes crypto
  let es ← crypto.exchange pending.ephemeralPrivate responderStaticPublic
  let (k, state) := NoiseState.opening crypto topology localPublic.nodeId responderPublic.nodeId responderStaticPublic
    initiatorEphemeralPublic es
  let (encryptedStatic, state) := state.encryptAndHash crypto k localIdentity.x25519Public
  if encryptedStatic ≠ pending.message.encryptedInitiatorStaticX25519 then throw silentDrop
  let ss ← crypto.exchange localIdentity.x25519Private responderStaticPublic
  let ee ← crypto.exchange pending.ephemeralPrivate responderEphemeralPublic
  let last ← crypto.exchange pending.ephemeralPrivate responderStaticPublic
  let (sendKey, receiveKey) := state.closing crypto ss responderEphemeralPublic ee last
  pure (initiatorSession pending response topology.generation localPublic.nodeId responderPublic.nodeId now sendKey
    receiveKey)

end Completion

end Gatherlink.Security
