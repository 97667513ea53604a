import Gatherlink.Lib.Exec

/-! The control plane's view of identities, the signed topology and authenticated sessions, over the
cryptographic library it calls. Byte strings are of any type, so that they can be symbolic terms. A
`ValueError` is its text. -/

namespace Gatherlink.Security

/-- Points in time are in microseconds. -/
def afterSeconds (time : Int) (seconds : Int) : Int := time + seconds * 1000000

/-- The values in JSON and CBOR documents. Byte strings stand for their base64 text and timestamps for their ISO text.
-/
inductive Value (B : Type) where
  | number (value : Int)
  | text (value : String)
  | texts (values : List String)
  | bytes (value : B)
  | time (value : Int)
  deriving DecidableEq

abbrev Document (B : Type) := List (String × Value B)

/-- `hashlib`, `cryptography`, `json` and `cbor2`, as far as the control plane calls them. `hkdf` yields 64 bytes,
in halves. -/
structure Primitives (B : Type) where
  ascii : String → B
  zeros : Nat → B
  append : B → B → B
  length : B → Nat
  decodedLength : String → Nat
  sha256 : B → B
  hkdf (salt info input : B) : B × B
  encrypt (key nonce plaintext ad : B) : B
  decrypt (key nonce ciphertext ad : B) : Option B
  x25519Public : B → B
  exchange (own peer : B) : Except String B
  ed25519Public : B → B
  sign (own message : B) : B
  verify (signer message signature : B) : Bool
  canonicalJson : Document B → B
  canonicalCbor : Document B → B

variable {B : Type}

/-- The public keys are those of the private keys, however the identity was loaded. The node id is the base64 text of
32 bytes. -/
structure NodeIdentity (crypto : Primitives B) where
  ed25519Private : B
  ed25519Public : B
  x25519Private : B
  x25519Public : B
  nodeId : String
  ed25519 : ed25519Public = crypto.ed25519Public ed25519Private
  x25519 : x25519Public = crypto.x25519Public x25519Private
  encoded : nodeId.length = 44

structure IdentityPublicRecord (B : Type) where
  schemaVersion : Int
  nodeId : String
  ed25519Public : B
  x25519Public : B
  deriving DecidableEq

/-- `IdentityPublicRecord.from_identity`. -/
def NodeIdentity.publicRecord {crypto : Primitives B} (identity : NodeIdentity crypto) : IdentityPublicRecord B :=
  ⟨1, identity.nodeId, identity.ed25519Public, identity.x25519Public⟩

variable {crypto : Primitives B}

@[simp] theorem NodeIdentity.publicRecord_nodeId (identity : NodeIdentity crypto) :
    identity.publicRecord.nodeId = identity.nodeId := rfl

@[simp] theorem NodeIdentity.publicRecord_x25519Public (identity : NodeIdentity crypto) :
    identity.publicRecord.x25519Public = identity.x25519Public := rfl

def IdentityPublicRecord.publicBytes (crypto : Primitives B) (record : IdentityPublicRecord B) :
    Except String (String × B × B) := do
  if record.schemaVersion ≠ 1 then throw s!"unsupported identity schema_version: {record.schemaVersion}"
  if crypto.decodedLength record.nodeId ≠ 32 then
    throw "identity public record node_id must decode to 32 bytes"
  if crypto.length record.ed25519Public ≠ 32 then
    throw "identity public record ed25519_public must decode to 32 bytes"
  if crypto.length record.x25519Public ≠ 32 then
    throw "identity public record x25519_public must decode to 32 bytes"
  pure (record.nodeId, record.ed25519Public, record.x25519Public)

/-- The part of a verified topology that session setup reads. -/
structure TopologyBundleBody (B : Type) where
  generation : Nat
  issuerNodeId : String
  nodes : List (IdentityPublicRecord B)
  revokedNodeIds : List String
  generationPositive : 1 ≤ generation
  nodeIdsUnique : (nodes.map (·.nodeId)).Nodup

def silentDrop : String := "packet must be silently dropped"

section Checks

variable (topology : TopologyBundleBody B)

def requireTopologyMember (identity : IdentityPublicRecord B) : Except String Unit := do
  if identity.nodeId ∈ topology.revokedNodeIds then throw "identity is revoked by topology"
  if ¬topology.nodes.any (·.nodeId == identity.nodeId) then throw "identity is not present in topology"

def topologyIdentityByNodeId (nodeId : String) : Except String (IdentityPublicRecord B) :=
  if nodeId ∈ topology.revokedNodeIds then throw silentDrop
  else
    match topology.nodes.find? (·.nodeId == nodeId) with
    | none => throw silentDrop
    | some identity => pure identity

def requireNotExpired (createdAt expiresAt now : Int) : Except String Unit :=
  if now < createdAt ∨ now > expiresAt then throw silentDrop else pure ()

def validateReceiverIndex (receiverIndex : Int) : Except String Unit :=
  if receiverIndex < 0 ∨ receiverIndex ≥ 2 ^ 32 then throw "receiver_index must fit u32" else pure ()

def validateLifetime (lifetimeSeconds : Int) (fieldName : String) : Except String Unit :=
  if lifetimeSeconds ≤ 0 then throw s!"{fieldName} must be positive" else pure ()

end Checks

inductive StaticSessionRole where
  | initiator
  | responder
  deriving DecidableEq

structure StaticTransportSecurityMaterial (B : Type) where
  receiverIndex : Int
  localReceiverIndex : Int
  remoteReceiverIndex : Int
  sendKey : B
  receiveKey : B
  deriving DecidableEq

def DEFAULT_REKEY_AFTER_PACKETS : Nat := 2 ^ 48
def DEFAULT_REKEY_AFTER_BYTES : Nat := 2 ^ 50
def DEFAULT_SESSION_LIFETIME_SECONDS : Int := 120

/-- Sessions here always have compiled transport security. -/
structure AuthenticatedSessionPlan (B : Type) where
  localNodeId : String
  peerNodeId : String
  topologyGeneration : Nat
  receiverIndex : Int
  role : StaticSessionRole
  createdAt : Int
  expiresAt : Int
  rekeyAfterPackets : Nat := DEFAULT_REKEY_AFTER_PACKETS
  rekeyAfterBytes : Nat := DEFAULT_REKEY_AFTER_BYTES
  security : StaticTransportSecurityMaterial B
  deriving DecidableEq

/-- What one side sends with, the other receives with. -/
structure StaticTransportSecurityMaterial.Crossed (one two : StaticTransportSecurityMaterial B) : Prop where
  sendKey : one.sendKey = two.receiveKey
  receiveKey : one.receiveKey = two.sendKey
  localReceiverIndex : one.localReceiverIndex = two.remoteReceiverIndex
  remoteReceiverIndex : one.remoteReceiverIndex = two.localReceiverIndex

/-- The two ends of one session. -/
structure AuthenticatedSessionPlan.Paired (one two : AuthenticatedSessionPlan B) : Prop where
  security : one.security.Crossed two.security
  localNodeId : one.localNodeId = two.peerNodeId
  peerNodeId : one.peerNodeId = two.localNodeId
  topologyGeneration : one.topologyGeneration = two.topologyGeneration
  expiresAt : one.expiresAt = two.expiresAt

section Lookup

variable {topology : TopologyBundleBody B} {record : IdentityPublicRecord B} {nodeId : String}

theorem topologyIdentityByNodeId_ok (found : topologyIdentityByNodeId topology nodeId = .ok record) :
    nodeId ∉ topology.revokedNodeIds ∧ record ∈ topology.nodes ∧ record.nodeId = nodeId := by
  unfold topologyIdentityByNodeId at found
  split at found
  · contradiction
  · rename_i valid
    cases located : topology.nodes.find? (·.nodeId == nodeId) with
    | none =>
      rw [located] at found
      contradiction
    | some other =>
      rw [located] at found
      obtain rfl := Except.ok.inj found
      exact ⟨valid, List.mem_of_find?_eq_some located, by simpa using List.find?_some located⟩

theorem TopologyBundleBody.record_unique {other : IdentityPublicRecord B} (one : record ∈ topology.nodes)
    (two : other ∈ topology.nodes) (same : record.nodeId = other.nodeId) : record = other :=
  List.inj_on_of_nodup_map topology.nodeIdsUnique one two same

theorem topologyIdentityByNodeId_of_mem (member : record ∈ topology.nodes)
    (valid : record.nodeId ∉ topology.revokedNodeIds) :
    topologyIdentityByNodeId topology record.nodeId = .ok record := by
  unfold topologyIdentityByNodeId
  rw [if_neg valid]
  cases located : topology.nodes.find? (·.nodeId == record.nodeId) with
  | none =>
    rw [List.find?_eq_none] at located
    exact absurd (by simp) (located record member)
  | some other =>
    have same : other.nodeId = record.nodeId := by simpa using List.find?_some located
    rw [topology.record_unique (List.mem_of_find?_eq_some located) member same]
    rfl

theorem requireTopologyMember_of_mem (member : record ∈ topology.nodes)
    (valid : record.nodeId ∉ topology.revokedNodeIds) : requireTopologyMember topology record = .ok () := by
  have present : topology.nodes.any (·.nodeId == record.nodeId) = true :=
    List.any_eq_true.mpr ⟨record, member, by simp⟩
  simp [requireTopologyMember, valid, present, pure, Except.pure]

end Lookup

end Gatherlink.Security
