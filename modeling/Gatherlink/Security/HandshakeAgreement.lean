import Gatherlink.Security.Handshake
import Gatherlink.Security.NoiseAttacker

/-! What a successful call of each step of the signed handshake has checked and computed, whom a response
binds the initiator to, and agreement with an honest signer under an active attacker. -/

namespace Gatherlink.Security
open Lib.Exec Lib.Symbolic

section Steps

variable {B : Type} {crypto : Primitives B}

theorem required_ok {α : Type} {name : String} {found : Option α} {value : α}
    (read : Document.required name found = .ok value) : found = some value := by
  cases found with
  | none => contradiction
  | some other => rw [Except.ok.inj read]

def handshakeKeys (crypto : Primitives B) (initiation response : Document B) (dh1 dh2 : B) : B × B :=
  crypto.hkdf (handshakeTranscriptHash crypto initiation response) (crypto.ascii "GATHERLINK_TRANSPORT_KEYS_V1")
    (crypto.sha256 (crypto.append (crypto.append (crypto.ascii HANDSHAKE_SECRET_DOMAIN) dh1) dh2))

theorem deriveDirectionalSessionKeys_ok {sharedSecret transcriptHash : B} {keys : B × B}
    (derived : deriveDirectionalSessionKeys crypto sharedSecret transcriptHash = .ok keys) :
    keys = crypto.hkdf transcriptHash (crypto.ascii "GATHERLINK_TRANSPORT_KEYS_V1") sharedSecret := by
  simp only [deriveDirectionalSessionKeys, except_guard_iff, except_pure_iff] at derived
  exact derived.2.symm

theorem compileHandshakeSecurity_ok {localIdentity : NodeIdentity crypto} {peerIdentity : IdentityPublicRecord B}
    {role : StaticSessionRole} {localReceiverIndex remoteReceiverIndex : Int} {initiation response : Document B}
    {initiatorEphemeralPublic responderEphemeralPublic ephemeralPrivate : B}
    {security : StaticTransportSecurityMaterial B}
    (compiled : compileHandshakeSecurity crypto localIdentity peerIdentity role localReceiverIndex
      remoteReceiverIndex initiation response initiatorEphemeralPublic responderEphemeralPublic ephemeralPrivate =
      .ok security) :
    ∃ dh1 dh2,
      let keys := handshakeKeys crypto initiation response dh1 dh2
      match role with
      | .initiator => crypto.exchange ephemeralPrivate peerIdentity.x25519Public = .ok dh1 ∧
          crypto.exchange localIdentity.x25519Private responderEphemeralPublic = .ok dh2 ∧
          security = ⟨remoteReceiverIndex, localReceiverIndex, remoteReceiverIndex, keys.1, keys.2⟩
      | .responder => crypto.exchange localIdentity.x25519Private initiatorEphemeralPublic = .ok dh1 ∧
          crypto.exchange ephemeralPrivate peerIdentity.x25519Public = .ok dh2 ∧
          security = ⟨remoteReceiverIndex, localReceiverIndex, remoteReceiverIndex, keys.2, keys.1⟩ := by
  cases role
  all_goals
    simp only [compileHandshakeSecurity, except_bind_iff, except_pure_iff] at compiled
    obtain ⟨_, -, _, -, _, read, dh1, first, dh2, second, _, rfl, _, derived, rfl⟩ := compiled
    obtain ⟨rfl, -⟩ := publicBytes_ok read
    obtain rfl := deriveDirectionalSessionKeys_ok derived
    exact ⟨dh1, dh2, first, second, rfl⟩

section Creation

variable {localIdentity : NodeIdentity crypto} {peerIdentity : IdentityPublicRecord B} {topology : TopologyBundleBody B}
  {receiverIndex now lifetimeSeconds : Int} {capabilities : List String} {ephemeralPrivate : B}

theorem createHandshakeInitiation_ok {pending : PendingHandshakeInitiation B}
    (created : createHandshakeInitiation crypto localIdentity peerIdentity topology receiverIndex now lifetimeSeconds
      capabilities ephemeralPrivate = .ok pending) :
    ∃ expiresAt announced, pending.ephemeralPrivate = ephemeralPrivate ∧
      pending.document = signDocument localIdentity HANDSHAKE_INIT_DOMAIN (initiationBody topology.generation
        localIdentity.nodeId peerIdentity.nodeId receiverIndex (crypto.x25519Public ephemeralPrivate) now expiresAt
        announced) := by
  simp only [createHandshakeInitiation, except_bind_iff, except_pure_iff] at created
  obtain ⟨_, -, _, -, _, -, _, -, rfl⟩ := created
  exact ⟨_, _, rfl, rfl⟩

end Creation

/-- What both verifications of a document check: the domain, the signature, and the member that signed. -/
structure SignedBy (crypto : Primitives B) (document : SignedDocument B) (domain : String)
    (signer : IdentityPublicRecord B) : Prop where
  domain : document.domain = domain
  verified : crypto.verify document.signerPublicKey (signedMessage crypto document.domain document.body)
    document.signature
  signerNodeId : document.signerNodeId = signer.nodeId
  signerPublicKey : document.signerPublicKey = signer.ed25519Public

theorem SignedDocument.verify_ok {document : SignedDocument B} (verified : document.verify crypto = .ok ()) :
    crypto.verify document.signerPublicKey (signedMessage crypto document.domain document.body) document.signature := by
  unfold SignedDocument.verify at verified
  split at verified
  · assumption
  · contradiction

variable [DecidableEq B]

theorem verifyDocumentSigner_ok {document : SignedDocument B} {identity : IdentityPublicRecord B}
    (verified : verifyDocumentSigner crypto document identity = .ok ()) :
    document.signerNodeId = identity.nodeId ∧ document.signerPublicKey = identity.ed25519Public := by
  simp only [verifyDocumentSigner, except_bind_iff, except_check_iff, ne_eq, not_or, not_not, and_true] at verified
  obtain ⟨_, read, same⟩ := verified
  obtain ⟨rfl, -⟩ := publicBytes_ok read
  exact same

section Acceptance

variable {responderIdentity : NodeIdentity crypto} {initiation : SignedDocument B} {topology : TopologyBundleBody B}
  {receiverIndex now sessionLifetimeSeconds : Int} {responderEphemeralPrivate : B}

/-- What `accept_handshake_initiation` has checked and computed when it succeeds. -/
structure HandshakeAcceptance (responderIdentity : NodeIdentity crypto) (initiation : SignedDocument B)
    (topology : TopologyBundleBody B) (receiverIndex now sessionLifetimeSeconds : Int)
    (responderEphemeralPrivate : B) (accepted : AcceptedHandshake B) (initiator : IdentityPublicRecord B)
    (remoteReceiverIndex : Int) (initiatorEphemeralPublic dh1 dh2 : B) : Prop where
  addressed : initiation.body.text? "responder_node_id" = some responderIdentity.nodeId
  found : topologyIdentityByNodeId topology ((initiation.body.text? "initiator_node_id").getD "") = .ok initiator
  signed : SignedBy crypto initiation HANDSHAKE_INIT_DOMAIN initiator
  remoteIndex : initiation.body.number? "initiator_receiver_index" = some remoteReceiverIndex
  initiatorEphemeral : initiation.body.bytes? "initiator_ephemeral_x25519" = some initiatorEphemeralPublic
  first : crypto.exchange responderIdentity.x25519Private initiatorEphemeralPublic = .ok dh1
  second : crypto.exchange responderEphemeralPrivate initiator.x25519Public = .ok dh2
  response : accepted.response = signDocument responderIdentity HANDSHAKE_RESPONSE_DOMAIN (responseBody
    topology.generation initiator.nodeId responderIdentity.nodeId (documentBodyHash crypto initiation)
    (crypto.x25519Public responderEphemeralPrivate) receiverIndex now (afterSeconds now sessionLifetimeSeconds))
  session : accepted.session =
    { localNodeId := responderIdentity.nodeId
      peerNodeId := initiator.nodeId
      topologyGeneration := topology.generation
      receiverIndex
      role := .responder
      createdAt := now
      expiresAt := afterSeconds now sessionLifetimeSeconds
      security := ⟨remoteReceiverIndex, receiverIndex, remoteReceiverIndex,
        (handshakeKeys crypto initiation.body accepted.response.body dh1 dh2).2,
        (handshakeKeys crypto initiation.body accepted.response.body dh1 dh2).1⟩ }

theorem acceptHandshakeInitiation_ok {accepted : AcceptedHandshake B}
    (accepts : acceptHandshakeInitiation crypto responderIdentity initiation topology receiverIndex now
      sessionLifetimeSeconds responderEphemeralPrivate = .ok accepted) :
    ∃ initiator remoteReceiverIndex initiatorEphemeralPublic dh1 dh2, HandshakeAcceptance responderIdentity initiation
      topology receiverIndex now sessionLifetimeSeconds responderEphemeralPrivate accepted initiator
      remoteReceiverIndex initiatorEphemeralPublic dh1 dh2 := by
  simp only [acceptHandshakeInitiation, verifiedInitiationBody, except_bind_iff,
    except_guard_iff, except_pure_iff, ne_eq,
    not_not] at accepts
  obtain ⟨_, -, _, ⟨domain, _, signature, -, -, addressed, signer, again, _, signedBy, -⟩, initiator, found, remote,
    remoteIndex, ephemeral, initiatorEphemeral, security, compiled, rfl⟩ := accepts
  obtain ⟨dh1, dh2, first, second, rfl⟩ := compileHandshakeSecurity_ok compiled
  obtain rfl : initiator = signer := Except.ok.inj (found.symm.trans again)
  obtain ⟨nodeId, publicKey⟩ := verifyDocumentSigner_ok signedBy
  exact ⟨initiator, remote, ephemeral, dh1, dh2, addressed, found,
    ⟨domain, SignedDocument.verify_ok signature, nodeId, publicKey⟩, required_ok remoteIndex,
    required_ok initiatorEphemeral, first, second, rfl, rfl⟩

end Acceptance

section Completion

variable {localIdentity : NodeIdentity crypto} {pending : PendingHandshakeInitiation B} {response : SignedDocument B}
  {topology : TopologyBundleBody B} {now : Int}

/-- What `complete_handshake_initiator` has checked and computed when it succeeds. -/
structure HandshakeCompletion (localIdentity : NodeIdentity crypto) (pending : PendingHandshakeInitiation B)
    (response : SignedDocument B) (topology : TopologyBundleBody B) (now : Int)
    (session : AuthenticatedSessionPlan B) (responder : IdentityPublicRecord B)
    (remoteReceiverIndex localReceiverIndex expiresAt : Int) (responderEphemeralPublic dh1 dh2 : B) : Prop where
  initiationHash : response.body.bytes? "initiation_hash" = some (documentBodyHash crypto pending.document)
  found : topologyIdentityByNodeId topology ((response.body.text? "responder_node_id").getD "") = .ok responder
  signed : SignedBy crypto response HANDSHAKE_RESPONSE_DOMAIN responder
  remoteIndex : response.body.number? "responder_receiver_index" = some remoteReceiverIndex
  localIndex : pending.document.body.number? "initiator_receiver_index" = some localReceiverIndex
  responderEphemeral : response.body.bytes? "responder_ephemeral_x25519" = some responderEphemeralPublic
  expires : response.body.time? "expires_at" = some expiresAt
  first : crypto.exchange pending.ephemeralPrivate responder.x25519Public = .ok dh1
  second : crypto.exchange localIdentity.x25519Private responderEphemeralPublic = .ok dh2
  session : session =
    { localNodeId := localIdentity.nodeId
      peerNodeId := responder.nodeId
      topologyGeneration := topology.generation
      receiverIndex := remoteReceiverIndex
      role := .initiator
      createdAt := now
      expiresAt
      security := ⟨remoteReceiverIndex, localReceiverIndex, remoteReceiverIndex,
        (handshakeKeys crypto pending.document.body response.body dh1 dh2).1,
        (handshakeKeys crypto pending.document.body response.body dh1 dh2).2⟩ }

theorem completeHandshakeInitiator_ok {session : AuthenticatedSessionPlan B}
    (completes : completeHandshakeInitiator crypto localIdentity pending response topology now = .ok session) :
    ∃ responder remoteReceiverIndex localReceiverIndex expiresAt responderEphemeralPublic dh1 dh2,
      HandshakeCompletion localIdentity pending response topology now session responder remoteReceiverIndex
        localReceiverIndex expiresAt responderEphemeralPublic dh1 dh2 := by
  simp only [completeHandshakeInitiator, verifiedResponseBody, except_bind_iff,
    except_guard_iff, except_pure_iff, ne_eq,
    not_not] at completes
  obtain ⟨_, ⟨domain, _, signature, -, -, -, hashed, signer, again, _, signedBy, -⟩, responder, found, remote,
    remoteIndex, own, localIndex, _, -, ephemeral, responderEphemeral, security, compiled, expiresAt, expires, rfl⟩ :=
    completes
  obtain ⟨dh1, dh2, first, second, rfl⟩ := compileHandshakeSecurity_ok compiled
  obtain rfl : responder = signer := Except.ok.inj (found.symm.trans again)
  obtain ⟨nodeId, publicKey⟩ := verifyDocumentSigner_ok signedBy
  exact ⟨responder, remote, own, expiresAt, ephemeral, dh1, dh2, hashed, found,
    ⟨domain, SignedDocument.verify_ok signature, nodeId, publicKey⟩, required_ok remoteIndex, required_ok localIndex,
    required_ok responderEphemeral, required_ok expires, first, second, rfl⟩

end Completion

end Steps

section PeerBinding

variable {B : Type} {crypto : Primitives B} [DecidableEq B]

/-- The peer of the session is the member that signed the response, and so the addressed one exactly if that one
signed it. -/
theorem handshake_peer_iff_signer {localIdentity : NodeIdentity crypto} {peer : IdentityPublicRecord B}
    {topology : TopologyBundleBody B} {receiverIndex createdAt lifetimeSeconds now : Int} {capabilities : List String}
    {ephemeralPrivate : B} {pending : PendingHandshakeInitiation B} {response : SignedDocument B}
    {session : AuthenticatedSessionPlan B}
    (_created : createHandshakeInitiation crypto localIdentity peer topology receiverIndex createdAt lifetimeSeconds
      capabilities ephemeralPrivate = .ok pending)
    (completes : completeHandshakeInitiator crypto localIdentity pending response topology now = .ok session) :
    session.peerNodeId = peer.nodeId ↔ response.signerNodeId = peer.nodeId := by
  obtain ⟨responder, _, _, _, _, _, _, completion⟩ := completeHandshakeInitiator_ok completes
  rw [completion.session, completion.signed.signerNodeId]

def alicesHandshake : PendingHandshakeInitiation Term :=
  (createHandshakeInitiation symbolic alice bob.publicRecord threeMembers 0 0 30 [] (.scalar 7)).toOption.get
    (by decide)

theorem alicesHandshake_created : createHandshakeInitiation symbolic alice bob.publicRecord threeMembers 0 0 30 []
    (.scalar 7) = .ok alicesHandshake :=
  except_eq_ok_get _

/-- The response to another member's initiation, under a name of one's own. -/
def answerBy (signer : NodeIdentity symbolic) : SignedDocument Term :=
  signDocument signer HANDSHAKE_RESPONSE_DOMAIN (responseBody 1 alice.nodeId signer.nodeId
    (documentBodyHash symbolic alicesHandshake.document) (publicPoint 9) 5 0 120000000)

/-- An initiation for one member is completed by another. -/
theorem insider_completes : ∃ session,
    createHandshakeInitiation symbolic alice bob.publicRecord threeMembers 0 0 30 [] (.scalar 7) = .ok alicesHandshake ∧
    completeHandshakeInitiator symbolic alice alicesHandshake (answerBy mallory) threeMembers 0 = .ok session ∧
    session.peerNodeId = mallory.nodeId ∧ mallory.nodeId ≠ bob.nodeId :=
  ⟨_, alicesHandshake_created, except_eq_ok_get (by decide), by decide, by decide⟩

theorem addressed_peer_completes : ∃ session,
    completeHandshakeInitiator symbolic alice alicesHandshake (answerBy bob) threeMembers 0 = .ok session ∧
    (session.peerNodeId = bob.nodeId ↔ (answerBy bob).signerNodeId = bob.nodeId) := by
  have completes := except_eq_ok_get (show (completeHandshakeInitiator symbolic alice alicesHandshake (answerBy bob)
    threeMembers 0).toOption.isSome by decide)
  exact ⟨_, completes, handshake_peer_iff_signer alicesHandshake_created completes⟩

end PeerBinding

section Runs

/-- The byte strings of a document that the attacker cannot make up from constants. -/
def SignedDocument.terms (document : SignedDocument Term) : Set Term :=
  {term | term = document.signature ∨ term = document.signerPublicKey ∨ ∃ entry ∈ document.body, entry.2 = .bytes term}

structure HandshakeAcceptanceRecord where
  responder : NodeIdentity symbolic
  initiation : SignedDocument Term
  accepted : AcceptedHandshake Term

/-- What has happened so far: the terms on the wire and the calls that succeeded. -/
structure HandshakeNetwork where
  seen : Set Term := Set.range publicPoint
  created : Set (NodeIdentity symbolic × PendingHandshakeInitiation Term) := ∅
  accepted : Set HandshakeAcceptanceRecord := ∅

variable (topology : TopologyBundleBody Term) (held : Nat → Prop)

/-- The attacker delivers documents that it can derive. Ephemeral keys need not be fresh: nothing here rests on them.
Completing a handshake sends nothing. -/
inductive HandshakeStep : HandshakeNetwork → HandshakeNetwork → Prop where
  | create {network : HandshakeNetwork} {node : NodeIdentity symbolic} {peer : IdentityPublicRecord Term}
      {receiverIndex now lifetimeSeconds : Int} {capabilities : List String} {ephemeralPrivate : Term}
      {pending : PendingHandshakeInitiation Term} (listed : node.publicRecord ∈ topology.nodes)
      (created : createHandshakeInitiation symbolic node peer topology receiverIndex now lifetimeSeconds capabilities
        ephemeralPrivate = .ok pending) :
      HandshakeStep network { network with
        seen := network.seen ∪ pending.document.terms
        created := insert (node, pending) network.created }
  | accept {network : HandshakeNetwork} {node : NodeIdentity symbolic} {initiation : SignedDocument Term}
      {receiverIndex now sessionLifetimeSeconds : Int} {ephemeralPrivate : Term} {accepted : AcceptedHandshake Term}
      (listed : node.publicRecord ∈ topology.nodes)
      (delivered : ∀ term ∈ initiation.terms, Derivable held network.seen term)
      (accepts : acceptHandshakeInitiation symbolic node initiation topology receiverIndex now sessionLifetimeSeconds
        ephemeralPrivate = .ok accepted) :
      HandshakeStep network { network with
        seen := network.seen ∪ accepted.response.terms
        accepted := insert ⟨node, initiation, accepted⟩ network.accepted }

def HandshakeReachable : HandshakeNetwork → Prop := Relation.ReflTransGen (HandshakeStep topology held) {}

/-- The signatures that members have made. -/
def HandshakeNetwork.made (network : HandshakeNetwork) : Set Term :=
  {term | (∃ entry ∈ network.created, term = entry.2.document.signature) ∨
    ∃ record ∈ network.accepted, term = record.accepted.response.signature}

/-- What holds along every run. -/
structure HandshakeNetwork.Sound (network : HandshakeNetwork) : Prop where
  openly : ∀ term ∈ network.seen, term.Open held network.made
  created : ∀ entry ∈ network.created, entry.1.publicRecord ∈ topology.nodes ∧
    ∃ peer receiverIndex now lifetimeSeconds capabilities ephemeralPrivate, createHandshakeInitiation symbolic entry.1
      peer topology receiverIndex now lifetimeSeconds capabilities ephemeralPrivate = .ok entry.2
  accepted : ∀ record ∈ network.accepted, record.responder.publicRecord ∈ topology.nodes ∧
    ∃ receiverIndex now sessionLifetimeSeconds ephemeralPrivate, acceptHandshakeInitiation symbolic record.responder
      record.initiation topology receiverIndex now sessionLifetimeSeconds ephemeralPrivate = .ok record.accepted

variable {topology held} {network next : HandshakeNetwork}

variable {made : Set Term} {generation name : Nat} {initiatorNodeId responderNodeId : String}
  {receiverIndex createdAt expiresAt : Int}

theorem signDocument_terms_open {node : NodeIdentity symbolic} {domain : String} {body : Document Term}
    (signature : (signDocument node domain body).signature ∈ made)
    (plain : ∀ entry ∈ body, ∀ term, entry.2 = .bytes term → term.Open held made) :
    ∀ term ∈ (signDocument node domain body).terms, term.Open held made := by
  rintro term (rfl | rfl | ⟨entry, member, bytes⟩)
  · exact .inr signature
  · change node.ed25519Public.Open held made
    rw [node.ed25519]
    trivial
  · exact plain entry member term bytes

theorem initiationBody_open {capabilities : List String} :
    ∀ entry ∈ initiationBody generation initiatorNodeId responderNodeId receiverIndex (publicPoint name) createdAt
      expiresAt capabilities, ∀ term, entry.2 = .bytes term → term.Open held made := by
  simp [initiationBody, publicPoint_open]

theorem responseBody_open {input : Term} :
    ∀ entry ∈ responseBody generation initiatorNodeId responderNodeId (.hash input) (publicPoint name) receiverIndex
      createdAt expiresAt, ∀ term, entry.2 = .bytes term → term.Open held made := by
  simp [responseBody, publicPoint_open, Term.Open]

theorem HandshakeNetwork.Sound.step (sound : network.Sound topology held)
    (step : HandshakeStep topology held network next) : next.Sound topology held := by
  cases step with
  | create listed created =>
    refine ⟨?_, ?_, sound.accepted⟩
    · rintro term (before | sent)
      · apply (sound.openly term before).mono
        rintro signature (⟨entry, member, same⟩ | answered)
        · exact .inl ⟨entry, .inr member, same⟩
        · exact .inr answered
      · obtain ⟨_, _, -, document⟩ := createHandshakeInitiation_ok created
        rw [document] at sent
        refine signDocument_terms_open (.inl ⟨_, .inl rfl, ?_⟩) initiationBody_open term sent
        exact congrArg SignedDocument.signature document.symm
    · rintro entry (rfl | before)
      · exact ⟨listed, _, _, _, _, _, _, created⟩
      · exact sound.created entry before
  | accept listed delivered accepts =>
    refine ⟨?_, sound.created, ?_⟩
    · rintro term (before | sent)
      · apply (sound.openly term before).mono
        rintro signature (created | ⟨record, member, same⟩)
        · exact .inl created
        · exact .inr ⟨record, .inr member, same⟩
      · obtain ⟨_, _, _, _, _, acceptance⟩ := acceptHandshakeInitiation_ok accepts
        rw [acceptance.response] at sent
        refine signDocument_terms_open (.inr ⟨_, .inl rfl, ?_⟩) responseBody_open term sent
        exact congrArg SignedDocument.signature acceptance.response.symm
    · rintro record (rfl | before)
      · exact ⟨listed, _, _, _, _, accepts⟩
      · exact sound.accepted record before

theorem HandshakeReachable.sound (reachable : HandshakeReachable topology held network) :
    network.Sound topology held := by
  induction reachable with
  | refl =>
    refine ⟨?_, fun _ absent => absent.elim, fun _ absent => absent.elim⟩
    rintro term ⟨name, rfl⟩
    exact publicPoint_open name
  | tail _ step sound => exact sound.step step

end Runs

section Agreement

variable {topology : TopologyBundleBody Term} {held : Nat → Prop} {network : HandshakeNetwork}

variable {domain : String} {signer : NodeIdentity symbolic}

theorem SignedBy.eq_signDocument {document : SignedDocument Term}
    (signed : SignedBy symbolic document domain signer.publicRecord) :
    document = signDocument signer domain document.body := by
  have verified := signed.verified
  have key : document.signerPublicKey = signer.ed25519Public := signed.signerPublicKey
  rw [key, signer.ed25519, signed.domain] at verified
  exact SignedDocument.ext signed.domain rfl signed.signerNodeId key (symbolic_verify.mp verified)

theorem signDocument_congr {one two : NodeIdentity symbolic} (same : one.publicRecord = two.publicRecord)
    (domain : String) (body : Document Term) : signDocument one domain body = signDocument two domain body := by
  have keys : one.ed25519Public = two.ed25519Public := congrArg IdentityPublicRecord.ed25519Public same
  have names : privateName one.ed25519Private = privateName two.ed25519Private := by
    rw [one.ed25519, two.ed25519] at keys
    exact Term.verifier.inj keys
  refine SignedDocument.ext rfl rfl (congrArg IdentityPublicRecord.nodeId same) keys ?_
  exact congrArg (Term.signed · (signedMessage symbolic domain body)) names

theorem signedMessage_injective {domain' : String} {body body' : Document Term}
    (same : signedMessage symbolic domain body = signedMessage symbolic domain' body') :
    domain = domain' ∧ body = body' := by
  obtain ⟨domains, bodies⟩ := Term.pair.inj same
  exact ⟨Term.text.inj domains, symbolic_collisionFree.canonicalCbor bodies⟩

/-- The attacker cannot sign a response for a member whose signing key it does not hold. -/
theorem response_signed {response : SignedDocument Term} (sound : network.Sound topology held)
    (honest : ¬held (privateName signer.ed25519Private))
    (delivered : ∀ term ∈ response.terms, Derivable held network.seen term)
    (signed : SignedBy symbolic response HANDSHAKE_RESPONSE_DOMAIN signer.publicRecord) :
    ∃ record ∈ network.accepted, record.accepted.response.body = response.body := by
  have signature : response.signature = .signed (privateName signer.ed25519Private)
      (signedMessage symbolic HANDSHAKE_RESPONSE_DOMAIN response.body) :=
    congrArg SignedDocument.signature signed.eq_signDocument
  have openly := (delivered _ (.inl rfl)).isOpen sound.openly
  rw [signature] at openly
  rcases openly.resolve_left honest with ⟨entry, member, same⟩ | ⟨record, member, same⟩
  · -- initiations are signed under another domain
    obtain ⟨-, _, _, _, _, _, _, created⟩ := sound.created entry member
    obtain ⟨_, _, -, document⟩ := createHandshakeInitiation_ok created
    rw [document] at same
    have domains := (signedMessage_injective (Term.signed.inj same).2).1
    exact absurd domains (by decide)
  · obtain ⟨-, _, _, _, _, accepts⟩ := sound.accepted record member
    obtain ⟨_, _, _, _, _, acceptance⟩ := acceptHandshakeInitiation_ok accepts
    rw [acceptance.response] at same
    have bodies := (signedMessage_injective (Term.signed.inj same).2).2
    refine ⟨record, member, ?_⟩
    rw [acceptance.response, bodies]
    rfl

theorem paired_of_same_bodies {initiator responder : NodeIdentity symbolic} {pending : PendingHandshakeInitiation Term}
    {initiation response : SignedDocument Term} {accepted : AcceptedHandshake Term}
    {session : AuthenticatedSessionPlan Term}
    {generation : Nat} {peerNodeId : String} {announced : List String}
    {initiatorIndex createdAt expiresAt receiverIndex acceptedAt sessionLifetimeSeconds completedAt : Int}
    {remote remote' own expires : Int}
    {responderEphemeral initiatorEphemeralPublic responderEphemeralPublic dh1 dh2 dh1' dh2' : Term}
    (acceptance : HandshakeAcceptance responder initiation topology receiverIndex acceptedAt sessionLifetimeSeconds
      responderEphemeral accepted initiator.publicRecord remote initiatorEphemeralPublic dh1 dh2)
    (completion : HandshakeCompletion initiator pending response topology completedAt session responder.publicRecord
      remote' own expires responderEphemeralPublic dh1' dh2')
    (document : pending.document.body = initiationBody generation initiator.nodeId peerNodeId initiatorIndex
      (symbolic.x25519Public pending.ephemeralPrivate) createdAt expiresAt announced)
    (initiations : initiation.body = pending.document.body) (responses : accepted.response.body = response.body) :
    session.Paired accepted.session := by
  have body : response.body = _ := responses.symm.trans (congrArg SignedDocument.body acceptance.response)
  have remoteIndex := acceptance.remoteIndex
  have localIndex := completion.localIndex
  have initiatorEphemeral := acceptance.initiatorEphemeral
  have remoteIndex' := completion.remoteIndex
  have responderEphemeral' := completion.responderEphemeral
  have expiry := completion.expires
  rw [initiations, document] at remoteIndex initiatorEphemeral
  rw [document] at localIndex
  rw [body] at remoteIndex' responderEphemeral' expiry
  obtain rfl : initiatorIndex = remote := Option.some.inj remoteIndex
  obtain rfl : initiatorIndex = own := Option.some.inj localIndex
  obtain rfl : receiverIndex = remote' := Option.some.inj remoteIndex'
  obtain rfl : afterSeconds acceptedAt sessionLifetimeSeconds = expires := Option.some.inj expiry
  obtain rfl : symbolic.x25519Public pending.ephemeralPrivate = initiatorEphemeralPublic :=
    Option.some.inj initiatorEphemeral
  obtain rfl : symbolic.x25519Public responderEphemeral = responderEphemeralPublic :=
    Option.some.inj responderEphemeral'
  have first : dh1' = dh1 := by
    have one := acceptance.first
    rw [symbolic_correct.exchange_comm, ← responder.x25519] at one
    exact Except.ok.inj (completion.first.symm.trans one)
  have second : dh2' = dh2 := by
    have one := acceptance.second
    rw [NodeIdentity.publicRecord_x25519Public, initiator.x25519, symbolic_correct.exchange_comm] at one
    exact Except.ok.inj (completion.second.symm.trans one)
  rw [completion.session, acceptance.session, first, second, initiations, responses]
  exact ⟨⟨rfl, rfl, rfl, rfl⟩, rfl, rfl, rfl, rfl⟩

/-- A response signed by an honest member was made by that member for exactly this initiation, the member is the one
that the initiation is addressed to, and the two sessions agree. -/
theorem honest_signer_agrees {initiator signer : NodeIdentity symbolic} {pending : PendingHandshakeInitiation Term}
    {response : SignedDocument Term} {now : Int} {session : AuthenticatedSessionPlan Term}
    (reachable : HandshakeReachable topology held network) (waits : (initiator, pending) ∈ network.created)
    (delivered : ∀ term ∈ response.terms, Derivable held network.seen term)
    (listed : signer.publicRecord ∈ topology.nodes) (honest : ¬held (privateName signer.ed25519Private))
    (signedBy : response.signerNodeId = signer.nodeId)
    (completes : completeHandshakeInitiator symbolic initiator pending response topology now = .ok session) :
    ∃ record ∈ network.accepted, record.responder.publicRecord = signer.publicRecord ∧
      record.accepted.response = response ∧ record.initiation = pending.document ∧
      pending.document.body.text? "responder_node_id" = some signer.nodeId ∧
      session.Paired record.accepted.session := by
  have sound := reachable.sound
  obtain ⟨initiatorListed, peer, _, _, _, _, _, created⟩ := sound.created (initiator, pending) waits
  obtain ⟨_, _, ownEphemeral, document⟩ := createHandshakeInitiation_ok created
  obtain ⟨responder, _, _, _, _, _, _, completion⟩ := completeHandshakeInitiator_ok completes
  obtain ⟨-, responderListed, responderNamed⟩ := topologyIdentityByNodeId_ok completion.found
  obtain rfl : responder = signer.publicRecord :=
    topology.record_unique responderListed listed (completion.signed.signerNodeId.symm.trans signedBy)
  obtain ⟨record, member, responses⟩ := response_signed sound honest delivered completion.signed
  obtain ⟨recordListed, _, _, _, _, accepts⟩ := sound.accepted record member
  obtain ⟨initiator', _, _, _, _, acceptance⟩ := acceptHandshakeInitiation_ok accepts
  have body : response.body = _ := responses.symm.trans (congrArg SignedDocument.body acceptance.response)
  -- the body names its signer
  have responders : record.responder.publicRecord = signer.publicRecord := by
    rw [body] at responderNamed
    exact topology.record_unique recordListed listed responderNamed.symm
  -- and carries the hash of the initiation it answers
  have initiations : record.initiation.body = pending.document.body := by
    have hashed := completion.initiationHash
    rw [body] at hashed
    exact symbolic_collisionFree.canonicalCbor (symbolic_collisionFree.sha256 (Option.some.inj hashed))
  obtain ⟨-, foundListed, foundNamed⟩ := topologyIdentityByNodeId_ok acceptance.found
  rw [initiations, document] at foundNamed
  obtain rfl : initiator' = initiator.publicRecord := topology.record_unique foundListed initiatorListed foundNamed
  have sameResponse : record.accepted.response = response := by
    rw [completion.signed.eq_signDocument, acceptance.response, body]
    exact signDocument_congr responders _ _
  have sameInitiation : record.initiation = pending.document := by
    rw [acceptance.signed.eq_signDocument, initiations, document]
    rfl
  refine ⟨record, member, responders, sameResponse, sameInitiation, ?_, ?_⟩
  · have addressed := acceptance.addressed
    rw [initiations] at addressed
    exact addressed.trans (congrArg some (congrArg IdentityPublicRecord.nodeId responders))
  · rw [← responders] at completion
    have created : pending.document.body = _ := congrArg SignedDocument.body document
    rw [← ownEphemeral] at created
    exact paired_of_same_bodies acceptance completion created initiations responses

def bobsHandshake : AcceptedHandshake Term :=
  (acceptHandshakeInitiation symbolic bob alicesHandshake.document threeMembers 0 0 120 (.scalar 8)).toOption.get
    (by decide)

/-- The network after both messages of an honest handshake. -/
def bobSigned : HandshakeNetwork where
  seen := Set.range publicPoint ∪ alicesHandshake.document.terms ∪ bobsHandshake.response.terms
  created := insert (alice, alicesHandshake) ∅
  accepted := insert ⟨bob, alicesHandshake.document, bobsHandshake⟩ ∅

theorem bobSigned_reachable : HandshakeReachable threeMembers malloryHolds bobSigned := by
  refine .tail (.single (.create (by decide) alicesHandshake_created)) (.accept (by decide) ?_ (except_eq_ok_get _))
  exact fun term member => .seen (.inr member)

theorem honest_bob_agrees : ∃ session : AuthenticatedSessionPlan Term, ∃ record ∈ bobSigned.accepted,
    record.responder.publicRecord = bob.publicRecord ∧ record.accepted.response = bobsHandshake.response ∧
    record.initiation = alicesHandshake.document ∧
    alicesHandshake.document.body.text? "responder_node_id" = some bob.nodeId ∧
    session.Paired record.accepted.session :=
  ⟨_, honest_signer_agrees bobSigned_reachable (.inl rfl) (fun _ member => .seen (.inr member))
    (by decide) (by decide) (by decide)
    (except_eq_ok_get (show (completeHandshakeInitiator symbolic alice alicesHandshake bobsHandshake.response
      threeMembers 0).toOption.isSome by decide))⟩

end Agreement

end Gatherlink.Security
