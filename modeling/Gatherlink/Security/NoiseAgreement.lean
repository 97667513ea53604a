import Gatherlink.Security.Noise
import Gatherlink.Security.Symbolic

/-! What a successful call of each Noise step has checked and computed, and the agreement of two honest
sides: they mix the same values, although each computes the shared secrets from its own private keys. -/

namespace Gatherlink.Security
open Lib.Exec

variable {B : Type} {crypto : Primitives B}

theorem requireNotExpired_iff {createdAt expiresAt now : Int} :
    requireNotExpired createdAt expiresAt now = .ok () ↔ createdAt ≤ now ∧ now ≤ expiresAt := by
  simp only [requireNotExpired, except_check_iff, and_true]
  omega

theorem validateReceiverIndex_iff {receiverIndex : Int} :
    validateReceiverIndex receiverIndex = .ok () ↔ 0 ≤ receiverIndex ∧ receiverIndex < 2 ^ 32 := by
  simp only [validateReceiverIndex, except_check_iff, and_true]
  omega

theorem validateLifetime_of_pos {lifetimeSeconds : Int} {fieldName : String} (positive : 0 < lifetimeSeconds) :
    validateLifetime lifetimeSeconds fieldName = .ok () := by
  rw [validateLifetime, if_neg (by omega)]
  rfl

theorem publicBytes_ok {record : IdentityPublicRecord B} {facts : String × B × B}
    (read : record.publicBytes crypto = .ok facts) :
    facts = (record.nodeId, record.ed25519Public, record.x25519Public) ∧ crypto.length record.x25519Public = 32 := by
  unfold IdentityPublicRecord.publicBytes at read
  repeat' split at read
  all_goals first
    | contradiction
    | exact ⟨(Except.ok.inj read).symm, by simp_all⟩

theorem decryptAndHash_iff {state : NoiseState B} {key ciphertext plaintext : B} {next : NoiseState B} :
    state.decryptAndHash crypto key ciphertext = .ok (plaintext, next) ↔
      crypto.decrypt key (crypto.zeros 12) ciphertext state.h = some plaintext ∧
        state.mixHash crypto ciphertext = next := by
  unfold NoiseState.decryptAndHash
  split
  · simp_all [throw, throwThe, MonadExceptOf.throw]
  · simp_all [except_pure_iff]

section Creation

variable {localIdentity : NodeIdentity crypto} {peerIdentity : IdentityPublicRecord B} {topology : TopologyBundleBody B}
  {receiverIndex : Int} {now : Int} {lifetimeSeconds : Int} {ephemeralPrivate : B}

/-- What `create_noise_ik_initiation` has computed when it succeeds. -/
structure NoiseCreation (localIdentity : NodeIdentity crypto) (peerIdentity : IdentityPublicRecord B)
    (topology : TopologyBundleBody B) (receiverIndex : Int) (now : Int) (lifetimeSeconds : Int)
    (ephemeralPrivate es : B) (pending : PendingNoiseInitiation B) : Prop where
  secret : crypto.exchange ephemeralPrivate peerIdentity.x25519Public = .ok es
  ownEphemeral : pending.ephemeralPrivate = ephemeralPrivate
  schemaVersion : pending.message.schemaVersion = 1
  protocol : pending.message.protocol = "noise-ik"
  topologyGeneration : pending.message.topologyGeneration = topology.generation
  initiatorNodeId : pending.message.initiatorNodeId = localIdentity.nodeId
  responderNodeId : pending.message.responderNodeId = peerIdentity.nodeId
  initiatorReceiverIndex : pending.message.initiatorReceiverIndex = receiverIndex
  initiatorEphemeral : pending.message.initiatorEphemeralX25519 = crypto.x25519Public ephemeralPrivate
  encryptedStatic : pending.message.encryptedInitiatorStaticX25519 =
    ((NoiseState.opening crypto topology localIdentity.nodeId peerIdentity.nodeId peerIdentity.x25519Public
      (crypto.x25519Public ephemeralPrivate) es).2.encryptAndHash crypto
      (NoiseState.opening crypto topology localIdentity.nodeId peerIdentity.nodeId peerIdentity.x25519Public
        (crypto.x25519Public ephemeralPrivate) es).1 localIdentity.x25519Public).1
  createdAt : pending.message.createdAt = now
  expiresAt : pending.message.expiresAt = afterSeconds now lifetimeSeconds

theorem createNoiseIkInitiation_ok {pending : PendingNoiseInitiation B}
    (created : createNoiseIkInitiation crypto localIdentity peerIdentity topology receiverIndex now lifetimeSeconds
      ephemeralPrivate = .ok pending) :
    ∃ es, NoiseCreation localIdentity peerIdentity topology receiverIndex now lifetimeSeconds ephemeralPrivate es
      pending := by
  simp only [createNoiseIkInitiation, except_bind_iff, except_pure_iff] at created
  obtain ⟨_, -, _, -, _, -, _, -, facts, read, es, secret, _, -, rfl⟩ := created
  obtain ⟨rfl, -⟩ := publicBytes_ok read
  exact ⟨es, secret, rfl, rfl, rfl, rfl, rfl, rfl, rfl, rfl, rfl, rfl, rfl⟩

end Creation

section Acceptance

variable {initiation : NoiseInitiation B} {topology : TopologyBundleBody B} {receiverIndex : Int} {now : Int}
  {sessionLifetimeSeconds : Int} {responderEphemeralPrivate : B}

structure NoiseInitiationHeader (message : NoiseInitiation B) (topology : TopologyBundleBody B)
    (responderNodeId : String) (now : Int) : Prop where
  protocol : message.protocol = "noise-ik"
  schemaVersion : message.schemaVersion = 1
  topologyGeneration : message.topologyGeneration = topology.generation
  responderNodeId : message.responderNodeId = responderNodeId
  receiverIndex : validateReceiverIndex message.initiatorReceiverIndex = .ok ()
  unexpired : requireNotExpired message.createdAt message.expiresAt now = .ok ()
  member : ∃ record, topologyIdentityByNodeId topology message.initiatorNodeId = .ok record

theorem verifiedNoiseInitiationHeader_iff {responder : IdentityPublicRecord B} :
    verifiedNoiseInitiationHeader initiation topology responder now = .ok () ↔
      NoiseInitiationHeader initiation topology responder.nodeId now := by
  simp only [verifiedNoiseInitiationHeader, except_guard_iff, except_bind_iff, except_pure_iff, ne_eq, not_or, not_not]
  constructor
  · rintro ⟨⟨protocol, version⟩, generation, addressed, _, index, _, unexpired, record, found, -⟩
    exact ⟨protocol, version, generation, addressed, index, unexpired, record, found⟩
  · rintro ⟨protocol, version, generation, addressed, index, unexpired, record, found⟩
    exact ⟨⟨protocol, version⟩, generation, addressed, (), index, (), unexpired, record, found, trivial⟩

variable [DecidableEq B] {responderIdentity : NodeIdentity crypto}

/-- What `accept_noise_ik_initiation` has checked and computed when it succeeds. -/
structure NoiseAcceptance (responderIdentity : NodeIdentity crypto) (initiation : NoiseInitiation B)
    (topology : TopologyBundleBody B) (receiverIndex : Int) (now : Int) (sessionLifetimeSeconds : Int)
    (responderEphemeralPrivate es static : B) (initiator : IdentityPublicRecord B) (ss ee : B) : Prop where
  index : validateReceiverIndex receiverIndex = .ok ()
  lifetime : validateLifetime sessionLifetimeSeconds "session lifetime" = .ok ()
  header : NoiseInitiationHeader initiation topology responderIdentity.nodeId now
  ephemeralLength : crypto.length initiation.initiatorEphemeralX25519 = 32
  secret : crypto.exchange responderIdentity.x25519Private initiation.initiatorEphemeralX25519 = .ok es
  opened : crypto.decrypt
    (NoiseState.opening crypto topology initiation.initiatorNodeId responderIdentity.nodeId
      responderIdentity.x25519Public initiation.initiatorEphemeralX25519 es).1 (crypto.zeros 12)
    initiation.encryptedInitiatorStaticX25519
    (NoiseState.opening crypto topology initiation.initiatorNodeId responderIdentity.nodeId
      responderIdentity.x25519Public initiation.initiatorEphemeralX25519 es).2.h = some static
  found : topologyIdentityByX25519 crypto topology static = .ok initiator
  named : initiator.nodeId = initiation.initiatorNodeId
  statics : crypto.exchange responderIdentity.x25519Private static = .ok ss
  ephemerals : crypto.exchange responderEphemeralPrivate initiation.initiatorEphemeralX25519 = .ok ee

/-- The transport keys, for the first to send and the first to receive. -/
def noiseKeys (crypto : Primitives B) (topology : TopologyBundleBody B) (initiatorNodeId responderNodeId : String)
    (responderStatic initiatorEphemeral encryptedStatic responderEphemeral es ss ee : B) : B × B :=
  ((NoiseState.opening crypto topology initiatorNodeId responderNodeId responderStatic initiatorEphemeral es).2.mixHash
    crypto encryptedStatic).closing crypto ss responderEphemeral ee es

theorem acceptNoiseIkInitiation_iff {accepted : AcceptedNoiseHandshake B} :
    acceptNoiseIkInitiation crypto responderIdentity initiation topology receiverIndex now sessionLifetimeSeconds
      responderEphemeralPrivate = .ok accepted ↔
    ∃ es static initiator ss ee, NoiseAcceptance responderIdentity initiation topology receiverIndex now
        sessionLifetimeSeconds responderEphemeralPrivate es static initiator ss ee ∧
      let keys := noiseKeys crypto topology initiation.initiatorNodeId responderIdentity.nodeId
        responderIdentity.x25519Public initiation.initiatorEphemeralX25519 initiation.encryptedInitiatorStaticX25519
        (crypto.x25519Public responderEphemeralPrivate) es ss ee
      accepted = .build crypto initiation topology.generation initiator.nodeId responderIdentity.nodeId receiverIndex
        now sessionLifetimeSeconds (crypto.x25519Public responderEphemeralPrivate) keys.1 keys.2 := by
  simp only [acceptNoiseIkInitiation, except_bind_iff, except_guard_iff, except_pure_iff, decryptAndHash_iff,
    ne_eq, not_not, Prod.exists]
  constructor
  · rintro ⟨_, index, _, lifetime, _, header, size, es, secret, static, _, ⟨opened, rfl⟩, initiator, found, named, ss,
      statics, ee, ephemerals, last, again, rfl⟩
    obtain rfl : es = last := Except.ok.inj (secret.symm.trans again)
    exact ⟨es, static, initiator, ss, ee, ⟨index, lifetime, verifiedNoiseInitiationHeader_iff.mp header, size, secret,
      opened, found, named, statics, ephemerals⟩, rfl⟩
  · rintro ⟨es, static, initiator, ss, ee, acceptance, rfl⟩
    exact ⟨(), acceptance.index, (), acceptance.lifetime, (), verifiedNoiseInitiationHeader_iff.mpr acceptance.header,
      acceptance.ephemeralLength, es, acceptance.secret, static, _, ⟨acceptance.opened, rfl⟩, initiator,
      acceptance.found, acceptance.named, ss, acceptance.statics, ee, acceptance.ephemerals, es, acceptance.secret, rfl⟩

theorem acceptNoiseIkInitiation_session {accepted : AcceptedNoiseHandshake B}
    (accepts : acceptNoiseIkInitiation crypto responderIdentity initiation topology receiverIndex now
      sessionLifetimeSeconds responderEphemeralPrivate = .ok accepted) :
    ∃ sendKey receiveKey, accepted.session =
      { localNodeId := responderIdentity.nodeId
        peerNodeId := initiation.initiatorNodeId
        topologyGeneration := topology.generation
        receiverIndex
        role := .responder
        createdAt := now
        expiresAt := afterSeconds now sessionLifetimeSeconds
        security := ⟨receiverIndex, receiverIndex, initiation.initiatorReceiverIndex, sendKey, receiveKey⟩ } := by
  obtain ⟨_, _, _, _, _, acceptance, rfl⟩ := acceptNoiseIkInitiation_iff.mp accepts
  rw [← acceptance.named]
  exact ⟨_, _, rfl⟩

end Acceptance

section Completion

variable [DecidableEq B] {localIdentity : NodeIdentity crypto} {pending : PendingNoiseInitiation B}
  {response : NoiseResponse B} {topology : TopologyBundleBody B} {now : Int}

structure NoiseResponseHeader (crypto : Primitives B) (message : NoiseResponse B) (pending : PendingNoiseInitiation B)
    (topology : TopologyBundleBody B) (initiatorNodeId : String) (now : Int) : Prop where
  protocol : message.protocol = "noise-ik"
  schemaVersion : message.schemaVersion = 1
  topologyGeneration : message.topologyGeneration = topology.generation
  initiatorNodeId : message.initiatorNodeId = initiatorNodeId
  initiationHash : message.initiationHash = messageHash crypto pending.message
  receiverIndex : validateReceiverIndex message.responderReceiverIndex = .ok ()
  unexpired : requireNotExpired message.createdAt message.expiresAt now = .ok ()
  member : ∃ record, topologyIdentityByNodeId topology message.responderNodeId = .ok record

theorem verifiedNoiseResponse_iff {initiator : IdentityPublicRecord B} :
    verifiedNoiseResponse crypto response pending topology initiator now = .ok () ↔
      NoiseResponseHeader crypto response pending topology initiator.nodeId now := by
  simp only [verifiedNoiseResponse, except_guard_iff, except_bind_iff, except_pure_iff, ne_eq, not_or, not_not]
  constructor
  · rintro ⟨⟨protocol, version⟩, generation, named, hashed, _, index, _, unexpired, record, found, -⟩
    exact ⟨protocol, version, generation, named, hashed, index, unexpired, record, found⟩
  · rintro ⟨protocol, version, generation, named, hashed, index, unexpired, record, found⟩
    exact ⟨⟨protocol, version⟩, generation, named, hashed, (), index, (), unexpired, record, found, trivial⟩

/-- What `complete_noise_ik_initiator` has checked and computed when it succeeds. -/
structure NoiseCompletion (localIdentity : NodeIdentity crypto) (pending : PendingNoiseInitiation B)
    (response : NoiseResponse B) (topology : TopologyBundleBody B) (now : Int)
    (responder : IdentityPublicRecord B) (es ss ee : B) : Prop where
  header : NoiseResponseHeader crypto response pending topology localIdentity.nodeId now
  found : topologyIdentityByNodeId topology response.responderNodeId = .ok responder
  ephemeralLength : crypto.length response.responderEphemeralX25519 = 32
  read : ∃ facts, responder.publicBytes crypto = .ok facts
  secret : crypto.exchange pending.ephemeralPrivate responder.x25519Public = .ok es
  encryptedStatic : ((NoiseState.opening crypto topology localIdentity.nodeId responder.nodeId responder.x25519Public
      pending.message.initiatorEphemeralX25519 es).2.encryptAndHash crypto
      (NoiseState.opening crypto topology localIdentity.nodeId responder.nodeId responder.x25519Public
        pending.message.initiatorEphemeralX25519 es).1 localIdentity.x25519Public).1 =
    pending.message.encryptedInitiatorStaticX25519
  statics : crypto.exchange localIdentity.x25519Private responder.x25519Public = .ok ss
  ephemerals : crypto.exchange pending.ephemeralPrivate response.responderEphemeralX25519 = .ok ee

theorem completeNoiseIkInitiator_iff {session : AuthenticatedSessionPlan B} :
    completeNoiseIkInitiator crypto localIdentity pending response topology now = .ok session ↔
    ∃ responder es ss ee, NoiseCompletion localIdentity pending response topology now responder es ss ee ∧
      let keys := noiseKeys crypto topology localIdentity.nodeId responder.nodeId responder.x25519Public
        pending.message.initiatorEphemeralX25519 pending.message.encryptedInitiatorStaticX25519
        response.responderEphemeralX25519 es ss ee
      session = initiatorSession pending response topology.generation localIdentity.nodeId responder.nodeId now
        keys.1 keys.2 := by
  simp only [completeNoiseIkInitiator, except_bind_iff, except_guard_iff, except_pure_iff, ne_eq, not_not]
  constructor
  · rintro ⟨_, header, responder, found, size, facts, read, es, secret, same, ss, statics, ee, ephemerals, last, again,
      rfl⟩
    obtain ⟨rfl, -⟩ := publicBytes_ok read
    obtain rfl : es = last := Except.ok.inj (secret.symm.trans again)
    refine ⟨responder, es, ss, ee, ⟨verifiedNoiseResponse_iff.mp header, found, size, ⟨_, read⟩, secret, same,
      statics, ephemerals⟩, ?_⟩
    rw [noiseKeys, ← same]
    rfl
  · rintro ⟨responder, es, ss, ee, completion, rfl⟩
    obtain ⟨facts, read⟩ := completion.read
    obtain ⟨rfl, -⟩ := publicBytes_ok read
    refine ⟨(), verifiedNoiseResponse_iff.mpr completion.header, responder, completion.found,
      completion.ephemeralLength, _, read, es, completion.secret, completion.encryptedStatic, ss, completion.statics,
      ee, completion.ephemerals, es, completion.secret, ?_⟩
    rw [noiseKeys, ← completion.encryptedStatic]
    rfl

theorem completeNoiseIkInitiator_session {session : AuthenticatedSessionPlan B}
    (completes : completeNoiseIkInitiator crypto localIdentity pending response topology now = .ok session) :
    session.localNodeId = localIdentity.nodeId ∧ session.receiverIndex = session.security.remoteReceiverIndex ∧
      session.security.localReceiverIndex = pending.message.initiatorReceiverIndex := by
  obtain ⟨_, _, _, _, -, rfl⟩ := completeNoiseIkInitiator_iff.mp completes
  exact ⟨rfl, rfl, rfl⟩

end Completion

section Agreement

variable [DecidableEq B] {topology : TopologyBundleBody B} {initiator responder : NodeIdentity crypto}
  {initiatorIndex responderIndex createdAt acceptedAt completedAt lifetimeSeconds sessionLifetimeSeconds : Int}
  {initiatorEphemeral responderEphemeral : B} {pending : PendingNoiseInitiation B}
  {accepted : AcceptedNoiseHandshake B} {session : AuthenticatedSessionPlan B}

/-- The three calls of a handshake whose messages are not altered end in two ends of one session. -/
theorem paired_of_unaltered (correct : crypto.Correct) (member : responder.publicRecord ∈ topology.nodes)
    (created : createNoiseIkInitiation crypto initiator responder.publicRecord topology initiatorIndex createdAt
      lifetimeSeconds initiatorEphemeral = .ok pending)
    (accepts : acceptNoiseIkInitiation crypto responder pending.message topology responderIndex acceptedAt
      sessionLifetimeSeconds responderEphemeral = .ok accepted)
    (completes : completeNoiseIkInitiator crypto initiator pending accepted.response topology completedAt =
      .ok session) :
    session.Paired accepted.session := by
  obtain ⟨es, creation⟩ := createNoiseIkInitiation_ok created
  obtain ⟨es', static, record, ss, ee, acceptance, rfl⟩ := acceptNoiseIkInitiation_iff.mp accepts
  obtain ⟨peer, es'', ss', ee', completion, rfl⟩ := completeNoiseIkInitiator_iff.mp completes
  obtain ⟨-, listed, sameId⟩ := topologyIdentityByNodeId_ok completion.found
  obtain rfl : peer = responder.publicRecord := topology.record_unique listed member sameId
  -- both sides compute the secret of the initiator's ephemeral key and the responder's static key
  have secret := creation.secret
  have secret' := acceptance.secret
  have secret'' := completion.secret
  rw [creation.initiatorEphemeral, correct.exchange_comm, ← responder.x25519] at secret'
  obtain rfl : es = es' := Except.ok.inj (secret.symm.trans secret')
  rw [creation.ownEphemeral] at secret''
  obtain rfl : es = es'' := Except.ok.inj (secret.symm.trans secret'')
  -- so the responder opens what the initiator sealed
  have opened := acceptance.opened
  rw [creation.encryptedStatic, creation.initiatorNodeId, creation.initiatorEphemeral] at opened
  obtain rfl : initiator.x25519Public = static :=
    Option.some.inj ((correct.decrypt_encrypt _ _ _ _).symm.trans opened)
  have statics : ss' = ss := by
    have one := acceptance.statics
    have two := completion.statics
    rw [initiator.x25519, correct.exchange_comm, ← responder.x25519] at one
    exact Except.ok.inj (two.symm.trans one)
  have ephemerals : ee' = ee := by
    have one := acceptance.ephemerals
    have two := completion.ephemerals
    rw [creation.initiatorEphemeral, correct.exchange_comm] at one
    rw [creation.ownEphemeral] at two
    exact Except.ok.inj (two.symm.trans one)
  subst statics ephemerals
  have named : record.nodeId = initiator.nodeId := acceptance.named.trans creation.initiatorNodeId
  refine ⟨⟨?_, ?_, rfl, rfl⟩, named.symm, rfl, rfl, rfl⟩
  · simp [initiatorSession, AcceptedNoiseHandshake.build, creation.initiatorNodeId]
  · simp [initiatorSession, AcceptedNoiseHandshake.build, creation.initiatorNodeId]

/-- The search by static key ends at the record with that key, past records that can be read. -/
theorem topologyIdentityByX25519_of_mem {record : IdentityPublicRecord B} (member : record ∈ topology.nodes)
    (valid : record.nodeId ∉ topology.revokedNodeIds)
    (readable : ∀ node ∈ topology.nodes, ∃ facts, node.publicBytes crypto = .ok facts)
    (distinct : (topology.nodes.map (·.x25519Public)).Nodup) :
    topologyIdentityByX25519 crypto topology record.x25519Public = .ok record := by
  have search : ∀ nodes : List (IdentityPublicRecord B), nodes ⊆ topology.nodes → record ∈ nodes →
      topologyIdentityByX25519.search crypto topology record.x25519Public nodes = .ok record := by
    intro nodes
    induction nodes with
    | nil => nofun
    | cons node rest ih =>
      intro among present
      have here : node ∈ topology.nodes := among List.mem_cons_self
      have later (other : record ≠ node) : topologyIdentityByX25519.search crypto topology record.x25519Public rest =
          .ok record :=
        ih (fun _ member => among (List.mem_cons_of_mem _ member)) ((List.mem_cons.mp present).resolve_left other)
      rw [topologyIdentityByX25519.search]
      split
      · rename_i revoked
        exact later (by rintro rfl; exact valid revoked)
      · obtain ⟨facts, read⟩ := readable node here
        obtain ⟨rfl, -⟩ := publicBytes_ok read
        simp only [read, bind, Except.bind]
        split
        · rename_i same
          rw [List.inj_on_of_nodup_map distinct here member same]
          rfl
        · rename_i differ
          exact later (by rintro rfl; exact differ rfl)
  exact search topology.nodes (List.Subset.refl _) member

/-- Two members of one topology whose records can be read and have distinct static keys. -/
structure Topologymates (initiator responder : NodeIdentity crypto) (topology : TopologyBundleBody B) : Prop where
  initiatorListed : initiator.publicRecord ∈ topology.nodes
  responderListed : responder.publicRecord ∈ topology.nodes
  initiatorValid : initiator.nodeId ∉ topology.revokedNodeIds
  responderValid : responder.nodeId ∉ topology.revokedNodeIds
  readable : ∀ node ∈ topology.nodes, ∃ facts, node.publicBytes crypto = .ok facts
  distinct : (topology.nodes.map (·.x25519Public)).Nodup

section Success
variable (correct : crypto.Correct) (mates : Topologymates initiator responder topology)
include correct mates

omit [DecidableEq B] in
theorem create_succeeds (fits : 0 ≤ initiatorIndex ∧ initiatorIndex < 2 ^ 32) (lifetime : 0 < lifetimeSeconds) :
    ∃ pending, createNoiseIkInitiation crypto initiator responder.publicRecord topology initiatorIndex createdAt
      lifetimeSeconds initiatorEphemeral = .ok pending := by
  obtain ⟨facts, read⟩ := mates.readable _ mates.responderListed
  obtain ⟨rfl, -⟩ := publicBytes_ok read
  obtain ⟨es, secret⟩ := correct.exchange_ok initiatorEphemeral responder.x25519Private
  obtain ⟨ss, statics⟩ := correct.exchange_ok initiator.x25519Private responder.x25519Private
  simp only [createNoiseIkInitiation, validateLifetime_of_pos lifetime, validateReceiverIndex_iff.mpr fits,
    requireTopologyMember_of_mem mates.initiatorListed mates.initiatorValid,
    requireTopologyMember_of_mem mates.responderListed mates.responderValid, read, bind, Except.bind,
    NodeIdentity.publicRecord_x25519Public, responder.x25519, secret, statics]
  exact ⟨_, rfl⟩

variable (created : createNoiseIkInitiation crypto initiator responder.publicRecord topology initiatorIndex createdAt
  lifetimeSeconds initiatorEphemeral = .ok pending)
include created

theorem accept_succeeds (initiatorFits : 0 ≤ initiatorIndex ∧ initiatorIndex < 2 ^ 32)
    (responderFits : 0 ≤ responderIndex ∧ responderIndex < 2 ^ 32) (sessionLifetime : 0 < sessionLifetimeSeconds)
    (inTime : createdAt ≤ acceptedAt ∧ acceptedAt ≤ afterSeconds createdAt lifetimeSeconds) :
    ∃ accepted, acceptNoiseIkInitiation crypto responder pending.message topology responderIndex acceptedAt
      sessionLifetimeSeconds responderEphemeral = .ok accepted := by
  obtain ⟨es, creation⟩ := createNoiseIkInitiation_ok created
  obtain ⟨ss, statics⟩ := correct.exchange_ok initiator.x25519Private responder.x25519Private
  obtain ⟨ee, ephemerals⟩ := correct.exchange_ok initiatorEphemeral responderEphemeral
  have header : NoiseInitiationHeader pending.message topology responder.nodeId acceptedAt := by
    refine ⟨creation.protocol, creation.schemaVersion, creation.topologyGeneration, creation.responderNodeId, ?_, ?_,
      initiator.publicRecord, ?_⟩
    · rw [creation.initiatorReceiverIndex]
      exact validateReceiverIndex_iff.mpr initiatorFits
    · rw [creation.createdAt, creation.expiresAt]
      exact requireNotExpired_iff.mpr inTime
    · rw [creation.initiatorNodeId]
      exact topologyIdentityByNodeId_of_mem mates.initiatorListed mates.initiatorValid
  refine ⟨_, acceptNoiseIkInitiation_iff.mpr ⟨es, initiator.x25519Public, initiator.publicRecord, ss, ee,
    ⟨validateReceiverIndex_iff.mpr responderFits, validateLifetime_of_pos sessionLifetime, header, ?_, ?_, ?_,
      topologyIdentityByX25519_of_mem mates.initiatorListed mates.initiatorValid mates.readable mates.distinct,
      creation.initiatorNodeId.symm, ?_, ?_⟩, rfl⟩⟩
  · rw [creation.initiatorEphemeral]
    exact correct.public_length _
  · rw [creation.initiatorEphemeral, correct.exchange_comm, ← responder.x25519]
    exact creation.secret
  · rw [creation.encryptedStatic, creation.initiatorNodeId, creation.initiatorEphemeral]
    exact correct.decrypt_encrypt ..
  · rw [initiator.x25519, correct.exchange_comm]
    exact statics
  · rw [creation.initiatorEphemeral, correct.exchange_comm]
    exact ephemerals

theorem complete_succeeds
    (accepts : acceptNoiseIkInitiation crypto responder pending.message topology responderIndex acceptedAt
      sessionLifetimeSeconds responderEphemeral = .ok accepted)
    (inTime : acceptedAt ≤ completedAt ∧ completedAt ≤ afterSeconds acceptedAt sessionLifetimeSeconds) :
    ∃ session, completeNoiseIkInitiator crypto initiator pending accepted.response topology completedAt =
      .ok session := by
  obtain ⟨es, creation⟩ := createNoiseIkInitiation_ok created
  obtain ⟨_, _, record, _, _, acceptance, rfl⟩ := acceptNoiseIkInitiation_iff.mp accepts
  obtain ⟨ss, statics⟩ := correct.exchange_ok initiator.x25519Private responder.x25519Private
  obtain ⟨ee, ephemerals⟩ := correct.exchange_ok initiatorEphemeral responderEphemeral
  have found := topologyIdentityByNodeId_of_mem mates.responderListed mates.responderValid
  refine ⟨_, completeNoiseIkInitiator_iff.mpr ⟨responder.publicRecord, es, ss, ee,
    ⟨⟨rfl, rfl, rfl, acceptance.named.trans creation.initiatorNodeId, rfl, acceptance.index,
      requireNotExpired_iff.mpr inTime, _, found⟩, found, correct.public_length _,
      mates.readable _ mates.responderListed, ?_, ?_, ?_, ?_⟩, rfl⟩⟩
  · rw [creation.ownEphemeral]
    exact creation.secret
  · rw [creation.initiatorEphemeral]
    exact creation.encryptedStatic.symm
  · rw [NodeIdentity.publicRecord_x25519Public, responder.x25519]
    exact statics
  · rw [creation.ownEphemeral]
    exact ephemerals

end Success

/-- The two sides agree on a session, whatever their ephemeral keys, receiver indexes and lifetimes, if each message
arrives unaltered and in time. -/
theorem honest_noise_agreement (correct : crypto.Correct) (mates : Topologymates initiator responder topology)
    (initiatorFits : 0 ≤ initiatorIndex ∧ initiatorIndex < 2 ^ 32)
    (responderFits : 0 ≤ responderIndex ∧ responderIndex < 2 ^ 32)
    (lifetime : 0 < lifetimeSeconds) (sessionLifetime : 0 < sessionLifetimeSeconds)
    (inTime : createdAt ≤ acceptedAt ∧ acceptedAt ≤ afterSeconds createdAt lifetimeSeconds)
    (completedInTime : acceptedAt ≤ completedAt ∧ completedAt ≤ afterSeconds acceptedAt sessionLifetimeSeconds) :
    ∃ pending accepted session,
      createNoiseIkInitiation crypto initiator responder.publicRecord topology initiatorIndex createdAt lifetimeSeconds
        initiatorEphemeral = .ok pending ∧
      acceptNoiseIkInitiation crypto responder pending.message topology responderIndex acceptedAt sessionLifetimeSeconds
        responderEphemeral = .ok accepted ∧
      completeNoiseIkInitiator crypto initiator pending accepted.response topology completedAt = .ok session ∧
      session.Paired accepted.session := by
  obtain ⟨pending, created⟩ := create_succeeds correct mates initiatorFits lifetime
  obtain ⟨accepted, accepts⟩ := accept_succeeds correct mates created initiatorFits responderFits sessionLifetime inTime
  obtain ⟨session, completes⟩ := complete_succeeds correct mates created accepts completedInTime
  exact ⟨pending, accepted, session, created, accepts, completes,
    paired_of_unaltered correct mates.responderListed created accepts completes⟩

theorem alice_and_bob : Topologymates alice bob threeMembers := by
  refine ⟨by decide, by decide, by decide, by decide, ?_, by decide⟩
  intro node member
  fin_cases member <;> exact ⟨_, rfl⟩

omit [DecidableEq B] in
theorem Topologymates.symm (mates : Topologymates initiator responder topology) :
    Topologymates responder initiator topology :=
  ⟨mates.responderListed, mates.initiatorListed, mates.responderValid, mates.initiatorValid, mates.readable,
    mates.distinct⟩

/-- Receiver index 0 on both sides. -/
theorem alice_and_bob_agree : ∃ pending accepted session,
    createNoiseIkInitiation symbolic alice bob.publicRecord threeMembers 0 0 30 (.scalar 7) = .ok pending ∧
    acceptNoiseIkInitiation symbolic bob pending.message threeMembers 0 30000000 120 (.scalar 8) = .ok accepted ∧
    completeNoiseIkInitiator symbolic alice pending accepted.response threeMembers 150000000 = .ok session ∧
    session.Paired accepted.session :=
  honest_noise_agreement symbolic_correct alice_and_bob (by decide) (by decide) (by decide) (by decide) (by decide)
    (by decide)

end Agreement

end Gatherlink.Security
