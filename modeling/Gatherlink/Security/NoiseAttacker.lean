import Gatherlink.Security.NoiseAgreement

/-! Noise IK under an active attacker. Topology members create, accept and complete handshakes; the
attacker sees what they send, holds some scalars, and delivers whatever it can derive. -/

namespace Gatherlink.Security
open Lib.Exec Lib.Symbolic

section Runs

/-- The byte strings of a message that the attacker cannot make up from constants. -/
def NoiseInitiation.terms (message : NoiseInitiation Term) : Set Term :=
  {message.initiatorEphemeralX25519, message.encryptedInitiatorStaticX25519}

def NoiseResponse.terms (message : NoiseResponse Term) : Set Term :=
  {message.initiationHash, message.responderEphemeralX25519}

structure NoiseAcceptanceRecord where
  responder : NodeIdentity symbolic
  initiation : NoiseInitiation Term
  accepted : AcceptedNoiseHandshake Term

structure NoiseCompletionRecord where
  initiator : NodeIdentity symbolic
  pending : PendingNoiseInitiation Term
  response : NoiseResponse Term
  session : AuthenticatedSessionPlan Term

/-- What has happened so far: the terms on the wire, the ephemeral scalars drawn, and the calls that succeeded. -/
structure NoiseNetwork where
  seen : Set Term := Set.range publicPoint
  drawn : Set Nat := ∅
  created : Set (NodeIdentity symbolic × PendingNoiseInitiation Term) := ∅
  accepted : Set NoiseAcceptanceRecord := ∅
  completed : Set NoiseCompletionRecord := ∅

variable (topology : TopologyBundleBody Term) (held : Nat → Prop)

/-- A message that the attacker can deliver. -/
def NoiseNetwork.Deliverable (network : NoiseNetwork) (terms : Set Term) : Prop :=
  ∀ term ∈ terms, Derivable held network.seen term

inductive NoiseStep : NoiseNetwork → NoiseNetwork → Prop where
  | create {network : NoiseNetwork} {node : NodeIdentity symbolic} {peer : IdentityPublicRecord Term}
      {receiverIndex now lifetimeSeconds : Int} {ephemeral : Nat} {pending : PendingNoiseInitiation Term}
      (listed : node.publicRecord ∈ topology.nodes) (peerListed : peer ∈ topology.nodes)
      (unheld : ¬held ephemeral) (fresh : ephemeral ∉ network.drawn)
      (created : createNoiseIkInitiation symbolic node peer topology receiverIndex now lifetimeSeconds
        (.scalar ephemeral) = .ok pending) :
      NoiseStep network { network with
        seen := network.seen ∪ pending.message.terms
        drawn := insert ephemeral network.drawn
        created := insert (node, pending) network.created }
  | accept {network : NoiseNetwork} {node : NodeIdentity symbolic} {initiation : NoiseInitiation Term}
      {receiverIndex now sessionLifetimeSeconds : Int} {ephemeral : Nat} {accepted : AcceptedNoiseHandshake Term}
      (listed : node.publicRecord ∈ topology.nodes) (unheld : ¬held ephemeral) (fresh : ephemeral ∉ network.drawn)
      (delivered : network.Deliverable held initiation.terms)
      (accepts : acceptNoiseIkInitiation symbolic node initiation topology receiverIndex now sessionLifetimeSeconds
        (.scalar ephemeral) = .ok accepted) :
      NoiseStep network { network with
        seen := network.seen ∪ accepted.response.terms
        drawn := insert ephemeral network.drawn
        accepted := insert ⟨node, initiation, accepted⟩ network.accepted }
  | complete {network : NoiseNetwork} {node : NodeIdentity symbolic} {pending : PendingNoiseInitiation Term}
      {response : NoiseResponse Term} {now : Int} {session : AuthenticatedSessionPlan Term}
      (waits : (node, pending) ∈ network.created) (delivered : network.Deliverable held response.terms)
      (completes : completeNoiseIkInitiator symbolic node pending response topology now = .ok session) :
      NoiseStep network { network with
        completed := insert ⟨node, pending, response, session⟩ network.completed }

def NoiseReachable : NoiseNetwork → Prop := Relation.ReflTransGen (NoiseStep topology held) {}

/-- The boxes that honest members have sealed. -/
def NoiseNetwork.made (network : NoiseNetwork) : Set Term :=
  {term | ∃ entry ∈ network.created, term = entry.2.message.encryptedInitiatorStaticX25519}

/-- What holds along every run. -/
structure NoiseNetwork.Sound (network : NoiseNetwork) : Prop where
  openly : ∀ term ∈ network.seen, term.Open held network.made
  created : ∀ entry ∈ network.created, entry.1.publicRecord ∈ topology.nodes ∧ ∃ peer ∈ topology.nodes,
    ∃ receiverIndex now lifetimeSeconds ephemeral, createNoiseIkInitiation symbolic entry.1 peer topology receiverIndex
      now lifetimeSeconds (.scalar ephemeral) = .ok entry.2
  accepted : ∀ entry ∈ network.accepted, entry.responder.publicRecord ∈ topology.nodes ∧
    ∃ receiverIndex now sessionLifetimeSeconds ephemeral, acceptNoiseIkInitiation symbolic entry.responder
      entry.initiation topology receiverIndex now sessionLifetimeSeconds (.scalar ephemeral) = .ok entry.accepted
  completed : ∀ entry ∈ network.completed, ∃ now,
    completeNoiseIkInitiator symbolic entry.initiator entry.pending entry.response topology now = .ok entry.session

variable {topology held} {network next : NoiseNetwork}

theorem initiation_terms_open {node : NodeIdentity symbolic} {peer : IdentityPublicRecord Term}
    {receiverIndex now lifetimeSeconds : Int} {ephemeral : Nat}
    {pending : PendingNoiseInitiation Term} {made : Set Term}
    (created : createNoiseIkInitiation symbolic node peer topology receiverIndex now lifetimeSeconds
      (.scalar ephemeral) = .ok pending)
    (boxed : pending.message.encryptedInitiatorStaticX25519 ∈ made) :
    ∀ term ∈ pending.message.terms, term.Open held made := by
  obtain ⟨es, creation⟩ := createNoiseIkInitiation_ok created
  rintro term (rfl | rfl)
  · rw [creation.initiatorEphemeral]
    exact publicPoint_open ephemeral
  · rw [creation.encryptedStatic] at boxed ⊢
    refine ⟨?_, .inr boxed⟩
    rw [node.x25519]
    exact publicPoint_open _

theorem NoiseNetwork.Sound.step (sound : network.Sound topology held) (step : NoiseStep topology held network next) :
    next.Sound topology held := by
  cases step with
  | create listed peerListed unheld fresh created =>
    refine ⟨?_, ?_, sound.accepted, sound.completed⟩
    · rintro term (before | sent)
      · apply (sound.openly term before).mono
        rintro box ⟨entry, member, same⟩
        exact ⟨entry, .inr member, same⟩
      · apply initiation_terms_open created _ term sent
        exact ⟨(_, _), .inl rfl, rfl⟩
    · rintro entry (rfl | before)
      · exact ⟨listed, _, peerListed, _, _, _, _, created⟩
      · exact sound.created entry before
  | accept listed unheld fresh delivered accepts =>
    refine ⟨?_, sound.created, ?_, sound.completed⟩
    · rintro term (before | sent)
      · exact sound.openly term before
      · obtain ⟨es, static, initiator, ss, ee, -, rfl⟩ := acceptNoiseIkInitiation_iff.mp accepts
        rcases sent with rfl | rfl
        · trivial
        · exact publicPoint_open _
    · rintro entry (rfl | before)
      · exact ⟨listed, _, _, _, _, accepts⟩
      · exact sound.accepted entry before
  | complete waits delivered completes =>
    refine ⟨sound.openly, sound.created, sound.accepted, ?_⟩
    rintro entry (rfl | before)
    · exact ⟨_, completes⟩
    · exact sound.completed entry before

theorem NoiseReachable.sound (reachable : NoiseReachable topology held network) : network.Sound topology held := by
  induction reachable with
  | refl =>
    refine ⟨?_, fun _ absent => absent.elim, fun _ absent => absent.elim, fun _ absent => absent.elim⟩
    rintro term ⟨name, rfl⟩
    exact publicPoint_open name
  | tail _ step sound => exact sound.step step

end Runs

section Forging

variable {topology : TopologyBundleBody Term} {held : Nat → Prop} {seen : Set Term}

variable {responderNodeId initiatorNodeId : String} {responderStatic : Term}

/-- Anyone who knows the secret of an ephemeral key and the responder's static key can open the handshake. -/
theorem opening_derivable {initiatorEphemeral es : Term} (static : Derivable held seen responderStatic)
    (ephemeral : Derivable held seen initiatorEphemeral) (secret : Derivable held seen es) :
    Derivable held seen (NoiseState.opening symbolic topology initiatorNodeId responderNodeId responderStatic
      initiatorEphemeral es).1 ∧
    Derivable held seen (NoiseState.opening symbolic topology initiatorNodeId responderNodeId responderStatic
      initiatorEphemeral es).2.h :=
  ⟨.derived (.hash (.text _)) (.text _) secret,
    .hash (.pair (.hash (.pair (.hash (.pair (.hash (.text _)) (.text _))) static)) ephemeral)⟩

theorem encodeTexts_derivable (values : List String) : Derivable held seen (encodeTexts values) := by
  induction values with
  | nil => exact .text ""
  | cons value rest ih => exact .pair (.text value) ih

theorem encodeDocument_derivable (document : Document Term)
    (known : ∀ entry ∈ document, ∀ term, entry.2 = .bytes term → Derivable held seen term) :
    Derivable held seen (encodeDocument document) := by
  induction document with
  | nil => exact .text ""
  | cons entry rest ih =>
    obtain ⟨name, value⟩ := entry
    refine .pair (.pair (.text name) ?_) (ih fun entry member => known entry (List.mem_cons_of_mem _ member))
    cases value with
    | number value => exact .pair (.text _) (.number value)
    | text value => exact .pair (.text _) (.text value)
    | texts values => exact .pair (.text _) (encodeTexts_derivable values)
    | bytes term => exact .pair (.text _) (known _ List.mem_cons_self term rfl)
    | time value => exact .pair (.text _) (.number value)

theorem messageHash_derivable {message : NoiseInitiation Term}
    (known : ∀ term ∈ message.terms, Derivable held seen term) :
    Derivable held seen (messageHash symbolic message) := by
  refine .hash (.pair (.text _) (encodeDocument_derivable _ ?_))
  intro entry member term bytes
  apply known
  simp only [NoiseInitiation.document, List.mem_cons, List.not_mem_nil, or_false] at member
  rcases member with rfl | rfl | rfl | rfl | rfl | rfl | rfl | rfl | rfl | rfl
  all_goals simp_all [NoiseInitiation.terms]

/-- Scalars of an insider: both private keys and one it draws. -/
abbrev malloryHolds (name : Nat) : Prop := name ∈ [5, 6, 9]

/-- An initiation in the name of another member, made without that member's private key. -/
def forgedInitiation : NoiseInitiation Term :=
  let (k, state) := NoiseState.opening symbolic threeMembers alice.nodeId bob.nodeId bob.x25519Public (publicPoint 9)
    (exchange 9 bob.x25519Public)
  { schemaVersion := 1
    protocol := "noise-ik"
    topologyGeneration := 1
    initiatorNodeId := alice.nodeId
    responderNodeId := bob.nodeId
    initiatorReceiverIndex := 0
    initiatorEphemeralX25519 := publicPoint 9
    encryptedInitiatorStaticX25519 := (state.encryptAndHash symbolic k alice.x25519Public).1
    createdAt := 0
    expiresAt := 30000000 }

theorem forgedInitiation_deliverable : NoiseNetwork.Deliverable malloryHolds {} forgedInitiation.terms := by
  have own : Derivable malloryHolds (Set.range publicPoint) (.scalar 9) := .scalar (by decide)
  have ephemeral : Derivable malloryHolds (Set.range publicPoint) (publicPoint 9) := .seen ⟨9, rfl⟩
  have static : Derivable malloryHolds (Set.range publicPoint) bob.x25519Public := .seen ⟨4, rfl⟩
  obtain ⟨key, data⟩ := opening_derivable static ephemeral (.multiply own static)
  rintro term (rfl | rfl)
  · exact ephemeral
  · exact .sealed key (.number 12) data (.seen ⟨2, rfl⟩)

def forgedAcceptance : AcceptedNoiseHandshake Term :=
  (acceptNoiseIkInitiation symbolic bob forgedInitiation threeMembers 0 0 120 (.scalar 8)).toOption.get (by decide)

theorem forgedInitiation_accepted :
    acceptNoiseIkInitiation symbolic bob forgedInitiation threeMembers 0 0 120 (.scalar 8) = .ok forgedAcceptance :=
  except_eq_ok_get _

def alicesInitiation : PendingNoiseInitiation Term :=
  (createNoiseIkInitiation symbolic alice bob.publicRecord threeMembers 0 0 30 (.scalar 7)).toOption.get (by decide)

theorem alicesInitiation_created :
    createNoiseIkInitiation symbolic alice bob.publicRecord threeMembers 0 0 30 (.scalar 7) = .ok alicesInitiation :=
  except_eq_ok_get _

/-- The network after the first message of an honest handshake. -/
def aliceWaits : NoiseNetwork where
  seen := Set.range publicPoint ∪ alicesInitiation.message.terms
  drawn := insert 7 ∅
  created := insert (alice, alicesInitiation) ∅

theorem aliceWaits_reachable : NoiseReachable threeMembers malloryHolds aliceWaits :=
  .single (.create (by decide) (by decide) (by decide) (Set.notMem_empty 7) alicesInitiation_created)

theorem alicesInitiation_deliverable : aliceWaits.Deliverable malloryHolds alicesInitiation.message.terms :=
  fun _ member => .seen (.inr member)

def bobsAcceptance : AcceptedNoiseHandshake Term :=
  (acceptNoiseIkInitiation symbolic bob alicesInitiation.message threeMembers 0 0 120 (.scalar 8)).toOption.get
    (by decide)

theorem alicesInitiation_accepted : acceptNoiseIkInitiation symbolic bob alicesInitiation.message threeMembers 0 0 120
    (.scalar 8) = .ok bobsAcceptance :=
  except_eq_ok_get _

end Forging

section Secrecy

variable {topology : TopologyBundleBody Term} {held : Nat → Prop} {network : NoiseNetwork}

/-- The transport keys are out of reach if the secret of the static keys is: it salts all that follows. -/
theorem noiseKeys_hidden (initiatorNodeId responderNodeId : String)
    (responderStatic initiatorEphemeral encryptedStatic responderEphemeral es : Term) {ss : Term} (ee : Term)
    (hidden : ss.Hidden held) :
    (noiseKeys symbolic topology initiatorNodeId responderNodeId responderStatic initiatorEphemeral encryptedStatic
      responderEphemeral es ss ee).1.Hidden held ∧
    (noiseKeys symbolic topology initiatorNodeId responderNodeId responderStatic initiatorEphemeral encryptedStatic
      responderEphemeral es ss ee).2.Hidden held :=
  ⟨.inl (.inl (.inl (.inr hidden))), .inl (.inl (.inl (.inr hidden)))⟩

/-- The sessions that nodes have set up, on either side. -/
def NoiseNetwork.sessions (network : NoiseNetwork) : Set (NodeIdentity symbolic × AuthenticatedSessionPlan Term) :=
  {entry | (∃ record ∈ network.accepted, entry = (record.responder, record.accepted.session)) ∨
    ∃ record ∈ network.completed, entry = (record.initiator, record.session)}

variable {peer own : NodeIdentity symbolic}

theorem statics_hidden {secret : Term} (ownUnheld : ¬held (privateName own.x25519Private))
    (peerUnheld : ¬held (privateName peer.x25519Private))
    (exchanged : symbolic.exchange own.x25519Private peer.x25519Public = .ok secret) : secret.Hidden held := by
  rw [peer.x25519] at exchanged
  obtain rfl := Except.ok.inj exchanged
  exact exchange_publicPoint_hidden ownUnheld peerUnheld

theorem topologyIdentityByX25519_ok {static : Term} {record : IdentityPublicRecord Term}
    (found : topologyIdentityByX25519 symbolic topology static = .ok record) :
    record ∈ topology.nodes ∧ record.x25519Public = static := by
  have search : ∀ nodes : List (IdentityPublicRecord Term),
      topologyIdentityByX25519.search symbolic topology static nodes = .ok record →
      record ∈ nodes ∧ record.x25519Public = static := by
    intro nodes
    induction nodes with
    | nil => nofun
    | cons node rest ih =>
      intro ends
      rw [topologyIdentityByX25519.search] at ends
      split at ends
      · exact (ih ends).imp_left (List.mem_cons_of_mem _)
      · obtain ⟨facts, read, ends⟩ := except_bind_ok ends
        obtain ⟨rfl, -⟩ := publicBytes_ok read
        simp only at ends
        split at ends
        · rename_i same
          obtain rfl := Except.ok.inj ends
          exact ⟨List.mem_cons_self .., same⟩
        · exact (ih ends).imp_left (List.mem_cons_of_mem _)
  exact search topology.nodes found

theorem session_hidden {session : AuthenticatedSessionPlan Term} (sound : network.Sound topology held)
    (listed : peer.publicRecord ∈ topology.nodes) (ownUnheld : ¬held (privateName own.x25519Private))
    (peerUnheld : ¬held (privateName peer.x25519Private)) (present : (own, session) ∈ network.sessions)
    (attributed : session.peerNodeId = peer.nodeId) :
    session.security.sendKey.Hidden held ∧ session.security.receiveKey.Hidden held := by
  rcases present with ⟨record, member, same⟩ | ⟨record, member, same⟩
  · obtain ⟨rfl, rfl⟩ := Prod.mk.inj same
    obtain ⟨-, _, _, _, _, accepts⟩ := sound.accepted record member
    obtain ⟨es, static, initiator, ss, ee, acceptance, built⟩ := acceptNoiseIkInitiation_iff.mp accepts
    obtain ⟨found, key⟩ := topologyIdentityByX25519_ok acceptance.found
    rw [built] at attributed ⊢
    obtain rfl : initiator = peer.publicRecord := topology.record_unique found listed attributed
    have statics := acceptance.statics
    rw [← key] at statics
    exact (noiseKeys_hidden _ _ _ _ _ _ _ _ (statics_hidden ownUnheld peerUnheld statics)).symm
  · obtain ⟨rfl, rfl⟩ := Prod.mk.inj same
    obtain ⟨_, completes⟩ := sound.completed record member
    obtain ⟨responder, es, ss, ee, completion, built⟩ := completeNoiseIkInitiator_iff.mp completes
    obtain ⟨-, found, -⟩ := topologyIdentityByNodeId_ok completion.found
    rw [built] at attributed ⊢
    obtain rfl : responder = peer.publicRecord := topology.record_unique found listed attributed
    exact noiseKeys_hidden _ _ _ _ _ _ _ _ (statics_hidden ownUnheld peerUnheld completion.statics)

/-- No transport key of a session between two members is derivable while both static private keys are out of the
attacker's hands, on either side and whichever of the two opened the handshake. The ephemeral keys in the messages are
the attacker's to choose. -/
theorem noise_keys_secret {initiator responder : NodeIdentity symbolic}
    (reachable : NoiseReachable topology held network)
    (initiatorListed : initiator.publicRecord ∈ topology.nodes)
    (responderListed : responder.publicRecord ∈ topology.nodes)
    (initiatorUnheld : ¬held (privateName initiator.x25519Private))
    (responderUnheld : ¬held (privateName responder.x25519Private))
    {own : NodeIdentity symbolic} {session : AuthenticatedSessionPlan Term}
    (present : (own, session) ∈ network.sessions)
    (attributed : own = responder ∧ session.peerNodeId = initiator.nodeId ∨
      own = initiator ∧ session.peerNodeId = responder.nodeId) :
    ¬Derivable held network.seen session.security.sendKey ∧
      ¬Derivable held network.seen session.security.receiveKey := by
  have sound := reachable.sound
  have hidden : session.security.sendKey.Hidden held ∧ session.security.receiveKey.Hidden held := by
    rcases attributed with ⟨rfl, toInitiator⟩ | ⟨rfl, toResponder⟩
    · exact session_hidden sound initiatorListed responderUnheld initiatorUnheld present toInitiator
    · exact session_hidden sound responderListed initiatorUnheld responderUnheld present toResponder
  exact ⟨fun derivable => (derivable.isOpen sound.openly).not_hidden hidden.1,
    fun derivable => (derivable.isOpen sound.openly).not_hidden hidden.2⟩

/-- The network after the responder has accepted a forged initiation. -/
def bobDeceived : NoiseNetwork where
  seen := Set.range publicPoint ∪ forgedAcceptance.response.terms
  drawn := insert 8 ∅
  accepted := insert ⟨bob, forgedInitiation, forgedAcceptance⟩ ∅

theorem bobDeceived_reachable : NoiseReachable threeMembers malloryHolds bobDeceived :=
  .single (.accept (by decide) (by decide) (Set.notMem_empty 8) forgedInitiation_deliverable forgedInitiation_accepted)

/-- An insider who made the responder take it for another member does not learn the keys. -/
theorem forged_keys_secret :
    ¬Derivable malloryHolds bobDeceived.seen forgedAcceptance.session.security.sendKey ∧
      ¬Derivable malloryHolds bobDeceived.seen forgedAcceptance.session.security.receiveKey :=
  noise_keys_secret bobDeceived_reachable (show alice.publicRecord ∈ threeMembers.nodes by decide)
    (show bob.publicRecord ∈ threeMembers.nodes by decide) (by decide) (by decide) (.inl ⟨_, .inl rfl, rfl⟩)
    (.inl ⟨rfl, by decide⟩)

end Secrecy

section Initiations

variable {topology : TopologyBundleBody Term} {held : Nat → Prop} {network : NoiseNetwork}

/-- The key and the associated data of the first message fix whom it is for and the ephemeral key. The node ids are
hashed one after the other, so that their lengths have to agree. -/
theorem opening_injective {initiatorNodeId' responderNodeId' : String}
    {responderStatic' initiatorEphemeral initiatorEphemeral' es es' : Term}
    (lengths : initiatorNodeId.length = initiatorNodeId'.length)
    (same : (NoiseState.opening symbolic topology initiatorNodeId responderNodeId responderStatic
      initiatorEphemeral es).2.h =
        (NoiseState.opening symbolic topology initiatorNodeId' responderNodeId' responderStatic' initiatorEphemeral'
          es').2.h) :
        initiatorNodeId = initiatorNodeId' ∧ responderNodeId = responderNodeId' ∧
      initiatorEphemeral = initiatorEphemeral' := by
  simp only [NoiseState.opening, NoiseState.forPair, NoiseState.mixHash, NoiseState.mixKey, symbolic, Term.hash.injEq,
    Term.pair.injEq, Term.text.injEq, true_and] at same
  obtain ⟨⟨prologues, -⟩, ephemerals⟩ := same
  have texts := congrArg String.toList prologues
  simp only [String.toList_append, List.append_assoc, List.append_cancel_left_eq] at texts
  have counts : initiatorNodeId.toList.length = initiatorNodeId'.toList.length := by
    rw [String.length_toList, String.length_toList, lengths]
  obtain ⟨initiators, responders⟩ := List.append_inj texts counts
  exact ⟨String.toList_inj.mp initiators, String.toList_inj.mp responders, ephemerals⟩

/-- The fields of an initiation that nothing seals. -/
def NoiseInitiation.SameEnvelope (one two : NoiseInitiation Term) : Prop :=
  one.initiatorReceiverIndex = two.initiatorReceiverIndex ∧ one.createdAt = two.createdAt ∧
    one.expiresAt = two.expiresAt

/-- An initiation that a member accepts is one that the named initiator created, if the attacker does not hold the
private key of its ephemeral key and has left alone the fields that nothing seals. -/
theorem initiation_authentic {initiator responder : NodeIdentity symbolic} {initiation : NoiseInitiation Term}
    {receiverIndex now sessionLifetimeSeconds : Int} {responderEphemeral : Term}
    {accepted : AcceptedNoiseHandshake Term}
    (reachable : NoiseReachable topology held network) (listed : initiator.publicRecord ∈ topology.nodes)
    (responderUnheld : ¬held (privateName responder.x25519Private))
    (delivered : network.Deliverable held initiation.terms)
    (unreckoned : ¬Reckoned held initiation.initiatorEphemeralX25519)
    (unaltered : ∀ entry ∈ network.created, entry.2.message.initiatorEphemeralX25519 =
      initiation.initiatorEphemeralX25519 → entry.2.message.SameEnvelope initiation)
    (accepts : acceptNoiseIkInitiation symbolic responder initiation topology receiverIndex now sessionLifetimeSeconds
      responderEphemeral = .ok accepted)
    (named : initiation.initiatorNodeId = initiator.nodeId) :
    ∃ entry ∈ network.created, entry.1.publicRecord = initiator.publicRecord ∧ entry.2.message = initiation := by
  have sound := reachable.sound
  obtain ⟨es, static, record, ss, ee, acceptance, -⟩ := acceptNoiseIkInitiation_iff.mp accepts
  have boxed := symbolic_decrypt.mp acceptance.opened
  have keyHidden : (NoiseState.opening symbolic topology initiation.initiatorNodeId responder.nodeId
      responder.x25519Public initiation.initiatorEphemeralX25519 es).1.Hidden held := by
    obtain rfl := Except.ok.inj acceptance.secret
    exact .inr (exchange_hidden responderUnheld unreckoned)
  -- the attacker cannot have sealed the box itself
  have openBox := (delivered _ (.inr rfl)).isOpen sound.openly
  rw [boxed] at openBox
  obtain ⟨entry, member, sealedBy⟩ := openBox.2.resolve_left (not_not.mpr keyHidden)
  obtain ⟨nodeListed, peer, -, _, _, _, _, created⟩ := sound.created entry member
  obtain ⟨es', creation⟩ := createNoiseIkInitiation_ok created
  rw [creation.encryptedStatic] at sealedBy
  obtain ⟨-, -, data, -⟩ := Term.sealed.inj sealedBy
  have lengths : initiation.initiatorNodeId.length = entry.1.nodeId.length := by
    rw [named, initiator.encoded, entry.1.encoded]
  obtain ⟨initiators, responders, ephemerals⟩ := opening_injective lengths data
  have sameEphemeral : entry.2.message.initiatorEphemeralX25519 = initiation.initiatorEphemeralX25519 :=
    creation.initiatorEphemeral.trans ephemerals.symm
  obtain ⟨sameIndex, sameCreation, sameExpiry⟩ := unaltered entry member sameEphemeral
  refine ⟨entry, member, topology.record_unique nodeListed listed (initiators.symm.trans named), ?_⟩
  have sameBox : entry.2.message.encryptedInitiatorStaticX25519 = initiation.encryptedInitiatorStaticX25519 := by
    rw [boxed, creation.encryptedStatic]
    exact sealedBy.symm
  obtain ⟨protocol, version, generation, addressed, -, -, -⟩ := acceptance.header
  apply NoiseInitiation.document_injective
  simp only [NoiseInitiation.document, creation.schemaVersion, creation.protocol, creation.topologyGeneration,
    creation.initiatorNodeId, creation.responderNodeId, sameIndex, sameEphemeral, sameBox, sameCreation, sameExpiry,
    version, protocol, generation, addressed, initiators, responders]

/-- The responder accepts an initiation in the name of a member that has created none. -/
theorem forged_initiation_accepted :
    NoiseReachable threeMembers malloryHolds {} ∧ alice.publicRecord ∈ threeMembers.nodes ∧
    bob.publicRecord ∈ threeMembers.nodes ∧ ¬malloryHolds (privateName alice.x25519Private) ∧
    ¬malloryHolds (privateName bob.x25519Private) ∧
    NoiseNetwork.Deliverable malloryHolds {} forgedInitiation.terms ∧
    forgedInitiation.initiatorNodeId = alice.nodeId ∧
    acceptNoiseIkInitiation symbolic bob forgedInitiation threeMembers 0 0 120 (.scalar 8) = .ok forgedAcceptance ∧
    ¬∃ entry ∈ NoiseNetwork.created {}, entry.2.message = forgedInitiation :=
  ⟨.refl, by decide, by decide, by decide, by decide, forgedInitiation_deliverable, rfl, forgedInitiation_accepted,
    fun ⟨_, absent, _⟩ => absent⟩

theorem initiation_authentic_alice :
    ∃ entry ∈ aliceWaits.created, entry.1.publicRecord = alice.publicRecord ∧
      entry.2.message = alicesInitiation.message :=
  initiation_authentic aliceWaits_reachable (by decide) (by decide) alicesInitiation_deliverable
    (by
      rintro (same | ⟨scalars, known, same⟩)
      · exact absurd same (by decide)
      · have point : publicPoint 7 = .power .base scalars := same
        obtain rfl : {7} = scalars := (Term.power.inj point).2
        exact absurd (known 7 (Multiset.mem_singleton_self 7)) (by decide))
    (by
      rintro entry (rfl | absent)
      · exact fun _ => ⟨rfl, rfl, rfl⟩
      · exact absent.elim)
    alicesInitiation_accepted rfl

end Initiations

section Responses

variable {topology : TopologyBundleBody Term} {held : Nat → Prop} {network : NoiseNetwork}

/-- A response that completes a handshake was made for this initiation by the node it was addressed to, and the two
sessions agree, if some member made the response as it arrives. -/
theorem response_authentic {node : NodeIdentity symbolic} {pending : PendingNoiseInitiation Term}
    {response : NoiseResponse Term} {now : Int} {session : AuthenticatedSessionPlan Term}
    (reachable : NoiseReachable topology held network) (waits : (node, pending) ∈ network.created)
    (unaltered : ∃ record ∈ network.accepted, record.accepted.response = response)
    (completes : completeNoiseIkInitiator symbolic node pending response topology now = .ok session) :
    ∃ record ∈ network.accepted, record.accepted.response = response ∧ record.initiation = pending.message ∧
      record.responder.nodeId = pending.message.responderNodeId ∧ session.Paired record.accepted.session := by
  have sound := reachable.sound
  obtain ⟨record, member, rfl⟩ := unaltered
  obtain ⟨responderListed, _, _, _, _, accepts⟩ := sound.accepted record member
  obtain ⟨-, peer, peerListed, _, _, _, _, created⟩ := sound.created (node, pending) waits
  obtain ⟨_, creation⟩ := createNoiseIkInitiation_ok created
  -- the hash in the response fixes the initiation it answers
  have same : record.initiation = pending.message := by
    obtain ⟨_, _, _, _, _, -, built⟩ := acceptNoiseIkInitiation_iff.mp accepts
    obtain ⟨_, _, _, _, completion, -⟩ := completeNoiseIkInitiator_iff.mp completes
    have hashed := completion.header.initiationHash
    rw [built] at hashed
    exact NoiseInitiation.document_injective
      (symbolic_collisionFree.canonicalJson (symbolic_collisionFree.sha256 hashed))
  obtain ⟨_, _, _, _, _, acceptance, -⟩ := acceptNoiseIkInitiation_iff.mp accepts
  have addressed : record.responder.nodeId = pending.message.responderNodeId :=
    acceptance.header.responderNodeId.symm.trans (congrArg NoiseInitiation.responderNodeId same)
  obtain rfl : peer = record.responder.publicRecord :=
    topology.record_unique peerListed responderListed (creation.responderNodeId.symm.trans addressed.symm)
  rw [same] at accepts
  exact ⟨record, member, rfl, same, addressed,
    paired_of_unaltered symbolic_correct responderListed created accepts completes⟩

/-- A response to an initiation that the responder has never seen. -/
def forgedResponse : NoiseResponse Term where
  schemaVersion := 1
  protocol := "noise-ik"
  topologyGeneration := 1
  initiatorNodeId := alice.nodeId
  responderNodeId := bob.nodeId
  initiationHash := messageHash symbolic alicesInitiation.message
  responderEphemeralX25519 := publicPoint 9
  receiverIndex := 5
  responderReceiverIndex := 5
  createdAt := 0
  expiresAt := 120000000

def alicesSession : AuthenticatedSessionPlan Term :=
  (completeNoiseIkInitiator symbolic alice alicesInitiation forgedResponse threeMembers 0).toOption.get (by decide)

/-- The initiator completes a handshake that the responder has not taken part in. -/
theorem forged_response_accepted :
    NoiseReachable threeMembers malloryHolds aliceWaits ∧ (alice, alicesInitiation) ∈ aliceWaits.created ∧
    alicesInitiation.message.responderNodeId = bob.nodeId ∧ bob.publicRecord ∈ threeMembers.nodes ∧
    ¬malloryHolds (privateName alice.x25519Private) ∧ ¬malloryHolds (privateName bob.x25519Private) ∧
    aliceWaits.Deliverable malloryHolds forgedResponse.terms ∧
    completeNoiseIkInitiator symbolic alice alicesInitiation forgedResponse threeMembers 0 = .ok alicesSession ∧
    aliceWaits.accepted = ∅ := by
  refine ⟨aliceWaits_reachable, .inl rfl, by decide, by decide, by decide, by decide, ?_, except_eq_ok_get _, rfl⟩
  rintro term (rfl | rfl)
  · exact messageHash_derivable alicesInitiation_deliverable
  · exact .seen (.inl ⟨9, rfl⟩)

/-- The network after the second message of an honest handshake. -/
def bobAnswers : NoiseNetwork where
  seen := Set.range publicPoint ∪ alicesInitiation.message.terms ∪ bobsAcceptance.response.terms
  drawn := insert 8 (insert 7 ∅)
  created := insert (alice, alicesInitiation) ∅
  accepted := insert ⟨bob, alicesInitiation.message, bobsAcceptance⟩ ∅

theorem bobAnswers_reachable : NoiseReachable threeMembers malloryHolds bobAnswers :=
  aliceWaits_reachable.tail (.accept (by decide) (by decide) (by simp [aliceWaits]) alicesInitiation_deliverable
    alicesInitiation_accepted)

theorem response_authentic_bob : ∃ session : AuthenticatedSessionPlan Term, ∃ record ∈ bobAnswers.accepted,
    record.accepted.response = bobsAcceptance.response ∧ record.initiation = alicesInitiation.message ∧
    record.responder.nodeId = alicesInitiation.message.responderNodeId ∧ session.Paired record.accepted.session :=
  ⟨_, response_authentic bobAnswers_reachable (.inl rfl) ⟨_, .inl rfl, rfl⟩
    (except_eq_ok_get (show (completeNoiseIkInitiator symbolic alice alicesInitiation bobsAcceptance.response
      threeMembers 0).toOption.isSome by decide))⟩

end Responses

end Gatherlink.Security
