import Gatherlink.Runtime.Rekey
import Gatherlink.Security.NoiseAgreement

/-! Two peers that rekey their session over a channel that loses, delays and reorders messages. The responder
switches keys when it accepts and the initiator when the answer arrives, so that the two agree as long as
every answer does arrive while it is still awaited. -/

namespace Gatherlink.Runtime
open Security Lib.Exec

variable {B : Type} {crypto : Primitives B}

section System

/-- Two nodes and the messages on their way to each of them. -/
structure RekeySystem (B : Type) where
  node : Bool → LiveRekeyNode B
  flight : Bool → Multiset (RekeyControlMessage B)

inductive RekeyAction (B : Type) where
  | start (party : Bool) (inputs : RekeyInputs B)
  | deliver (party : Bool) (message : RekeyControlMessage B) (inputs : RekeyInputs B)
  | lose (party : Bool) (message : RekeyControlMessage B)

namespace RekeySystem

/-- A node has moved and may have sent a message. -/
def move (state : RekeySystem B) (party : Bool) (outcome : LiveRekeyNode B × Option (RekeyControlMessage B)) :
    RekeySystem B where
  node := Function.update state.node party outcome.1
  flight := Function.update state.flight (!party) (state.flight (!party) + outcome.2.elim 0 ({·}))

variable [DecidableEq B] (identities : Bool → NodeIdentity crypto) (topology : TopologyBundleBody B)

def take (state : RekeySystem B) (party : Bool) (message : RekeyControlMessage B) : RekeySystem B :=
  { state with flight := Function.update state.flight party ((state.flight party).erase message) }

/-- Messages leave the channel in any order, and each arrives at most once. Whether the receiver can still open the
packet that carries a message does not matter here: if it cannot, the message is lost. -/
def step (state : RekeySystem B) : RekeyAction B → Option (RekeySystem B)
  | .start party inputs =>
      if (state.node party).stopped then none
      else some (state.move party (evaluateAuthRekey crypto (identities party) (identities !party).publicRecord topology
        (state.node party) inputs))
  | .deliver party message inputs =>
      if message ∈ state.flight party ∧ ¬(state.node party).stopped then
        some ((state.take party message).move party (handleAuthCryptoReservedEvent crypto (identities party) topology
          (state.node party) message inputs))
      else none
  | .lose party message => if message ∈ state.flight party then some (state.take party message) else none

def run (state : RekeySystem B) : List (RekeyAction B) → Option (RekeySystem B)
  | [] => some state
  | action :: rest => do
      let next ← state.step identities topology action
      next.run rest

omit [DecidableEq B] in
/-- No rekey message is in flight. -/
def Idle (state : RekeySystem B) : Prop := ∀ party, state.flight party = 0

end RekeySystem

/-- Two peers with a session of their own and no rekeying under way. -/
structure RekeySystem.Started (identities : Bool → NodeIdentity crypto) (topology : TopologyBundleBody B)
    (state : RekeySystem B) : Prop where
  running : ∀ party, (state.node party).stopped = false
  session : ∀ party, (state.node party).currentSession =
    authenticatedSessionFromRuntimeConfig (state.node party).runtimeConfig
  localNodeId : ∀ party, (state.node party).runtimeConfig.localNodeId = (identities party).nodeId
  peerNodeId : ∀ party, (state.node party).runtimeConfig.peerNodeId = (identities !party).nodeId
  generation : ∀ party, (state.node party).runtimeConfig.topologyGeneration = topology.generation
  indexes : ∀ party, 0 < (state.node party).runtimeConfig.localReceiverIndex
  crossed : (state.node true).runtimeConfig.Crossed (state.node false).runtimeConfig
  nothingAsked : ∀ party peer, (state.node party).pendingByPeer peer = none
  idle : state.Idle

end System

section Calls

variable {localIdentity : NodeIdentity crypto} {peerIdentity : IdentityPublicRecord B} {topology : TopologyBundleBody B}
  {node : LiveRekeyNode B} {session : AuthenticatedSessionPlan B} {inputs : RekeyInputs B}

theorem orIndex_of_pos {first : Int} (second : Int) (positive : 0 < first) : orIndex first second = first :=
  if_neg positive.ne'

/-- The session is still valid, and nothing observed speaks against it. -/
structure Healthy (session : AuthenticatedSessionPlan B) (inputs : RekeyInputs B) : Prop where
  generation : ∀ generation ∈ inputs.status.topologyGeneration, generation = session.topologyGeneration
  peer : ∀ nodeId ∈ inputs.status.peerNodeId, nodeId = session.peerNodeId
  unexpired : inputs.now < session.expiresAt

/-- What is planned for a session from the observed status. -/
abbrev planned (session : AuthenticatedSessionPlan B) (inputs : RekeyInputs B) :
    Except String SessionRotationDecision :=
  planSessionRotation session inputs.now inputs.status.packets inputs.status.bytesTransferred
    inputs.status.topologyGeneration inputs.status.peerNodeId DEFAULT_REKEY_MARGIN_SECONDS
    DEFAULT_REKEY_OVERLAP_SECONDS inputs.generated

theorem planned_healthy (healthy : Healthy session inputs) :
    ∃ decision, planned session inputs = .ok decision ∧ decision.failClosed = false := by
  have generations : inputs.status.topologyGeneration.any
      (fun generation => generation ≠ (session.topologyGeneration : Int)) = false := by
    cases observed : inputs.status.topologyGeneration with
    | none => rfl
    | some generation => simp [healthy.generation generation observed]
  have peers : inputs.status.peerNodeId.any (· ≠ session.peerNodeId) = false := by
    cases observed : inputs.status.peerNodeId with
    | none => rfl
    | some nodeId => simp [healthy.peer nodeId observed]
  have live : ¬inputs.now ≥ session.expiresAt := by
    have := healthy.unexpired
    omega
  simp only [planned, planSessionRotation, generations, peers, live, Bool.false_eq_true, if_false]
  rw [if_neg (by decide), if_neg (by decide)]
  split
  · exact ⟨_, rfl, rfl⟩
  · exact ⟨_, rfl, rfl⟩

variable {replacement : AuthenticatedSessionPlan B} {receiverIndex : Int}

/-- A valid session is replaced by a valid replacement. -/
theorem evaluate_applies {runtimeConfig : RuntimeSecurityConfig B} (healthy : Healthy session inputs)
    (peer : replacement.peerNodeId = session.peerNodeId)
    (generation : replacement.topologyGeneration = session.topologyGeneration)
    (index : replacement.receiverIndex ≠ session.receiverIndex) :
    ∃ decision, evaluateRekeyFromStatus session runtimeConfig inputs.status (some replacement) inputs.now
      inputs.generated = .ok ⟨decision, runtimeSecurityFromSession replacement, true, false⟩ := by
  obtain ⟨decision, made, opened⟩ := planned_healthy healthy
  have valid : replacementValidationError session replacement = none := by
    simp [replacementValidationError, peer, generation, index]
  refine ⟨decision, ?_⟩
  simp [evaluateRekeyFromStatus, made, opened, applyReplacementSession, valid, bind, Except.bind, pure, Except.pure]

theorem nextReceiverIndex_pos {value : Int} (positive : 0 < value) : 0 < nextReceiverIndex value := by
  unfold nextReceiverIndex MIN_RECEIVER_INDEX
  split
  · decide
  · omega

theorem planned_index_pos {decision : SessionRotationDecision} (made : planned session inputs = .ok decision)
    (next : decision.nextReceiverIndex = some receiverIndex) : 0 < receiverIndex := by
  have drawn : 0 < inputs.generated.val := inputs.generated.property.1
  unfold planned planSessionRotation at made
  rw [if_neg (show ¬DEFAULT_REKEY_MARGIN_SECONDS < 0 by decide),
    if_neg (show ¬DEFAULT_REKEY_OVERLAP_SECONDS < 0 by decide)] at made
  simp only [] at made
  split_ifs at made
  all_goals obtain rfl := Except.ok.inj made
  -- every decision but the one to rekey comes without an index
  any_goals contradiction
  all_goals
    obtain rfl := Option.some.inj next
    first
      | exact nextReceiverIndex_pos drawn
      | exact drawn

theorem evaluate_without_replacement {result : RekeyRuntimeResult B}
    (evaluated : evaluateRekeyFromStatus node.currentSession node.runtimeConfig inputs.status none inputs.now
      inputs.generated = .ok result) :
    planned node.currentSession inputs = .ok result.decision := by
  obtain ⟨decision, made, evaluated⟩ := except_bind_ok evaluated
  split_ifs at evaluated
  all_goals
    obtain rfl := Except.ok.inj evaluated
    exact made

/-- A request under the name of this node. -/
def Requested (crypto : Primitives B) (localIdentity : NodeIdentity crypto) (peerIdentity : IdentityPublicRecord B)
    (topology : TopologyBundleBody B) (pending : PendingRekeyInitiation B) : Prop :=
  ∃ session now receiverIndex ephemeralPrivate, 0 < receiverIndex ∧
    createRekeyInitiation crypto localIdentity peerIdentity topology session now receiverIndex ephemeralPrivate =
      .ok pending

variable {ephemeralPrivate : B} {pending : PendingRekeyInitiation B}

theorem createRekeyInitiation_ok {now : Int}
    (created : createRekeyInitiation crypto localIdentity peerIdentity topology session now receiverIndex
      ephemeralPrivate = .ok pending) :
    createNoiseIkInitiation crypto localIdentity peerIdentity topology receiverIndex now
        DEFAULT_NOISE_HANDSHAKE_LIFETIME_SECONDS ephemeralPrivate = .ok pending.pendingNoise ∧
      pending.message.noise = some (.initiation pending.pendingNoise.message) ∧
      pending.message.messageType = .rekeyInitiation ∧ pending.message.senderNodeId = localIdentity.nodeId := by
  obtain ⟨_, -, created⟩ := except_bind_ok created
  obtain ⟨handshake, shaken, created⟩ := except_bind_ok created
  obtain rfl := Except.ok.inj created
  exact ⟨shaken, rfl, rfl, rfl⟩

theorem maybeStart_start_cases (pendingByPeer : String → Option (PendingRekeyInitiation B)) :
    (∃ error, maybeStart.start crypto localIdentity peerIdentity topology node inputs pendingByPeer =
      (pendingByPeer, .error error)) ∨
    maybeStart.start crypto localIdentity peerIdentity topology node inputs pendingByPeer = (pendingByPeer, .ok none) ∨
    ∃ pending, Requested crypto localIdentity peerIdentity topology pending ∧
      maybeStart.start crypto localIdentity peerIdentity topology node inputs pendingByPeer =
        (Function.update pendingByPeer peerIdentity.nodeId (some pending), .ok (some pending.message)) := by
  unfold maybeStart.start
  split
  · rename_i error _
    exact .inl ⟨error, rfl⟩
  · rename_i evaluation evaluated
    split
    · rename_i receiverIndex _ next
      have positive : 0 < receiverIndex := planned_index_pos (evaluate_without_replacement evaluated) next
      split
      · rename_i error _
        exact .inl ⟨error, rfl⟩
      · rename_i pending created
        exact .inr (.inr ⟨pending, ⟨_, _, receiverIndex, _, positive, created⟩, rfl⟩)
    · exact .inr (.inl rfl)

/-- What a periodic evaluation may do: make a request, or forget the last one. -/
inductive Evaluated (crypto : Primitives B) (localIdentity : NodeIdentity crypto)
    (peerIdentity : IdentityPublicRecord B) (topology : TopologyBundleBody B) (node : LiveRekeyNode B) :
    LiveRekeyNode B × Option (RekeyControlMessage B) → Prop where
  | silent {pendingByPeer : String → Option (PendingRekeyInitiation B)}
      (known : pendingByPeer peerIdentity.nodeId = node.pendingByPeer peerIdentity.nodeId ∨
        pendingByPeer peerIdentity.nodeId = none) :
      Evaluated crypto localIdentity peerIdentity topology node ({ node with pendingByPeer }, none)
  | request {pendingByPeer : String → Option (PendingRekeyInitiation B)} {pending : PendingRekeyInitiation B}
      (requested : Requested crypto localIdentity peerIdentity topology pending)
      (kept : pendingByPeer peerIdentity.nodeId = some pending) :
      Evaluated crypto localIdentity peerIdentity topology node ({ node with pendingByPeer }, some pending.message)

theorem evaluateAuthRekey_waits {pending : PendingRekeyInitiation B}
    (asked : node.pendingByPeer peerIdentity.nodeId = some pending)
    (valid : pending.message.expiresAt.all (· > inputs.now) = true) :
    evaluateAuthRekey crypto localIdentity peerIdentity topology node inputs = (node, none) := by
  have same : maybeStart crypto localIdentity peerIdentity topology node inputs = (node.pendingByPeer, .ok none) := by
    rw [maybeStart, asked]
    exact if_pos valid
  rw [evaluateAuthRekey, same]

theorem evaluateAuthRekey_evaluated : Evaluated crypto localIdentity peerIdentity topology node
    (evaluateAuthRekey crypto localIdentity peerIdentity topology node inputs) := by
  have begin (pendingByPeer : String → Option (PendingRekeyInitiation B))
      (started : maybeStart crypto localIdentity peerIdentity topology node inputs =
        maybeStart.start crypto localIdentity peerIdentity topology node inputs pendingByPeer)
      (known : pendingByPeer peerIdentity.nodeId = node.pendingByPeer peerIdentity.nodeId ∨
        pendingByPeer peerIdentity.nodeId = none) :
      Evaluated crypto localIdentity peerIdentity topology node
        (evaluateAuthRekey crypto localIdentity peerIdentity topology node inputs) := by
    unfold evaluateAuthRekey
    rw [started]
    rcases maybeStart_start_cases pendingByPeer with ⟨error, same⟩ | same | ⟨pending, requested, same⟩
    · rw [same]
      exact .silent known
    · rw [same]
      exact .silent known
    · rw [same]
      exact .request requested (Function.update_self ..)
  cases asked : node.pendingByPeer peerIdentity.nodeId with
  | none =>
    apply begin node.pendingByPeer _ (.inl rfl)
    rw [maybeStart, asked]
  | some pending =>
    by_cases valid : pending.message.expiresAt.all (· > inputs.now) = true
    · rw [evaluateAuthRekey_waits asked valid]
      exact .silent (.inl rfl)
    · apply begin (Function.update node.pendingByPeer peerIdentity.nodeId none) _ (.inr (Function.update_self ..))
      rw [maybeStart, asked]
      exact if_neg valid

variable [DecidableEq B] {message : RekeyControlMessage B}

variable (localIdentity topology node inputs) in
theorem handle_reject (reject : message.messageType = .rekeyReject) :
    ∃ pendingByPeer : String → Option (PendingRekeyInitiation B),
      handleAuthCryptoReservedEvent crypto localIdentity topology node message inputs =
        ({ node with pendingByPeer }, none) ∧
      ∀ peer, pendingByPeer peer = node.pendingByPeer peer ∨ pendingByPeer peer = none := by
  unfold handleAuthCryptoReservedEvent handlePeerPayload
  cases message.validate with
  | error error => exact ⟨node.pendingByPeer, rfl, fun _ => .inl rfl⟩
  | ok _ =>
    rw [reject]
    refine ⟨Function.update node.pendingByPeer message.senderNodeId none, rfl, fun peer => ?_⟩
    by_cases same : peer = message.senderNodeId
    · rw [same]
      exact .inr (Function.update_self ..)
    · exact .inl (Function.update_of_ne same ..)

/-- The node that has replaced its session. -/
def LiveRekeyNode.switched (node : LiveRekeyNode B) (session : AuthenticatedSessionPlan B) : LiveRekeyNode B :=
  { node with
    runtimeConfig := runtimeSecurityFromSession session
    currentSession := authenticatedSessionFromRuntimeConfig (runtimeSecurityFromSession session) }

/-- What an initiation may lead to at a node whose session can be replaced. -/
inductive InitiationHandled (crypto : Primitives B) (localIdentity : NodeIdentity crypto)
    (topology : TopologyBundleBody B) (node : LiveRekeyNode B) (message : RekeyControlMessage B)
    (inputs : RekeyInputs B) : LiveRekeyNode B × Option (RekeyControlMessage B) → Prop where
  | ignored : InitiationHandled crypto localIdentity topology node message inputs (node, none)
  | rejected {reject : RekeyControlMessage B} (refusal : reject.messageType = .rekeyReject) :
      InitiationHandled crypto localIdentity topology node message inputs (node, some reject)
  | accepted {initiation : NoiseInitiation B} {accepted : AcceptedNoiseHandshake B}
      (noise : message.noise = some (.initiation initiation))
      (accepts : acceptNoiseIkInitiation crypto localIdentity initiation topology inputs.receiverIndex inputs.now
        DEFAULT_SESSION_LIFETIME_SECONDS inputs.ephemeralPrivate = .ok accepted) :
      InitiationHandled crypto localIdentity topology node message inputs
        (node.switched accepted.session, some (rekeyResponse crypto localIdentity message.senderNodeId topology
          node.currentSession inputs.now accepted))

theorem acceptRekeyInitiationPayload_ok {now : Int} {accepted : AcceptedRekeyResponse B}
    (accepts : acceptRekeyInitiationPayload crypto localIdentity message topology session now receiverIndex
      ephemeralPrivate = .ok accepted) :
    ∃ initiation, message.noise = some (.initiation initiation) ∧
      acceptNoiseIkInitiation crypto localIdentity initiation topology receiverIndex now
        DEFAULT_SESSION_LIFETIME_SECONDS ephemeralPrivate = .ok accepted.acceptedNoise ∧
      accepted.message = rekeyResponse crypto localIdentity message.senderNodeId topology session now
        accepted.acceptedNoise := by
  unfold acceptRekeyInitiationPayload at accepts
  simp only [] at accepts
  obtain ⟨_, -, accepts⟩ := except_bind_ok accepts
  split at accepts
  · contradiction
  obtain ⟨_, -, accepts⟩ := except_bind_ok accepts
  split at accepts
  · contradiction
  · contradiction
  · rename_i initiation noise
    obtain ⟨handshake, shaken, built⟩ := except_bind_ok accepts
    obtain rfl := Except.ok.inj built
    exact ⟨initiation, noise, shaken, rfl⟩

variable (localIdentity topology) in
theorem handle_initiation (initiates : message.messageType = .rekeyInitiation)
    (healthy : Healthy node.currentSession inputs)
    (sender : ∀ initiation, message.noise = some (.initiation initiation) →
      initiation.initiatorNodeId = node.currentSession.peerNodeId)
    (generation : node.currentSession.topologyGeneration = topology.generation)
    (index : inputs.receiverIndex.val ≠ node.currentSession.receiverIndex) :
    InitiationHandled crypto localIdentity topology node message inputs
      (handleAuthCryptoReservedEvent crypto localIdentity topology node message inputs) := by
  unfold handleAuthCryptoReservedEvent handlePeerPayload
  cases message.validate with
  | error error => exact .ignored
  | ok _ =>
    rw [initiates]
    simp only [handleInitiation, pure, Except.pure]
    cases runs : acceptRuntimeRekeyInitiation crypto localIdentity topology node message inputs with
    | error error => exact .rejected rfl
    | ok outcome =>
      obtain ⟨accepted, accepts, runs⟩ := except_bind_ok runs
      obtain ⟨initiation, noise, handshake, answer⟩ := acceptRekeyInitiationPayload_ok accepts
      obtain ⟨_, _, session⟩ := acceptNoiseIkInitiation_session handshake
      have peer : accepted.session.peerNodeId = node.currentSession.peerNodeId := by
        rw [AcceptedRekeyResponse.session, session]
        exact sender initiation noise
      have current : accepted.session.topologyGeneration = node.currentSession.topologyGeneration := by
        rw [AcceptedRekeyResponse.session, session, generation]
      have fresh : accepted.session.receiverIndex ≠ node.currentSession.receiverIndex := by
        rw [AcceptedRekeyResponse.session, session]
        exact index
      obtain ⟨decision, evaluated⟩ := evaluate_applies healthy peer current fresh
      rw [evaluated] at runs
      obtain rfl := Except.ok.inj runs
      rw [answer]
      exact .accepted noise handshake

theorem handle_response (responds : message.messageType = .rekeyResponse) (valid : message.validate = .ok ())
    (asked : node.pendingByPeer message.senderNodeId = some pending)
    (completes : completeRekeyResponsePayload crypto localIdentity pending message topology node.currentSession
      inputs.now = .ok replacement) (healthy : Healthy node.currentSession inputs)
    (peer : replacement.peerNodeId = node.currentSession.peerNodeId)
    (generation : replacement.topologyGeneration = node.currentSession.topologyGeneration)
    (index : replacement.receiverIndex ≠ node.currentSession.receiverIndex) :
    handleAuthCryptoReservedEvent crypto localIdentity topology node message inputs =
      ({ node.switched replacement with
        pendingByPeer := Function.update node.pendingByPeer message.senderNodeId none }, none) := by
  obtain ⟨decision, evaluated⟩ := evaluate_applies healthy peer generation index
  have done : completeRuntimeRekeyResponse crypto localIdentity topology node pending message inputs =
      .ok ⟨decision, runtimeSecurityFromSession replacement, true, false⟩ := by
    rw [completeRuntimeRekeyResponse, completes]
    exact evaluated
  simp only [handleAuthCryptoReservedEvent, handlePeerPayload, valid, responds, asked, done]
  rfl

end Calls

section Agreement

namespace RekeySystem

/-- The responses on their way to a node. -/
def answers (state : RekeySystem B) (party : Bool) : Multiset (RekeyControlMessage B) :=
  (state.flight party).filter (·.messageType = .rekeyResponse)

/-- A run is orderly if no response is lost; a node that a response is on its way to evaluates only while its request
holds back another one, and takes in no rejection; an initiation is taken in only while no response is under way and its
sender still waits for the answer, by a node whose session is valid and that draws an index neither side uses; and a
response is taken in while it and the session are valid. -/
def Orderly (identities : Bool → NodeIdentity crypto) (state : RekeySystem B) : RekeyAction B → Prop
  | .start party inputs => state.answers party = 0 ∨
      ∃ pending, (state.node party).pendingByPeer (identities !party).nodeId = some pending ∧
        pending.message.expiresAt.all (· > inputs.now) = true
  | .lose _ message => message.messageType ≠ .rekeyResponse
  | .deliver party message inputs =>
      match message.messageType with
      | .rekeyInitiation =>
          (∀ side, state.answers side = 0) ∧
          (∃ pending, (state.node !party).pendingByPeer (identities party).nodeId = some pending ∧
            pending.message = message) ∧
          Healthy (state.node party).currentSession inputs ∧
          ∀ side, inputs.receiverIndex.val ≠ (state.node side).currentSession.receiverIndex
      | .rekeyResponse =>
          Healthy (state.node party).currentSession inputs ∧ message.createdAt ≤ inputs.now ∧
          ∀ expiresAt ∈ message.expiresAt, inputs.now ≤ expiresAt
      | .rekeyReject => state.answers party = 0

section Answers

variable {state : RekeySystem B} {party : Bool} {message : RekeyControlMessage B}

variable {outbound : Option (RekeyControlMessage B)}

theorem answers_move_quiet (node : LiveRekeyNode B)
    (other : ∀ message ∈ outbound, message.messageType ≠ .rekeyResponse) :
    (state.move party (node, outbound)).answers = state.answers := by
  funext side
  by_cases same : side = !party
  · subst same
    cases outbound <;> simp_all [answers, move, Multiset.filter_add]
  · simp [answers, move, Function.update_of_ne same]

theorem answers_move (node : LiveRekeyNode B) (response : message.messageType = .rekeyResponse) :
    (state.move party (node, some message)).answers =
      Function.update state.answers (!party) (state.answers (!party) + {message}) := by
  funext side
  by_cases same : side = !party
  · subst same
    simp [answers, move, Multiset.filter_add, response]
  · simp [answers, move, Function.update_of_ne same]

variable [DecidableEq B]

theorem answers_take_of_ne (other : message.messageType ≠ .rekeyResponse) :
    (state.take party message).answers = state.answers := by
  funext side
  by_cases same : side = party
  · subst same
    simp [answers, take, ← Multiset.sub_singleton, Multiset.filter_sub, Multiset.filter_singleton, other]
  · simp [answers, take, Function.update_of_ne same]

theorem answers_take (response : message.messageType = .rekeyResponse) :
    (state.take party message).answers = Function.update state.answers party ((state.answers party).erase message) := by
  funext side
  by_cases same : side = party
  · subst same
    simp [answers, take, ← Multiset.sub_singleton, Multiset.filter_sub, Multiset.filter_singleton, response]
  · simp [answers, take, Function.update_of_ne same]

end Answers

end RekeySystem

/-- What holds of each node along orderly runs. -/
structure Tidy (own peer : NodeIdentity crypto) (topology : TopologyBundleBody B) (node : LiveRekeyNode B) : Prop where
  running : node.stopped = false
  session : node.currentSession = authenticatedSessionFromRuntimeConfig node.runtimeConfig
  localNodeId : node.runtimeConfig.localNodeId = own.nodeId
  peerNodeId : node.runtimeConfig.peerNodeId = peer.nodeId
  generation : node.runtimeConfig.topologyGeneration = topology.generation
  localPositive : 0 < node.runtimeConfig.localReceiverIndex
  remotePositive : 0 < node.runtimeConfig.remoteReceiverIndex
  asked : ∀ pending, node.pendingByPeer peer.nodeId = some pending →
    Requested crypto own peer.publicRecord topology pending

section Nodes

variable {own peer : NodeIdentity crypto} {topology : TopologyBundleBody B} {node : LiveRekeyNode B}

section Tidy

variable (tidy : Tidy own peer topology node)
include tidy

theorem Tidy.asks
    (asked : ∀ pending, pendingByPeer peer.nodeId = some pending →
      Requested crypto own peer.publicRecord topology pending) :
        Tidy own peer topology { node with pendingByPeer } :=
  ⟨tidy.running, tidy.session, tidy.localNodeId, tidy.peerNodeId, tidy.generation, tidy.localPositive,
    tidy.remotePositive, asked⟩

variable {session : AuthenticatedSessionPlan B}

theorem Tidy.switched (localNodeId : session.localNodeId = own.nodeId) (peerNodeId : session.peerNodeId = peer.nodeId)
    (generation : session.topologyGeneration = topology.generation)
    (localPositive : 0 < session.security.localReceiverIndex)
    (remotePositive : 0 < session.security.remoteReceiverIndex) :
    Tidy own peer topology (node.switched session) := by
  refine ⟨tidy.running, rfl, localNodeId, peerNodeId, generation, ?_, ?_, tidy.asked⟩
  · change 0 < orIndex _ _
    rwa [orIndex_of_pos _ localPositive]
  · change 0 < orIndex _ _
    rwa [orIndex_of_pos _ remotePositive]

theorem Tidy.session_peer :
    node.currentSession.peerNodeId = peer.nodeId := by
  rw [tidy.session]
  exact tidy.peerNodeId

theorem Tidy.session_generation : node.currentSession.topologyGeneration = topology.generation := by
  rw [tidy.session]
  exact tidy.generation

theorem Tidy.receive_indexes :
    localReceiveIndex node.currentSession = node.runtimeConfig.localReceiverIndex ∧
      remoteReceiveIndex node.currentSession = node.runtimeConfig.remoteReceiverIndex := by
  rw [tidy.session]
  exact ⟨orIndex_of_pos _ tidy.localPositive, orIndex_of_pos _ tidy.remotePositive⟩

end Tidy

variable {state : RekeySystem B} {party : Bool}

variable (outcome : LiveRekeyNode B × Option (RekeyControlMessage B))

theorem move_node_self :
    (state.move party outcome).node party = outcome.1 :=
  Function.update_self ..

theorem move_node_other :
    (state.move party outcome).node (!party) = state.node (!party) :=
  Function.update_of_ne (by simp) ..

theorem nodeId_ne_empty (identity : NodeIdentity crypto) : identity.nodeId ≠ "" := by
  intro empty
  have encoded := identity.encoded
  rw [empty] at encoded
  contradiction

theorem rekeyResponse_valid {now : Int} {accepted : AcceptedNoiseHandshake B} (index : 0 ≤ remoteReceiveIndex session) :
        (rekeyResponse crypto own peer.nodeId topology session now accepted).validate = .ok () := by
  have generation : ¬(topology.generation : Int) < 0 := by omega
  have natural : ¬remoteReceiveIndex session < 0 := by omega
  simp [RekeyControlMessage.validate, requiredStr, requiredInt, rekeyResponse, nodeId_ne_empty, generation, natural,
    bind, Except.bind, pure, Except.pure]

theorem runtimeSecurity_crossed {one two : AuthenticatedSessionPlan B} (crossed : one.security.Crossed two.security)
    (localPositive : 0 < one.security.localReceiverIndex) (remotePositive : 0 < one.security.remoteReceiverIndex) :
    (runtimeSecurityFromSession one).Crossed (runtimeSecurityFromSession two) := by
  have localPositive' : 0 < two.security.remoteReceiverIndex := crossed.localReceiverIndex ▸ localPositive
  have remotePositive' : 0 < two.security.localReceiverIndex := crossed.remoteReceiverIndex ▸ remotePositive
  refine ⟨crossed.sendKey, crossed.receiveKey, ?_, ?_⟩
  · simp only [runtimeSecurityFromSession, orIndex_of_pos _ localPositive',
      crossed.localReceiverIndex]
  · simp only [runtimeSecurityFromSession, orIndex_of_pos _ remotePositive',
      crossed.remoteReceiverIndex]

end Nodes

variable [DecidableEq B]

/-- One node has accepted the request of the other and switched, and its answer is on the way. -/
structure RekeySystem.Answered (identities : Bool → NodeIdentity crypto) (topology : TopologyBundleBody B)
    (state : RekeySystem B) (asker answerer : Bool) (pending : PendingRekeyInitiation B)
    (accepted : AcceptedNoiseHandshake B) (before : AuthenticatedSessionPlan B) (receiverIndex acceptedAt : Int)
    (ephemeralPrivate : B) : Prop where
  apart : answerer = !asker
  waiting : (state.node asker).pendingByPeer (identities answerer).nodeId = some pending
  accepts : acceptNoiseIkInitiation crypto (identities answerer) pending.pendingNoise.message topology receiverIndex
    acceptedAt DEFAULT_SESSION_LIFETIME_SECONDS ephemeralPrivate = .ok accepted
  switched : (state.node answerer).runtimeConfig = runtimeSecurityFromSession accepted.session
  positive : 0 < receiverIndex
  fresh : receiverIndex ≠ (state.node asker).currentSession.receiverIndex
  known : remoteReceiveIndex before = localReceiveIndex (state.node asker).currentSession
  onTheWay : state.answers asker = {rekeyResponse crypto (identities answerer) (identities asker).nodeId topology before
    acceptedAt accepted}
  nothingElse : state.answers answerer = 0

/-- The keys match, or one node has switched and its answer is on the way to the other. -/
structure RekeySystem.Sound (identities : Bool → NodeIdentity crypto) (topology : TopologyBundleBody B)
    (state : RekeySystem B) : Prop where
  tidy : ∀ party, Tidy (identities party) (identities !party) topology (state.node party)
  phase : ((∀ party, state.answers party = 0) ∧
      ∀ party, (state.node party).runtimeConfig.Crossed (state.node !party).runtimeConfig) ∨
    ∃ asker answerer pending accepted before receiverIndex acceptedAt ephemeralPrivate,
      state.Answered identities topology asker answerer pending accepted before receiverIndex
        acceptedAt ephemeralPrivate

variable {identities : Bool → NodeIdentity crypto} {topology : TopologyBundleBody B} {state next : RekeySystem B}
  {party : Bool} {inputs : RekeyInputs B} {message : RekeyControlMessage B}

/-- The state after a message was taken in. -/
def RekeySystem.received (identities : Bool → NodeIdentity crypto) (topology : TopologyBundleBody B)
    (state : RekeySystem B) (party : Bool) (message : RekeyControlMessage B) (inputs : RekeyInputs B) : RekeySystem B :=
  (state.take party message).move party (handleAuthCryptoReservedEvent crypto (identities party) topology
    (state.node party) message inputs)

theorem take_node : (state.take party message).node = state.node := rfl

section Sound
variable (sound : state.Sound identities topology)
include sound

/-- Steps that install nothing, send and take in no response, and leave alone the request of a node that a response is
on its way to. -/
theorem RekeySystem.Sound.quiet
    (tidy : ∀ party, Tidy (identities party) (identities !party) topology (next.node party))
    (answers : next.answers = state.answers)
    (installed : ∀ party, (next.node party).runtimeConfig = (state.node party).runtimeConfig)
    (waiting : ∀ party, state.answers party ≠ 0 →
      (next.node party).pendingByPeer = (state.node party).pendingByPeer) :
    next.Sound identities topology := by
  refine ⟨tidy, ?_⟩
  have sessions (party : Bool) : (next.node party).currentSession = (state.node party).currentSession := by
    rw [(tidy party).session, (sound.tidy party).session, installed]
  rcases sound.phase with ⟨none, crossed⟩ | ⟨asker, answerer, _, _, before, _, _, _, answered⟩
  · refine .inl ⟨by rwa [answers], fun party => ?_⟩
    rw [installed, installed]
    exact crossed party
  · have awaited : state.answers asker ≠ 0 := by
      rw [answered.onTheWay]
      exact Multiset.singleton_ne_zero _
    refine .inr ⟨asker, answerer, _, _, before, _, _, _, answered.apart, ?_, answered.accepts, ?_,
      answered.positive, ?_, ?_,
      ?_, ?_⟩
    · rw [waiting asker awaited]
      exact answered.waiting
    · rw [installed]
      exact answered.switched
    · rw [sessions]
      exact answered.fresh
    · rw [sessions]
      exact answered.known
    · rw [answers]
      exact answered.onTheWay
    · rw [answers]
      exact answered.nothingElse

/-- A node asks anew, or stops asking, while no response is on its way to it. -/
theorem RekeySystem.Sound.asks
    (unanswered : state.answers party = 0 ∨ pendingByPeer = (state.node party).pendingByPeer)
    (asked : ∀ pending, pendingByPeer (identities !party).nodeId = some pending →
      Requested crypto (identities party) (identities !party).publicRecord topology pending)
    (answers : (state.move party ({ state.node party with pendingByPeer }, outbound)).answers = state.answers) :
    (state.move party ({ state.node party with pendingByPeer }, outbound)).Sound identities topology := by
  apply sound.quiet _ answers
  · rw [Bool.forall_bool' party, move_node_self, move_node_other]
    exact ⟨rfl, rfl⟩
  · rw [Bool.forall_bool' party, move_node_self, move_node_other]
    exact ⟨unanswered.resolve_left, fun _ => rfl⟩
  · rw [Bool.forall_bool' party, move_node_self, move_node_other]
    exact ⟨(sound.tidy party).asks asked, sound.tidy _⟩

theorem RekeySystem.Sound.take (other : message.messageType ≠ .rekeyResponse) :
    (state.take party message).Sound identities topology :=
  sound.quiet sound.tidy (answers_take_of_ne other) (fun _ => rfl) (fun _ _ => rfl)

theorem RekeySystem.Sound.start (orderly : state.Orderly identities (.start party inputs)) :
    (state.move party (evaluateAuthRekey crypto (identities party) (identities !party).publicRecord topology
      (state.node party) inputs)).Sound identities topology := by
  rcases orderly with unanswered | ⟨pending, asked, valid⟩
  · have evaluated : Evaluated crypto (identities party) (identities !party).publicRecord topology (state.node party)
        (evaluateAuthRekey crypto (identities party) (identities !party).publicRecord topology
          (state.node party) inputs) :=
      evaluateAuthRekey_evaluated
    generalize evaluateAuthRekey crypto (identities party) (identities !party).publicRecord topology (state.node party)
      inputs = outcome at evaluated ⊢
    cases evaluated with
    | silent known =>
      apply sound.asks (.inl unanswered) _ (answers_move_quiet _ (by simp))
      intro pending kept
      rcases known with same | forgotten
      · exact (sound.tidy party).asked pending (same.symm.trans kept)
      · exact absurd (forgotten.symm.trans kept) nofun
    | request requested kept =>
      obtain ⟨_, _, _, _, -, created⟩ := id requested
      apply sound.asks (.inl unanswered) _ (answers_move_quiet _ _)
      · intro pending' kept'
        rwa [← Option.some.inj (kept.symm.trans kept')]
      · rintro _ ⟨⟩
        rw [(createRekeyInitiation_ok created).2.2.1]
        nofun
  · rw [evaluateAuthRekey_waits asked valid]
    exact sound.asks (.inr rfl) (sound.tidy party).asked (answers_move_quiet _ (by simp))

theorem RekeySystem.Sound.reject (refusal : message.messageType = .rekeyReject) (unanswered : state.answers party = 0)
    (inputs : RekeyInputs B) :
    (state.received identities topology party message inputs).Sound identities topology := by
  have other : message.messageType ≠ .rekeyResponse := by
    rw [refusal]
    nofun
  obtain ⟨pendingByPeer, same, known⟩ := handle_reject (identities party) topology (state.node party) inputs refusal
  rw [received, same]
  apply (sound.take other).asks (.inl _) _ (answers_move_quiet _ (by simp))
  · rwa [answers_take_of_ne other]
  · intro pending kept
    rcases known (identities !party).nodeId with old | forgotten
    · exact (sound.tidy party).asked pending (old.symm.trans kept)
    · exact absurd (forgotten.symm.trans kept) nofun

/-- The node that takes in an initiation switches, and its answer is on the way. -/
theorem RekeySystem.Sound.initiation {pending : PendingRekeyInitiation B}
    (initiates : message.messageType = .rekeyInitiation)
    (unanswered : ∀ side, state.answers side = 0)
    (waiting : (state.node !party).pendingByPeer (identities party).nodeId = some pending)
    (same : pending.message = message) (healthy : Healthy (state.node party).currentSession inputs)
    (fresh : ∀ side, inputs.receiverIndex.val ≠ (state.node side).currentSession.receiverIndex) :
    (state.received identities topology party message inputs).Sound identities topology := by
  have other : message.messageType ≠ .rekeyResponse := by
    rw [initiates]
    nofun
  have crossed : ∀ party, (state.node party).runtimeConfig.Crossed (state.node !party).runtimeConfig := by
    rcases sound.phase with ⟨-, crossed⟩ | ⟨asker, _, _, _, _, _, _, _, answered⟩
    · exact crossed
    · exact absurd (answered.onTheWay.symm.trans (unanswered asker)) (Multiset.singleton_ne_zero _)
  have tidy := sound.tidy party
  have tidyPeer := sound.tidy (!party)
  rw [Bool.not_not] at tidyPeer
  obtain ⟨_, _, receiverIndex, _, positive, created⟩ := tidyPeer.asked pending waiting
  obtain ⟨shaken, noise, -, sender⟩ := createRekeyInitiation_ok created
  obtain ⟨_, creation⟩ := createNoiseIkInitiation_ok shaken
  rw [same] at noise sender
  have named : ∀ initiation, message.noise = some (.initiation initiation) →
      initiation.initiatorNodeId = (state.node party).currentSession.peerNodeId := by
    intro initiation carried
    obtain rfl := RekeyNoise.initiation.inj (Option.some.inj (noise.symm.trans carried))
    rw [creation.initiatorNodeId, tidy.session_peer]
  have handled := handle_initiation (identities party) topology initiates healthy named tidy.session_generation
    (fresh party)
  rw [received]
  generalize handleAuthCryptoReservedEvent crypto (identities party) topology (state.node party) message inputs =
    outcome at handled ⊢
  have unanswered' : (state.take party message).answers = state.answers := answers_take_of_ne other
  cases handled with
  | ignored =>
    exact (sound.take other).asks (.inr rfl) tidy.asked (answers_move_quiet _ (by simp))
  | rejected refusal =>
    refine (sound.take other).asks (.inr rfl) tidy.asked (answers_move_quiet _ ?_)
    rintro _ ⟨⟩
    rw [refusal]
    nofun
  | accepted carried accepts =>
    obtain rfl := RekeyNoise.initiation.inj (Option.some.inj (noise.symm.trans carried))
    obtain ⟨_, _, session⟩ := acceptNoiseIkInitiation_session accepts
    have drawn : 0 < inputs.receiverIndex.val := inputs.receiverIndex.property.1
    constructor
    · rw [Bool.forall_bool' party, move_node_self, move_node_other]
      refine ⟨tidy.switched ?_ ?_ ?_ ?_ ?_, sound.tidy _⟩
      · rw [session]
      · rw [session]
        exact creation.initiatorNodeId
      · rw [session]
      · rw [session]
        exact drawn
      · rw [session]
        exact creation.initiatorReceiverIndex ▸ positive
    · refine .inr ⟨!party, party, pending, _, (state.node party).currentSession, _, _, _, (Bool.not_not party).symm, ?_,
        accepts, ?_, drawn, ?_, ?_, ?_, ?_⟩
      · rw [move_node_other]
        exact waiting
      · rw [move_node_self]
        rfl
      · rw [move_node_other]
        exact fresh _
      · rw [move_node_other]
        exact tidy.receive_indexes.2.trans ((crossed party).remoteReceiverIndex.trans tidyPeer.receive_indexes.1.symm)
      · rw [answers_move _ rfl, unanswered', Function.update_self, unanswered, zero_add, sender]
      · rw [answers_move _ rfl, unanswered', Function.update_of_ne (by simp), unanswered]

variable (correct : crypto.Correct) (mates : ∀ party, Topologymates (identities party) (identities !party) topology)
include correct mates

/-- The node that the answer is on its way to takes it in and switches too. -/
theorem RekeySystem.Sound.response
    (responds : message.messageType = .rekeyResponse) (present : message ∈ state.flight party)
    (healthy : Healthy (state.node party).currentSession inputs) (created : message.createdAt ≤ inputs.now)
    (unexpired : ∀ expiresAt ∈ message.expiresAt, inputs.now ≤ expiresAt) :
    (state.received identities topology party message inputs).Sound identities topology := by
  have member : message ∈ state.answers party := Multiset.mem_filter.mpr ⟨present, responds⟩
  rcases sound.phase with ⟨none, -⟩ | ⟨asker, answerer, pending, accepted, before, index, acceptedAt, _, answered⟩
  · rw [none] at member
    exact absurd member (Multiset.notMem_zero _)
  obtain rfl := answered.apart
  obtain rfl : party = asker := by
    by_contra apart
    rw [show party = !asker by cases party <;> cases asker <;> simp_all, answered.nothingElse] at member
    exact Multiset.notMem_zero _ member
  rw [answered.onTheWay, Multiset.mem_singleton] at member
  subst member
  have tidy := sound.tidy party
  have tidyPeer := sound.tidy (!party)
  rw [Bool.not_not] at tidyPeer
  obtain ⟨_, _, initiatorIndex, _, positive, requested⟩ := tidy.asked pending answered.waiting
  obtain ⟨shaken, -⟩ := createRekeyInitiation_ok requested
  obtain ⟨_, creation⟩ := createNoiseIkInitiation_ok shaken
  obtain ⟨_, _, acceptedSession⟩ := acceptNoiseIkInitiation_session answered.accepts
  have inTime : acceptedAt ≤ inputs.now ∧ inputs.now ≤ afterSeconds acceptedAt DEFAULT_SESSION_LIFETIME_SECONDS := by
    refine ⟨created, unexpired _ ?_⟩
    rw [rekeyResponse, acceptedSession]
    rfl
  obtain ⟨session, completes⟩ := complete_succeeds correct (mates party) shaken answered.accepts inTime
  have paired := paired_of_unaltered correct (mates party).responderListed shaken answered.accepts completes
  obtain ⟨localNodeId, receiverIndex, localIndex⟩ := completeNoiseIkInitiator_session completes
  have peerNodeId : session.peerNodeId = (identities !party).nodeId := by
    rw [paired.peerNodeId, acceptedSession]
  have generation : session.topologyGeneration = topology.generation := by
    rw [paired.topologyGeneration, acceptedSession]
  have localPositive : 0 < session.security.localReceiverIndex := by
    rw [localIndex, creation.initiatorReceiverIndex]
    exact positive
  have remoteIndex : session.security.remoteReceiverIndex = index := by
    rw [paired.security.remoteReceiverIndex, acceptedSession]
  have remotePositive : 0 < session.security.remoteReceiverIndex := remoteIndex.symm ▸ answered.positive
  have valid : (rekeyResponse crypto (identities !party) (identities party).nodeId topology before acceptedAt
      accepted).validate = .ok () := by
    apply rekeyResponse_valid
    rw [answered.known, tidy.receive_indexes.1]
    exact tidy.localPositive.le
  have payload : completeRekeyResponsePayload crypto (identities party) pending
    (rekeyResponse crypto (identities !party)
      (identities party).nodeId topology before acceptedAt accepted) topology (state.node party).currentSession
      inputs.now = .ok session := by
    rw [completeRekeyResponsePayload, valid]
    simp [rekeyResponse, validateRekeyMessageForCurrentSession, tidy.session_peer, tidy.session_generation,
      answered.known, completes, bind, Except.bind, pure, Except.pure]
  have index' : session.receiverIndex ≠ (state.node party).currentSession.receiverIndex := by
    rw [receiverIndex, remoteIndex]
    exact answered.fresh
  rw [received, handle_response rfl valid answered.waiting payload healthy (peerNodeId.trans tidy.session_peer.symm)
    (generation.trans tidy.session_generation.symm) index']
  constructor
  · rw [Bool.forall_bool' party, move_node_self, move_node_other]
    refine ⟨(tidy.switched localNodeId peerNodeId generation localPositive remotePositive).asks ?_, sound.tidy _⟩
    intro pending kept
    exact absurd ((Function.update_self ..).symm.trans kept) nofun
  · have crossed : (runtimeSecurityFromSession session).Crossed (runtimeSecurityFromSession accepted.session) :=
      runtimeSecurity_crossed paired.security localPositive remotePositive
    refine .inl ⟨?_, ?_⟩
    · rw [answers_move_quiet _ (by simp), answers_take rfl, Bool.forall_bool' party, Function.update_self,
        Function.update_of_ne (by simp), answered.onTheWay, answered.nothingElse]
      exact ⟨Multiset.erase_singleton _, rfl⟩
    · rw [Bool.forall_bool' party, Bool.not_not, move_node_self, move_node_other, take_node, answered.switched]
      exact ⟨crossed, crossed.symm⟩

theorem RekeySystem.Sound.step {action : RekeyAction B} (orderly : state.Orderly identities action)
    (moves : state.step identities topology action = some next) : next.Sound identities topology := by
  cases action with
  | start party inputs =>
    rw [RekeySystem.step, (sound.tidy party).running] at moves
    obtain rfl := Option.some.inj moves
    exact sound.start orderly
  | lose party message =>
    rw [RekeySystem.step] at moves
    split at moves
    · obtain rfl := Option.some.inj moves
      exact sound.take orderly
    · contradiction
  | deliver party message inputs =>
    rw [RekeySystem.step] at moves
    split at moves
    · rename_i present
      obtain rfl := Option.some.inj moves
      cases kind : message.messageType with
      | rekeyInitiation =>
        simp only [RekeySystem.Orderly, kind] at orderly
        obtain ⟨unanswered, ⟨pending, waiting, same⟩, healthy, fresh⟩ := orderly
        exact sound.initiation kind unanswered waiting same healthy fresh
      | rekeyResponse =>
        simp only [RekeySystem.Orderly, kind] at orderly
        obtain ⟨healthy, created, unexpired⟩ := orderly
        exact sound.response correct mates kind present.1 healthy created unexpired
      | rekeyReject =>
        simp only [RekeySystem.Orderly, kind] at orderly
        exact sound.reject kind orderly inputs
    · contradiction

end Sound

/-- The states that orderly runs lead to. -/
inductive OrderlyRun (identities : Bool → NodeIdentity crypto) (topology : TopologyBundleBody B)
    (start : RekeySystem B) : RekeySystem B → Prop where
  | refl : OrderlyRun identities topology start start
  | step {state next : RekeySystem B} {action : RekeyAction B} (before : OrderlyRun identities topology start state)
      (orderly : state.Orderly identities action) (moves : state.step identities topology action = some next) :
      OrderlyRun identities topology start next

theorem RekeySystem.Started.sound (started : state.Started identities topology) :
    state.Sound identities topology := by
  have crossed : ∀ party, (state.node party).runtimeConfig.Crossed (state.node !party).runtimeConfig :=
    Bool.forall_bool.mpr ⟨started.crossed.symm, started.crossed⟩
  refine ⟨fun party => ⟨started.running party, started.session party, started.localNodeId party,
    started.peerNodeId party, started.generation party, started.indexes party, ?_, ?_⟩, .inl ⟨fun party => ?_, crossed⟩⟩
  · rw [(crossed party).remoteReceiverIndex]
    exact started.indexes _
  · intro pending asked
    exact absurd ((started.nothingAsked party _).symm.trans asked) nofun
  · rw [RekeySystem.answers, started.idle party]
    rfl

/-- In every state of an orderly run in which no rekey message is in flight, the installed keys match. -/
theorem rekey_agreement (correct : crypto.Correct)
    (mates : ∀ party, Topologymates (identities party) (identities !party) topology) {start : RekeySystem B}
    (started : start.Started identities topology) (run : OrderlyRun identities topology start state)
    (idle : state.Idle) : (state.node true).runtimeConfig.Crossed (state.node false).runtimeConfig := by
  have sound : state.Sound identities topology := by
    clear idle
    induction run with
    | refl => exact started.sound
    | step _ orderly moves sound => exact sound.step correct mates orderly moves
  rcases sound.phase with ⟨-, crossed⟩ | ⟨asker, _, _, _, _, _, _, _, answered⟩
  · exact crossed true
  · have awaited := answered.onTheWay
    rw [RekeySystem.answers, idle asker] at awaited
    exact absurd awaited.symm (Multiset.singleton_ne_zero _)

end Agreement

section TwoPeers
open Lib.Symbolic

def rekeyPeers : Bool → NodeIdentity symbolic
  | true => alice
  | false => bob

def peerConfig (party : Bool) : RuntimeSecurityConfig Term where
  receiverIndex := cond party 2 1
  localReceiverIndex := cond party 1 2
  remoteReceiverIndex := cond party 2 1
  sendKey := .text (cond party "alice to bob" "bob to alice")
  receiveKey := .text (cond party "bob to alice" "alice to bob")
  localNodeId := (rekeyPeers party).nodeId
  peerNodeId := (rekeyPeers !party).nodeId
  topologyGeneration := 1
  sessionRole := cond party .initiator .responder
  sessionCreatedAt := 0
  sessionExpiresAt := 120000000
  rekeyAfterPackets := DEFAULT_REKEY_AFTER_PACKETS
  rekeyAfterBytes := DEFAULT_REKEY_AFTER_BYTES

/-- Two peers in the rekey margin of their first session. -/
def twoPeers : RekeySystem Term where
  node party :=
    { currentSession := authenticatedSessionFromRuntimeConfig (peerConfig party)
      runtimeConfig := peerConfig party
      pendingByPeer := fun _ => none }
  flight _ := 0

theorem twoPeers_started : twoPeers.Started rekeyPeers threeMembers where
  running _ := rfl
  session _ := rfl
  localNodeId _ := rfl
  peerNodeId _ := rfl
  generation _ := rfl
  indexes party := by cases party <;> decide
  crossed := ⟨rfl, rfl, rfl, rfl⟩
  nothingAsked _ _ := rfl
  idle _ := rfl

def askingInputs : RekeyInputs Term :=
  { now := 95000000, receiverIndex := ⟨3, by decide⟩, generated := ⟨3, by decide⟩, ephemeralPrivate := .scalar 7 }

def answeringInputs : RekeyInputs Term :=
  { now := 96000000, receiverIndex := ⟨4, by decide⟩, generated := ⟨5, by decide⟩, ephemeralPrivate := .scalar 8 }

def alicesRequest : PendingRekeyInitiation Term :=
  (createRekeyInitiation symbolic alice bob.publicRecord threeMembers (twoPeers.node true).currentSession 95000000 3
    (.scalar 7)).toOption.get (by decide)

def bobsAnswer : RekeyControlMessage Term :=
  (acceptRekeyInitiationPayload symbolic bob alicesRequest.message threeMembers (twoPeers.node false).currentSession
    96000000 4 (.scalar 8)).toOption.get (by decide) |>.message

def asking : RekeyAction Term := .start true askingInputs
def answering : RekeyAction Term := .deliver false alicesRequest.message answeringInputs
/-- The initiator evaluates again while the answer is under way. -/
def waiting : RekeyAction Term := .start true { askingInputs with now := 96500000 }
def finishing : RekeyAction Term := .deliver true bobsAnswer { answeringInputs with now := 97000000 }

/-- The initiator waits, and then the responder has answered. -/
def afterAsking : RekeySystem Term := (twoPeers.step rekeyPeers threeMembers asking).get (by decide)
def afterAnswering : RekeySystem Term := (afterAsking.step rekeyPeers threeMembers answering).get (by decide)
def afterLoss : RekeySystem Term :=
  (afterAnswering.step rekeyPeers threeMembers (.lose true bobsAnswer)).get (by decide)
def afterWaiting : RekeySystem Term := (afterAnswering.step rekeyPeers threeMembers waiting).get (by decide)
def afterFinishing : RekeySystem Term := (afterWaiting.step rekeyPeers threeMembers finishing).get (by decide)

/-- The only response is lost: no message is in flight, the responder has switched, and the initiator has not. -/
theorem lost_response_splits : twoPeers.Started rekeyPeers threeMembers ∧
    twoPeers.run rekeyPeers threeMembers [asking, answering, .lose true bobsAnswer] = some afterLoss ∧ afterLoss.Idle ∧
    ¬(afterLoss.node true).runtimeConfig.Crossed (afterLoss.node false).runtimeConfig := by
  refine ⟨twoPeers_started, ?_, ?_, fun crossed => ?_⟩
  · have asked : twoPeers.step rekeyPeers threeMembers asking = some afterAsking := (Option.some_get _).symm
    have answered : afterAsking.step rekeyPeers threeMembers answering = some afterAnswering := (Option.some_get _).symm
    have lost : afterAnswering.step rekeyPeers threeMembers (.lose true bobsAnswer) = some afterLoss :=
      (Option.some_get _).symm
    simp [RekeySystem.run, asked, answered, lost]
  · unfold RekeySystem.Idle
    decide
  · exact absurd crossed.sendKey (by decide)

theorem peers_orderly : OrderlyRun rekeyPeers threeMembers twoPeers afterFinishing := by
  refine .step (.step (.step (.step .refl ?_ (Option.some_get _).symm) ?_ (Option.some_get _).symm) ?_
    (Option.some_get _).symm) ?_ (Option.some_get _).symm
  · exact .inl rfl
  · refine ⟨by decide, ⟨alicesRequest, by decide, rfl⟩, ⟨nofun, nofun, by decide⟩, by decide⟩
  · exact .inr ⟨alicesRequest, by decide, by decide⟩
  · refine ⟨⟨nofun, nofun, by decide⟩, by decide, by decide⟩

theorem peers_agree : (afterFinishing.node true).runtimeConfig.Crossed (afterFinishing.node false).runtimeConfig :=
  rekey_agreement symbolic_correct (Bool.forall_bool.mpr ⟨alice_and_bob.symm, alice_and_bob⟩)
    twoPeers_started peers_orderly
    (by unfold RekeySystem.Idle; decide)

end TwoPeers

end Gatherlink.Runtime
