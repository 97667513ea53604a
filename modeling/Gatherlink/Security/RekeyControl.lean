import Gatherlink.Security.Noise

/-! When a session is to be replaced, and the control messages that carry a Noise handshake between the two
peers of the session. Messages are decoded: what `decode` checks of the fields is `validate`. -/

namespace Gatherlink.Security

section Rotation

inductive RotationAction where
  | keep
  | rekey
  | reject
  | expired
  deriving DecidableEq

structure SessionRotationDecision where
  action : RotationAction
  reason : String
  currentReceiverIndex : Int
  nextReceiverIndex : Option Int := none
  overlapUntil : Option Int := none
  deriving DecidableEq

def SessionRotationDecision.shouldRekey (decision : SessionRotationDecision) : Bool := decision.action = .rekey

def SessionRotationDecision.failClosed (decision : SessionRotationDecision) : Bool :=
  decision.action = .reject ∨ decision.action = .expired

def MIN_RECEIVER_INDEX : Int := 1
def MAX_RECEIVER_INDEX : Int := 2 ^ 32 - 1
def DEFAULT_REKEY_MARGIN_SECONDS : Int := 30
def DEFAULT_REKEY_OVERLAP_SECONDS : Int := 10

def nextReceiverIndex (value : Int) : Int := if value ≥ MAX_RECEIVER_INDEX then MIN_RECEIVER_INDEX else value + 1

variable {B : Type}

/-- `generated` is what `generate_receiver_index` returns, if it is called. -/
def planSessionRotation (current : AuthenticatedSessionPlan B) (now : Int) (packets bytesTransferred : Nat)
    (observedTopologyGeneration : Option Int) (observedPeerNodeId : Option String)
    (rekeyMarginSeconds overlapSeconds : Int) (generated : Int) : Except String SessionRotationDecision := do
  if observedTopologyGeneration.any (fun generation => generation ≠ (current.topologyGeneration : Int)) then
    return ⟨.reject, "peer topology generation disagrees with local session", current.receiverIndex, none, none⟩
  if observedPeerNodeId.any (· ≠ current.peerNodeId) then
    return ⟨.reject, "peer identity disagrees with local session", current.receiverIndex, none, none⟩
  if now ≥ current.expiresAt then
    return ⟨.expired, "session expired before replacement completed", current.receiverIndex, none, none⟩
  if rekeyMarginSeconds < 0 then throw "rekey margin must be zero or greater"
  if overlapSeconds < 0 then throw "overlap seconds must be zero or greater"
  let rekeyAt := current.expiresAt - rekeyMarginSeconds * 1000000
  let volumeRekey := packets ≥ current.rekeyAfterPackets ∨ bytesTransferred ≥ current.rekeyAfterBytes
  if now ≥ rekeyAt ∨ volumeRekey then
    let replacementIndex := if generated = current.receiverIndex then nextReceiverIndex generated else generated
    let reason := if now ≥ rekeyAt then "session is within rekey margin" else "session volume limit reached"
    return ⟨.rekey, reason, current.receiverIndex, some replacementIndex, some (afterSeconds now overlapSeconds)⟩
  return ⟨.keep, "session remains within time and volume limits", current.receiverIndex, none, none⟩

end Rotation

section Messages

inductive RekeyMessageType where
  | rekeyInitiation
  | rekeyResponse
  | rekeyReject
  deriving DecidableEq

/-- The Noise message inside a control message. -/
inductive RekeyNoise (B : Type) where
  | initiation (message : NoiseInitiation B)
  | response (message : NoiseResponse B)
  deriving DecidableEq

structure RekeyControlMessage (B : Type) where
  messageType : RekeyMessageType
  senderNodeId : String
  peerNodeId : String
  topologyGeneration : Int
  currentReceiverIndex : Int
  createdAt : Int
  expiresAt : Option Int := none
  noise : Option (RekeyNoise B) := none
  reason : Option String := none
  deriving DecidableEq

structure PendingRekeyInitiation (B : Type) where
  pendingNoise : PendingNoiseInitiation B
  message : RekeyControlMessage B
  deriving DecidableEq

structure AcceptedRekeyResponse (B : Type) where
  acceptedNoise : AcceptedNoiseHandshake B
  message : RekeyControlMessage B

def AcceptedRekeyResponse.session {B : Type} (accepted : AcceptedRekeyResponse B) : AuthenticatedSessionPlan B :=
  accepted.acceptedNoise.session

end Messages

variable {B : Type}

def requiredStr (value fieldName : String) : Except String Unit :=
  if value = "" then throw s!"rekey control field {fieldName} must be a non-empty string" else pure ()

def requiredInt (value : Int) (fieldName : String) : Except String Unit :=
  if value < 0 then throw s!"rekey control field {fieldName} must be a non-negative integer" else pure ()

def RekeyControlMessage.validate (message : RekeyControlMessage B) : Except String Unit := do
  requiredStr message.senderNodeId "sender_node_id"
  requiredStr message.peerNodeId "peer_node_id"
  requiredInt message.topologyGeneration "topology_generation"
  requiredInt message.currentReceiverIndex "current_receiver_index"

/-- Python's `or` on numbers: a zero gives way. -/
def orIndex (first second : Int) : Int := if first = 0 then second else first

def localReceiveIndex (session : AuthenticatedSessionPlan B) : Int :=
  orIndex session.security.localReceiverIndex session.receiverIndex

def remoteReceiveIndex (session : AuthenticatedSessionPlan B) : Int :=
  orIndex session.security.remoteReceiverIndex session.receiverIndex

def validateCurrentSession (localNodeId peerNodeId : String) (topology : TopologyBundleBody B)
    (currentSession : AuthenticatedSessionPlan B) : Except String Unit := do
  if currentSession.localNodeId ≠ localNodeId then
    throw "current session local identity disagrees with rekey identity"
  if currentSession.peerNodeId ≠ peerNodeId then throw "current session peer identity disagrees with rekey peer"
  if currentSession.topologyGeneration ≠ topology.generation then
    throw "current session topology generation disagrees with topology"

def validateRekeyMessageForCurrentSession (message : RekeyControlMessage B) (localNodeId : String)
    (currentSession : AuthenticatedSessionPlan B) : Except String Unit := do
  if message.peerNodeId ≠ localNodeId then throw "rekey message is not addressed to this node"
  if message.senderNodeId ≠ currentSession.peerNodeId then throw "rekey message sender disagrees with current peer"
  if message.topologyGeneration ≠ currentSession.topologyGeneration then
    throw "rekey message topology generation is stale"
  if message.currentReceiverIndex ≠ localReceiveIndex currentSession then
    throw "rekey message current receiver index is stale"

variable (crypto : Primitives B)

def createRekeyInitiation (localIdentity : NodeIdentity crypto) (peerIdentity : IdentityPublicRecord B)
    (topology : TopologyBundleBody B) (currentSession : AuthenticatedSessionPlan B) (now : Int) (receiverIndex : Int)
    (ephemeralPrivate : B) : Except String (PendingRekeyInitiation B) := do
  validateCurrentSession localIdentity.nodeId peerIdentity.nodeId topology currentSession
  let pending ← createNoiseIkInitiation crypto localIdentity peerIdentity topology receiverIndex now
    DEFAULT_NOISE_HANDSHAKE_LIFETIME_SECONDS ephemeralPrivate
  pure
    { pendingNoise := pending
      message :=
        { messageType := .rekeyInitiation
          senderNodeId := localIdentity.nodeId
          peerNodeId := peerIdentity.nodeId
          topologyGeneration := topology.generation
          currentReceiverIndex := remoteReceiveIndex currentSession
          createdAt := now
          expiresAt := some pending.expiresAt
          noise := some (.initiation pending.message) } }

def createRekeyReject (localIdentity : NodeIdentity crypto) (peerNodeId : String)
    (currentSession : AuthenticatedSessionPlan B) (reason : String) (now : Int) : RekeyControlMessage B where
  messageType := .rekeyReject
  senderNodeId := localIdentity.nodeId
  peerNodeId
  topologyGeneration := currentSession.topologyGeneration
  currentReceiverIndex := remoteReceiveIndex currentSession
  createdAt := now
  reason := some (String.ofList (reason.toList.take 255))

/-- The message that answers an initiation. -/
def rekeyResponse (responderIdentity : NodeIdentity crypto) (peerNodeId : String) (topology : TopologyBundleBody B)
    (currentSession : AuthenticatedSessionPlan B) (now : Int) (accepted : AcceptedNoiseHandshake B) :
    RekeyControlMessage B where
  messageType := .rekeyResponse
  senderNodeId := responderIdentity.nodeId
  peerNodeId
  topologyGeneration := topology.generation
  currentReceiverIndex := remoteReceiveIndex currentSession
  createdAt := now
  expiresAt := some accepted.session.expiresAt
  noise := some (.response accepted.response)

variable [DecidableEq B]

/-- A Noise message of the other kind lacks fields that the handshake reads. -/
def acceptRekeyInitiationPayload (responderIdentity : NodeIdentity crypto) (message : RekeyControlMessage B)
    (topology : TopologyBundleBody B) (currentSession : AuthenticatedSessionPlan B) (now : Int) (receiverIndex : Int)
    (ephemeralPrivate : B) : Except String (AcceptedRekeyResponse B) := do
  message.validate
  if message.messageType ≠ .rekeyInitiation then throw "expected rekey initiation"
  validateRekeyMessageForCurrentSession message responderIdentity.nodeId currentSession
  match message.noise with
  | none => throw "rekey initiation missing Noise payload"
  | some (.response _) => throw silentDrop
  | some (.initiation initiation) =>
      let accepted ← acceptNoiseIkInitiation crypto responderIdentity initiation topology receiverIndex now
        DEFAULT_SESSION_LIFETIME_SECONDS ephemeralPrivate
      pure
        { acceptedNoise := accepted
          message := rekeyResponse crypto responderIdentity message.senderNodeId topology currentSession now accepted }

def completeRekeyResponsePayload (localIdentity : NodeIdentity crypto) (pending : PendingRekeyInitiation B)
    (message : RekeyControlMessage B) (topology : TopologyBundleBody B) (currentSession : AuthenticatedSessionPlan B)
    (now : Int) : Except String (AuthenticatedSessionPlan B) := do
  message.validate
  if message.messageType ≠ .rekeyResponse then throw "expected rekey response"
  validateRekeyMessageForCurrentSession message localIdentity.nodeId currentSession
  match message.noise with
  | none => throw "rekey response missing Noise payload"
  | some (.initiation _) => throw silentDrop
  | some (.response response) =>
      completeNoiseIkInitiator crypto localIdentity pending.pendingNoise response topology now

end Gatherlink.Security
