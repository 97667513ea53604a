import Gatherlink.Security.RekeyControl

/-! The live rekey coordinator and the part of the runner that applies its results. What the random sources
return are arguments. Diagnostics are left out: nothing reads them. -/

namespace Gatherlink.Runtime
open Security

variable {B : Type}

section Sessions

/-- The runtime configuration as far as rekeying replaces it: authenticated, with all metadata of the session. -/
structure RuntimeSecurityConfig (B : Type) where
  receiverIndex : Int
  localReceiverIndex : Int
  remoteReceiverIndex : Int
  sendKey : B
  receiveKey : B
  localNodeId : String
  peerNodeId : String
  topologyGeneration : Nat
  sessionRole : StaticSessionRole
  sessionCreatedAt : Int
  sessionExpiresAt : Int
  rekeyAfterPackets : Nat
  rekeyAfterBytes : Nat
  deriving DecidableEq

/-- The installed keys of two peers fit each other. -/
structure RuntimeSecurityConfig.Crossed (one two : RuntimeSecurityConfig B) : Prop where
  sendKey : one.sendKey = two.receiveKey
  receiveKey : one.receiveKey = two.sendKey
  localReceiverIndex : one.localReceiverIndex = two.remoteReceiverIndex
  remoteReceiverIndex : one.remoteReceiverIndex = two.localReceiverIndex

theorem RuntimeSecurityConfig.Crossed.symm {one two : RuntimeSecurityConfig B} (crossed : one.Crossed two) :
    two.Crossed one :=
  ⟨crossed.receiveKey.symm, crossed.sendKey.symm, crossed.remoteReceiverIndex.symm, crossed.localReceiverIndex.symm⟩

def runtimeSecurityFromSession (session : AuthenticatedSessionPlan B) : RuntimeSecurityConfig B where
  receiverIndex := orIndex session.security.remoteReceiverIndex session.receiverIndex
  localReceiverIndex := orIndex session.security.localReceiverIndex session.receiverIndex
  remoteReceiverIndex := orIndex session.security.remoteReceiverIndex session.receiverIndex
  sendKey := session.security.sendKey
  receiveKey := session.security.receiveKey
  localNodeId := session.localNodeId
  peerNodeId := session.peerNodeId
  topologyGeneration := session.topologyGeneration
  sessionRole := session.role
  sessionCreatedAt := session.createdAt
  sessionExpiresAt := session.expiresAt
  rekeyAfterPackets := session.rekeyAfterPackets
  rekeyAfterBytes := session.rekeyAfterBytes

def authenticatedSessionFromRuntimeConfig (security : RuntimeSecurityConfig B) : AuthenticatedSessionPlan B where
  localNodeId := security.localNodeId
  peerNodeId := security.peerNodeId
  topologyGeneration := security.topologyGeneration
  receiverIndex := security.receiverIndex
  role := security.sessionRole
  createdAt := security.sessionCreatedAt
  expiresAt := security.sessionExpiresAt
  rekeyAfterPackets :=
    if security.rekeyAfterPackets = 0 then DEFAULT_REKEY_AFTER_PACKETS else security.rekeyAfterPackets
  rekeyAfterBytes := if security.rekeyAfterBytes = 0 then DEFAULT_REKEY_AFTER_BYTES else security.rekeyAfterBytes
  security :=
    { receiverIndex := security.receiverIndex
      localReceiverIndex := security.localReceiverIndex
      remoteReceiverIndex := security.remoteReceiverIndex
      sendKey := security.sendKey
      receiveKey := security.receiveKey }

end Sessions

section Evaluation

/-- What rekeying reads of the service status: the traffic totals and what was observed of the peer. -/
structure RekeyStatus where
  packets : Nat := 0
  bytesTransferred : Nat := 0
  topologyGeneration : Option Int := none
  peerNodeId : Option String := none

structure RekeyRuntimeResult (B : Type) where
  decision : SessionRotationDecision
  runtimeConfig : RuntimeSecurityConfig B
  applied : Bool := false
  failClosed : Bool := false

def replacementValidationError (currentSession replacementSession : AuthenticatedSessionPlan B) : Option String :=
  if replacementSession.peerNodeId ≠ currentSession.peerNodeId then
    some "replacement peer identity disagrees with current session"
  else if replacementSession.topologyGeneration ≠ currentSession.topologyGeneration then
    some "replacement topology generation disagrees with current session"
  else if replacementSession.receiverIndex = currentSession.receiverIndex then
    some "replacement receiver index must differ from current session"
  else none

def applyReplacementSession (currentSession : AuthenticatedSessionPlan B) (runtimeConfig : RuntimeSecurityConfig B)
    (replacementSession : AuthenticatedSessionPlan B) (decision : SessionRotationDecision) : RekeyRuntimeResult B :=
  match replacementValidationError currentSession replacementSession with
  | some validationError =>
      { decision := ⟨.reject, validationError, currentSession.receiverIndex, none, none⟩, runtimeConfig
        failClosed := true }
  | none => { decision, runtimeConfig := runtimeSecurityFromSession replacementSession, applied := true }

def evaluateRekeyFromStatus (currentSession : AuthenticatedSessionPlan B) (runtimeConfig : RuntimeSecurityConfig B)
    (status : RekeyStatus) (replacementSession : Option (AuthenticatedSessionPlan B)) (now : Int) (generated : Int) :
    Except String (RekeyRuntimeResult B) := do
  let decision ← planSessionRotation currentSession now status.packets status.bytesTransferred
    status.topologyGeneration status.peerNodeId DEFAULT_REKEY_MARGIN_SECONDS DEFAULT_REKEY_OVERLAP_SECONDS generated
  if decision.action = .keep ∧ replacementSession.isNone then return { decision, runtimeConfig }
  if decision.failClosed then return { decision, runtimeConfig, failClosed := true }
  match replacementSession with
  | none => return { decision, runtimeConfig }
  | some replacement => return applyReplacementSession currentSession runtimeConfig replacement decision

end Evaluation

section Coordinator

/-- The coordinator's and the runner's state at one node. A runner that an exception or a failed replacement has
ended takes no further step. -/
structure LiveRekeyNode (B : Type) where
  currentSession : AuthenticatedSessionPlan B
  runtimeConfig : RuntimeSecurityConfig B
  pendingByPeer : String → Option (PendingRekeyInitiation B)
  stopped : Bool := false

structure LiveRekeyHandleResult (B : Type) where
  outbound : Option (RekeyControlMessage B) := none
  runtimeResult : Option (RekeyRuntimeResult B) := none
  accepted : Bool := true
  reason : Option String := none

/-- What `generate_receiver_index` returns. -/
abbrev GeneratedIndex := { index : Int // MIN_RECEIVER_INDEX ≤ index ∧ index ≤ MAX_RECEIVER_INDEX }

/-- What a call reads besides its arguments and its own state: the clock, the status and the random sources. -/
structure RekeyInputs (B : Type) where
  now : Int
  status : RekeyStatus := {}
  receiverIndex : GeneratedIndex
  generated : GeneratedIndex
  ephemeralPrivate : B

variable (crypto : Primitives B) (localIdentity : NodeIdentity crypto) (peerIdentity : IdentityPublicRecord B)
  (topology : TopologyBundleBody B)

/-- An expired request is forgotten even if no new one is made. -/
def maybeStart (node : LiveRekeyNode B) (inputs : RekeyInputs B) :
    (String → Option (PendingRekeyInitiation B)) × Except String (Option (RekeyControlMessage B)) :=
  match node.pendingByPeer peerIdentity.nodeId with
  | some pending =>
      if pending.message.expiresAt.all (· > inputs.now) then (node.pendingByPeer, pure none)
      else start (Function.update node.pendingByPeer peerIdentity.nodeId none)
  | none => start node.pendingByPeer
where
  start (pendingByPeer : String → Option (PendingRekeyInitiation B)) :
      (String → Option (PendingRekeyInitiation B)) × Except String (Option (RekeyControlMessage B)) :=
    match evaluateRekeyFromStatus node.currentSession node.runtimeConfig inputs.status none inputs.now
        inputs.generated with
    | .error error => (pendingByPeer, throw error)
    | .ok evaluation =>
        match evaluation.decision.shouldRekey, evaluation.decision.nextReceiverIndex with
        | true, some receiverIndex =>
            match createRekeyInitiation crypto localIdentity peerIdentity topology node.currentSession inputs.now
                receiverIndex inputs.ephemeralPrivate with
            | .error error => (pendingByPeer, throw error)
            | .ok pending =>
                (Function.update pendingByPeer peerIdentity.nodeId (some pending), pure (some pending.message))
        | _, _ => (pendingByPeer, pure none)

variable [DecidableEq B]

def acceptRuntimeRekeyInitiation (node : LiveRekeyNode B) (message : RekeyControlMessage B) (inputs : RekeyInputs B) :
    Except String (RekeyControlMessage B × RekeyRuntimeResult B) := do
  let accepted ← acceptRekeyInitiationPayload crypto localIdentity message topology node.currentSession inputs.now
    inputs.receiverIndex inputs.ephemeralPrivate
  let result ← evaluateRekeyFromStatus node.currentSession node.runtimeConfig inputs.status (some accepted.session)
    inputs.now inputs.generated
  pure (accepted.message, result)

/-- Every failure of an initiation is answered with a rejection. -/
def handleInitiation (node : LiveRekeyNode B) (message : RekeyControlMessage B) (inputs : RekeyInputs B) :
    LiveRekeyHandleResult B :=
  match acceptRuntimeRekeyInitiation crypto localIdentity topology node message inputs with
  | .error error =>
      { outbound := some (createRekeyReject crypto localIdentity message.senderNodeId
        node.currentSession error inputs.now)
        accepted := false
        reason := some error }
  | .ok (response, result) =>
      { outbound := some response, runtimeResult := some result, accepted := result.applied && !result.failClosed }

def completeRuntimeRekeyResponse (node : LiveRekeyNode B) (pending : PendingRekeyInitiation B)
    (message : RekeyControlMessage B) (inputs : RekeyInputs B) : Except String (RekeyRuntimeResult B) := do
  let replacement ← completeRekeyResponsePayload crypto localIdentity pending message topology node.currentSession
    inputs.now
  evaluateRekeyFromStatus node.currentSession node.runtimeConfig inputs.status (some replacement) inputs.now
    inputs.generated

def handlePeerPayload (node : LiveRekeyNode B) (message : RekeyControlMessage B) (inputs : RekeyInputs B) :
    Except String ((String → Option (PendingRekeyInitiation B)) × LiveRekeyHandleResult B) :=
  match message.validate with
  | .error error => pure (node.pendingByPeer, { accepted := false, reason := some error })
  | .ok () =>
      match message.messageType with
      | .rekeyInitiation =>
        pure (node.pendingByPeer, handleInitiation crypto localIdentity topology node message inputs)
      | .rekeyResponse =>
          match node.pendingByPeer message.senderNodeId with
          | none =>
              pure (node.pendingByPeer,
                { accepted := false, reason := some "no pending rekey initiation for response" })
          | some pending => do
              -- an error here is not caught by the coordinator
              let result ← completeRuntimeRekeyResponse crypto localIdentity topology node pending message inputs
              let pendingByPeer :=
                if result.applied ∨ result.failClosed then
                  Function.update node.pendingByPeer message.senderNodeId none
                else node.pendingByPeer
              pure (pendingByPeer,
                { runtimeResult := some result, accepted := result.applied && !result.failClosed })
      | .rekeyReject =>
          pure (Function.update node.pendingByPeer message.senderNodeId none,
            { accepted := false, reason := some ((message.reason.filter (· ≠ "")).getD "peer rejected rekey") })

end Coordinator

section Runner

def applyLiveRekeyRuntime (node : LiveRekeyNode B) (result : RekeyRuntimeResult B) : LiveRekeyNode B :=
  if result.failClosed then { node with stopped := true }
  else if result.applied then
    { node with
      runtimeConfig := result.runtimeConfig
      currentSession := authenticatedSessionFromRuntimeConfig result.runtimeConfig }
  else node

variable (crypto : Primitives B) (localIdentity : NodeIdentity crypto) (peerIdentity : IdentityPublicRecord B)
  (topology : TopologyBundleBody B)

/-- The periodic evaluation of the runner, which catches all errors. -/
def evaluateAuthRekey (node : LiveRekeyNode B) (inputs : RekeyInputs B) :
    LiveRekeyNode B × Option (RekeyControlMessage B) :=
  match maybeStart crypto localIdentity peerIdentity topology node inputs with
  | (pendingByPeer, .error _) => ({ node with pendingByPeer }, none)
  | (pendingByPeer, .ok outbound) => ({ node with pendingByPeer }, outbound)

/-- The answer leaves under the keys that are installed when the message arrives: it is sent before the result is
applied. -/
def handleAuthCryptoReservedEvent [DecidableEq B] (node : LiveRekeyNode B) (message : RekeyControlMessage B)
    (inputs : RekeyInputs B) : LiveRekeyNode B × Option (RekeyControlMessage B) :=
  match handlePeerPayload crypto localIdentity topology node message inputs with
  | .error _ => ({ node with stopped := true }, none)
  | .ok (pendingByPeer, handled) =>
      let node := { node with pendingByPeer }
      match handled.runtimeResult with
      | none => (node, handled.outbound)
      | some result => (applyLiveRekeyRuntime node result, handled.outbound)

end Runner

end Gatherlink.Runtime
