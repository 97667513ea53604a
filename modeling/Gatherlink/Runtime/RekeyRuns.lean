import Gatherlink.Runtime.RekeyAgreement

/-! One node over time: what the metadata of a session keeps, what the traffic counters trigger, and what becomes of
a session that expires. -/

namespace Gatherlink.Runtime
open Security Lib.Exec Lib.Symbolic

variable {B : Type} {crypto : Primitives B}

section RoundTrip

variable [DecidableEq B]

/-- The sessions the Noise handshake makes, at either end. -/
inductive NoiseSession (crypto : Primitives B) : AuthenticatedSessionPlan B → Prop where
  | responder {identity : NodeIdentity crypto} {initiation : NoiseInitiation B} {topology : TopologyBundleBody B}
      {receiverIndex now sessionLifetimeSeconds : Int} {ephemeralPrivate : B} {accepted : AcceptedNoiseHandshake B}
      (accepts : acceptNoiseIkInitiation crypto identity initiation topology receiverIndex now sessionLifetimeSeconds
        ephemeralPrivate = .ok accepted) : NoiseSession crypto accepted.session
  | initiator {identity : NodeIdentity crypto} {pending : PendingNoiseInitiation B} {response : NoiseResponse B}
      {topology : TopologyBundleBody B} {now : Int} {session : AuthenticatedSessionPlan B}
      (completes : completeNoiseIkInitiator crypto identity pending response topology now = .ok session) :
      NoiseSession crypto session

theorem orIndex_eq_left_iff {first second : Int} : orIndex first second = first ↔ (first = 0 → second = 0) := by
  unfold orIndex
  split
  · rename_i zero
    simp [zero]
  · rename_i nonzero
    simp [nonzero]

/-- The receiver index a configuration keeps is the peer's, which is the session's own only at the initiator's end. -/
theorem noise_session_round_trip_iff {session : AuthenticatedSessionPlan B} (made : NoiseSession crypto session) :
    authenticatedSessionFromRuntimeConfig (runtimeSecurityFromSession session) = session ↔
      (session.role = .initiator → session.security.localReceiverIndex = 0 →
        session.security.remoteReceiverIndex = 0) ∧
      (session.role = .responder → session.security.localReceiverIndex = session.security.remoteReceiverIndex) := by
  cases made with
  | responder accepts =>
    obtain ⟨sendKey, receiveKey, same⟩ := acceptNoiseIkInitiation_session accepts
    rw [same]
    simp only [authenticatedSessionFromRuntimeConfig, runtimeSecurityFromSession, DEFAULT_REKEY_AFTER_PACKETS,
      DEFAULT_REKEY_AFTER_BYTES, orIndex]
    grind
  | initiator completes =>
    obtain ⟨_, _, _, _, -, rfl⟩ := completeNoiseIkInitiator_iff.mp completes
    simp [authenticatedSessionFromRuntimeConfig, runtimeSecurityFromSession, DEFAULT_REKEY_AFTER_PACKETS,
      DEFAULT_REKEY_AFTER_BYTES, initiatorSession, orIndex_eq_left_iff]

/-- Bob accepts with index 4 what Alice asks for with index 3. -/
def bobsAcceptance : AcceptedNoiseHandshake Term :=
  (acceptNoiseIkInitiation symbolic bob alicesRequest.pendingNoise.message threeMembers 4 96000000 120
    (.scalar 8)).toOption.get (by decide)

def alicesSession : AuthenticatedSessionPlan Term :=
  (completeNoiseIkInitiator symbolic alice alicesRequest.pendingNoise bobsAcceptance.response threeMembers
    97000000).toOption.get (by decide)

theorem bob_accepts : acceptNoiseIkInitiation symbolic bob alicesRequest.pendingNoise.message threeMembers 4 96000000
    120 (.scalar 8) = .ok bobsAcceptance := by rfl

theorem alice_completes : completeNoiseIkInitiator symbolic alice alicesRequest.pendingNoise bobsAcceptance.response
    threeMembers 97000000 = .ok alicesSession := by rfl

/-- Bob's session comes back with Alice's index. -/
theorem responder_index_replaced : NoiseSession symbolic bobsAcceptance.session ∧
    bobsAcceptance.session.receiverIndex = 4 ∧
    (authenticatedSessionFromRuntimeConfig (runtimeSecurityFromSession bobsAcceptance.session)).receiverIndex = 3 :=
  ⟨.responder bob_accepts, by decide, by decide⟩

theorem initiator_session_survives : NoiseSession symbolic alicesSession ∧
    authenticatedSessionFromRuntimeConfig (runtimeSecurityFromSession alicesSession) = alicesSession :=
  ⟨.initiator alice_completes, (noise_session_round_trip_iff (.initiator alice_completes)).mpr (by decide)⟩

end RoundTrip

section Volume

structure ServiceCounters where
  packets : Nat
  bytes : Nat

/-- The counters of the runner's status. They count from the start of the process, and those of the services are
missing until the first snapshot. -/
structure RunnerStatus where
  serviceStats : Option (List ServiceCounters)
  txPackets : Nat
  rxPackets : Nat
  txBytes : Nat
  rxBytes : Nat

def trafficTotals (status : RunnerStatus) : Nat × Nat :=
  match status.serviceStats with
  | some services => ((services.map (·.packets)).sum, (services.map (·.bytes)).sum)
  | none => (status.txPackets + status.rxPackets, status.txBytes + status.rxBytes)

def RunnerStatus.rekeyStatus (status : RunnerStatus) : RekeyStatus :=
  { packets := (trafficTotals status).1, bytesTransferred := (trafficTotals status).2 }

/-- Counters only grow, and services stay listed. -/
structure RunnerStatus.Grown (earlier later : RunnerStatus) : Prop where
  services : ∀ listed ∈ earlier.serviceStats, ∃ now ∈ later.serviceStats,
    listed.Forall₂ (fun one two => one.packets ≤ two.packets ∧ one.bytes ≤ two.bytes) now
  txPackets : earlier.txPackets ≤ later.txPackets
  rxPackets : earlier.rxPackets ≤ later.rxPackets
  txBytes : earlier.txBytes ≤ later.txBytes
  rxBytes : earlier.rxBytes ≤ later.rxBytes

variable {status : RunnerStatus}

theorem RunnerStatus.exists_grown (used : trafficTotals status ≠ (0, 0)) (packets bytes : Nat) :
    ∃ later, status.Grown later ∧
      trafficTotals later = ((trafficTotals status).1 + packets, (trafficTotals status).2 + bytes) := by
  obtain ⟨services, txPackets, rxPackets, txBytes, rxBytes⟩ := status
  cases services with
  | none =>
    refine ⟨⟨none, txPackets + packets, rxPackets, txBytes + bytes, rxBytes⟩, ⟨nofun, ?_, le_rfl, ?_, le_rfl⟩, ?_⟩
    · exact Nat.le_add_right ..
    · exact Nat.le_add_right ..
    · simp only [trafficTotals, Prod.mk.injEq]
      omega
  | some services =>
    cases services with
    | nil => exact absurd rfl used
    | cons first rest =>
      let busier : ServiceCounters := ⟨first.packets + packets, first.bytes + bytes⟩
      refine ⟨⟨some (busier :: rest), txPackets, rxPackets, txBytes, rxBytes⟩, ⟨?_, le_rfl, le_rfl, le_rfl, le_rfl⟩, ?_⟩
      · intro listed same
        obtain rfl := Option.some.inj same
        refine ⟨_, rfl, .cons ⟨Nat.le_add_right .., Nat.le_add_right ..⟩ ?_⟩
        exact List.forall₂_same.mpr fun _ _ => ⟨le_rfl, le_rfl⟩
      · simp only [trafficTotals, busier, List.map_cons, List.sum_cons, Prod.mk.injEq]
        omega

/-- A periodic evaluation asks for a new session because of the traffic. -/
def VolumeRekey (node : LiveRekeyNode B) (status : RunnerStatus) (now generated : Int) : Prop :=
  ∃ evaluation, evaluateRekeyFromStatus node.currentSession node.runtimeConfig status.rekeyStatus none now generated =
      .ok evaluation ∧ evaluation.decision.shouldRekey ∧ evaluation.decision.reason = "session volume limit reached"

theorem volumeRekey_iff {node : LiveRekeyNode B} {now generated : Int} :
    VolumeRekey node status now generated ↔ now + 30000000 < node.currentSession.expiresAt ∧
      (node.currentSession.rekeyAfterPackets ≤ (trafficTotals status).1 ∨
        node.currentSession.rekeyAfterBytes ≤ (trafficTotals status).2) := by
  unfold VolumeRekey evaluateRekeyFromStatus planSessionRotation
  by_cases expired : node.currentSession.expiresAt ≤ now
  · simp [expired, RunnerStatus.rekeyStatus, SessionRotationDecision.shouldRekey, SessionRotationDecision.failClosed,
      bind, Except.bind, pure, Except.pure]
    omega
  · by_cases margin : node.currentSession.expiresAt ≤ now + 30000000
    all_goals
      by_cases volume : node.currentSession.rekeyAfterPackets ≤ (trafficTotals status).1 ∨
        node.currentSession.rekeyAfterBytes ≤ (trafficTotals status).2
      all_goals
        simp [expired, margin, volume, RunnerStatus.rekeyStatus, SessionRotationDecision.shouldRekey,
          SessionRotationDecision.failClosed, DEFAULT_REKEY_MARGIN_SECONDS, DEFAULT_REKEY_OVERLAP_SECONDS, bind,
          Except.bind, pure, Except.pure]
    omega

variable {node : LiveRekeyNode B} {result : RekeyRuntimeResult B}

theorem applied_session (applied : result.applied = true) (valid : result.failClosed = false) :
    (applyLiveRekeyRuntime node result).currentSession =
    authenticatedSessionFromRuntimeConfig result.runtimeConfig := by
  rw [applyLiveRekeyRuntime, if_neg (by simp [valid]), if_pos applied]

theorem authenticatedSession_limits_pos (security : RuntimeSecurityConfig B) :
    0 < (authenticatedSessionFromRuntimeConfig security).rekeyAfterPackets ∧
      0 < (authenticatedSessionFromRuntimeConfig security).rekeyAfterBytes := by
  simp only [authenticatedSessionFromRuntimeConfig, DEFAULT_REKEY_AFTER_PACKETS, DEFAULT_REKEY_AFTER_BYTES]
  grind

/-- The evaluations that follow an applied replacement wait for the limits of its session exactly if nothing had been
counted before, or if the session is in its rekey margin from the start. -/
theorem volume_rekey_restarts_iff (applied : result.applied = true) (valid : result.failClosed = false)
    (before : RunnerStatus) (appliedAt : Int) :
    (∀ status now generated, before.Grown status → appliedAt ≤ now →
      VolumeRekey (applyLiveRekeyRuntime node result) status now generated →
      (applyLiveRekeyRuntime node result).currentSession.rekeyAfterPackets ≤
          (trafficTotals status).1 - (trafficTotals before).1 ∨
        (applyLiveRekeyRuntime node result).currentSession.rekeyAfterBytes ≤
          (trafficTotals status).2 - (trafficTotals before).2) ↔
    trafficTotals before = (0, 0) ∨
      (applyLiveRekeyRuntime node result).currentSession.expiresAt ≤ appliedAt + 30000000 := by
  have limits := authenticatedSession_limits_pos result.runtimeConfig
  rw [← @applied_session _ node result applied valid] at limits
  generalize applyLiveRekeyRuntime node result = next at limits ⊢
  constructor
  · intro waits
    by_contra reached
    obtain ⟨used, early⟩ := not_or.mp reached
    have positive : 0 < (trafficTotals before).1 ∨ 0 < (trafficTotals before).2 := by
      by_contra none
      exact used (Prod.ext (by omega) (by omega))
    -- what one counter lacks at its limit is less than the limit
    have short (packets bytes : Nat)
        (reach : next.currentSession.rekeyAfterPackets ≤ (trafficTotals before).1 + packets ∨
          next.currentSession.rekeyAfterBytes ≤ (trafficTotals before).2 + bytes) :
        next.currentSession.rekeyAfterPackets ≤ packets ∨ next.currentSession.rekeyAfterBytes ≤ bytes := by
      obtain ⟨status, grown, totals⟩ := before.exists_grown used packets bytes
      have carried := waits status appliedAt 0 grown le_rfl
      rw [volumeRekey_iff, totals] at carried
      have := carried ⟨by omega, reach⟩
      omega
    obtain some | some := positive
    · have := short (next.currentSession.rekeyAfterPackets - (trafficTotals before).1) 0 (by omega)
      omega
    · have := short 0 (next.currentSession.rekeyAfterBytes - (trafficTotals before).2) (by omega)
      omega
  · intro fresh status now generated grown later volume
    obtain ⟨unexpired, reached⟩ := volumeRekey_iff.mp volume
    obtain none | late := fresh
    · rw [none]
      exact reached
    · omega

/-- Bob's node switches to the accepted session. -/
def bobsReplacement : RekeyRuntimeResult Term where
  decision := ⟨.keep, "session remains within time and volume limits", 2, none, none⟩
  runtimeConfig := runtimeSecurityFromSession bobsAcceptance.session
  applied := true

def carriedBefore (packets : Nat) : RunnerStatus := ⟨some [⟨packets, 0⟩], 0, 0, 0, 0⟩

/-- Its node has carried as many packets as a session may. The evaluation after the switch asks for another session,
though the new one has carried nothing. -/
theorem rekeys_again_at_once :
    (carriedBefore (2 ^ 48)).Grown (carriedBefore (2 ^ 48)) ∧
    VolumeRekey (applyLiveRekeyRuntime (twoPeers.node false) bobsReplacement) (carriedBefore (2 ^ 48)) 97000000 5 ∧
    (applyLiveRekeyRuntime (twoPeers.node false) bobsReplacement).currentSession.rekeyAfterPackets = 2 ^ 48 := by
  refine ⟨⟨fun listed same => ⟨_, same, ?_⟩, le_rfl, le_rfl, le_rfl, le_rfl⟩,
    volumeRekey_iff.mpr (by decide), by decide⟩
  exact List.forall₂_same.mpr fun _ _ => ⟨le_rfl, le_rfl⟩

theorem unused_node_waits : trafficTotals (carriedBefore 0) = (0, 0) ∧
    ∀ status now generated, (carriedBefore 0).Grown status → 96000000 ≤ now →
      VolumeRekey (applyLiveRekeyRuntime (twoPeers.node false) bobsReplacement) status now generated →
      2 ^ 48 ≤ (trafficTotals status).1 ∨ 2 ^ 50 ≤ (trafficTotals status).2 :=
  ⟨rfl, (volume_rekey_restarts_iff rfl rfl (carriedBefore 0) 96000000).mpr (.inl rfl)⟩

end Volume

section Expiry

/-- What the runner does for live rekeying, at one node. -/
inductive RunnerEvent (B : Type) where
  | evaluate (inputs : RekeyInputs B)
  | receive (message : RekeyControlMessage B) (inputs : RekeyInputs B)

/-- A running node forwards user traffic under the keys of its configuration. `lapsed` are the configurations whose
session had expired when it was evaluated. -/
structure RunnerState (B : Type) where
  node : LiveRekeyNode B
  lapsed : List (RuntimeSecurityConfig B) := []

def RunnerState.Closed (state : RunnerState B) : Prop :=
  state.node.stopped = true ∨ state.node.runtimeConfig ∉ state.lapsed

variable (localIdentity : NodeIdentity crypto) (peerIdentity : IdentityPublicRecord B) (topology : TopologyBundleBody B)

theorem evaluateAuthRekey_keeps (node : LiveRekeyNode B) (inputs : RekeyInputs B) :
    ∃ pendingByPeer, (evaluateAuthRekey crypto localIdentity peerIdentity topology node inputs).1 =
      { node with pendingByPeer } := by
  unfold evaluateAuthRekey
  split
  · exact ⟨_, rfl⟩
  · exact ⟨_, rfl⟩

/-- Whose session it is, and under which topology. -/
def standing (node : LiveRekeyNode B) : String × Nat :=
  (node.currentSession.peerNodeId, node.currentSession.topologyGeneration)

theorem standing_applied {node : LiveRekeyNode B} {result : RekeyRuntimeResult B} {inputs : RekeyInputs B}
    {replacement : AuthenticatedSessionPlan B}
    (evaluated : evaluateRekeyFromStatus node.currentSession node.runtimeConfig inputs.status
      (some replacement) inputs.now
      inputs.generated = .ok result) (pendingByPeer : String → Option (PendingRekeyInitiation B)) :
    standing (applyLiveRekeyRuntime { node with pendingByPeer } result) = standing node := by
  obtain ⟨decision, -, rest⟩ := except_bind_ok evaluated
  simp only [Option.isNone_some, Bool.false_eq_true, and_false, if_false, applyReplacementSession,
    replacementValidationError] at rest
  split_ifs at rest with closed peer generation index
  all_goals obtain rfl := Except.ok.inj rest
  any_goals rfl
  exact Prod.ext (not_not.mp peer) (not_not.mp generation)

variable [DecidableEq B]

def RunnerState.step (state : RunnerState B) (event : RunnerEvent B) : RunnerState B :=
  if state.node.stopped then state
  else
    match event with
    | .evaluate inputs =>
        { node := (evaluateAuthRekey crypto localIdentity peerIdentity topology state.node inputs).1
          lapsed :=
            if state.node.currentSession.expiresAt ≤ inputs.now then state.node.runtimeConfig :: state.lapsed
            else state.lapsed }
    | .receive message inputs =>
        { state with node := (handleAuthCryptoReservedEvent crypto localIdentity topology state.node message inputs).1 }

def RunnerState.run (state : RunnerState B) (events : List (RunnerEvent B)) : RunnerState B :=
  events.foldl (step localIdentity peerIdentity topology) state

/-- An evaluation of a running node's session comes before the session expires. -/
def RunnerEvent.InTime (state : RunnerState B) : RunnerEvent B → Prop
  | .evaluate inputs => state.node.stopped = true ∨ inputs.now < state.node.currentSession.expiresAt
  | .receive _ _ => True

theorem RunnerState.step_lapsed {state : RunnerState B} {event : RunnerEvent B} (inTime : event.InTime state) :
    (state.step localIdentity peerIdentity topology event).lapsed = state.lapsed := by
  unfold step
  split
  · rfl
  · rename_i running
    cases event with
    | evaluate inputs => exact if_neg (not_le.mpr (inTime.resolve_left running))
    | receive message inputs => rfl

theorem RunnerState.step_not_closed {state : RunnerState B} {event : RunnerEvent B} (late : ¬event.InTime state) :
    ¬(state.step localIdentity peerIdentity topology event).Closed := by
  cases event with
  | receive message inputs => exact absurd trivial late
  | evaluate inputs =>
    obtain ⟨running, expired⟩ := not_or.mp late
    obtain ⟨pendingByPeer, same⟩ := evaluateAuthRekey_keeps localIdentity peerIdentity topology state.node inputs
    simp only [step, running, Closed, same, if_pos (not_lt.mp expired)]
    simp

/-- A node forwards nothing under a session that was evaluated after its expiry exactly if no session is: the
evaluation itself neither stops the node nor replaces the session. -/
theorem runner_fails_closed_iff (node : LiveRekeyNode B) (events : List (RunnerEvent B)) :
    (∀ before, before <+: events →
      (RunnerState.run localIdentity peerIdentity topology { node } before).Closed) ↔
    ∀ before event, before ++ [event] <+: events →
      event.InTime (RunnerState.run localIdentity peerIdentity topology { node } before) := by
  constructor
  · intro closed before event within
    by_contra late
    apply RunnerState.step_not_closed localIdentity peerIdentity topology late
    have after := closed _ within
    rwa [RunnerState.run, List.foldl_append] at after
  · intro inTime before within
    have none : (RunnerState.run localIdentity peerIdentity topology { node } before).lapsed = [] := by
      induction before using List.reverseRecOn with
      | nil => rfl
      | append_singleton before event ih =>
        rw [RunnerState.run, List.foldl_append]
        exact (RunnerState.step_lapsed _ _ _ (inTime before event within)).trans
          (ih ((List.prefix_append ..).trans within))
    rw [RunnerState.Closed, none]
    exact .inr List.not_mem_nil

/-- The node's only session expires before anyone answers, and it goes on. -/
theorem expired_session_goes_on :
    ¬(RunnerState.run alice bob.publicRecord threeMembers { node := twoPeers.node true }
      [.evaluate { askingInputs with now := 120000000 }]).Closed := by
  rw [RunnerState.run, List.foldl_cons, List.foldl_nil]
  apply RunnerState.step_not_closed
  exact not_or.mpr ⟨by decide, by decide⟩

theorem standing_handled (node : LiveRekeyNode B) (message : RekeyControlMessage B) (inputs : RekeyInputs B) :
    standing (handleAuthCryptoReservedEvent crypto localIdentity topology node message inputs).1 = standing node := by
  unfold handleAuthCryptoReservedEvent handlePeerPayload
  cases message.validate with
  | error error => rfl
  | ok =>
    cases message.messageType with
    | rekeyReject => rfl
    | rekeyInitiation =>
      simp only [handleInitiation]
      cases accepts : acceptRuntimeRekeyInitiation crypto localIdentity topology node message inputs with
      | error error => rfl
      | ok answer =>
        obtain ⟨accepted, -, rest⟩ := except_bind_ok accepts
        obtain ⟨result, evaluated, rest⟩ := except_bind_ok rest
        obtain rfl := Except.ok.inj rest
        exact standing_applied evaluated _
    | rekeyResponse =>
      cases node.pendingByPeer message.senderNodeId with
      | none => rfl
      | some pending =>
        cases completes : completeRuntimeRekeyResponse crypto localIdentity topology node pending message inputs with
        | error error => simp only [completes]; rfl
        | ok result =>
          obtain ⟨replacement, -, evaluated⟩ := except_bind_ok completes
          simp only [completes]
          exact standing_applied evaluated _

/-- Whatever a node is sent, it never moves to a session with another peer or of another topology. -/
theorem runner_keeps_peer (state : RunnerState B) (events : List (RunnerEvent B)) :
    standing (state.run localIdentity peerIdentity topology events).node = standing state.node := by
  induction events generalizing state with
  | nil => rfl
  | cons event rest ih =>
    refine (ih _).trans ?_
    unfold RunnerState.step
    split
    · rfl
    cases event with
    | evaluate inputs =>
      obtain ⟨pendingByPeer, same⟩ := evaluateAuthRekey_keeps localIdentity peerIdentity topology state.node inputs
      exact (congrArg standing same :)
    | receive message inputs => exact standing_handled localIdentity topology state.node message inputs

end Expiry

end Gatherlink.Runtime
