import Gatherlink.Dataplane.Relay
import Gatherlink.Engine.SendNonces

/-! Nonces of relay-hop wrappers. The counter of a path's wrapper lives in its socket, so it starts
over whenever the sockets are rebuilt. -/

namespace Gatherlink.Engine
open Protocol Crypto Dataplane Lib.BigEndian Lib.Lookup Lib.Exec Lib.Ledger

def wrapGuard : Guard RelayHopSendState Key := ⟨(·.sendKey), fun relay counter => counter < relay.nextCounter⟩

/-- The key and counter of each packet that a wrapper has sealed. -/
def wrappedNonces (log : List (Key × Option Bytes)) : List (Key × Nat) :=
  (log.filter (·.2.isSome)).map fun entry => (entry.1, clearCounter (entry.2.getD []))

/-- The wrapper of each bound path. -/
def CoreDataplane.relaySends (engine : CoreDataplane) (pathId : PathId) : Option RelayHopSendState :=
  (engine.pathTransports.sockets pathId).bind (·.relaySend)

structure WrapSafe (aead : Aead) (relays : PathId → Option RelayHopSendState) (log : List (Key × Option Bytes)) :
    Prop where
  nonces : Safe wrapGuard relays (wrappedNonces log)
  counted : ∀ {pathId relay}, relays pathId = some relay → relay.nextCounter ≤ log.length
  genuine : ∀ {key packet}, (key, some packet) ∈ log → ∃ receiverIndex, Sealed aead key receiverIndex packet

variable {aead : Aead} {relays : PathId → Option RelayHopSendState} {log entries : List (Key × Option Bytes)}
  {pathId : PathId}

theorem wrappedNonces_append : wrappedNonces (log ++ entries) = wrappedNonces log ++ wrappedNonces entries := by
  simp [wrappedNonces]

section Wraps

theorem WrapSafe.spend {relay : RelayHopSendState} (safe : WrapSafe aead relays log)
    (here : relays pathId = some relay) (room : log.length + 1 < 2 ^ 64) (frame : Bytes) :
    WrapSafe aead (Function.update relays pathId (some relay.advance))
      (log ++ [(relay.sendKey, (relay.wrap aead frame).1.toOption)]) := by
  have counted := safe.counted here
  have advanced : relay.advance.nextCounter = relay.nextCounter + 1 := Nat.mod_eq_of_lt (by omega)
  have spent : Safe wrapGuard (Function.update relays pathId (some relay.advance))
      (wrappedNonces log ++ [relay.nextCounter].map fun counter => (relay.sendKey, counter)) := by
    refine safe.nonces.advance relay.advance here rfl (fun {counter} below => ?_) (List.nodup_singleton _) ?_ ?_
    · exact Nat.lt_of_lt_of_le below (by omega)
    · simp [wrapGuard]
    · simp [wrapGuard, advanced]
  refine ⟨?_, ?_, ?_⟩
  · rw [wrappedNonces_append]
    cases sealing : (relay.wrap aead frame).1 with
    | error error =>
      change Safe _ _ (wrappedNonces log ++ [])
      rw [List.append_nil]
      exact spent.subperm (List.sublist_append_left ..).subperm
    | ok packet =>
      change Safe _ _ (wrappedNonces log ++ [(relay.sendKey, clearCounter packet)])
      rw [clearCounter_sealed relay.counterFits sealing]
      exact spent
  · intro other state found
    rw [List.length_append, List.length_singleton]
    by_cases same : other = pathId
    · subst same
      rw [Function.update_self, Option.some.injEq] at found
      rw [← found, advanced]
      omega
    · rw [Function.update_of_ne same] at found
      exact (safe.counted found).trans (Nat.le_succ _)
  · intro key packet member
    rcases List.mem_append.mp member with earlier | now
    · exact safe.genuine earlier
    · rw [List.mem_singleton, Prod.mk.injEq] at now
      obtain ⟨rfl, sealing⟩ := now
      cases wrapped : (relay.wrap aead frame).1 with
      | error error => simp [wrapped, Except.toOption] at sealing
      | ok output =>
        rw [wrapped] at sealing
        exact ⟨relay.relayReceiverIndex, relay.nextCounter, frame, relay.counterFits,
          by rw [Option.some.inj sealing]; exact wrapped⟩

theorem WrapSafe.wraps {start stop : Option RelayHopSendState} (safe : WrapSafe aead relays log)
    (here : relays pathId = start) (wraps : Wraps aead start entries stop)
    (room : (log ++ entries).length < 2 ^ 64) :
    WrapSafe aead (Function.update relays pathId stop) (log ++ entries) := by
  induction wraps with
  | idle => rwa [List.append_nil, ← here, Function.update_eq_self]
  | spent frame wraps ih =>
    rw [← List.append_assoc] at room ⊢
    rw [List.length_append, List.length_singleton] at room
    have before := ih (by omega)
    have after := before.spend (Function.update_self ..) room frame
    rwa [Function.update_idem] at after

end Wraps

section Steps

/-- While fewer than 2^64 packets were given to wrappers, none of their counters has wrapped around. -/
def RelaySafe (aead : Aead) (machine : Machine) : Prop :=
  machine.net.history.wrapped.length < 2 ^ 64 →
    WrapSafe aead machine.engine.relaySends machine.net.history.wrapped

theorem RelaySafe.same {machine after : Machine} (safe : RelaySafe aead machine)
    (sockets : after.engine.pathTransports.sockets = machine.engine.pathTransports.sockets)
    (ledger : after.net.history.wrapped = machine.net.history.wrapped) : RelaySafe aead after := by
  have relays : after.engine.relaySends = machine.engine.relaySends := by
    funext pathId
    rw [CoreDataplane.relaySends, CoreDataplane.relaySends, sockets]
  rw [RelaySafe, relays, ledger]
  exact safe

theorem RelaySafe.quiet {machine after : Machine} (safe : RelaySafe aead machine)
    (same : Same Machine.tracked machine after) : RelaySafe aead after :=
  safe.same (tracked_sockets same) (tracked_wrapped same)

variable (os : Os) (aead)

/-- Everything the engine does, short of a reapply, wraps under fresh nonces. -/
theorem relaySafe_admits : Admits os aead fun before after => RelaySafe aead before → RelaySafe aead after where
  quiet same safe := safe.quiet (tracked_of_steady same)
  opens := Moves.modifyGet fun machine safe => safe.same rfl rfl
  pushes := Moves.attempt fun machine safe => safe.same rfl rfl
  seals := Moves.attempt fun machine safe => safe.same rfl rfl
  batches := batches_of (fun _ => Moves.attempt fun machine safe => safe.same rfl rfl)
    (fun machine entries safe => safe.same rfl rfl) _
  reschedules := reschedules_of fun same safe => safe.quiet same
  wraps {machine pathId socket after} found step safe := by
    obtain ⟨entries, wraps, -, ledgers⟩ := step
    have ledger : after.2.history.wrapped = machine.net.history.wrapped ++ entries := congrArg (·.2.2.1) ledgers
    have relays : (machine.withSocket pathId after).engine.relaySends =
        Function.update machine.engine.relaySends pathId after.1.relaySend := by
      funext other
      by_cases same : other = pathId
      · subst same
        simp [CoreDataplane.relaySends, Machine.withSocket]
      · simp [CoreDataplane.relaySends, Machine.withSocket, Function.update_of_ne same, insert_of_ne _ _ same]
    intro room
    rw [relays]
    change after.2.history.wrapped.length < 2 ^ 64 at room
    change WrapSafe aead _ after.2.history.wrapped
    rw [ledger] at room ⊢
    have before := safe (by rw [List.length_append] at room; omega)
    refine before.wraps ?_ wraps room
    rw [CoreDataplane.relaySends, found]
    rfl

end Steps

section Runs

variable {os : Os} {now : Nat} {config : CoreRuntimeConfig} {operations : List Operation} {machine : Machine}

/-- The relay send keys of the paths that get a socket. -/
def relayKeys (config : CoreRuntimeConfig) : List (Option Key) :=
  (config.paths.filter fun path => path.transportBind.isSome && path.relaySend.isSome).map fun path =>
    path.relaySend.map (·.sendKey)

/-- No two paths share a relay send key. -/
def DistinctRelayKeys (config : CoreRuntimeConfig) : Prop := (relayKeys config).Nodup

/-- No relay send key of a config has sealed a packet before. -/
def UnusedRelayKeys (machine : Machine) (config : CoreRuntimeConfig) : Prop :=
  ∀ nonce ∈ wrappedNonces machine.net.history.wrapped, some nonce.1 ∉ relayKeys config

instance (config : CoreRuntimeConfig) : Decidable (DistinctRelayKeys config) :=
  inferInstanceAs (Decidable (List.Nodup _))

instance (machine : Machine) (config : CoreRuntimeConfig) : Decidable (UnusedRelayKeys machine config) :=
  inferInstanceAs (Decidable (∀ nonce ∈ wrappedNonces machine.net.history.wrapped, _))

variable {engine : CoreDataplane}

theorem relaySends_rebuilt (rebuilt : RebuiltFrom config.paths engine.pathTransports) {relay : RelayHopSendState}
    (found : engine.relaySends pathId = some relay) :
    ∃ path ∈ config.paths.filter fun path => path.transportBind.isSome && path.relaySend.isSome,
      path.pathId = pathId ∧ path.relaySend.map (·.sendKey) = some relay.sendKey ∧ relay.nextCounter = 0 := by
  obtain ⟨socket, sits, wraps⟩ := Option.bind_eq_some_iff.mp found
  obtain ⟨path, listed, id, bound, relaySend⟩ := rebuilt sits
  rw [wraps] at relaySend
  obtain ⟨compiled, configured, rfl⟩ := Option.map_eq_some_iff.mp relaySend.symm
  exact ⟨path, List.mem_filter.mpr ⟨listed, by simp [bound, configured]⟩, id, by rw [configured]; rfl, rfl⟩

theorem relaySends_distinct (rebuilt : RebuiltFrom config.paths engine.pathTransports)
    (distinct : DistinctRelayKeys config) : Distinct wrapGuard engine.relaySends := by
  intro index other relay second found found' same
  obtain ⟨path, listed, rfl, key, -⟩ := relaySends_rebuilt rebuilt found
  obtain ⟨path', listed', rfl, key', -⟩ := relaySends_rebuilt rebuilt found'
  have equal : path.relaySend.map (·.sendKey) = path'.relaySend.map (·.sendKey) := by
    rw [key, key']
    exact congrArg some same
  rw [List.inj_on_of_nodup_map distinct listed listed' equal]

theorem RelaySafe.reapplied {before after : Machine} (safe : RelaySafe aead before)
    (unused : UnusedRelayKeys before config) (distinct : DistinctRelayKeys config)
    (reapplied : Reapplied now config before after) : RelaySafe aead after := by
  obtain same | ⟨middle, transports, same, rebuilt, rfl⟩ := reapplied
  · exact safe.quiet same
  · intro room
    have kept : RelaySafe aead middle := safe.quiet same
    obtain ⟨nonces, counted, genuine⟩ := kept room
    have installed : RebuiltFrom config.paths (middle.engine.installPaths now config transports).pathTransports :=
      rebuilt
    refine ⟨nonces.install (relaySends_distinct installed distinct) ?_, ?_, genuine⟩
    · intro index relay counter found used
      obtain ⟨path, listed, -, key, -⟩ := relaySends_rebuilt installed found
      refine unused (relay.sendKey, counter) ?_ (List.mem_map.mpr ⟨path, listed, key⟩)
      exact tracked_wrapped same ▸ used
    · intro index relay found
      obtain ⟨-, -, -, -, zero⟩ := relaySends_rebuilt installed found
      rw [zero]
      exact Nat.zero_le _

theorem Started.relaySafe (started : Started os now config machine) (distinct : DistinctRelayKeys config) :
    RelaySafe aead machine := by
  have ledger : machine.net.history.wrapped = [] := congrArg (·.2.2.1) started.ledgers
  have rebuilt := started.installed.2.1
  intro _
  rw [ledger]
  refine ⟨safe_nil (relaySends_distinct rebuilt distinct), fun found => ?_, by simp⟩
  obtain ⟨-, -, -, -, zero⟩ := relaySends_rebuilt rebuilt found
  rw [zero]
  exact Nat.zero_le _

theorem wrapped_eq_of_nonce (once : (wrappedNonces log).Nodup) {key : Key} {first second : Bytes}
    (sealing : (key, some first) ∈ log) (sealing' : (key, some second) ∈ log)
    (same : clearCounter first = clearCounter second) : first = second := by
  have listed {packet : Bytes} (member : (key, some packet) ∈ log) :
      (key, some packet) ∈ log.filter (·.2.isSome) := List.mem_filter.mpr ⟨member, rfl⟩
  have equal := List.inj_on_of_nodup_map once (listed sealing) (listed sealing') (by simp [same])
  exact Option.some.inj (Prod.mk.inj equal).2

/-- As long as no reapply brings back a used relay key, no wrapper repeats a nonce, and a relay passes
every wrapped packet that no earlier arrival has put out of its window. -/
theorem relay_wrapping_accepted (correct : aead.Correct) (started : Started os now config machine)
    (distinct : DistinctRelayKeys config) (paths : ∀ operation ∈ operations, operation.Applies DistinctRelayKeys)
    (unused : Along os aead UnusedRelayKeys machine operations)
    (few : (run os aead operations machine).net.history.wrapped.length < 2 ^ 64) :
    (wrappedNonces (run os aead operations machine).net.history.wrapped).Nodup ∧
    ∀ {key : Key} {packet : Bytes} {relay : RelaySessionConfig} {earlier : List (Bytes × Nat)},
      (key, some packet) ∈ (run os aead operations machine).net.history.wrapped →
      clearReceiverIndex packet = .ok relay.relayReceiverIndex →
      (∀ arrival ∈ earlier, (key, some arrival.1) ∈ (run os aead operations machine).net.history.wrapped ∧
        arrival.1 ≠ packet ∧ clearCounter arrival.1 < clearCounter packet + DEFAULT_REPLAY_WINDOW_BITS) →
      ∀ arrivalTime, ((RelaySessionExecutor.newWithHopKeys relay key).receive aead earlier).Passes aead key packet
        arrivalTime := by
  have safe := (relaySafe_admits aead os).run_keeps
    (fun safe allowed reapplied => safe.reapplied allowed.1 allowed.2 reapplied)
    (started.relaySafe distinct) (unused.and_forall paths) few
  refine ⟨safe.nonces.once, fun {key packet relay earlier} sealing addressed arrivals arrivalTime => ?_⟩
  obtain ⟨receiverIndex, counter, frame, fits, wrapped⟩ := safe.genuine sealing
  have index : receiverIndex = relay.relayReceiverIndex :=
    Except.ok.inj ((clearReceiverIndex_sealed correct wrapped).symm.trans addressed)
  subst index
  have carried := clearCounter_sealed fits wrapped
  obtain ⟨accepted, within, listens⟩ := (RelaySessionExecutor.listens_new relay key).after aead earlier
  have config := RelaySessionExecutor.receive_config aead (RelaySessionExecutor.newWithHopKeys relay key) earlier
  refine listens.accepts correct fits (by rw [config]; exact wrapped) ?_ ?_ arrivalTime
  · intro member
    obtain ⟨arrival, listed, same⟩ := (within member).resolve_left id
    obtain ⟨sealing', different, -⟩ := arrivals arrival listed
    exact different (wrapped_eq_of_nonce safe.nonces.once sealing' sealing (same.trans carried.symm))
  · intro other member
    obtain ⟨arrival, listed, rfl⟩ := (within member).resolve_left id
    exact carried ▸ (arrivals arrival listed).2.2

end Runs

section Reuse

/-- One path that reaches its peer through a relay. -/
def relayedConfig : CoreRuntimeConfig :=
  .ofPath ((CorePathConfig.direct 1 1400 (.v4 1 1) (.v4 3 1) (Eq.refl true)).withRelaySend 7 (.replicate 32 9)) .none

def hopRelay : RelaySessionExecutor := .newWithHopKeys ⟨7, 1000, none, none, none⟩ (.replicate 32 9)

/-- After a reapply of the same config the wrapper starts over, and the relay drops what it sends. -/
theorem reapply_reuses_relay_nonce : ∃ machine, Started .willing 0 relayedConfig machine ∧
    DistinctRelayKeys relayedConfig ∧ ∃ wrapped, wrapped = (run .willing .transparent [.transmitOnPath 0 9 1 [7],
      .reapplyConfig 1 relayedConfig, .transmitOnPath 2 9 1 [8]] machine).net.history.wrapped ∧
    ¬(wrappedNonces wrapped).Nodup ∧
    ((hopRelay.receive .transparent (((wrapped.filterMap Prod.snd).take 1).map (·, 0))).unwrapAuthenticatedHopPacket
      .transparent ((wrapped.filterMap Prod.snd).getD 1 []) 0).1 = .error .hopAuthFailed := by
  refine ⟨⟨_, _, {}, {}⟩, ⟨Net.blank, rfl, rfl⟩, by decide, _, rfl, ?_, ?_⟩
  · decide
  · decide

/-- The relayed config after the relay session was renewed. -/
def rerelayedConfig : CoreRuntimeConfig :=
  .ofPath ((CorePathConfig.direct 1 1400 (.v4 1 1) (.v4 3 1) (Eq.refl true)).withRelaySend 7 (.replicate 32 11)) .none

/-- Two packets under the first relay session and one under the next. -/
def relayRenewal : List Operation :=
  [.transmitOnPath 0 9 1 [7], .transmitOnPath 1 9 1 [8], .reapplyConfig 2 rerelayedConfig, .transmitOnPath 3 9 1 [9]]

theorem renewal_wrapping_accepted : ∃ machine, Started .willing 0 relayedConfig machine ∧
    ∃ wrapped, wrapped = (run .willing .transparent relayRenewal machine).net.history.wrapped ∧
    (wrappedNonces wrapped).Nodup ∧
    (hopRelay.receive .transparent [((wrapped.filterMap Prod.snd).getD 0 [], 0)]).Passes .transparent (.replicate 32 9)
      ((wrapped.filterMap Prod.snd).getD 1 []) 1 := by
  have started : Started .willing 0 relayedConfig ⟨_, _, {}, {}⟩ := ⟨Net.blank, rfl, rfl⟩
  have distinct : DistinctRelayKeys rerelayedConfig := by decide
  have paths : ∀ operation ∈ relayRenewal, operation.Applies DistinctRelayKeys := by
    simp [relayRenewal, Operation.Applies, distinct]
  have accepted := relay_wrapping_accepted Aead.transparent_correct started (by decide) paths
    ⟨trivial, trivial, ?_, trivial, trivial⟩ (by decide +kernel)
  · refine ⟨_, started, _, rfl, accepted.1, accepted.2 ?_ ?_ ?_ 1⟩
    · decide +kernel
    · decide +kernel
    · decide +kernel
  · change UnusedRelayKeys _ rerelayedConfig
    decide

end Reuse

end Gatherlink.Engine
