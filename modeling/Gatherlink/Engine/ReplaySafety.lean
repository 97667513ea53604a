import Gatherlink.Engine.SendNonces

/-! Replay protection of received packets. A session state turns away the counters that its replay
window blocks, so a counter is accepted once for as long as the window lives. -/

namespace Gatherlink.Engine
open Protocol Crypto Dataplane Lib.BigEndian Lib.Exec Lib.Ledger

def receiveGuard : Guard TransportKeys Key := ⟨(·.receiveCipher), fun keys => keys.replayWindow.Blocks⟩

/-- No counter was accepted twice under one receive key, and the live windows block all of them. -/
def ReceiveSafe (machine : Machine) : Prop :=
  Safe receiveGuard machine.engine.transportSecurity.slot machine.net.history.opened

theorem ReceiveSafe.quiet {machine after : Machine} (safe : ReceiveSafe machine)
    (same : Same Machine.tracked machine after) : ReceiveSafe after := by
  rw [ReceiveSafe, tracked_security same, tracked_opened same]
  exact safe

section Sessions

variable (aead : Aead) {security : TransportSecurity} {log : List (Key × Nat)} {α : Type}

/-- An opened packet is entered in the ledger and in its window; a dropped one in neither. -/
theorem openPacket_receiveSafe (packet : Bytes) (safe : Safe receiveGuard security.slot log) :
    Safe receiveGuard (security.openPacket aead packet).2.slot (log ++ openedBy aead security packet) := by
  unfold openedBy
  obtain ⟨index, keys, here, result, slots⟩ | ⟨same, error, failed⟩ := security.openPacket_cases aead packet
  · rw [result, slots]
    obtain ⟨decrypted, -, -, fresh, opened⟩ | dropped := TransportSecurity.openWith_cases aead packet keys index
    · rw [opened]
      let marked : TransportKeys := { keys with replayWindow := (keys.replayWindow.accept decrypted.counter).2 }
      refine safe.advance marked here rfl (fun blocked => ReplayWindow.blocks_accept blocked decrypted.counter)
        (List.nodup_singleton decrypted.counter) (fun counter member => ?_) fun counter member => ?_
      · rw [List.mem_singleton] at member
        rwa [member]
      · rw [List.mem_singleton] at member
        rw [member]
        exact ReplayWindow.accept_blocks ..
    · rw [dropped, TransportSecurity.slot_update_self here]
      simpa using safe
  · rw [failed, same]
    simpa using safe

theorem withSendKeys_receiveSafe (serviceId : ServiceId) (sessionKey : Option UInt32) (plain : α)
    {use : TransportKeys → Except CryptoError α × TransportKeys}
    (sendOnly : ∀ keys, (use keys).2.receiveCipher = keys.receiveCipher ∧
      (use keys).2.replayWindow = keys.replayWindow) (safe : Safe receiveGuard security.slot log) :
    Safe receiveGuard (security.withSendKeys serviceId sessionKey plain use).2.slot log := by
  obtain ⟨index, keys, here, -, -, slots⟩ | ⟨same, -⟩ :=
    security.withSendKeys_cases serviceId sessionKey plain use
  · obtain ⟨cipher, window⟩ := sendOnly keys
    rw [slots]
    have advanced := safe.advance (use keys).2 here cipher
      (fun blocked => by simpa [receiveGuard, window] using blocked)
      List.nodup_nil (by simp) (by simp)
    simpa using advanced
  · rwa [same]

end Sessions

section Steps

variable (os : Os) (aead : Aead)

theorem unprotectPacket_receiveSafe (packet : Bytes) :
    Moves (fun before after => ReceiveSafe before → ReceiveSafe after) (unprotectPacket aead packet) := by
  refine Moves.modifyGet fun machine safe => ?_
  have moved := openPacket_receiveSafe aead packet safe
  rw [← TransportSecurity.unprotectPacketWithSession_security] at moved
  exact moved

theorem protectFrame_receiveSafe (frame : Frame) (peerScope : Option UInt32) :
    Moves (fun before after => ReceiveSafe before → ReceiveSafe after) (protectFrame aead frame peerScope) := by
  refine Moves.attempt fun machine safe => withSendKeys_receiveSafe _ _ _ (fun keys => ?_) safe
  unfold TransportKeys.encryptFrameWithPlaintext
  split <;> exact ⟨rfl, rfl⟩

theorem reserveFrameProtection_receiveSafe (group : PreparedFrameGroup) :
    Moves (fun before after => ReceiveSafe before → ReceiveSafe after) (reserveFrameProtection group) := by
  refine Moves.attempt fun machine safe => withSendKeys_receiveSafe _ _ _ (fun keys => ?_) safe
  unfold TransportKeys.reserveSendCounters
  split <;> exact ⟨rfl, rfl⟩

/-- Everything the engine does, short of a reapply, accepts a counter at most once. -/
theorem receiveSafe_admits : Admits os aead fun before after => ReceiveSafe before → ReceiveSafe after where
  quiet same safe := safe.quiet (tracked_of_steady same)
  opens := unprotectPacket_receiveSafe aead _
  pushes := Moves.attempt fun machine safe => safe
  seals := protectFrame_receiveSafe aead _ _
  batches := batches_of reserveFrameProtection_receiveSafe (fun machine entries safe => safe) _
  reschedules := reschedules_of fun same safe => safe.quiet same
  wraps found step safe := by
    obtain ⟨entries, -, -, ledgers⟩ := step
    have ledger := congrArg (·.1) ledgers
    simp only [Net.ledgers, Net.wrap] at ledger
    simpa only [ReceiveSafe, Machine.withSocket, ledger] using safe

end Steps

section Runs

variable {os : Os} {aead : Aead} {now : Nat} {config : CoreRuntimeConfig} {operations : List Operation}
  {machine : Machine}

/-- Different configured sessions have different receive keys. -/
def DistinctReceiveKeys (config : CoreRuntimeConfig) : Prop := (config.security.sessionKeys.map Prod.snd).Nodup

/-- No receive key of a config has opened a packet before. -/
def UnusedReceiveKeys (machine : Machine) (config : CoreRuntimeConfig) : Prop :=
  ∀ entry ∈ machine.net.history.opened, entry.1 ∉ config.security.sessionKeys.map Prod.snd

instance (machine : Machine) (config : CoreRuntimeConfig) : Decidable (UnusedReceiveKeys machine config) :=
  inferInstanceAs (Decidable (∀ entry ∈ machine.net.history.opened, _))

theorem ReceiveSafe.reapplied {before after : Machine} (safe : ReceiveSafe before)
    (unused : UnusedReceiveKeys before config) (distinct : DistinctReceiveKeys config)
    (reapplied : Reapplied now config before after) : ReceiveSafe after := by
  obtain same | ⟨middle, rebuilt, same, -, rfl⟩ := reapplied
  · exact safe.quiet same
  · have kept : ReceiveSafe middle := safe.quiet same
    refine TransportSecurity.fromConfig_safe (fun _ => rfl) kept distinct fun entry used => ?_
    exact unused entry (tracked_opened same ▸ used)

theorem Started.receiveSafe (started : Started os now config machine) (distinct : DistinctReceiveKeys config) :
    ReceiveSafe machine := by
  have ledger := congrArg (·.1) started.ledgers
  simp only [Net.ledgers] at ledger
  rw [ReceiveSafe, started.installed.1, ledger]
  exact TransportSecurity.fromConfig_safe_nil (fun _ => rfl) distinct

/-- As long as no reapply brings back a used receive key, no counter is accepted twice under a key. -/
theorem opened_counters_unique (started : Started os now config machine) (distinct : DistinctReceiveKeys config)
    (sessions : ∀ operation ∈ operations, operation.Applies DistinctReceiveKeys)
    (unused : Along os aead UnusedReceiveKeys machine operations) :
    (run os aead operations machine).net.history.opened.Nodup := by
  have safe := (receiveSafe_admits os aead).run_keeps
    (fun safe allowed reapplied => safe.reapplied allowed.1 allowed.2 reapplied)
    (started.receiveSafe distinct) (unused.and_forall sessions)
  exact safe.once

end Runs

section Replay

/-- A packet of the peer of `pairedConfig`: an empty data frame at the given counter. -/
def peerPacket (counter : Nat) : Bytes :=
  (encryptFrameWithCounter .transparent 1 (.replicate 32 6) counter
    (Frame.encodeV2 ⟨.data, 9, 1, 0, none, [], by decide⟩)).toOption.getD []

/-- The peer's packet arrives at the path socket and is received. -/
def peerDelivers (counter : Nat) : List Operation :=
  [.arrive 0 ⟨.v4 2 1, peerPacket counter, 0⟩, .receive 16 ⟨0, []⟩]

/-- A captured packet is accepted again after a reapply of the same config. -/
theorem reapply_accepts_replay : ∃ machine, Started .willing 0 pairedConfig machine ∧
    DistinctReceiveKeys pairedConfig ∧
    ¬(run .willing .transparent (peerDelivers 0 ++ [.reapplyConfig 1 pairedConfig] ++ peerDelivers 0)
      machine).net.history.opened.Nodup := by
  refine ⟨⟨_, _, {}, {}⟩, ⟨Net.blank, rfl, rfl⟩, ?_, ?_⟩
  · simp [DistinctReceiveKeys, pairedConfig, CoreRuntimeConfig.ofPath, TransportSecurityConfig.sessionKeys]
  · decide +kernel

theorem rekeyed_counters_unique : ∃ machine, Started .willing 0 pairedConfig machine ∧
    (run .willing .transparent (peerDelivers 0 ++ [.reapplyConfig 1 rekeyedConfig] ++ peerDelivers 0)
      machine).net.history.opened.Nodup := by
  have started : Started .willing 0 pairedConfig ⟨_, _, {}, {}⟩ := ⟨Net.blank, rfl, rfl⟩
  refine ⟨_, started, opened_counters_unique started ?_ ?_
    ⟨trivial, trivial, ?_, trivial, trivial, trivial⟩⟩
  · simp [DistinctReceiveKeys, pairedConfig, CoreRuntimeConfig.ofPath, TransportSecurityConfig.sessionKeys]
  · simp [peerDelivers, Operation.Applies, DistinctReceiveKeys, rekeyedConfig, TransportSecurityConfig.sessionKeys]
  · change UnusedReceiveKeys _ rekeyedConfig
    decide +kernel

end Replay

end Gatherlink.Engine
