import Gatherlink.Engine.Reapply
import Gatherlink.Lib.Ledger

/-! Nonces of sealed packets. A session state turns away every counter below its next one; counters
that a batch has reserved and not yet sealed under are held as credits. -/

namespace Gatherlink.Engine
open Protocol Crypto Dataplane Lib.BigEndian Lib.Exec Lib.Ledger

def nonceOf (entry : Key × Bytes) : Key × Nat := (entry.1, clearCounter entry.2)

def sendGuard : Guard TransportKeys Key := ⟨(·.sendCipher), fun keys counter => counter < keys.nextSendCounter⟩

/-- The counters a reservation hands out to `count` frames. -/
def granted (count : Nat) : ReservedFrameProtection → List (Key × Nat)
  | .none => []
  | .secure counters => (List.range' counters.firstCounter count).map fun counter => (counters.cipher, counter)

def creditsOf (reserved : PreparedFrameGroup × ReservedFrameProtection) : List (Key × Nat) :=
  granted reserved.1.items.length reserved.2

/-- Sealed packets and credits are under different nonces, and the live states turn all of them away. -/
def SendSafe (credits : List (Key × Nat)) (machine : Machine) : Prop :=
  Safe sendGuard machine.engine.transportSecurity.slot (machine.net.history.protectedPackets.map nonceOf ++ credits)

variable (os : Os) (aead : Aead) {credits : List (Key × Nat)} {machine : Machine}

theorem SendSafe.forget (safe : SendSafe credits machine) : SendSafe [] machine :=
  Safe.subperm safe (by simpa using (List.sublist_append_left ..).subperm)

theorem SendSafe.quiet {after : Machine} (safe : SendSafe credits machine)
    (same : Same Machine.tracked machine after) : SendSafe credits after := by
  rw [SendSafe, tracked_security same, tracked_protected same]
  exact safe

section Sessions

variable {security : TransportSecurity} {log : List (Key × Nat)} (serviceId : ServiceId) (sessionKey : Option UInt32)

theorem spend {index : Option UInt32} {old : TransportKeys} (new : TransportKeys) (count : Nat)
    (safe : Safe sendGuard security.slot log) (here : security.slot index = some old)
    (cipher : new.sendCipher = old.sendCipher) (counter : new.nextSendCounter = old.nextSendCounter + count) :
    Safe sendGuard (Function.update security.slot index (some new))
      (log ++ (List.range' old.nextSendCounter count).map fun counter => (old.sendCipher, counter)) := by
  refine safe.advance new here cipher (fun below => ?_) List.nodup_range' (fun used member => ?_) fun used member => ?_
  · exact Nat.lt_of_lt_of_le below (counter ▸ Nat.le_add_right ..)
  · exact Nat.not_lt.mpr (List.mem_range'_1.mp member).1
  · exact Nat.lt_of_lt_of_eq (List.mem_range'_1.mp member).2 counter.symm

/-- A reservation moves counters from the session state to the credits. -/
theorem reserve_step (count : Nat) (safe : Safe sendGuard security.slot log) :
    Safe sendGuard (security.reserveFrameProtectionBatch serviceId sessionKey count).2.slot
      (log ++ match (security.reserveFrameProtectionBatch serviceId sessionKey count).1 with
        | .ok protection => granted count protection
        | .error _ => []) := by
  unfold TransportSecurity.reserveFrameProtectionBatch
  obtain ⟨index, keys, here, -, result, slots⟩ | ⟨same, ⟨-, plain⟩ | ⟨error, failed⟩⟩ :=
    security.withSendKeys_cases serviceId sessionKey ReservedFrameProtection.none fun keys =>
      ((keys.reserveSendCounters count).1.map .secure, (keys.reserveSendCounters count).2)
  · rw [result, slots]
    unfold TransportKeys.reserveSendCounters
    split
    · exact spend _ count safe here rfl rfl
    · simpa [Except.map, TransportSecurity.slot_update_self here] using safe
  · rw [plain, same]
    simpa [granted] using safe
  · rw [failed, same]
    simpa using safe

/-- Sealing one frame spends one counter, whether or not the cipher succeeds. -/
theorem protect_step (frame : Frame) (safe : Safe sendGuard security.slot log) :
    Safe sendGuard (security.protectFrameForServiceOrSession aead serviceId sessionKey frame).2.slot
      (log ++ (match (security.protectFrameForServiceOrSession aead serviceId sessionKey frame).1,
          security.sendKeyFor serviceId sessionKey with
        | .ok packet, some key => [(key, packet)]
        | _, _ => []).map nonceOf) := by
  unfold TransportSecurity.protectFrameForServiceOrSession
  obtain ⟨index, keys, here, key, result, slots⟩ | ⟨same, ⟨key, plain⟩ | ⟨error, failed⟩⟩ :=
    security.withSendKeys_cases serviceId sessionKey frame.encodeV1
      (·.encryptFrameWithPlaintext aead frame.encodedV2Len frame.encodeV2)
  · rw [result, slots, key]
    unfold TransportKeys.encryptFrameWithPlaintext
    split
    · rename_i fits
      have spent := spend { keys with nextSendCounter := keys.nextSendCounter + 1, counterFits := fits } 1 safe here
        rfl rfl
      cases sealing : encryptFrameWithCipherWriter aead keys.remoteReceiverIndex keys.sendCipher keys.nextSendCounter
        frame.encodedV2Len frame.encodeV2 with
      | ok packet => simpa [nonceOf, clearCounter_sealed keys.counterFits sealing] using spent
      | error error => simpa using spent.subperm (List.sublist_append_left ..).subperm
    · simpa [TransportSecurity.slot_update_self here] using safe
  · rw [plain, same, key]
    simpa using safe
  · rw [failed, same]
    simpa using safe

theorem open_step (packet : Bytes) (safe : Safe sendGuard security.slot log) :
    Safe sendGuard (security.openPacket aead packet).2.slot log := by
  obtain ⟨index, keys, here, -, slots⟩ | ⟨same, -⟩ := security.openPacket_cases aead packet
  · rw [slots]
    obtain ⟨decrypted, -, -, -, opened⟩ | dropped := TransportSecurity.openWith_cases aead packet keys index
    · rw [opened]
      simpa using spend { keys with replayWindow := (keys.replayWindow.accept decrypted.counter).2 } 0 safe here rfl rfl
    · rwa [dropped, TransportSecurity.slot_update_self here]
  · rwa [same]

end Sessions

section Steps

theorem reserveFrameProtection_step (group : PreparedFrameGroup) :
    Ensures (SendSafe credits) (reserveFrameProtection group)
      (fun protection => SendSafe (credits ++ creditsOf (group, protection))) (SendSafe []) := by
  refine Ensures.attempt (fun machine protection safe reserved => ?_) fun machine error safe refused => ?_
  · have moved := reserve_step group.serviceId group.sessionKey group.items.length safe
    rw [cryptoResult_ok reserved, List.append_assoc] at moved
    exact moved
  · have moved := reserve_step group.serviceId group.sessionKey group.items.length safe
    obtain ⟨failure, failed⟩ := cryptoResult_error refused
    rw [failed, List.append_nil] at moved
    exact SendSafe.forget moved

theorem reserveGroups_step (groups : List PreparedFrameGroup) :
    Ensures (SendSafe credits) (reserveGroups groups)
      (fun reserved => SendSafe (credits ++ reserved.flatMap creditsOf)) (SendSafe []) := by
  induction groups generalizing credits with
  | nil => exact Ensures.pure fun machine safe => by simpa using safe
  | cons group rest ih =>
    refine Ensures.bind (reserveFrameProtection_step group) fun protection => Ensures.bind ih fun later => ?_
    exact Ensures.pure fun machine safe => by simpa using safe

/-- One worker seals under the counters at the places of its frames, up to its first failure. -/
theorem protectItemChunk_counters (counters : ReservedSendCounters) (items : List (PreparedFramePlan × Nat)) :
    ((protectItemChunk aead (.secure counters) items).1.map fun send => clearCounter send.packet).Sublist
      (items.map fun item => counters.firstCounter + item.2) := by
  induction items with
  | nil => exact List.Sublist.refl _
  | cons item rest ih =>
    obtain ⟨plan, place⟩ := item
    simp only [protectItemChunk, ReservedFrameProtection.protectFrame, ReservedSendCounters.encryptFrameWithPlaintext]
    by_cases fits : counters.firstCounter + place < 2 ^ 64
    · rw [if_pos fits]
      cases sealing : encryptFrameWithCipherWriter aead counters.receiverIndex counters.cipher
          (counters.firstCounter + place) plan.frame.encodedV2Len plan.frame.encodeV2 with
      | error error => exact List.nil_sublist _
      | ok packet =>
        simp only [List.map_cons, clearCounter_sealed fits sealing]
        exact ih.cons_cons _
    · rw [if_neg fits]
      exact List.nil_sublist _

theorem protectGroup_counters (group : PreparedFrameGroup) (protection : ReservedFrameProtection) :
    ((sealedUnder protection (((workerChunks os group.items).map (protectItemChunk aead protection)).flatMap
      (·.1))).map nonceOf).Sublist (creditsOf (group, protection)) := by
  cases protection with
  | none => exact List.Sublist.refl _
  | secure counters =>
    let counted (items : List (PreparedFramePlan × Nat)) := items.map fun item => counters.firstCounter + item.2
    have reserved : (workerChunks os group.items).flatMap counted =
        List.range' counters.firstCounter group.items.length := by
      rw [List.flatMap_def, ← List.map_flatten, workerChunks_flatten, ← Function.comp_def (counters.firstCounter + ·),
        ← List.map_map, List.zipIdx_map_snd, List.map_add_range', Nat.add_zero]
    have used := List.Sublist.flatMap_right (workerChunks os group.items) fun items _ =>
      protectItemChunk_counters aead counters items
    rw [reserved] at used
    simpa [sealedUnder, nonceOf, creditsOf, granted, List.map_flatMap, Function.comp_def, List.flatMap_map]
      using used.map fun counter => (counters.cipher, counter)

theorem protectGroup_step (group : PreparedFrameGroup) (protection : ReservedFrameProtection) :
    Ensures (SendSafe (creditsOf (group, protection) ++ credits)) (protectGroup os aead group protection)
      (fun _ => SendSafe credits) (SendSafe []) := by
  have consumed : Ensures (SendSafe (creditsOf (group, protection) ++ credits))
      (modify fun machine => { machine with net := machine.net.protect (sealedUnder protection
        (((workerChunks os group.items).map (protectItemChunk aead protection)).flatMap (·.1))) } : Run PUnit)
      (fun _ => SendSafe credits) (SendSafe []) := by
    refine Ensures.modify fun machine safe => Safe.subperm safe (List.Sublist.subperm ?_)
    simp only [Net.protect, List.map_append, List.append_assoc]
    exact (((protectGroup_counters os aead group protection).append_right _).append_left _)
  refine Ensures.bind consumed fun _ => ?_
  split
  · exact Ensures.throw fun machine safe => safe.forget
  · exact Ensures.pure fun machine safe => safe

theorem protectGroups_step (reserved : List (PreparedFrameGroup × ReservedFrameProtection)) :
    Ensures (SendSafe (reserved.flatMap creditsOf)) (protectGroups os aead reserved) (fun _ => SendSafe [])
      (SendSafe []) := by
  induction reserved with
  | nil => exact Ensures.pure fun machine safe => safe
  | cons entry rest ih =>
    obtain ⟨group, protection⟩ := entry
    exact Ensures.bind (protectGroup_step os aead group protection) fun _ => Ensures.bind ih fun _ =>
      Ensures.pure fun machine safe => safe

theorem unprotectPacket_sendSafe (packet : Bytes) :
    Moves (fun before after => SendSafe [] before → SendSafe [] after) (unprotectPacket aead packet) := by
  refine Moves.modifyGet fun machine safe => ?_
  have moved := open_step aead packet safe
  rw [← TransportSecurity.unprotectPacketWithSession_security] at moved
  exact moved

theorem protectFrame_sendSafe (frame : Frame) (peerScope : Option UInt32) :
    Moves (fun before after => SendSafe [] before → SendSafe [] after) (protectFrame aead frame peerScope) := by
  refine Moves.attempt fun machine safe => ?_
  rw [SendSafe, List.append_nil] at safe
  have moved := protect_step aead frame.serviceId peerScope frame safe
  rw [← List.map_append] at moved
  rw [SendSafe, List.append_nil]
  exact moved

/-- Everything the engine does, short of a reapply, seals under fresh nonces. -/
theorem sendSafe_admits : Admits os aead fun before after => SendSafe [] before → SendSafe [] after where
  quiet same safe := safe.quiet (tracked_of_steady same)
  opens := unprotectPacket_sendSafe aead _
  pushes := Moves.attempt fun machine safe => safe
  seals := protectFrame_sendSafe aead _ _
  batches := by
    refine Ensures.keeps (Ensures.bind (reserveGroups_step _) fun reserved => ?_)
    exact protectGroups_step os aead reserved
  reschedules := reschedules_of fun same safe => safe.quiet same
  wraps found step safe := by
    obtain ⟨entries, -, -, ledgers⟩ := step
    have ledger := congrArg (·.2.1) ledgers
    simp only [Net.ledgers, Net.wrap] at ledger
    simpa only [SendSafe, Machine.withSocket, ledger] using safe

end Steps

section Runs

variable {os aead} {now : Nat} {config : CoreRuntimeConfig} {operations : List Operation}

/-- Different configured sessions have different send keys. -/
def DistinctSendKeys (config : CoreRuntimeConfig) : Prop := (config.security.sessionKeys.map Prod.fst).Nodup

/-- No send key of a config has sealed a packet before. -/
def UnusedSendKeys (machine : Machine) (config : CoreRuntimeConfig) : Prop :=
  ∀ entry ∈ machine.net.history.protectedPackets, entry.1 ∉ config.security.sessionKeys.map Prod.fst

instance (machine : Machine) (config : CoreRuntimeConfig) : Decidable (UnusedSendKeys machine config) :=
  inferInstanceAs (Decidable (∀ entry ∈ machine.net.history.protectedPackets, _))

theorem SendSafe.reapplied {before after : Machine} (safe : SendSafe [] before)
    (unused : UnusedSendKeys before config) (distinct : DistinctSendKeys config)
    (reapplied : Reapplied now config before after) : SendSafe [] after := by
  obtain same | ⟨middle, rebuilt, same, -, rfl⟩ := reapplied
  · exact safe.quiet same
  · have kept : SendSafe [] middle := safe.quiet same
    refine TransportSecurity.fromConfig_safe (fun _ => rfl) kept distinct fun entry used => ?_
    rw [List.append_nil, tracked_protected same] at used
    obtain ⟨sealedPacket, member, rfl⟩ := List.mem_map.mp used
    exact unused sealedPacket member

theorem Started.sendSafe (started : Started os now config machine) (distinct : DistinctSendKeys config) :
    SendSafe [] machine := by
  have ledger := congrArg (·.2.1) started.ledgers
  simp only [Net.ledgers] at ledger
  rw [SendSafe, started.installed.1, ledger]
  exact TransportSecurity.fromConfig_safe_nil (fun _ => rfl) distinct

/-- As long as no reapply brings back a used send key, no nonce is used twice under a key. -/
theorem protected_nonces_unique (started : Started os now config machine) (distinct : DistinctSendKeys config)
    (sessions : ∀ operation ∈ operations, operation.Applies DistinctSendKeys)
    (unused : Along os aead UnusedSendKeys machine operations) :
    ((run os aead operations machine).net.history.protectedPackets.map nonceOf).Nodup := by
  have safe := (sendSafe_admits os aead).run_keeps
    (fun safe allowed reapplied => safe.reapplied allowed.1 allowed.2 reapplied)
    (started.sendSafe distinct) (unused.and_forall sessions)
  rw [SendSafe, List.append_nil] at safe
  exact safe.once

end Runs

section Reuse

/-- One path to one peer, with a static session. -/
def pairedConfig : CoreRuntimeConfig :=
  .ofPath (.direct 1 1400 (.v4 1 1) (.v4 2 1) (Eq.refl true)) (.static 1 2 (.replicate 32 5) (.replicate 32 6))

theorem reapply_reuses_nonce : ∃ machine, Started .willing 0 pairedConfig machine ∧ DistinctSendKeys pairedConfig ∧
    ¬((run .willing .transparent [.transmitOnPath 0 9 1 [7], .reapplyConfig 1 pairedConfig, .transmitOnPath 2 9 1 [8]]
      machine).net.history.protectedPackets.map nonceOf).Nodup := by
  refine ⟨⟨_, _, {}, {}⟩, ⟨Net.blank, rfl, rfl⟩, ?_, ?_⟩
  · simp [DistinctSendKeys, pairedConfig, CoreRuntimeConfig.ofPath, TransportSecurityConfig.sessionKeys]
  · decide

/-- The paired config after a key exchange. -/
def rekeyedConfig : CoreRuntimeConfig :=
  { pairedConfig with security := .static 1 2 (.replicate 32 7) (.replicate 32 8) }

theorem rekeyed_nonces_unique : ∃ machine, Started .willing 0 pairedConfig machine ∧
    ((run .willing .transparent [.transmitOnPath 0 9 1 [7], .reapplyConfig 1 rekeyedConfig, .transmitOnPath 2 9 1 [8]]
      machine).net.history.protectedPackets.map nonceOf).Nodup := by
  have started : Started .willing 0 pairedConfig ⟨_, _, {}, {}⟩ := ⟨Net.blank, rfl, rfl⟩
  refine ⟨_, started, protected_nonces_unique started ?_ ?_ ⟨trivial, ?_, trivial, trivial⟩⟩
  · simp [DistinctSendKeys, pairedConfig, CoreRuntimeConfig.ofPath, TransportSecurityConfig.sessionKeys]
  · simp [Operation.Applies, DistinctSendKeys, rekeyedConfig, TransportSecurityConfig.sessionKeys]
  · change UnusedSendKeys _ rekeyedConfig
    decide

end Reuse

end Gatherlink.Engine
