import Gatherlink.Dataplane.Security
import Gatherlink.Lib.Ledger

/-! Where session state lives: a single session, or one slot per local receiver index. Sealing and
opening each replace the state of one slot. -/

namespace Gatherlink.Dataplane.TransportSecurity
open Protocol Crypto Lib.BigEndian Lib.Lookup Lib.Ledger

/-- The slot of the single static session is `none`. -/
def slot : TransportSecurity → Option UInt32 → Option TransportKeys
  | .static keys, .none => some keys
  | .staticSessions sessions _ _, some index => sessions index
  | _, _ => .none

theorem slot_static_update (keys next : TransportKeys) :
    (TransportSecurity.static next).slot =
      Function.update (TransportSecurity.static keys).slot .none (some next) := by
  funext index
  cases index <;> rfl

theorem slot_sessions_update (sessions : HashMap UInt32 TransportKeys) (serviceSessions : HashMap ServiceId UInt32)
    (defaultSession : Option UInt32) (index : UInt32) (next : TransportKeys) :
    (TransportSecurity.staticSessions (insert sessions index next) serviceSessions defaultSession).slot =
      Function.update (TransportSecurity.staticSessions sessions serviceSessions defaultSession).slot (some index)
        (some next) := by
  funext other
  cases other with
  | none => rfl
  | some other =>
    by_cases same : other = index
    · simp [slot, same]
    · rw [Function.update_of_ne (by simpa using same)]
      exact insert_of_ne _ _ same

theorem slot_update_self {security : TransportSecurity} {index : Option UInt32} {keys : TransportKeys}
    (here : security.slot index = some keys) : Function.update security.slot index (some keys) = security.slot := by
  rw [← here, Function.update_eq_self]

section Send

variable {α : Type} (security : TransportSecurity) (serviceId : ServiceId) (sessionKey : Option UInt32) (plain : α)
  (use : TransportKeys → Except CryptoError α × TransportKeys)

theorem withSendKeys_cases :
    (∃ index keys, security.slot index = some keys ∧ security.sendKeyFor serviceId sessionKey = some keys.sendCipher ∧
      (security.withSendKeys serviceId sessionKey plain use).1 = (use keys).1 ∧
      (security.withSendKeys serviceId sessionKey plain use).2.slot =
        Function.update security.slot index (some (use keys).2)) ∨
    ((security.withSendKeys serviceId sessionKey plain use).2 = security ∧
      (security.sendKeyFor serviceId sessionKey = .none ∧
          (security.withSendKeys serviceId sessionKey plain use).1 = .ok plain ∨
        ∃ error, (security.withSendKeys serviceId sessionKey plain use).1 = .error error)) := by
  cases security with
  | none => exact Or.inr ⟨rfl, Or.inl ⟨rfl, rfl⟩⟩
  | static keys => exact Or.inl ⟨.none, keys, rfl, rfl, rfl, slot_static_update keys _⟩
  | staticSessions sessions serviceSessions defaultSession =>
    simp only [withSendKeys, sendKeyFor]
    cases chosen : (sessionKey <|> serviceSessions serviceId) <|> defaultSession with
    | none => exact Or.inr ⟨rfl, Or.inr ⟨_, rfl⟩⟩
    | some index =>
      cases found : sessions index with
      | none => exact Or.inr ⟨by simp [found], Or.inr ⟨.silentDrop, by simp [found]⟩⟩
      | some keys =>
        refine Or.inl ⟨some index, keys, found, by simp [found], by simp [found], ?_⟩
        simp only [found]
        exact slot_sessions_update ..

end Send

section Receive

variable (aead : Aead) (security : TransportSecurity) (packet : Bytes)

theorem openWith_cases (keys : TransportKeys) (index : Option UInt32) :
    (∃ decrypted, decryptPacketWithCipher aead keys.receiveCipher packet = .ok decrypted ∧
      decrypted.receiverIndex = keys.localReceiverIndex ∧ ¬keys.replayWindow.Blocks decrypted.counter ∧
      openWith aead keys index packet =
        (.ok ⟨keys.receiveCipher, decrypted.counter, decrypted.plaintext, index⟩,
          { keys with replayWindow := (keys.replayWindow.accept decrypted.counter).2 })) ∨
    openWith aead keys index packet = (.error .silentDrop, keys) := by
  unfold openWith
  obtain ⟨decrypted, authentic, addressed, fresh, opened⟩ | dropped := keys.decryptPacket_cases aead packet
  · exact Or.inl ⟨decrypted, authentic, addressed, fresh, by rw [opened]⟩
  · exact Or.inr (by rw [dropped])

theorem openPacket_cases :
    (∃ index keys, security.slot index = some keys ∧
      (security.openPacket aead packet).1 = (openWith aead keys index packet).1 ∧
      (security.openPacket aead packet).2.slot =
        Function.update security.slot index (some (openWith aead keys index packet).2)) ∨
    ((security.openPacket aead packet).2 = security ∧ ∃ error, (security.openPacket aead packet).1 = .error error) := by
  cases security with
  | none => exact Or.inr ⟨rfl, _, rfl⟩
  | static keys => exact Or.inl ⟨.none, keys, rfl, rfl, slot_static_update keys _⟩
  | staticSessions sessions serviceSessions defaultSession =>
    simp only [openPacket]
    cases clearReceiverIndex packet with
    | error error => exact Or.inr ⟨rfl, error, rfl⟩
    | ok index =>
      cases found : sessions index with
      | none => exact Or.inr ⟨by simp [found], .silentDrop, by simp [found]⟩
      | some keys =>
        refine Or.inl ⟨some index, keys, found, by simp [found], ?_⟩
        simp only [found]
        exact slot_sessions_update ..

variable {error : CryptoError}

/-- A packet that does not open leaves no trace in session state. -/
theorem openPacket_dropped (failed : (security.openPacket aead packet).1 = .error error) :
    error = .silentDrop ∧ (security.openPacket aead packet).2 = security := by
  have opens (keys : TransportKeys) (index : Option UInt32)
      (failed : (openWith aead keys index packet).1 = .error error) :
      error = .silentDrop ∧ (openWith aead keys index packet).2 = keys := by
    obtain ⟨decrypted, -, -, -, opened⟩ | dropped := openWith_cases aead packet keys index
    · rw [opened] at failed
      cases failed
    · rw [dropped] at failed ⊢
      exact ⟨(Except.error.inj failed).symm, rfl⟩
  cases security with
  | none => exact ⟨(Except.error.inj failed).symm, rfl⟩
  | static keys =>
    obtain ⟨kind, same⟩ := opens keys .none failed
    exact ⟨kind, congrArg TransportSecurity.static same⟩
  | staticSessions sessions serviceSessions defaultSession =>
    simp only [openPacket] at failed ⊢
    cases addressed : clearReceiverIndex packet with
    | error reason =>
      rw [addressed] at failed
      exact ⟨(Except.error.inj failed).symm.trans (clearReceiverIndex_error addressed), rfl⟩
    | ok index =>
      simp only [addressed] at failed ⊢
      cases found : sessions index with
      | none =>
        simp only [found] at failed ⊢
        exact ⟨(Except.error.inj failed).symm, trivial⟩
      | some keys =>
        simp only [found] at failed ⊢
        obtain ⟨kind, same⟩ := opens keys (some index) failed
        refine ⟨kind, ?_⟩
        rw [same, Lib.Lookup.insert, ← found, Function.update_eq_self]

theorem unprotectPacketWithSession_cases (secure : security ≠ .none) :
    (security.unprotectPacketWithSession aead packet).2 = (security.openPacket aead packet).2 ∧
      ∀ {error}, (security.unprotectPacketWithSession aead packet).1 = .error error →
        (security.openPacket aead packet).1 = .error error ∨ error = .silentDrop := by
  cases security with
  | none => exact absurd rfl secure
  | static | staticSessions =>
    simp only [unprotectPacketWithSession]
    rcases openPacket aead _ packet with ⟨failure | opened, next⟩
    · simp
    · cases decoded : Frame.decodeV2Owned opened.plaintext with
      | error reason => simp [decoded, eq_comm]
      | ok frame => simp [decoded]

theorem unprotectPacketWithSession_security :
    (security.unprotectPacketWithSession aead packet).2 = (security.openPacket aead packet).2 := by
  by_cases plain : security = .none
  · subst plain
    rfl
  · exact (unprotectPacketWithSession_cases aead security packet plain).1

theorem unprotectPacketWithSession_dropped (secure : security ≠ .none)
    (failed : (security.openPacket aead packet).1 = .error error) :
    security.unprotectPacketWithSession aead packet = (.error .silentDrop, security) := by
  obtain ⟨rfl, same⟩ := security.openPacket_dropped aead packet failed
  have dropped : security.openPacket aead packet = (.error .silentDrop, security) := Prod.ext failed same
  cases security with
  | none => exact absurd rfl secure
  | static keys => simp only [unprotectPacketWithSession, dropped]
  | staticSessions sessions serviceSessions defaultSession => simp only [unprotectPacketWithSession, dropped]

theorem openPacket_secure (secure : security ≠ .none) : (security.openPacket aead packet).2 ≠ .none := by
  cases security with
  | none => exact absurd rfl secure
  | static keys =>
    intro same
    cases same
  | staticSessions sessions serviceSessions defaultSession =>
    simp only [openPacket]
    split
    · exact secure
    · intro same
      split at same <;> cases same

end Receive

section Config

variable {config : TransportSecurityConfig} {index : Option UInt32} {keys : TransportKeys} {part : Key × Key → Key}
  {guard : Guard TransportKeys Key}

theorem fromConfig_slot (found : (fromConfig config).slot index = some keys) :
    (∃ localIndex remoteIndex sendKey receiveKey, config = .static localIndex remoteIndex sendKey receiveKey ∧
      index = .none ∧ keys = .newWithReceiverIndexes localIndex remoteIndex sendKey receiveKey) ∨
    ∃ sessions, config = .staticSessions sessions ∧ ∃ session ∈ sessions, index = some session.localReceiverIndex ∧
      keys = .newWithReceiverIndexes session.localReceiverIndex session.remoteReceiverIndex session.sendKey
        session.receiveKey := by
  cases config with
  | none => simp [fromConfig, slot] at found
  | static localIndex remoteIndex sendKey receiveKey =>
    cases index with
    | none => exact Or.inl ⟨_, _, _, _, rfl, rfl, (Option.some.inj found).symm⟩
    | some index => simp [fromConfig, slot] at found
  | staticSessions sessions =>
    cases index with
    | none => simp [fromConfig, compileStaticSessions, slot] at found
    | some index =>
      obtain ⟨session, listed, entry⟩ := List.mem_map.mp (mem_of_ofList found)
      obtain ⟨rfl, rfl⟩ := Prod.mk.inj entry
      exact Or.inr ⟨sessions, rfl, session, listed, rfl, rfl⟩

theorem fromConfig_keys (found : (fromConfig config).slot index = some keys) :
    (keys.sendCipher, keys.receiveCipher) ∈ config.sessionKeys := by
  obtain ⟨localIndex, remoteIndex, sendKey, receiveKey, rfl, rfl, rfl⟩ |
    ⟨sessions, rfl, session, listed, rfl, rfl⟩ := fromConfig_slot found
  · exact List.mem_singleton_self _
  · exact List.mem_map.mpr ⟨session, listed, rfl⟩

theorem fromConfig_distinct
    (unique : (config.sessionKeys.map part).Nodup) {other : Option UInt32} {second : TransportKeys}
    (found : (fromConfig config).slot index = some keys) (found' : (fromConfig config).slot other = some second)
    (same : part (keys.sendCipher, keys.receiveCipher) = part (second.sendCipher, second.receiveCipher)) :
    index = other := by
  obtain ⟨localIndex, remoteIndex, sendKey, receiveKey, rfl, rfl, rfl⟩ |
    ⟨sessions, rfl, session, listed, rfl, rfl⟩ := fromConfig_slot found
  · cases other with
    | none => rfl
    | some other => simp [fromConfig, slot] at found'
  · obtain ⟨_, _, _, _, ⟨⟩, -⟩ | ⟨_, ⟨⟩, session', listed', rfl, rfl⟩ := fromConfig_slot found'
    rw [TransportSecurityConfig.sessionKeys, List.map_map] at unique
    rw [List.inj_on_of_nodup_map unique listed listed' same]

theorem fromConfig_safe (serves : ∀ keys, guard.key keys = part (keys.sendCipher, keys.receiveCipher))
    {slots : Option UInt32 → Option TransportKeys} {log : List (Key × Nat)} (safe : Safe guard slots log)
    (distinct : (config.sessionKeys.map part).Nodup) (unused : ∀ entry ∈ log, entry.1 ∉ config.sessionKeys.map part) :
    Safe guard (fromConfig config).slot log := by
  refine safe.install (fun index other keys second found found' same => ?_) fun {index keys counter} found used => ?_
  · rw [serves, serves] at same
    exact fromConfig_distinct distinct found found' same
  · rw [serves] at used
    exact unused _ used (List.mem_map.mpr ⟨_, fromConfig_keys found, rfl⟩)

theorem fromConfig_safe_nil (serves : ∀ keys, guard.key keys = part (keys.sendCipher, keys.receiveCipher))
    (distinct : (config.sessionKeys.map part).Nodup) : Safe guard (fromConfig config).slot [] :=
  safe_nil fun index other keys second found found' same => by
    rw [serves, serves] at same
    exact fromConfig_distinct distinct found found' same

end Config

end Gatherlink.Dataplane.TransportSecurity
