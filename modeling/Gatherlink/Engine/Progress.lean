import Gatherlink.Engine.ReplaySafety

/-! The sessions of a running engine only move on. -/

namespace Gatherlink.Engine
open Crypto Dataplane Lib.BigEndian Lib.Exec
open Protocol (ServiceId)

/-- The same session later: no counter is handed out again, and none let in again. -/
structure Advances (before after : TransportKeys) : Prop where
  same : after = { before with
    nextSendCounter := after.nextSendCounter, counterFits := after.counterFits, replayWindow := after.replayWindow }
  sends : before.nextSendCounter ≤ after.nextSendCounter
  blocks : ∀ {counter}, before.replayWindow.Blocks counter → after.replayWindow.Blocks counter

/-- The sessions are those of the start, each of them later. -/
def Onward (start now : TransportSecurity) : Prop := ∀ index, Option.Rel Advances (start.slot index) (now.slot index)

section Steps

variable {start now next : TransportSecurity} (onward : Onward start now)
include onward

theorem Onward.update {index : Option UInt32} {old new : TransportKeys} (here : now.slot index = some old)
    (advances : Advances old new) (slots : next.slot = Function.update now.slot index (some new)) :
    Onward start next := by
  intro other
  rw [slots]
  obtain rfl | same := eq_or_ne other index
  · have first := onward other
    rw [here] at first
    rw [Function.update_self]
    generalize start.slot other = earliest at first ⊢
    cases first with
    | some first =>
      exact .some ⟨by rw [advances.same, first.same], first.sends.trans advances.sends,
        fun blocked => advances.blocks (first.blocks blocked)⟩
  · rw [Function.update_of_ne same]
    exact onward other

theorem Onward.send {α : Type} {use : TransportKeys → Except CryptoError α × TransportKeys}
    (uses : ∀ keys, Advances keys (use keys).2) (serviceId : ServiceId) (sessionKey : Option UInt32) (plain : α) :
    Onward start (now.withSendKeys serviceId sessionKey plain use).2 := by
  obtain ⟨index, keys, here, -, -, slots⟩ | ⟨same, -⟩ := now.withSendKeys_cases serviceId sessionKey plain use
  · exact onward.update here (uses keys) slots
  · rwa [same]

theorem Onward.open (aead : Aead) (packet : Bytes) : Onward start (now.unprotectPacketWithSession aead packet).2 := by
  rw [TransportSecurity.unprotectPacketWithSession_security]
  obtain ⟨index, keys, here, -, slots⟩ | ⟨same, -⟩ := now.openPacket_cases aead packet
  · refine onward.update here ?_ slots
    obtain ⟨decrypted, -, -, -, opened⟩ | dropped := TransportSecurity.openWith_cases aead packet keys index
    · rw [opened]
      exact ⟨rfl, le_rfl, fun blocked => ReplayWindow.blocks_accept blocked decrypted.counter⟩
    · rw [dropped]
      exact ⟨rfl, le_rfl, id⟩
  · rwa [same]

end Steps

theorem onward_admits (os : Os) (aead : Aead) (start : TransportSecurity) : Admits os aead fun before after =>
    Onward start before.engine.transportSecurity → Onward start after.engine.transportSecurity where
  quiet same onward := tracked_security (tracked_of_steady same) ▸ onward
  opens := Moves.modifyGet fun machine onward => onward.open aead _
  pushes := Moves.attempt fun machine onward => onward
  seals := Moves.attempt fun machine onward => onward.send (fun keys => by
    unfold TransportKeys.encryptFrameWithPlaintext
    split <;> exact ⟨rfl, by simp, id⟩) _ _ _
  batches := batches_of (fun _ => Moves.attempt fun machine onward => onward.send (fun keys => by
    unfold TransportKeys.reserveSendCounters
    split <;> exact ⟨rfl, by simp, id⟩) _ _ _) (fun machine entries onward => onward) _
  reschedules := reschedules_of fun same onward => tracked_security same ▸ onward
  wraps found step onward := onward

/-- As long as no config is reapplied, no packet, datagram or other operation makes a session appear or vanish, changes
its keys, takes back a send counter or lets in a counter that was turned away. -/
theorem sessions_only_advance (os : Os) (aead : Aead) (machine : Machine) (operations : List Operation)
    (kept : ∀ operation ∈ operations, operation.Applies fun _ => False) :
    Onward machine.engine.transportSecurity (run os aead operations machine).engine.transportSecurity := by
  refine (onward_admits os aead _).run_keeps (fun _ allowed _ => absurd allowed.2 id) (fun index => ?_)
    ((along_true machine operations).and_forall kept)
  cases machine.engine.transportSecurity.slot index with
  | none => exact .none
  | some keys => exact .some ⟨rfl, le_rfl, id⟩

theorem sessions_advance_on_traffic : ∃ machine, Started .willing 0 pairedConfig machine ∧
    Onward machine.engine.transportSecurity (run .willing .transparent (.transmitOnPath 0 9 1 [7] :: peerDelivers 0)
      machine).engine.transportSecurity :=
  ⟨⟨_, _, {}, {}⟩, ⟨Net.blank, rfl, rfl⟩, sessions_only_advance .willing .transparent _ _
    (by simp [peerDelivers, Operation.Applies])⟩

end Gatherlink.Engine
