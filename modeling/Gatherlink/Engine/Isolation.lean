import Gatherlink.Dataplane.Isolation
import Gatherlink.Engine.SendNonces

/-! Reassembly over whole runs. Nothing but a pushed frame touches the reassembly map, which also
outlives a reapply, so the log of pushes determines it. -/

namespace Gatherlink.Engine
open Protocol Crypto Dataplane Lib.Exec

/-- The map is the one that the pushes so far have made, and it answered each of them. -/
def Reassembles (machine : Machine) : Prop :=
  machine.engine.remoteFragments = reassembled machine.net.history.pushed ∧ Replays machine.net.history.pushed

theorem Reassembles.same {before after : Machine} (holds : Reassembles before)
    (map : after.engine.remoteFragments = before.engine.remoteFragments)
    (log : after.net.history.pushed = before.net.history.pushed) : Reassembles after := by
  rw [Reassembles, map, log]
  exact holds

theorem Reassembles.push {machine : Machine} (holds : Reassembles machine) (frame : Frame) (peerScope : Option UInt32) :
    Reassembles (finalState (pushFrameOrPayload frame peerScope machine)) := by
  have moved : Moves (fun before after => Reassembles before → Reassembles after)
      (pushFrameOrPayload frame peerScope) := by
    refine Moves.attempt fun machine holds => ?_
    obtain ⟨map, replays⟩ := holds
    refine ⟨?_, throughout_snoc.mpr ⟨replays, ?_⟩⟩
    · change (machine.engine.remoteFragments.pushFrameOrPayload frame).2 = reassembled (_ ++ [_])
      rw [reassembled_snoc, map]
    · change (machine.engine.remoteFragments.pushFrameOrPayload frame).1 = _
      rw [map]
  exact moved machine holds

theorem reassembles_admits (os : Os) (aead : Aead) :
    Admits os aead fun before after => Reassembles before → Reassembles after where
  quiet same holds := holds.same (tracked_fragments (tracked_of_steady same)) (tracked_pushed (tracked_of_steady same))
  pushes := fun machine holds => holds.push _ _
  opens := Moves.modifyGet fun machine holds => holds
  seals := Moves.attempt fun machine holds => holds
  batches := batches_of (fun group => Moves.attempt fun machine holds => holds) (fun machine entries holds => holds) _
  reschedules := reschedules_of fun same holds => holds.same (tracked_fragments same) (tracked_pushed same)
  wraps found step holds := by
    obtain ⟨entries, -, -, ledgers⟩ := step
    have ledger := congrArg (·.2.2.2) ledgers
    exact holds.same rfl ledger

theorem Reassembles.reapplied {before after : Machine} {now : Nat} {config : CoreRuntimeConfig}
    (holds : Reassembles before) (reapplied : Reapplied now config before after) : Reassembles after := by
  obtain same | ⟨middle, rebuilt, same, -, rfl⟩ := reapplied
  · exact holds.same (tracked_fragments same) (tracked_pushed same)
  · exact (holds.same (tracked_fragments same) (tracked_pushed same) : Reassembles middle)

section Runs

variable {os : Os} {aead : Aead} {now : Nat} {config : CoreRuntimeConfig} {operations : List Operation}
  {machine : Machine}

theorem Started.reassembles (started : Started os now config machine) : Reassembles machine := by
  have log := congrArg (·.2.2.2) started.ledgers
  simp only [Net.ledgers] at log
  rw [Reassembles, log, started.installed.2.2]
  exact ⟨rfl, throughout_nil⟩

theorem run_reassembles (started : Started os now config machine) : Reassembles (run os aead operations machine) :=
  (reassembles_admits os aead).run_keeps (fun holds _ reapplied => holds.reapplied reapplied) started.reassembles
    (along_true machine operations)

/-- As long as no fragment finds the entry of another datagram under its id, every reassembled
payload consists of pieces of one datagram, and each answer is what the datagram alone would get. -/
theorem reassembly_isolated (started : Started os now config machine)
    (undisturbed : Undisturbed (run os aead operations machine).net.history.pushed) :
    Throughout (fun before push => OneDatagram before push ∧ Isolated before push)
      (run os aead operations machine).net.history.pushed := by
  have isolated := isolated_of_undisturbed undisturbed (run_reassembles started).2
  exact fun before push after split =>
    ⟨(isolated before push after split).oneDatagram, isolated before push after split⟩

end Runs

section Collision

/-- One path to a relay that two peers share, each with its own session. -/
def twoPeersConfig : CoreRuntimeConfig :=
  { pairedConfig with
    security := .staticSessions
      [⟨1, 1, .replicate 32 5, .replicate 32 6, [300]⟩, ⟨2, 1, .replicate 32 7, .replicate 32 8, [301]⟩] }

/-- The two fragments of a datagram of the first peer. -/
def firstPeerHalves : Frame × Frame := (shortFirst.frame, shortSecond.frame)

/-- The last fragment of a datagram for which the second peer has chosen the same id. -/
def secondPeerHalf : Frame :=
  { shortSecond.frame with serviceId := 301, sequence := 7, payload := [9], payloadFits := by decide }

/-- The frame arrives at the path socket in a packet for one session, and is received. -/
def sessionDelivers (receiver : UInt32) (key : Key) (counter : Nat) (frame : Frame) : List Operation :=
  [.arrive 0 ⟨.v4 2 1, (encryptFrameWithCounter .transparent receiver key counter frame.encodeV2).toOption.getD [], 0⟩,
    .receive 16 ⟨0, []⟩]

/-- The first half of one peer's datagram, completed by the second half of the other's. -/
theorem mixed_log {log : List Push}
    (same : log = [⟨some 1, some (.replicate 32 6), firstPeerHalves.1, .ok none⟩,
      ⟨some 2, some (.replicate 32 8), secondPeerHalf, .ok (some [1, 2, 9])⟩]) :
    ¬Throughout OneDatagram log := by
  intro all
  obtain ⟨pieces, joined, found⟩ := all [_] _ [] same [1, 2, 9] 9 rfl rfl
  cases pieces with
  | nil => simp at joined
  | cons piece rest =>
    obtain ⟨source, member, own, fragment, carried, -, first, -⟩ := found 0 piece rfl
    simp only [List.singleton_append, List.mem_cons, List.not_mem_nil, or_false] at member
    obtain rfl | rfl := member
    · exact absurd own (by decide)
    · rw [← Option.some.inj carried] at first
      exact absurd first (by decide)

theorem reassembly_mixes_peers : ∃ machine, Started .willing 0 twoPeersConfig machine ∧
    ¬Throughout OneDatagram (run .willing .transparent
      (sessionDelivers 1 (.replicate 32 6) 0 firstPeerHalves.1 ++ sessionDelivers 2 (.replicate 32 8) 0 secondPeerHalf)
      machine).net.history.pushed := by
  refine ⟨⟨_, _, {}, {}⟩, ⟨Net.blank, rfl, rfl⟩, mixed_log ?_⟩
  decide +kernel

/-- The second peer's fragment comes when the first peer's datagram is complete. -/
theorem reassembly_isolated_in_turn : ∃ machine, Started .willing 0 twoPeersConfig machine ∧
    Throughout (fun before push => OneDatagram before push ∧ Isolated before push) (run .willing .transparent
      (sessionDelivers 1 (.replicate 32 6) 0 firstPeerHalves.1 ++
        sessionDelivers 1 (.replicate 32 6) 1 firstPeerHalves.2 ++
        sessionDelivers 2 (.replicate 32 8) 0 secondPeerHalf) machine).net.history.pushed := by
  have started : Started .willing 0 twoPeersConfig ⟨_, _, {}, {}⟩ := ⟨Net.blank, rfl, rfl⟩
  refine ⟨_, started, reassembly_isolated started ?_⟩
  decide +kernel

end Collision

end Gatherlink.Engine
