import Gatherlink.Protocol.Frame
import Mathlib

/-! Receiver-side dedupe: the recent (service, peer scope, sequence) keys, oldest forgotten first. -/

namespace Gatherlink.Dataplane
open Protocol

structure DedupeKey where
  serviceId : ServiceId
  peerScope : Option UInt32
  sequence : SequenceNumber
  deriving DecidableEq

inductive DedupeObservation where
  | firstSeen
  | duplicate
  deriving DecidableEq

/-- The hash set and the queue always hold the same keys, each once. -/
structure DedupeWindow where
  capacity : Nat
  seen : Finset DedupeKey
  order : List DedupeKey
  capacityPos : 0 < capacity
  orderNodup : order.Nodup
  seenOrder : seen = order.toFinset

namespace DedupeWindow

variable (capacity : Nat)

def new : DedupeWindow where
  capacity := max capacity 1
  seen := ∅
  order := []
  capacityPos := by omega
  orderNodup := List.nodup_nil
  seenOrder := rfl

def default : DedupeWindow := new 4096

/-- Forget the oldest keys until at most `capacity` are left. -/
def expire (capacity : Nat) : Finset DedupeKey → List DedupeKey → Finset DedupeKey × List DedupeKey
  | seen, [] => (seen, [])
  | seen, expired :: rest =>
      if (expired :: rest).length > capacity then expire capacity (seen.erase expired) rest
      else (seen, expired :: rest)

theorem expire_order (seen : Finset DedupeKey) (order : List DedupeKey) :
    (expire capacity seen order).2 = order.drop (order.length - capacity) := by
  induction order generalizing seen with
  | nil => simp [expire]
  | cons expired rest ih =>
    rw [expire]
    split
    · rename_i long
      rw [ih]
      simp only [List.length_cons] at long ⊢
      rw [show rest.length + 1 - capacity = (rest.length - capacity) + 1 by omega, List.drop_succ_cons]
    · rename_i short
      rw [Nat.sub_eq_zero_of_le (Nat.le_of_not_lt short), List.drop_zero]

theorem expire_seen {order : List DedupeKey} (nodup : order.Nodup) :
    (expire capacity order.toFinset order).1 = (expire capacity order.toFinset order).2.toFinset := by
  induction order with
  | nil => simp [expire]
  | cons expired rest ih =>
    rw [expire]
    split
    · have fresh : expired ∉ rest.toFinset := by simpa using (List.nodup_cons.mp nodup).1
      rw [List.toFinset_cons, Finset.erase_insert fresh]
      exact ih (List.nodup_cons.mp nodup).2
    · rfl

variable {window : DedupeWindow} {key : DedupeKey}

private theorem queue_nodup (unknown : key ∉ window.seen) :
    (window.order ++ [key]).Nodup := by
  rw [window.seenOrder, List.mem_toFinset] at unknown
  refine List.nodup_append.mpr ⟨window.orderNodup, List.nodup_singleton key, ?_⟩
  intro other member last found same
  rw [List.mem_singleton] at found
  exact unknown (found ▸ same ▸ member)

def observeInScope (window : DedupeWindow) (key : DedupeKey) : DedupeObservation × DedupeWindow :=
  if known : key ∈ window.seen then (.duplicate, window)
  else (.firstSeen,
    { capacity := window.capacity
      seen := (expire window.capacity (insert key window.seen) (window.order ++ [key])).1
      order := (expire window.capacity (insert key window.seen) (window.order ++ [key])).2
      capacityPos := window.capacityPos
      orderNodup := by
        rw [expire_order]
        exact (queue_nodup known).sublist (List.drop_sublist ..)
      seenOrder := by
        have whole : insert key window.seen = (window.order ++ [key]).toFinset := by
          rw [window.seenOrder, List.toFinset_append]
          ext other
          simp
        rw [whole]
        exact expire_seen _ (queue_nodup known) })

/-- The window remembers exactly the last `capacity` keys reported as first seen. -/
def Remembers (window : DedupeWindow) (history : List DedupeKey) : Prop :=
  window.order = history.drop (history.length - window.capacity)

theorem remembers_new : (new capacity).Remembers [] := by
  simp [Remembers, new]

theorem observeInScope_capacity (window : DedupeWindow) (key : DedupeKey) :
    (window.observeInScope key).2.capacity = window.capacity := by
  unfold observeInScope
  split <;> rfl

theorem observe_duplicate_iff (window : DedupeWindow) (key : DedupeKey) :
    (window.observeInScope key).1 = .duplicate ↔ key ∈ window.order := by
  rw [← List.mem_toFinset, ← window.seenOrder]
  unfold observeInScope
  split <;> simp_all

theorem observe_duplicate_window
    (known : (window.observeInScope key).1 = .duplicate) : (window.observeInScope key).2 = window := by
  unfold observeInScope at *
  split at * <;> simp_all

theorem observe_firstSeen_order
    (fresh : (window.observeInScope key).1 = .firstSeen) : (window.observeInScope key).2.order =
      (window.order ++ [key]).drop ((window.order ++ [key]).length - window.capacity) := by
  unfold observeInScope at fresh ⊢
  by_cases known : key ∈ window.seen
  · simp [known] at fresh
  · rw [dif_neg known]
    exact expire_order ..

theorem observe_known (fresh : (window.observeInScope key).1 = .firstSeen) :
    ((window.observeInScope key).2.observeInScope key).1 = .duplicate := by
  have pos := window.capacityPos
  rw [observe_duplicate_iff, observe_firstSeen_order fresh, List.drop_append_of_le_length]
  · simp
  · rw [List.length_append, List.length_singleton]
    omega

theorem Remembers.first_seen {history : List DedupeKey} (remembers : window.Remembers history)
    (fresh : (window.observeInScope key).1 = .firstSeen) :
    (window.observeInScope key).2.Remembers (history ++ [key]) := by
  unfold Remembers at *
  have pos := window.capacityPos
  rw [observe_firstSeen_order fresh, observeInScope_capacity, remembers, ← List.drop_append_of_le_length (by omega),
    List.drop_drop]
  congr 1
  simp only [List.length_append, List.length_drop, List.length_singleton]
  omega

/-- The window after a run of keys, and those of them that it reported as first seen. -/
def observeAll (window : DedupeWindow) : List DedupeKey → DedupeWindow × List DedupeKey
  | [] => (window, [])
  | key :: rest =>
      let after := (window.observeInScope key).2.observeAll rest
      (after.1, if (window.observeInScope key).1 = .firstSeen then key :: after.2 else after.2)

theorem Remembers.observeAll {history : List DedupeKey} (remembers : window.Remembers history) (keys : List DedupeKey) :
    (window.observeAll keys).1.Remembers (history ++ (window.observeAll keys).2) ∧
      (window.observeAll keys).1.capacity = window.capacity := by
  induction keys generalizing window history with
  | nil => exact ⟨by simpa [DedupeWindow.observeAll] using remembers, rfl⟩
  | cons key rest ih =>
    rw [← observeInScope_capacity window key]
    rw [DedupeWindow.observeAll]
    cases answer : (window.observeInScope key).1 with
    | firstSeen => simpa [List.append_assoc] using ih (remembers.first_seen answer)
    | duplicate =>
      rw [observe_duplicate_window answer]
      simpa using ih remembers

/-- A key is a duplicate iff it is among the last `capacity` keys reported as first seen. -/
theorem duplicate_iff_recently_first_seen (positive : 1 ≤ capacity) (keys : List DedupeKey) (key : DedupeKey) :
    let run := (new capacity).observeAll keys
    ((run.1.observeInScope key).1 = .duplicate ↔ key ∈ run.2.drop (run.2.length - capacity)) ∧
      run.1.seen = run.1.order.toFinset ∧ run.1.order.Nodup ∧ run.1.order.length ≤ capacity := by
  intro run
  obtain ⟨remembers, same⟩ := (remembers_new capacity).observeAll keys
  have size : run.1.capacity = capacity := same.trans (max_eq_left positive)
  rw [Remembers, size, List.nil_append] at remembers
  refine ⟨?_, run.1.seenOrder, run.1.orderNodup, ?_⟩
  · rw [observe_duplicate_iff, remembers]
  · rw [remembers, List.length_drop]
    omega

/-- With room for one key, a key is forgotten as soon as the next one arrives, and is then first seen again. -/
theorem duplicate_iff_recently_first_seen_one :
    let run := (new 1).observeAll [⟨1, none, 5⟩, ⟨1, none, 6⟩, ⟨1, none, 6⟩]
    run.2 = [⟨1, none, 5⟩, ⟨1, none, 6⟩] ∧
      ((run.1.observeInScope ⟨1, none, 5⟩).1 = .duplicate ↔ ⟨1, none, 5⟩ ∈ run.2.drop (run.2.length - 1)) ∧
      run.1.seen = run.1.order.toFinset ∧ run.1.order.Nodup ∧ run.1.order.length ≤ 1 :=
  ⟨by decide, duplicate_iff_recently_first_seen 1 le_rfl [⟨1, none, 5⟩, ⟨1, none, 6⟩, ⟨1, none, 6⟩] ⟨1, none, 5⟩⟩

end DedupeWindow

end Gatherlink.Dataplane
