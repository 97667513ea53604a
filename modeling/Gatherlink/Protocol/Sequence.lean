import Gatherlink.Protocol.Frame
import Mathlib.Data.Finset.Card
import Mathlib.Data.Finset.Image
import Mathlib.Algebra.BigOperators.Group.List.Basic
import Mathlib.Tactic.Ring

/-! The receiver-side tracker that reports gaps and late arrivals of the global sequence. Over a run without
repetitions the reports add up to what never arrived. -/

namespace Gatherlink.Protocol

structure SequenceObservation where
  missingPackets : UInt64
  outOfOrder : Bool
  duplicateOrLate : Bool
  deriving DecidableEq

structure GlobalSequenceTracker where
  nextExpected : Option SequenceNumber := none
  deriving DecidableEq

def GlobalSequenceTracker.observe (tracker : GlobalSequenceTracker) (sequence : SequenceNumber) :
    SequenceObservation × GlobalSequenceTracker :=
  match tracker.nextExpected with
  | none => (⟨0, false, false⟩, ⟨some (sequence + 1)⟩)
  | some expected =>
      if sequence = expected then (⟨0, false, false⟩, ⟨some (expected + 1)⟩)
      else if sequence - expected < 2 ^ 63 then (⟨sequence - expected, false, false⟩, ⟨some (sequence + 1)⟩)
      else (⟨0, true, true⟩, tracker)

namespace GlobalSequenceTracker

/-- The observations of a list of arrivals in turn, and the tracker after them. -/
def observeAll : GlobalSequenceTracker → List SequenceNumber → List SequenceObservation × GlobalSequenceTracker
  | tracker, [] => ([], tracker)
  | tracker, sequence :: rest =>
      let (observation, next) := tracker.observe sequence
      let (observations, last) := observeAll next rest
      (observation :: observations, last)

end GlobalSequenceTracker

/-- How far behind the first sequence number another one lies, across the wrap. -/
def offsetFrom (first sequence : SequenceNumber) : Nat := (sequence - first).toNat

/-- The missing packets that a list of observations reports, less those that arrived late. -/
def reportedLoss (observations : List SequenceObservation) : Int :=
  (observations.map (·.missingPackets.toNat)).sum - (observations.countP (·.outOfOrder) : Nat)

section Loss

variable {first expected sequence : SequenceNumber} {seen : List SequenceNumber}

/-- The tracker expects the number behind the furthest one seen. -/
structure Expects (first expected : SequenceNumber) (seen : List SequenceNumber) : Prop where
  near : offsetFrom first expected ≤ 2 ^ 63 + 1
  started : first ∈ seen
  behind : ∀ sequence ∈ seen, offsetFrom first sequence < offsetFrom first expected
  distinct : seen.Nodup

theorem offsetFrom_injective {left right : SequenceNumber} (same : offsetFrom first left = offsetFrom first right) :
    left = right := by
  apply UInt64.toNat_inj.mp
  have := first.toNat_lt
  have := left.toNat_lt
  have := right.toNat_lt
  simp only [offsetFrom, UInt64.toNat_sub] at same
  omega

theorem offsetFrom_self : offsetFrom first first = 0 := by simp [offsetFrom]

theorem offsetFrom_next (room : offsetFrom first sequence ≤ 2 ^ 63) :
    offsetFrom first (sequence + 1) = offsetFrom first sequence + 1 := by
  have := first.toNat_lt
  have := sequence.toNat_lt
  simp only [offsetFrom, UInt64.toNat_sub, UInt64.toNat_add, UInt64.reduceToNat] at room ⊢
  omega

theorem half_toNat : (2 ^ 63 : UInt64).toNat = 2 ^ 63 := by decide +kernel

theorem distance_eq : (sequence - expected).toNat =
    (2 ^ 64 - offsetFrom first expected + offsetFrom first sequence) % 2 ^ 64 := by
  have := first.toNat_lt
  have := sequence.toNat_lt
  have := expected.toNat_lt
  simp only [offsetFrom, UInt64.toNat_sub]
  omega

section
variable (expects : Expects first expected seen)
include expects

theorem Expects.perm {others : List SequenceNumber} (same : seen.Perm others) : Expects first expected others where
  near := expects.near
  started := same.mem_iff.mp expects.started
  behind sequence member := expects.behind sequence (same.mem_iff.mpr member)
  distinct := same.nodup_iff.mp expects.distinct

/-- The furthest number seen moves the expectation behind it. -/
theorem Expects.advance (fresh : sequence ∉ seen)
    (near : offsetFrom first sequence ≤ 2 ^ 63) (ahead : offsetFrom first expected ≤ offsetFrom first sequence) :
    Expects first (sequence + 1) (sequence :: seen) where
  near := by
    rw [offsetFrom_next near]
    omega
  started := List.mem_cons_of_mem _ expects.started
  behind := by
    rw [offsetFrom_next near]
    intro other member
    rcases List.mem_cons.mp member with rfl | earlier
    · omega
    · have := expects.behind other earlier
      omega
  distinct := List.nodup_cons.mpr ⟨fresh, expects.distinct⟩

theorem Expects.repair (fresh : sequence ∉ seen)
    (late : offsetFrom first sequence < offsetFrom first expected) : Expects first expected (sequence :: seen) where
  near := expects.near
  started := List.mem_cons_of_mem _ expects.started
  behind := by
    intro other member
    rcases List.mem_cons.mp member with rfl | earlier
    · exact late
    · exact expects.behind other earlier
  distinct := List.nodup_cons.mpr ⟨fresh, expects.distinct⟩

/-- A new number ahead of the expected one is charged with the gap before it, and one behind repairs a gap. -/
theorem Expects.observe (fresh : sequence ∉ seen) (near : offsetFrom first sequence ≤ 2 ^ 63) :
    ∃ observation later, GlobalSequenceTracker.observe ⟨some expected⟩ sequence = (observation, ⟨some later⟩) ∧
      Expects first later (sequence :: seen) ∧
      reportedLoss [observation] = offsetFrom first later - offsetFrom first expected - 1 := by
  have moved : 0 < offsetFrom first sequence := by
    apply Nat.pos_of_ne_zero
    intro zero
    have same : sequence = first := offsetFrom_injective (zero.trans offsetFrom_self.symm)
    exact fresh (same ▸ expects.started)
  have distance := @distance_eq first expected sequence
  have bound := expects.near
  have positive := expects.behind first expects.started
  simp only [GlobalSequenceTracker.observe]
  rcases lt_trichotomy (offsetFrom first sequence) (offsetFrom first expected) with late | same | ahead
  · have other : sequence ≠ expected := by
      rintro rfl
      omega
    have far : ¬sequence - expected < 2 ^ 63 := by
      rw [UInt64.lt_iff_toNat_lt, distance, half_toNat]
      omega
    rw [if_neg other, if_neg far]
    refine ⟨_, expected, rfl, expects.repair fresh late, ?_⟩
    simp [reportedLoss]
  · have equal : sequence = expected := offsetFrom_injective same
    subst equal
    rw [if_pos rfl]
    refine ⟨_, _, rfl, expects.advance fresh near le_rfl, ?_⟩
    rw [offsetFrom_next near]
    simp [reportedLoss]
  · have other : sequence ≠ expected := by
      rintro rfl
      omega
    have close : sequence - expected < 2 ^ 63 := by
      rw [UInt64.lt_iff_toNat_lt, distance, half_toNat]
      omega
    rw [if_neg other, if_pos close]
    refine ⟨_, _, rfl, expects.advance fresh near ahead.le, ?_⟩
    rw [offsetFrom_next near]
    simp only [reportedLoss, List.map_cons, List.map_nil, List.sum_singleton, List.countP_singleton, distance]
    simp only [Bool.false_eq_true, if_false]
    omega

end

theorem reportedLoss_cons (observation : SequenceObservation) (rest : List SequenceObservation) :
    reportedLoss (observation :: rest) = reportedLoss [observation] + reportedLoss rest := by
  simp only [reportedLoss, List.map_cons, List.map_nil, List.sum_cons, List.sum_nil, List.countP_cons, List.countP_nil]
  push_cast
  ring

/-- Along a run the reported loss is what the expectation moved by, less the numbers that arrived. -/
theorem Expects.observeAll (expects : Expects first expected seen) {rest : List SequenceNumber}
    (distinct : rest.Nodup) (fresh : ∀ sequence ∈ rest, sequence ∉ seen)
    (near : ∀ sequence ∈ rest, offsetFrom first sequence ≤ 2 ^ 63) :
    ∃ later, (GlobalSequenceTracker.observeAll ⟨some expected⟩ rest).2 = ⟨some later⟩ ∧
      Expects first later (rest.reverse ++ seen) ∧
      reportedLoss (GlobalSequenceTracker.observeAll ⟨some expected⟩ rest).1 =
        offsetFrom first later - offsetFrom first expected - rest.length := by
  induction rest generalizing expected seen with
  | nil => exact ⟨expected, rfl, expects, by simp [GlobalSequenceTracker.observeAll, reportedLoss]⟩
  | cons sequence rest ih =>
    obtain ⟨observation, middle, observed, step, loss⟩ :=
      expects.observe (fresh sequence List.mem_cons_self) (near sequence List.mem_cons_self)
    rw [List.nodup_cons] at distinct
    have unseen : ∀ other ∈ rest, other ∉ sequence :: seen := by
      intro other member again
      rcases List.mem_cons.mp again with rfl | earlier
      · exact distinct.1 member
      · exact fresh other (List.mem_cons_of_mem _ member) earlier
    obtain ⟨later, ended, final, total⟩ :=
      ih step distinct.2 unseen fun other member => near other (List.mem_cons_of_mem _ member)
    refine ⟨later, ?_, ?_, ?_⟩
    · simp only [GlobalSequenceTracker.observeAll, observed, ended]
    · rw [List.reverse_cons, List.append_assoc, List.singleton_append]
      exact final
    · simp only [GlobalSequenceTracker.observeAll, observed]
      rw [reportedLoss_cons, loss, total, List.length_cons]
      push_cast
      ring

/-- The offsets up to the expected number that no observed number has. -/
def unobserved (first expected : SequenceNumber) (seen : List SequenceNumber) : Finset Nat :=
  (Finset.range (offsetFrom first expected)).filter fun offset => first + UInt64.ofNat offset ∉ seen

theorem offsetFrom_add {offset : Nat} (small : offset < 2 ^ 64) :
    offsetFrom first (first + UInt64.ofNat offset) = offset := by
  have := first.toNat_lt
  simp only [offsetFrom, UInt64.toNat_sub, UInt64.toNat_add, UInt64.toNat_ofNat']
  omega

theorem Expects.unobserved_card (expects : Expects first expected seen) :
    ((unobserved first expected seen).card : Int) = offsetFrom first expected - seen.length := by
  have taken : (Finset.range (offsetFrom first expected)).filter
      (fun offset => first + UInt64.ofNat offset ∈ seen) = (seen.map (offsetFrom first)).toFinset := by
    ext offset
    simp only [Finset.mem_filter, Finset.mem_range, List.mem_toFinset, List.mem_map]
    constructor
    · rintro ⟨inside, member⟩
      have bound := expects.near
      exact ⟨_, member, offsetFrom_add (by omega)⟩
    · rintro ⟨sequence, member, rfl⟩
      refine ⟨expects.behind sequence member, ?_⟩
      simpa [offsetFrom] using member
  have count : (seen.map (offsetFrom first)).toFinset.card = seen.length := by
    rw [List.toFinset_card_of_nodup (expects.distinct.map fun _ _ => offsetFrom_injective), List.length_map]
  have split := Finset.card_filter_add_card_filter_not (s := Finset.range (offsetFrom first expected))
    (fun offset => first + UInt64.ofNat offset ∈ seen)
  rw [taken, count, Finset.card_range] at split
  rw [unobserved]
  omega

/-- Gaps are charged once and repaired by what arrives late: what stays charged is what never arrived. -/
theorem reportedLoss_eq_unobserved {rest : List SequenceNumber} (distinct : (first :: rest).Nodup)
    (near : ∀ sequence ∈ rest, offsetFrom first sequence ≤ 2 ^ 63) :
    ∃ expected, (GlobalSequenceTracker.observeAll {} (first :: rest)).2.nextExpected = some expected ∧
      reportedLoss (GlobalSequenceTracker.observeAll {} (first :: rest)).1 =
        ((unobserved first expected (first :: rest)).card : Int) := by
  have start : Expects first (first + 1) [first] :=
    { near := by simp [offsetFrom]
      started := List.mem_singleton.mpr rfl
      behind := by simp [offsetFrom]
      distinct := List.nodup_singleton first }
  rw [List.nodup_cons] at distinct
  have fresh : ∀ sequence ∈ rest, sequence ∉ [first] := by
    intro sequence member again
    rw [List.mem_singleton.mp again] at member
    exact distinct.1 member
  obtain ⟨expected, ended, final, loss⟩ := start.observeAll distinct.2 fresh near
  have complete : Expects first expected (first :: rest) :=
    final.perm ((List.perm_append_comm).trans ((List.reverse_perm rest).cons first))
  refine ⟨expected, ?_, ?_⟩
  · simp only [GlobalSequenceTracker.observeAll, GlobalSequenceTracker.observe, ended]
  · have opening : reportedLoss [⟨0, false, false⟩] = 0 := by simp [reportedLoss]
    have second : offsetFrom first (first + 1) = 1 := by simp [offsetFrom]
    simp only [GlobalSequenceTracker.observeAll, GlobalSequenceTracker.observe]
    rw [complete.unobserved_card, reportedLoss_cons, opening, loss, second, List.length_cons]
    push_cast
    ring

/-- Four arrivals across the wrap: two leave gaps and one comes late. -/
theorem reportedLoss_eq_unobserved_wrap :
    let first : SequenceNumber := 18446744073709551614
    let rest : List SequenceNumber := [1, 0, 4]
    ∃ expected, (GlobalSequenceTracker.observeAll {} (first :: rest)).2.nextExpected = some expected ∧
      expected = 5 ∧ reportedLoss (GlobalSequenceTracker.observeAll {} (first :: rest)).1 = 3 ∧
      ((unobserved first expected (first :: rest)).card : Int) = 3 := by
  intro first rest
  obtain ⟨expected, ended, loss⟩ :=
    @reportedLoss_eq_unobserved first rest (by decide) (by simp [rest, first, offsetFrom, UInt64.size])
  have told : (GlobalSequenceTracker.observeAll {} (first :: rest)).2.nextExpected = some 5 := by decide +kernel
  have reported : reportedLoss (GlobalSequenceTracker.observeAll {} (first :: rest)).1 = 3 := by decide +kernel
  exact ⟨expected, ended, Option.some.inj (ended.symm.trans told), reported, loss.symm.trans reported⟩

end Loss
end Gatherlink.Protocol
