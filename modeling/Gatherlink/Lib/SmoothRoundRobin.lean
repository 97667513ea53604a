import Mathlib

/-! Smooth weighted round robin over a finite set of participants. In each round every eligible participant earns its
weight, and the one with the most credit is chosen and pays for all. With a fixed eligible set of total weight `W`,
every `W` rounds from zero choose each participant as often as its weight says; with a set that changes from round to
round the credits stay bounded, because the sum over every set of participants does. -/

namespace Gatherlink.Lib.SmoothRoundRobin

variable {ι : Type} [DecidableEq ι] {weight : ι → ℕ} {eligible : Finset ι} {credit next last : ι → ℤ}
  {chosen participant : ι}

def total (weight : ι → ℕ) (eligible : Finset ι) : ℕ := ∑ participant ∈ eligible, weight participant

structure Round (weight : ι → ℕ) (eligible : Finset ι) (credit : ι → ℤ) (chosen : ι) (next : ι → ℤ) : Prop where
  member : chosen ∈ eligible
  best : ∀ other ∈ eligible, credit other + weight other ≤ credit chosen + weight chosen
  pays : ∀ participant, next participant =
    credit participant + (if participant ∈ eligible then (weight participant : ℤ) else 0) -
      if participant = chosen then (total weight eligible : ℤ) else 0

theorem Round.sum_over (round : Round weight eligible credit chosen next) (set : Finset ι) :
    ∑ participant ∈ set, next participant = ∑ participant ∈ set, credit participant +
      (total weight (set ∩ eligible) : ℤ) - if chosen ∈ set then (total weight eligible : ℤ) else 0 := by
  rw [Finset.sum_congr rfl fun participant _ => round.pays participant, Finset.sum_sub_distrib, Finset.sum_add_distrib,
    Finset.sum_ite_mem, Finset.sum_ite_eq']
  simp [total]

theorem Round.sum_eligible (round : Round weight eligible credit chosen next) :
    ∑ participant ∈ eligible, next participant = ∑ participant ∈ eligible, credit participant := by
  rw [round.sum_over, Finset.inter_self, if_pos round.member]
  ring

section Fixed

/-- Rounds with one eligible set, and whom they choose. -/
inductive Rounds (weight : ι → ℕ) (eligible : Finset ι) : (ι → ℤ) → List ι → (ι → ℤ) → Prop
  | none (credit : ι → ℤ) : Rounds weight eligible credit [] credit
  | more {credit next last : ι → ℤ} {chosen : ι} {later : List ι} (first : Round weight eligible credit chosen next)
      (rest : Rounds weight eligible next later last) : Rounds weight eligible credit (chosen :: later) last

variable {choices : List ι}

section
variable (rounds : Rounds weight eligible credit choices last)
include rounds

theorem Rounds.choices_eligible :
    ∀ choice ∈ choices, choice ∈ eligible := by
  induction rounds with
  | none credit => simp
  | more first rest ih => exact List.forall_mem_cons.mpr ⟨first.member, ih⟩

theorem Rounds.outside (other : participant ∉ eligible) :
    last participant = credit participant := by
  induction rounds with
  | none credit => rfl
  | more first rest ih =>
    have different : participant ≠ _ := fun same => other (same ▸ first.member)
    rw [ih, first.pays, if_neg other, if_neg different]
    ring

/-- Every round earns, and every choice pays. -/
theorem Rounds.credit_eq (member : participant ∈ eligible) :
    last participant = credit participant + choices.length * (weight participant : ℤ) -
      choices.count participant * (total weight eligible : ℤ) := by
  induction rounds with
  | none credit => simp
  | @more credit next last chosen later first rest ih =>
    rw [ih, first.pays, if_pos member, List.length_cons, List.count_cons]
    by_cases same : participant = chosen
    · simp only [same, if_true, beq_self_eq_true]
      push_cast
      ring
    · simp only [if_neg same, beq_iff_eq, if_neg (Ne.symm same)]
      push_cast
      ring

end

/-- No eligible participant owes as much as one round is worth. -/
def Solvent (weight : ι → ℕ) (eligible : Finset ι) (credit : ι → ℤ) : Prop :=
  ∑ participant ∈ eligible, credit participant = 0 ∧
    ∀ participant ∈ eligible, -(total weight eligible : ℤ) < credit participant

/-- The chosen participant has something before it pays, since together the eligible ones have a whole round. -/
theorem Round.solvent (round : Round weight eligible credit chosen next) (positive : 0 < total weight eligible)
    (solvent : Solvent weight eligible credit) : Solvent weight eligible next := by
  refine ⟨round.sum_eligible.trans solvent.1, fun participant member => ?_⟩
  rw [round.pays, if_pos member]
  have before := solvent.2 participant member
  split
  · rename_i same
    subst same
    have some : 0 < credit participant + weight participant := by
      by_contra poor
      have all : ∑ other ∈ eligible, (credit other + weight other) ≤ 0 :=
        Finset.sum_nonpos fun other here => (round.best other here).trans (not_lt.mp poor)
      rw [Finset.sum_add_distrib, solvent.1, ← Nat.cast_sum] at all
      have worth : (0 : ℤ) < total weight eligible := by exact_mod_cast positive
      rw [total] at worth
      omega
    omega
  · omega

theorem Rounds.solvent (rounds : Rounds weight eligible credit choices last) (positive : 0 < total weight eligible)
    (solvent : Solvent weight eligible credit) : Solvent weight eligible last := by
  induction rounds with
  | none credit => exact solvent
  | more first rest ih => exact ih (first.solvent positive solvent)

omit [DecidableEq ι] in
theorem solvent_zero (positive : 0 < total weight eligible) (zero : ∀ participant ∈ eligible, credit participant = 0) :
    Solvent weight eligible credit := by
  refine ⟨Finset.sum_eq_zero zero, fun participant member => ?_⟩
  rw [zero participant member]
  exact_mod_cast neg_lt_zero.mpr (Int.natCast_pos.mpr positive)

/-- Within the rounds of one block nobody is chosen more often than its weight, and there are just enough rounds for all
of them. -/
theorem Rounds.block (rounds : Rounds weight eligible credit choices last) (positive : 0 < total weight eligible)
    (zero : ∀ participant ∈ eligible, credit participant = 0) (length : choices.length = total weight eligible) :
    (∀ participant ∈ eligible, choices.count participant = weight participant) ∧
      ∀ participant ∈ eligible, last participant = 0 := by
  have worth : (0 : ℤ) < total weight eligible := by exact_mod_cast positive
  have ends (participant : ι) (member : participant ∈ eligible) : last participant =
      ((weight participant : ℤ) - choices.count participant) * total weight eligible := by
    rw [rounds.credit_eq member, zero participant member, length]
    ring
  have few : ∀ participant ∈ eligible, choices.count participant ≤ weight participant := by
    intro participant member
    have above := (rounds.solvent positive (solvent_zero positive zero)).2 participant member
    rw [ends participant member] at above
    by_contra more
    have less : (weight participant : ℤ) - choices.count participant ≤ -1 := by omega
    have owed : ((weight participant : ℤ) - choices.count participant) * total weight eligible ≤
        -1 * total weight eligible := mul_le_mul_of_nonneg_right less worth.le
    omega
  have all : ∑ participant ∈ eligible, choices.count participant = ∑ participant ∈ eligible, weight participant := by
    have everyone : ∑ participant ∈ eligible, Multiset.count participant (choices : Multiset ι) = choices.length :=
      Multiset.sum_count_eq_card rounds.choices_eligible
    simp only [Multiset.coe_count] at everyone
    rw [everyone, length, total]
  have exact : ∀ participant ∈ eligible, choices.count participant = weight participant :=
    (Finset.sum_eq_sum_iff_of_le few).mp all
  refine ⟨exact, fun participant member => ?_⟩
  rw [ends participant member, exact participant member]
  ring

/-- A participant is never a whole choice ahead of its share, nor one behind for each participant. -/
theorem Rounds.share {all : ℕ} (rounds : Rounds weight eligible credit choices last) (sum : total weight eligible = all)
    (positive : 0 < all) (zero : ∀ participant ∈ eligible, credit participant = 0) (member : participant ∈ eligible) :
    choices.count participant * all < choices.length * weight participant + all ∧
      choices.length * weight participant + all ≤ (choices.count participant + eligible.card) * all := by
  subst sum
  obtain ⟨balanced, above⟩ := rounds.solvent positive (solvent_zero positive zero)
  have most : last participant + total weight eligible ≤ ∑ other ∈ eligible, (last other + total weight eligible) :=
    Finset.single_le_sum (f := fun other => last other + (total weight eligible : ℤ))
      (fun other inside => by have := above other inside; omega) member
  have least := above participant member
  rw [Finset.sum_add_distrib, balanced, zero_add, Finset.sum_const, nsmul_eq_mul] at most
  rw [rounds.credit_eq member, zero participant member] at least most
  zify
  constructor <;> linarith

end Fixed

section Changing

variable [Fintype ι] {most : ℕ}

/-- What the credits of any `size` participants can come to, six times over. It is 0 for no one and for all, and bends
downwards by more than a round can add. -/
def reach (count most size : ℤ) : ℤ := most * (size * (count - size) * (2 * count + 2 * size + 3))

/-- No set of participants has more credit than its size allows, and together they have none. -/
structure Bounded (most : ℕ) (credit : ι → ℤ) : Prop where
  balanced : ∑ participant, credit participant = 0
  bounded : ∀ set : Finset ι, 6 * ∑ participant ∈ set, credit participant ≤ reach (Fintype.card ι) most set.card

omit [DecidableEq ι] [Fintype ι] in
theorem total_le (few : ∀ participant, weight participant ≤ most) (set : Finset ι) :
    total weight set ≤ set.card * most := by
  exact Finset.sum_le_card_nsmul _ _ _ fun participant _ => few participant

section
variable (round : Round weight eligible credit chosen next) (few : ∀ participant, weight participant ≤ most)
include round few

/-- The chosen participant is outside the set, and one of the set was eligible as well: neither can be far ahead of the
other, so the set has room for what it earns. -/
theorem Round.room (bounded : Bounded most credit) {set : Finset ι} (outside : chosen ∉ set)
    (inside : participant ∈ set) (earns : participant ∈ eligible) :
    6 * (∑ other ∈ set, credit other + (set.card * most : ℕ)) ≤ reach (Fintype.card ι) most set.card := by
  have larger := bounded.bounded (insert chosen set)
  have smaller := bounded.bounded (set.erase participant)
  have close := round.best participant earns
  have light := few chosen
  have size : 1 ≤ set.card := Finset.card_pos.mpr ⟨participant, inside⟩
  rw [Finset.sum_insert outside, Finset.card_insert_of_notMem outside] at larger
  rw [Finset.card_erase_of_mem inside, Nat.cast_sub size] at smaller
  have removed := Finset.add_sum_erase set credit inside
  simp only [reach] at larger smaller ⊢
  push_cast at larger smaller ⊢
  linarith

theorem Round.bounded (bounded : Bounded most credit) : Bounded most next := by
  have balanced : ∑ participant, next participant = 0 := by
    rw [round.sum_over, if_pos (Finset.mem_univ _), Finset.univ_inter, bounded.balanced]
    ring
  refine ⟨balanced, fun set => ?_⟩
  have before := bounded.bounded set
  rw [round.sum_over]
  by_cases paid : chosen ∈ set
  · have less : total weight (set ∩ eligible) ≤ total weight eligible :=
      Finset.sum_le_sum_of_subset Finset.inter_subset_right
    rw [if_pos paid]
    omega
  · rw [if_neg paid]
    rcases Finset.eq_empty_or_nonempty (set ∩ eligible) with nobody | ⟨participant, both⟩
    · rw [nobody, total, Finset.sum_empty]
      simpa using before
    · obtain ⟨inside, earns⟩ := Finset.mem_inter.mp both
      have room := round.room few bounded paid inside earns
      have earned := (total_le few (set ∩ eligible)).trans
        (Nat.mul_le_mul_right most (Finset.card_le_card Finset.inter_subset_left))
      omega

end

omit [DecidableEq ι] in
theorem bounded_zero (zero : ∀ participant, credit participant = 0) : Bounded most credit := by
  refine ⟨Finset.sum_eq_zero fun participant _ => zero participant, fun set => ?_⟩
  rw [Finset.sum_eq_zero fun participant _ => zero participant, mul_zero, reach]
  have size : (set.card : ℤ) ≤ Fintype.card ι := by exact_mod_cast Finset.card_le_univ set
  have rest : (0 : ℤ) ≤ Fintype.card ι - set.card := sub_nonneg.mpr size
  positivity

/-- One participant alone, and all but one. -/
theorem Bounded.within (bounded : Bounded most credit) (participant : ι) :
    |credit participant| ≤ Fintype.card ι * Fintype.card ι * most := by
  have count : 1 ≤ Fintype.card ι := Fintype.card_pos_iff.mpr ⟨participant⟩
  have alone := bounded.bounded {participant}
  have others := bounded.bounded (Finset.univ.erase participant)
  have split := Finset.add_sum_erase Finset.univ credit (Finset.mem_univ participant)
  rw [bounded.balanced] at split
  rw [Finset.sum_singleton, Finset.card_singleton] at alone
  rw [Finset.card_erase_of_mem (Finset.mem_univ _), Finset.card_univ, Nat.cast_sub count] at others
  simp only [reach, Nat.cast_one] at alone others
  have weights : (0 : ℤ) ≤ most := Int.natCast_nonneg most
  have some : (1 : ℤ) ≤ Fintype.card ι := by exact_mod_cast count
  generalize (Fintype.card ι : ℤ) = n at alone others some ⊢
  have upper : 1 * (n - 1) * (2 * n + 2 * 1 + 3) ≤ 6 * (n * n) := by nlinarith
  have lower : (n - 1) * (n - (n - 1)) * (2 * n + 2 * (n - 1) + 3) ≤ 6 * (n * n) := by nlinarith
  have high := mul_le_mul_of_nonneg_left upper weights
  have low := mul_le_mul_of_nonneg_left lower weights
  rw [abs_le]
  constructor <;> linarith

end Changing

end Gatherlink.Lib.SmoothRoundRobin
