import Mathlib.Data.Finset.Card
import Mathlib.Data.List.ReduceOption
import Mathlib.Order.Interval.Finset.Nat

/-! Numbers handed out in turn: a request that names a number keeps it, any other request takes the least number
from the cursor on that no request names. -/

namespace Gatherlink.Lib.Allocation

theorem taken_above_lt {taken : List Nat} {cursor : Nat} (member : cursor ∈ taken) :
    (taken.filter (cursor + 1 ≤ ·)).length < (taken.filter (cursor ≤ ·)).length := by
  have nested : taken.filter (cursor + 1 ≤ ·) = (taken.filter (cursor ≤ ·)).filter (cursor + 1 ≤ ·) := by
    rw [List.filter_filter]
    apply List.filter_congr
    intro number _
    simp only [← Bool.decide_and, decide_eq_decide]
    omega
  rw [nested]
  apply List.length_filter_lt_length_iff_exists.mpr
  exact ⟨cursor, by simp [member], by simp⟩

/-- The least number from the cursor on that is not taken. -/
def nextFree (taken : List Nat) (cursor : Nat) : Nat :=
  if cursor ∈ taken then nextFree taken (cursor + 1) else cursor
termination_by (taken.filter (cursor ≤ ·)).length
decreasing_by exact taken_above_lt ‹_›

section NextFree

variable (taken : List Nat) (cursor : Nat)

theorem le_nextFree : cursor ≤ nextFree taken cursor := by
  fun_induction nextFree taken cursor with
  | case1 cursor _ ih => omega
  | case2 cursor _ => exact Nat.le_refl cursor

theorem nextFree_not_mem : nextFree taken cursor ∉ taken := by
  fun_induction nextFree taken cursor with
  | case1 cursor _ ih => exact ih
  | case2 cursor free => exact free

variable {number : Nat}

theorem mem_of_lt_nextFree (above : cursor ≤ number) (below : number < nextFree taken cursor) :
    number ∈ taken := by
  fun_induction nextFree taken cursor with
  | case1 cursor member ih =>
    rcases Nat.eq_or_lt_of_le above with rfl | above
    · exact member
    · exact ih above below
  | case2 cursor _ => omega

end NextFree

def assign (taken : List Nat) : Nat → List (Option Nat) → List Nat
  | _, [] => []
  | cursor, some number :: requests => number :: assign taken cursor requests
  | cursor, none :: requests => nextFree taken cursor :: assign taken (nextFree taken cursor + 1) requests

section Assign

variable {taken : List Nat} {cursor : Nat} {requests : List (Option Nat)}

@[simp] theorem assign_length : (assign taken cursor requests).length = requests.length := by
  fun_induction assign taken cursor requests with
  | case1 => rfl
  | case2 cursor number requests ih => exact congrArg (· + 1) ih
  | case3 cursor requests ih => exact congrArg (· + 1) ih

theorem assign_kept :
    List.Forall₂ (fun request number => ∀ named ∈ request, number = named) requests (assign taken cursor requests) := by
  fun_induction assign taken cursor requests with
  | case1 => exact .nil
  | case2 cursor number requests ih => exact .cons (by simp) ih
  | case3 cursor requests ih => exact .cons (by simp) ih

theorem named_mem_assign (named : some number ∈ requests) : number ∈ assign taken cursor requests := by
  fun_induction assign taken cursor requests with
  | case1 => cases named
  | case2 cursor first requests ih =>
    rcases List.mem_cons.mp named with same | named
    · exact List.mem_cons.mpr (.inl (Option.some.inj same))
    · exact List.mem_cons_of_mem _ (ih named)
  | case3 cursor requests ih =>
    rcases List.mem_cons.mp named with same | named
    · cases same
    · exact List.mem_cons_of_mem _ (ih named)

theorem mem_assign (member : number ∈ assign taken cursor requests) :
    some number ∈ requests ∨ (cursor ≤ number ∧ number ∉ taken) := by
  fun_induction assign taken cursor requests with
  | case1 => cases member
  | case2 cursor first requests ih =>
    rcases List.mem_cons.mp member with rfl | member
    · exact .inl List.mem_cons_self
    · exact (ih member).imp_left (List.mem_cons_of_mem _)
  | case3 cursor requests ih =>
    rcases List.mem_cons.mp member with rfl | member
    · exact .inr ⟨le_nextFree taken cursor, nextFree_not_mem taken cursor⟩
    · rcases ih member with named | ⟨above, free⟩
      · exact .inl (List.mem_cons_of_mem _ named)
      · have past := le_nextFree taken cursor
        exact .inr ⟨by omega, free⟩

theorem assign_nodup (distinct : requests.reduceOption.Nodup)
    (named : ∀ number, some number ∈ requests → number ∈ taken) :
    (assign taken cursor requests).Nodup := by
  fun_induction assign taken cursor requests with
  | case1 => exact .nil
  | case2 cursor first requests ih =>
    rw [List.reduceOption_cons_of_some, List.nodup_cons] at distinct
    apply List.nodup_cons.mpr
    constructor
    · intro member
      rcases mem_assign member with again | ⟨-, free⟩
      · exact distinct.1 (List.reduceOption_mem_iff.mpr again)
      · exact free (named first List.mem_cons_self)
    · exact ih distinct.2 (fun number member => named number (List.mem_cons_of_mem _ member))
  | case3 cursor requests ih =>
    apply List.nodup_cons.mpr
    constructor
    · intro member
      rcases mem_assign member with again | ⟨past, -⟩
      · exact nextFree_not_mem taken cursor (named _ (List.mem_cons_of_mem _ again))
      · omega
    · exact ih distinct (fun number member => named number (List.mem_cons_of_mem _ member))

theorem assign_dense {below : Nat} (named : ∀ number, some number ∈ requests → number ∈ taken)
    (member : number ∈ assign taken cursor requests) (free : number ∉ taken) (above : cursor ≤ below)
    (less : below < number) : below ∈ taken ∨ below ∈ assign taken cursor requests := by
  fun_induction assign taken cursor requests with
  | case1 => cases member
  | case2 cursor first requests ih =>
    rcases List.mem_cons.mp member with rfl | member
    · exact absurd (named number List.mem_cons_self) free
    · have rest := ih (fun number member => named number (List.mem_cons_of_mem _ member)) member above
      exact rest.imp_right (List.mem_cons_of_mem _)
  | case3 cursor requests ih =>
    rcases Nat.lt_or_ge below (nextFree taken cursor) with before | after
    · exact .inl (mem_of_lt_nextFree taken cursor above before)
    rcases List.mem_cons.mp member with rfl | member
    · omega
    rcases Nat.eq_or_lt_of_le after with rfl | after
    · exact .inr List.mem_cons_self
    · have rest := ih (fun number member => named number (List.mem_cons_of_mem _ member)) member after
      exact rest.imp_right (List.mem_cons_of_mem _)

end Assign

section Range

variable {requests : List (Option Nat)} {start top : Nat}

/-- The numbers of all requests, when none is taken but those they name. -/
def assignAll (start : Nat) (requests : List (Option Nat)) : List Nat := assign requests.reduceOption start requests

private theorem named_taken (number : Nat) (named : some number ∈ requests) : number ∈ requests.reduceOption :=
  List.reduceOption_mem_iff.mpr named

@[simp] theorem assignAll_length : (assignAll start requests).length = requests.length := assign_length

theorem assignAll_nodup (distinct : requests.reduceOption.Nodup) : (assignAll start requests).Nodup :=
  assign_nodup distinct named_taken

theorem assignAll_covers (member : number ∈ assignAll start requests) (free : some number ∉ requests) :
    number + 1 - start ≤ requests.length := by
  have inside : Finset.Ico start (number + 1) ⊆ (assignAll start requests).toFinset := by
    intro below range
    obtain ⟨above, less⟩ := Finset.mem_Ico.mp range
    rw [List.mem_toFinset]
    rcases Nat.eq_or_lt_of_le (Nat.le_of_lt_succ less) with rfl | less
    · exact member
    have unnamed : number ∉ requests.reduceOption := fun named => free (List.reduceOption_mem_iff.mp named)
    rcases assign_dense named_taken member unnamed above less with named | found
    · exact named_mem_assign (List.reduceOption_mem_iff.mp named)
    · exact found
  calc number + 1 - start = (Finset.Ico start (number + 1)).card := (Nat.card_Ico ..).symm
    _ ≤ (assignAll start requests).toFinset.card := Finset.card_le_card inside
    _ ≤ (assignAll start requests).length := List.toFinset_card_le _
    _ = requests.length := assignAll_length

theorem start_le_of_mem_assignAll (named : ∀ number, some number ∈ requests → start ≤ number)
    (member : number ∈ assignAll start requests) : start ≤ number := by
  rcases mem_assign member with found | ⟨above, -⟩
  · exact named number found
  · exact above

theorem assignAll_le (named : ∀ number, some number ∈ requests → number ≤ top)
    (fits : requests.length ≤ top + 1 - start) (member : number ∈ assignAll start requests) :
    number ≤ top := by
  by_contra beyond
  have free : some number ∉ requests := fun found => beyond (named number found)
  have covered := assignAll_covers member free
  have some := List.length_pos_of_mem member
  rw [assignAll_length] at some
  omega

/-- The last number is handed out only when no other is left. -/
theorem top_mem_assignAll_iff (distinct : requests.reduceOption.Nodup)
    (named : ∀ number, some number ∈ requests → start ≤ number ∧ number ≤ top)
    (fits : requests.length ≤ top + 1 - start) (nonempty : start ≤ top) (free : some top ∉ requests) :
    top ∈ assignAll start requests ↔ requests.length = top + 1 - start := by
  constructor
  · intro member
    have covered := assignAll_covers member free
    omega
  · intro full
    have inside : (assignAll start requests).toFinset ⊆ Finset.Ico start (top + 1) := by
      intro number member
      rw [List.mem_toFinset] at member
      have above := start_le_of_mem_assignAll (fun number found => (named number found).1) member
      have below := assignAll_le (fun number found => (named number found).2) fits member
      exact Finset.mem_Ico.mpr ⟨above, Nat.lt_succ_of_le below⟩
    have whole : (assignAll start requests).toFinset = Finset.Ico start (top + 1) := by
      apply Finset.eq_of_subset_of_card_le inside
      rw [List.toFinset_card_of_nodup (assignAll_nodup distinct), assignAll_length, Nat.card_Ico, full]
    rw [← List.mem_toFinset, whole]
    exact Finset.mem_Ico.mpr ⟨nonempty, Nat.lt_succ_self top⟩

end Range

end Gatherlink.Lib.Allocation
