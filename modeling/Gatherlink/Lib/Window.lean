import Mathlib

/-! Filters that let each number of a stream through at most once, and only while it is not too far
behind the largest one that got through. Two such filters of one width cannot be told apart. -/

namespace Gatherlink.Lib.Window

variable {σ τ : Type}

/-- A number that has not been taken, and is less than `width` behind every number that has. -/
def Fresh (width : Nat) (taken : Set Nat) (number : Nat) : Prop :=
  number ∉ taken ∧ ∀ other ∈ taken, other < number + width

section Run

variable (offer : σ → Nat → Bool × σ)

/-- The answers to a stream of numbers. -/
def answers : σ → List Nat → List Bool
  | _, [] => []
  | state, number :: rest => (offer state number).1 :: answers (offer state number).2 rest

/-- The numbers of a stream that get through, in their order. -/
def accepted : σ → List Nat → List Nat
  | _, [] => []
  | state, number :: rest =>
      if (offer state number).1 then number :: accepted (offer state number).2 rest
      else accepted (offer state number).2 rest

def after : σ → List Nat → σ
  | state, [] => state
  | state, number :: rest => after (offer state number).2 rest

end Run

/-- `offer` decides freshness for the numbers in range, as long as its state tracks what was taken. -/
structure Decides (offer : σ → Nat → Bool × σ) (range : Nat → Prop) (width : Nat) (Tracks : σ → Set Nat → Prop) :
    Prop where
  fresh : ∀ {state taken number}, Tracks state taken → range number →
    ((offer state number).1 = true ↔ Fresh width taken number)
  takes : ∀ {state taken number}, Tracks state taken → range number → (offer state number).1 = true →
    Tracks (offer state number).2 (insert number taken)
  refuses : ∀ {state taken number}, Tracks state taken → range number → (offer state number).1 = false →
    Tracks (offer state number).2 taken

variable {offer : σ → Nat → Bool × σ} {other : τ → Nat → Bool × τ} {range : Nat → Prop} {width : Nat}
variable {Tracks : σ → Set Nat → Prop} {Follows : τ → Set Nat → Prop}

/-- After a stream the state tracks what was taken before and what got through. -/
theorem Decides.run (decides : Decides offer range width Tracks) {state : σ} {taken : Set Nat}
    (tracks : Tracks state taken) (numbers : List Nat) (inside : ∀ number ∈ numbers, range number) :
    Tracks (after offer state numbers) (taken ∪ {number | number ∈ accepted offer state numbers}) := by
  induction numbers generalizing state taken with
  | nil => simpa [after, accepted] using tracks
  | cons number rest ih =>
    have here := inside number List.mem_cons_self
    have later : ∀ number ∈ rest, range number := fun next member => inside next (List.mem_cons_of_mem _ member)
    cases answer : (offer state number).1 with
    | true =>
      have tracked := ih (decides.takes tracks here answer) later
      have regroup : insert number taken ∪ {next | next ∈ accepted offer (offer state number).2 rest} =
          taken ∪ {next | next ∈ accepted offer state (number :: rest)} := by
        ext next
        simp only [accepted, answer, if_true, Set.mem_union, Set.mem_insert_iff, Set.mem_ofPred_eq, List.mem_cons]
        tauto
      rw [regroup] at tracked
      exact tracked
    | false =>
      have tracked := ih (decides.refuses tracks here answer) later
      simpa only [after, accepted, answer, Bool.false_eq_true, if_false] using tracked

/-- Two filters of one width answer alike from states that track the same numbers. -/
theorem Decides.answers_eq (decides : Decides offer range width Tracks) (decides' : Decides other range width Follows)
    {state : σ} {state' : τ} {taken : Set Nat} (tracks : Tracks state taken) (follows : Follows state' taken)
    (numbers : List Nat) (inside : ∀ number ∈ numbers, range number) :
    answers offer state numbers = answers other state' numbers := by
  induction numbers generalizing state state' taken with
  | nil => rfl
  | cons number rest ih =>
    have here := inside number List.mem_cons_self
    have later : ∀ number ∈ rest, range number := fun next member => inside next (List.mem_cons_of_mem _ member)
    have same : (offer state number).1 = (other state' number).1 := by
      apply Bool.eq_iff_iff.mpr
      rw [decides.fresh tracks here, decides'.fresh follows here]
    rw [answers, answers, same, List.cons_inj_right]
    cases answer : (other state' number).1 with
    | true => exact ih (decides.takes tracks here (same.trans answer)) (decides'.takes follows here answer) later
    | false => exact ih (decides.refuses tracks here (same.trans answer)) (decides'.refuses follows here answer) later

end Gatherlink.Lib.Window
