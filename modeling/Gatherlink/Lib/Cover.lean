import Mathlib

/-! Covering a demand with as few items as possible. -/

namespace Gatherlink.Lib.Cover

variable {α : Type} (value : α → Int) (target : Int)

/-- Take items until their values reach the target. -/
def takeUntil (total : Int) : List α → List α
  | [] => []
  | item :: rest => item :: if target ≤ total + value item then [] else takeUntil (total + value item) rest

variable {value target} {total : Int} {items part : List α}

theorem takeUntil_front (total : Int) (items : List α) : takeUntil value target total items <+: items := by
  induction items generalizing total with
  | nil => exact List.prefix_rfl
  | cons item rest ih =>
    refine List.cons_prefix_cons.mpr ⟨rfl, ?_⟩
    split
    · exact List.nil_prefix
    · exact ih _

theorem takeUntil_short {count : Nat} (below : total < target)
    (short : count < (takeUntil value target total items).length) :
    total + ((items.take count).map value).sum < target := by
  induction items generalizing total count with
  | nil => simp [takeUntil] at short
  | cons item rest ih =>
    cases count with
    | zero => simpa using below
    | succ count =>
      rw [takeUntil, List.length_cons, Nat.succ_lt_succ_iff] at short
      split_ifs at short with reached
      · simp at short
      · have later := ih (not_le.mp reached) short
        rw [List.take_succ_cons, List.map_cons, List.sum_cons]
        omega

theorem takeUntil_reaches (below : total < target) (enough : target ≤ total + (items.map value).sum) :
    target ≤ total + ((takeUntil value target total items).map value).sum := by
  induction items generalizing total with
  | nil => simp at enough; omega
  | cons item rest ih =>
    rw [List.map_cons, List.sum_cons] at enough
    rw [takeUntil, List.map_cons, List.sum_cons]
    split_ifs with reached
    · simpa using reached
    · have later := ih (not_le.mp reached) (by omega)
      omega

theorem takeUntil_all (nonneg : ∀ item ∈ items, 0 ≤ value item) (few : total + (items.map value).sum < target) :
    takeUntil value target total items = items := by
  induction items generalizing total with
  | nil => rfl
  | cons item rest ih =>
    obtain ⟨_, others⟩ := List.forall_mem_cons.mp nonneg
    have left : 0 ≤ (rest.map value).sum := List.sum_nonneg (by simpa using others)
    rw [List.map_cons, List.sum_cons] at few
    rw [takeUntil, if_neg (by omega), ih others (by omega)]

/-- Among all parts of one size the front of a falling list has the most. -/
theorem sum_le_take (falling : items.Pairwise fun one two => value two ≤ value one) (sub : part.Sublist items) :
    (part.map value).sum ≤ ((items.take part.length).map value).sum := by
  induction sub with
  | slnil => exact le_rfl
  | cons item sub ih =>
    rename_i part rest
    obtain ⟨most, tail⟩ := List.pairwise_cons.mp falling
    refine (ih tail).trans ?_
    cases size : part.length with
    | zero => simp
    | succ count =>
      rw [List.take_succ_cons, List.map_cons, List.sum_cons, List.take_add_one, List.map_append, List.sum_append]
      cases last : rest[count]? with
      | none =>
        have long := sub.length_le
        have short := List.getElem?_eq_none_iff.mp last
        omega
      | some other =>
        have less := most other (List.mem_of_getElem? last)
        simp
        omega
  | cons_cons item sub ih =>
    exact Int.add_le_add_left (ih (List.pairwise_cons.mp falling).2) _

end Gatherlink.Lib.Cover
