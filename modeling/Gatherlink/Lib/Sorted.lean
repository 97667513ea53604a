import Mathlib

/-! Maps ordered by a numeric key, as lists in strictly increasing key order. -/

namespace Gatherlink.Lib.Sorted

variable {α : Type} (rank : α → Nat)

def Increasing (items : List α) : Prop := items.Pairwise fun earlier later => rank earlier < rank later

/-- Insert at the key's place; an item that already has the key stays. -/
def insertNew (item : α) : List α → List α
  | [] => [item]
  | first :: rest =>
      if rank item < rank first then item :: first :: rest
      else if rank item = rank first then first :: rest
      else first :: insertNew item rest

/-- The item with a key, and the others. -/
def takeAt (key : Nat) (items : List α) : Option α × List α :=
  (items.find? fun item => rank item == key, items.filter fun item => rank item != key)

variable {rank}

variable {item : α} {items : List α}

theorem mem_insertNew {other : α} (member : other ∈ insertNew rank item items) :
    other = item ∨ other ∈ items := by
  induction items with
  | nil => simpa [insertNew] using member
  | cons first rest ih =>
    rw [insertNew] at member
    split_ifs at member with before same
    · simpa using member
    · exact Or.inr member
    · rcases List.mem_cons.mp member with here | later
      · exact Or.inr (here ▸ List.mem_cons_self ..)
      · exact (ih later).imp id (List.mem_cons_of_mem _)

theorem insertNew_sorted (sorted : Increasing rank items) :
    Increasing rank (insertNew rank item items) := by
  induction items with
  | nil => exact List.pairwise_singleton ..
  | cons first rest ih =>
    obtain ⟨below, tail⟩ := List.pairwise_cons.mp sorted
    rw [insertNew]
    split_ifs with before same
    · refine List.pairwise_cons.mpr ⟨?_, sorted⟩
      intro other member
      rcases List.mem_cons.mp member with here | later
      · exact here ▸ before
      · exact before.trans (below other later)
    · exact sorted
    · refine List.pairwise_cons.mpr ⟨?_, ih tail⟩
      intro other member
      rcases mem_insertNew member with here | later
      · rw [here]
        omega
      · exact below other later

theorem takeAt_sorted {key : Nat} (sorted : Increasing rank items) :
    Increasing rank (takeAt rank key items).2 :=
  List.Pairwise.filter _ sorted

theorem insertNew_cases : insertNew rank item items = items ∨ (insertNew rank item items).Perm (item :: items) := by
  induction items with
  | nil => exact .inr (List.Perm.refl _)
  | cons first rest ih =>
    rw [insertNew]
    split_ifs with before same
    · exact .inr (List.Perm.refl _)
    · exact .inl rfl
    · rcases ih with same | perm
      · exact .inl (by rw [same])
      · exact .inr ((perm.cons first).trans (List.Perm.swap ..))

theorem insertNew_perm (fresh : ∀ other ∈ items, rank other ≠ rank item) :
    (insertNew rank item items).Perm (item :: items) := by
  induction items with
  | nil => exact List.Perm.refl _
  | cons first rest ih =>
    have other : rank item ≠ rank first := (fresh first List.mem_cons_self).symm
    rw [insertNew, if_neg other]
    split_ifs
    · exact List.Perm.refl _
    · exact ((ih fun other member => fresh other (List.mem_cons_of_mem _ member)).cons first).trans (List.Perm.swap ..)

theorem takeAt_perm {key : Nat} (sorted : Increasing rank items)
    (found : (takeAt rank key items).1 = some item) : items.Perm (item :: (takeAt rank key items).2) := by
  induction items with
  | nil => simp [takeAt] at found
  | cons first tail ih =>
    obtain ⟨below, sortedTail⟩ := List.pairwise_cons.mp sorted
    simp only [takeAt] at found ih ⊢
    by_cases here : rank first = key
    · have same : first = item := by simpa [here] using found
      have others : tail.filter (fun other => rank other != key) = tail := by
        rw [List.filter_eq_self]
        intro other member
        have above := below other member
        simp only [bne_iff_ne, ne_eq]
        omega
      rw [List.filter_cons_of_neg (by simp [here]), others, same]
    · have later : tail.find? (fun other => rank other == key) = some item := by
        simpa [here] using found
      rw [List.filter_cons_of_pos (by simp [here])]
      exact ((ih sortedTail later).cons first).trans (List.Perm.swap ..)

end Gatherlink.Lib.Sorted
