import Mathlib

/-! Cutting a list into consecutive pieces of one size, and recovering it from the pieces that
have arrived. -/

namespace Gatherlink.Lib.Chunks

variable {α : Type}

/-- Consecutive pieces of `size` elements; the last one may be shorter. -/
def chunks (size : Nat) (whole : List α) : List (List α) :=
  (List.range ((whole.length + size - 1) / size)).map fun index => (whole.drop (index * size)).take size

@[simp] theorem chunks_length (size : Nat) (whole : List α) :
    (chunks size whole).length = (whole.length + size - 1) / size := by
  simp [chunks]

theorem chunks_getElem (size : Nat) (whole : List α) (index : Nat) (inside : index < (chunks size whole).length) :
    (chunks size whole)[index] = (whole.drop (index * size)).take size := by
  simp [chunks]

theorem chunks_length_anti {small large : Nat} (positive : 0 < small) (smaller : small ≤ large) (whole : List α) :
    (chunks large whole).length ≤ (chunks small whole).length := by
  rw [chunks_length, chunks_length]
  have rounded := Nat.div_add_mod (whole.length + small - 1) small
  have below := Nat.mod_lt (whole.length + small - 1) positive
  have wider := Nat.mul_le_mul_right ((whole.length + small - 1) / small) smaller
  rw [← Nat.lt_succ_iff, Nat.div_lt_iff_lt_mul (by omega), Nat.succ_mul, Nat.mul_comm _ large]
  omega

variable {size : Nat}

theorem chunks_piece_length {whole piece : List α} {index : Nat}
    (found : (chunks size whole)[index]? = some piece) : piece.length ≤ size := by
  obtain ⟨inside, same⟩ := List.getElem?_eq_some_iff.mp found
  rw [← same, chunks_getElem]
  exact List.length_take_le ..

theorem chunks_head {whole piece : List α} (first : (chunks size whole)[0]? = some piece) :
    piece = whole.take size := by
  obtain ⟨inside, same⟩ := List.getElem?_eq_some_iff.mp first
  rw [← same, chunks_getElem]
  simp

private theorem flatten_pieces (size count : Nat) (whole : List α) :
    ((List.range count).map fun index => (whole.drop (index * size)).take size).flatten =
      whole.take (count * size) := by
  induction count with
  | zero => simp
  | succ count ih =>
    rw [List.range_succ, List.map_append, List.flatten_append, ih]
    simp [Nat.add_mul, List.take_add]

theorem flatten_chunks (positive : 0 < size) (whole : List α) :
    (chunks size whole).flatten = whole := by
  rw [chunks, flatten_pieces, List.take_of_length_le]
  have rounded := Nat.div_add_mod (whole.length + size - 1) size
  have small := Nat.mod_lt (whole.length + size - 1) positive
  rw [Nat.mul_comm size] at rounded
  omega

/-- The pieces that have arrived: a slot is filled exactly when its index is among them. -/
def arrived (pieces : List (List α)) (indexes : Finset Nat) : List (Option (List α)) :=
  pieces.mapIdx fun index piece => if index ∈ indexes then some piece else none

variable (pieces : List (List α))

@[simp] theorem arrived_length (indexes : Finset Nat) :
    (arrived pieces indexes).length = pieces.length := by
  simp [arrived]

theorem arrived_empty : arrived pieces ∅ = List.replicate pieces.length none := by
  apply List.ext_getElem <;> simp [arrived]

variable (indexes : Finset Nat)

theorem arrived_getElem? (index : Nat) (inside : index < pieces.length) :
    (arrived pieces indexes)[index]? = some (if index ∈ indexes then some pieces[index] else none) := by
  simp [arrived, inside]

theorem arrived_insert (index : Nat) (inside : index < pieces.length) :
    (arrived pieces indexes).set index (some pieces[index]) = arrived pieces (insert index indexes) := by
  apply List.ext_getElem
  · simp
  · intro position first second
    by_cases here : index = position
    · subst here
      simp [arrived]
    · have there : position ≠ index := fun same => here same.symm
      simp [arrived, here, there]

theorem arrived_all :
    (arrived pieces indexes).all (·.isSome) = true ↔ ∀ index < pieces.length, index ∈ indexes := by
  rw [List.all_eq_true]
  constructor
  · intro filled index inside
    have slot := filled _ (List.mem_of_getElem? (arrived_getElem? pieces indexes index inside))
    by_contra missing
    simp [missing] at slot
  · intro full slot member
    obtain ⟨index, inside, rfl⟩ := List.getElem_of_mem member
    rw [arrived_length] at inside
    simp [arrived, full index inside]

theorem arrived_full
    (full : ∀ index < pieces.length, index ∈ indexes) : arrived pieces indexes = pieces.map some := by
  apply List.ext_getElem
  · simp
  · intro index first second
    simp only [List.length_map] at second
    simp [arrived, full index second]

end Gatherlink.Lib.Chunks
