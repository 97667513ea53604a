import Mathlib

/-! Finite maps seen through lookup. Two maps are equal when they answer every lookup alike,
so no result depends on an iteration order. -/

namespace Gatherlink.Lib.Lookup

abbrev HashMap (κ ν : Type) := κ → Option ν

variable {κ ν : Type}

def empty : HashMap κ ν := fun _ => none

def retain (keep : κ → Bool) (entries : HashMap κ ν) : HashMap κ ν :=
  fun key => if keep key then entries key else none

@[simp] theorem empty_apply (key : κ) : (empty : HashMap κ ν) key = none := rfl

variable [DecidableEq κ]

def insert (entries : HashMap κ ν) (key : κ) (value : ν) : HashMap κ ν :=
  Function.update entries key (some value)

def remove (entries : HashMap κ ν) (key : κ) : HashMap κ ν :=
  Function.update entries key none

/-- Later pairs overwrite earlier ones. -/
def ofList (pairs : List (κ × ν)) : HashMap κ ν :=
  pairs.foldl (fun entries pair => insert entries pair.1 pair.2) empty

/-- `entry(key).or_insert(value)` followed by an update of the entry. -/
def upsert (entries : HashMap κ ν) (key : κ) (value : ν) (change : ν → ν) : HashMap κ ν :=
  insert entries key (change ((entries key).getD value))

@[simp] theorem insert_self (entries : HashMap κ ν) (key : κ) (value : ν) :
    insert entries key value key = some value := by
  simp [insert]

variable {key other : κ} {pairs : List (κ × ν)} {value : ν}

section
variable (entries : HashMap κ ν)
include entries

theorem insert_of_ne (value : ν) (different : other ≠ key) :
    insert entries key value other = entries other := by
  simp [insert, different]

@[simp] theorem remove_self (key : κ) : remove entries key key = none := by
  simp [remove]

theorem remove_of_ne (different : other ≠ key) :
    remove entries key other = entries other := by
  simp [remove, different]

theorem insert_apply (key other : κ) (value : ν) :
    insert entries key value other = if other = key then some value else entries other := by
  simp [insert, Function.update_apply]

private theorem mem_of_foldl
    (found : pairs.foldl (fun entries pair => insert entries pair.1 pair.2) entries key = some value) :
    entries key = some value ∨ (key, value) ∈ pairs := by
  induction pairs generalizing entries with
  | nil => exact Or.inl found
  | cons pair rest ih =>
    rcases ih (insert entries pair.1 pair.2) found with early | later
    · rw [insert_apply] at early
      split_ifs at early with same
      · exact Or.inr (by rw [same, ← Option.some.inj early]; exact List.mem_cons_self ..)
      · exact Or.inl early
    · exact Or.inr (List.mem_cons_of_mem _ later)

end

theorem mem_of_ofList (found : ofList pairs key = some value) :
    (key, value) ∈ pairs :=
  (mem_of_foldl empty found).resolve_left nofun

private theorem foldl_isSome (entries : HashMap κ ν) (known : (entries key).isSome ∨ key ∈ pairs.map Prod.fst) :
    (pairs.foldl (fun entries pair => insert entries pair.1 pair.2) entries key).isSome := by
  induction pairs generalizing entries with
  | nil => simpa using known
  | cons pair rest ih =>
    refine ih (insert entries pair.1 pair.2) ?_
    rw [insert_apply]
    rw [List.map_cons, List.mem_cons] at known
    split_ifs with same
    · exact Or.inl rfl
    · exact known.imp_right fun listed => listed.resolve_left same

theorem ofList_of_mem (distinct : (pairs.map Prod.fst).Nodup)
    (member : (key, value) ∈ pairs) : ofList pairs key = some value := by
  obtain ⟨found, stored⟩ := Option.isSome_iff_exists.mp
    (foldl_isSome (empty : HashMap κ ν) (Or.inr (List.mem_map_of_mem member)))
  have same := List.inj_on_of_nodup_map distinct (mem_of_ofList stored) member rfl
  exact stored.trans (congrArg (fun pair => some pair.2) same)

end Gatherlink.Lib.Lookup
