import Mathlib

/-! Dictionaries that keep their entries in the order of first insertion. Setting a key that is there
replaces its value in place. -/

namespace Gatherlink.Lib

/-- A fold whose steps change one part of the state is a fold over that part. -/
theorem foldl_part {σ δ α : Type} (get : σ → δ) (put : σ → δ → σ) (step : δ → α → δ) {act : σ → α → σ}
    (acts : ∀ state item, act state item = put state (step (get state) item))
    (get_put : ∀ state part, get (put state part) = part)
    (put_put : ∀ state part other, put (put state part) other = put state other)
    (put_get : ∀ state, put state (get state) = state) (items : List α) (state : σ) :
    items.foldl act state = put state (items.foldl step (get state)) := by
  induction items generalizing state with
  | nil => exact (put_get state).symm
  | cons item rest ih => rw [List.foldl_cons, List.foldl_cons, ih, acts, get_put, put_put]

structure Dict (κ ν : Type) where
  entries : List (κ × ν)
  unique : (entries.map Prod.fst).Nodup
  deriving DecidableEq

namespace Dict

variable {κ ν ω : Type}

theorem ext_entries {one two : Dict κ ν} (same : one.entries = two.entries) : one = two := by
  cases one
  cases two
  cases same
  rfl

def empty : Dict κ ν := ⟨[], by simp⟩

def mapValues (dict : Dict κ ν) (change : ν → ω) : Dict κ ω where
  entries := dict.entries.map fun entry => (entry.1, change entry.2)
  unique := by simpa [List.map_map, Function.comp_def] using dict.unique

variable {dict : Dict κ ν}

theorem value_unique {key : κ} {one two : ν} (first : (key, one) ∈ dict.entries)
    (second : (key, two) ∈ dict.entries) : one = two :=
  congrArg Prod.snd (List.inj_on_of_nodup_map dict.unique first second rfl)

variable [DecidableEq κ]

def get? (dict : Dict κ ν) (key : κ) : Option ν := (dict.entries.find? (·.1 = key)).map Prod.snd

theorem get?_mapValues (dict : Dict κ ν) (change : ν → ω) (key : κ) :
    (dict.mapValues change).get? key = (dict.get? key).map change := by
  simp [get?, mapValues, List.find?_map, Function.comp_def]

def set (dict : Dict κ ν) (key : κ) (value : ν) : Dict κ ν :=
  if present : key ∈ dict.entries.map Prod.fst then
    ⟨dict.entries.map fun entry => if entry.1 = key then (key, value) else entry, by
      have keys : (dict.entries.map fun entry => if entry.1 = key then (key, value) else entry).map Prod.fst =
          dict.entries.map Prod.fst := by
        rw [List.map_map]
        apply List.map_congr_left
        intro entry _
        by_cases same : entry.1 = key <;> simp [same]
      rw [keys]
      exact dict.unique⟩
  else
    ⟨dict.entries ++ [(key, value)], by
      rw [List.map_append, List.nodup_append]
      refine ⟨dict.unique, by simp, ?_⟩
      intro one here two there
      obtain rfl := List.mem_singleton.mp there
      rintro rfl
      exact present here⟩

variable {value : ν}

theorem set_new {key : κ} (absent : key ∉ dict.entries.map Prod.fst) :
    (dict.set key value).entries = dict.entries ++ [(key, value)] := by
  rw [set, dif_neg absent]

theorem mem_set {key other : κ} {held : ν} :
    (other, held) ∈ (dict.set key value).entries ↔
      (other = key ∧ held = value) ∨ (other ≠ key ∧ (other, held) ∈ dict.entries) := by
  by_cases present : key ∈ dict.entries.map Prod.fst
  · rw [set, dif_pos present]
    simp only [List.mem_map]
    constructor
    · rintro ⟨entry, member, changed⟩
      by_cases same : entry.1 = key
      · rw [if_pos same] at changed
        obtain ⟨rfl, rfl⟩ := Prod.mk.inj changed
        exact .inl ⟨rfl, rfl⟩
      · rw [if_neg same] at changed
        subst changed
        exact .inr ⟨same, member⟩
    · rintro (⟨rfl, rfl⟩ | ⟨different, member⟩)
      · obtain ⟨entry, member, same⟩ := List.mem_map.mp present
        exact ⟨entry, member, by rw [if_pos same]⟩
      · exact ⟨_, member, by rw [if_neg different]⟩
  · rw [set_new present, List.mem_append, List.mem_singleton, Prod.mk.injEq]
    constructor
    · rintro (member | new)
      · refine .inr ⟨?_, member⟩
        rintro rfl
        exact present (List.mem_map.mpr ⟨_, member, rfl⟩)
      · exact .inl new
    · rintro (new | ⟨_, member⟩)
      · exact .inr new
      · exact .inl member

theorem get?_set_self (dict : Dict κ ν) (key : κ) (value : ν) : (dict.set key value).get? key = some value := by
  have present : (key, value) ∈ (dict.set key value).entries := mem_set.mpr (.inl ⟨rfl, rfl⟩)
  cases found : (dict.set key value).entries.find? (·.1 = key) with
  | none => simpa using List.find?_eq_none.mp found _ present
  | some entry =>
    obtain ⟨name, held⟩ := entry
    have same : name = key := by simpa using List.find?_some found
    have member := List.mem_of_find?_eq_some found
    rw [same] at member
    rw [get?, found, Option.map_some, value_unique member present]

theorem foldl_set_entries (dict : Dict κ ν) :
    dict.entries.foldl (fun built entry => set built entry.1 entry.2) empty = dict := by
  have grows (before after : List (κ × ν)) (unique : ((before ++ after).map Prod.fst).Nodup)
      (unique' : (before.map Prod.fst).Nodup) :
      (after.foldl (fun built entry => set built entry.1 entry.2) ⟨before, unique'⟩).entries = before ++ after := by
    induction after generalizing before with
    | nil => simp
    | cons entry rest ih =>
      have absent : entry.1 ∉ before.map Prod.fst := by
        intro member
        rw [List.map_append, List.map_cons, List.nodup_append] at unique
        exact unique.2.2 _ member _ List.mem_cons_self rfl
      have added : (Dict.set ⟨before, unique'⟩ entry.1 entry.2).entries = before ++ [entry] := set_new absent
      have regroup : before ++ [entry] ++ rest = before ++ entry :: rest := by simp
      have unique'' : ((before ++ [entry]).map Prod.fst).Nodup := added ▸ Dict.unique _
      have same : Dict.set ⟨before, unique'⟩ entry.1 entry.2 = ⟨before ++ [entry], unique''⟩ := ext_entries added
      rw [List.foldl_cons, same, ih (before ++ [entry]) (by rw [regroup]; exact unique) unique'', regroup]
  exact ext_entries (grows [] dict.entries (by simpa using dict.unique) (by simp))

end Dict

end Gatherlink.Lib
