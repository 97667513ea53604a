import Mathlib

/-! A list of labelled items as one stream per label. Lists with equal streams hold the same items and
agree on the order of items with the same label. -/

namespace Gatherlink.Lib.Streams

variable {α ι : Type} [DecidableEq ι] (label : α → ι)

def streams (items : List α) : ι → List α := fun index => items.filter fun item => label item = index

@[simp] theorem streams_nil : streams label [] = fun _ => [] := rfl

theorem streams_append (first second : List α) :
    streams label (first ++ second) = fun index => streams label first index ++ streams label second index := by
  funext index
  simp [streams]

variable {label}

/-- Items may pass each other if their labels differ. -/
theorem streams_comm {first second : List α} (apart : ∀ one ∈ first, ∀ two ∈ second, label one ≠ label two) :
    streams label (first ++ second) = streams label (second ++ first) := by
  funext index
  simp only [streams, List.filter_append]
  by_cases here : ∃ one ∈ first, label one = index
  · obtain ⟨one, member, rfl⟩ := here
    have none : second.filter (fun item => label item = label one) = [] := by
      rw [List.filter_eq_nil_iff]
      intro two other
      simpa using (apart one member two other).symm
    rw [none, List.append_nil, List.nil_append]
  · have none : first.filter (fun item => label item = index) = [] := by
      rw [List.filter_eq_nil_iff]
      intro one member
      simpa using fun same => here ⟨one, member, same⟩
    rw [none, List.append_nil, List.nil_append]

theorem perm_of_streams_eq [DecidableEq α] {first second : List α} (same : streams label first = streams label second) :
    first.Perm second := by
  rw [List.perm_iff_count]
  intro item
  have counted (items : List α) : items.count item = (streams label items (label item)).count item := by
    rw [streams, List.count_filter (by simp)]
  rw [counted first, counted second, same]

end Gatherlink.Lib.Streams
