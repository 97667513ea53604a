import Mathlib

/-! Counters used under keys. Slots hold the live states of keys; a guard says which key a state
serves and which counters it turns away: those below a next counter, or those a replay window has
seen. A ledger of uses is safe as long as every live state turns away what was used under its key. -/

namespace Gatherlink.Lib.Ledger

structure Guard (τ κ : Type) where
  key : τ → κ
  blocks : τ → Nat → Prop

variable {ι τ κ : Type}

/-- No two slots serve one key. -/
def Distinct (guard : Guard τ κ) (slots : ι → Option τ) : Prop :=
  ∀ ⦃index other state second⦄, slots index = some state → slots other = some second →
    guard.key state = guard.key second → index = other

structure Safe (guard : Guard τ κ) (slots : ι → Option τ) (log : List (κ × Nat)) : Prop where
  once : log.Nodup
  covered : ∀ {index state counter}, slots index = some state → (guard.key state, counter) ∈ log →
    guard.blocks state counter
  distinct : Distinct guard slots

variable {guard : Guard τ κ} {slots next : ι → Option τ} {log : List (κ × Nat)}

theorem safe_nil (distinct : Distinct guard slots) : Safe guard slots [] where
  once := List.nodup_nil
  covered := by simp
  distinct := distinct

theorem Safe.subperm (safe : Safe guard slots log) {kept : List (κ × Nat)} (less : kept.Subperm log) :
    Safe guard slots kept := by
  obtain ⟨copy, perm, sublist⟩ := less
  refine ⟨perm.nodup_iff.mp (safe.once.sublist sublist), ?_, safe.distinct⟩
  intro index state counter here used
  exact safe.covered here (sublist.subset (perm.mem_iff.mpr used))

theorem Safe.install (safe : Safe guard slots log) (distinct : Distinct guard next)
    (unused : ∀ {index state counter}, next index = some state → (guard.key state, counter) ∉ log) :
    Safe guard next log where
  once := safe.once
  covered here used := absurd used (unused here)
  distinct := distinct

variable [DecidableEq ι] {index : ι} {old : τ} (new : τ)

theorem Distinct.update (distinct : Distinct guard slots) (here : slots index = some old)
    (same : guard.key new = guard.key old) : Distinct guard (Function.update slots index (some new)) := by
  -- Whatever sits in a slot serves the key of what sat there before.
  have before : ∀ {slot state}, Function.update slots index (some new) slot = some state →
      ∃ earlier, slots slot = some earlier ∧ guard.key earlier = guard.key state := by
    intro slot state found
    by_cases changed : slot = index
    · subst changed
      rw [Function.update_self, Option.some.injEq] at found
      exact ⟨old, here, by rw [← same, found]⟩
    · rw [Function.update_of_ne changed] at found
      exact ⟨state, found, rfl⟩
  intro first second state other found found' equal
  obtain ⟨earlier, sat, key⟩ := before found
  obtain ⟨earlier', sat', key'⟩ := before found'
  exact distinct sat sat' (by rw [key, key', equal])

/-- A state that turned some counters not away may use them once, if its successor turns them away. -/
theorem Safe.advance (safe : Safe guard slots log) (here : slots index = some old)
    (same : guard.key new = guard.key old) (keeps : ∀ {counter}, guard.blocks old counter → guard.blocks new counter)
    {counters : List Nat} (nodup : counters.Nodup) (fresh : ∀ counter ∈ counters, ¬guard.blocks old counter)
    (marks : ∀ counter ∈ counters, guard.blocks new counter) :
    Safe guard (Function.update slots index (some new))
      (log ++ counters.map fun counter => (guard.key old, counter)) := by
  refine ⟨?_, ?_, Distinct.update new safe.distinct here same⟩
  · refine List.nodup_append.mpr ⟨safe.once, ?_, ?_⟩
    · exact nodup.map fun first second equal => (Prod.mk.inj equal).2
    · rintro entry used other issued rfl
      obtain ⟨counter, member, rfl⟩ := List.mem_map.mp issued
      exact fresh counter member (safe.covered here used)
  · intro slot state counter found used
    by_cases changed : slot = index
    · subst changed
      rw [Function.update_self, Option.some.injEq] at found
      subst found
      rcases List.mem_append.mp used with before | now
      · exact keeps (safe.covered here (same ▸ before))
      · obtain ⟨issued, member, equal⟩ := List.mem_map.mp now
        exact (Prod.mk.inj equal).2 ▸ marks issued member
    · rw [Function.update_of_ne changed] at found
      rcases List.mem_append.mp used with before | now
      · exact safe.covered found before
      · obtain ⟨issued, -, equal⟩ := List.mem_map.mp now
        exact absurd (safe.distinct found here (Prod.mk.inj equal).1.symm) changed

end Gatherlink.Lib.Ledger
