import Gatherlink.Lib.Window

/-! The sliding replay window of one receive direction, and what it guarantees: a counter it has
accepted is never accepted again, and a counter it has not accepted is accepted as long as it is
not a whole window behind the highest one. -/

namespace Gatherlink.Crypto
open Lib.Window

def DEFAULT_REPLAY_WINDOW_BITS : Nat := 1048576
def MAX_REPLAY_WINDOW_BITS : Nat := 4194304

/-- `seen` is the slot vector; a slot outside it is never read. -/
structure ReplayWindow where
  highest : Nat
  seen : Nat → Option Nat
  initialized : Bool
  windowBits : Nat
  windowPos : 0 < windowBits

namespace ReplayWindow

def new (windowBits : Nat) : ReplayWindow where
  highest := 0
  seen := fun _ => none
  initialized := false
  windowBits := min (max windowBits 1) MAX_REPLAY_WINDOW_BITS
  windowPos := by unfold MAX_REPLAY_WINDOW_BITS; omega

def default : ReplayWindow := new DEFAULT_REPLAY_WINDOW_BITS

theorem default_windowBits : default.windowBits = DEFAULT_REPLAY_WINDOW_BITS := by decide

def slot (window : ReplayWindow) (counter : Nat) : Nat := counter % window.windowBits

def isSeen (window : ReplayWindow) (counter : Nat) : Bool :=
  window.seen (window.slot counter) == some counter

def markSeen (window : ReplayWindow) (counter : Nat) : ReplayWindow :=
  { window with seen := Function.update window.seen (window.slot counter) (some counter) }

/-- Whether `counter` is fresh, with the window after marking it. -/
def accept (window : ReplayWindow) (counter : Nat) : Bool × ReplayWindow :=
  if !window.initialized then
    (true, markSeen { window with initialized := true, highest := counter } counter)
  else if counter > window.highest then
    (true, markSeen { window with highest := counter } counter)
  else if window.highest - counter ≥ window.windowBits then (false, window)
  else if window.isSeen counter then (false, window)
  else (true, window.markSeen counter)

def highest? (window : ReplayWindow) : Option Nat := if window.initialized then some window.highest else none

/-- The counters a window would turn away. -/
def Blocks (window : ReplayWindow) (counter : Nat) : Prop := (window.accept counter).1 = false

variable {window : ReplayWindow} {counter : Nat}

theorem accept_of_blocks (blocked : window.Blocks counter) :
    window.accept counter = (false, window) := by
  unfold Blocks accept at *
  split_ifs at * <;> simp_all

theorem blocks_iff (window : ReplayWindow) (counter : Nat) :
    window.Blocks counter ↔ window.initialized = true ∧ counter ≤ window.highest ∧
      (window.windowBits ≤ window.highest - counter ∨ window.seen (window.slot counter) = some counter) := by
  unfold Blocks accept isSeen
  cases window.initialized with
  | false => simp
  | true =>
    by_cases ahead : counter > window.highest
    · simp [ahead, Nat.not_le.mpr ahead]
    · by_cases behind : window.highest - counter ≥ window.windowBits
      · simp [ahead, behind, Nat.le_of_not_lt ahead]
      · by_cases known : window.seen (window.slot counter) = some counter
        · simp [ahead, known, Nat.le_of_not_lt ahead]
        · simp [ahead, behind, known]

@[simp] theorem accept_windowBits (window : ReplayWindow) (counter : Nat) :
    (window.accept counter).2.windowBits = window.windowBits := by
  unfold accept markSeen
  split_ifs <;> rfl

@[simp] theorem accept_slot (window : ReplayWindow) (other counter : Nat) :
    (window.accept other).2.slot counter = window.slot counter := by
  rw [slot, slot, accept_windowBits]

theorem accept_accepted (fresh : ¬window.Blocks counter) :
    (window.accept counter).2.initialized = true ∧
      (window.accept counter).2.highest =
        (if window.initialized then max window.highest counter else counter) ∧
      (window.accept counter).2.seen = Function.update window.seen (window.slot counter) (some counter) := by
  rw [blocks_iff] at fresh
  unfold accept isSeen markSeen slot at *
  cases started : window.initialized with
  | false => simp
  | true =>
    by_cases ahead : counter > window.highest
    · simp [ahead, Nat.le_of_lt ahead]
    · simp only [started, true_and, Nat.le_of_not_lt ahead, not_or] at fresh
      simp [ahead, fresh.1, fresh.2, Nat.le_of_not_lt ahead]

theorem accept_blocks (window : ReplayWindow) (counter : Nat) :
    (window.accept counter).2.Blocks counter := by
  by_cases blocked : window.Blocks counter
  · rw [accept_of_blocks blocked]
    exact blocked
  · obtain ⟨started, highest, seen⟩ := accept_accepted blocked
    refine (blocks_iff ..).mpr ⟨started, ?_, Or.inr ?_⟩
    · rw [highest]
      split <;> simp
    · rw [seen, accept_slot]
      exact Function.update_self ..

/-- A slot can be taken over only by a counter a whole window away, so what was blocked stays so. -/
theorem blocks_accept (blocked : window.Blocks counter) (other : Nat) : (window.accept other).2.Blocks counter := by
  by_cases refused : window.Blocks other
  · rw [accept_of_blocks refused]
    exact blocked
  obtain ⟨started, below, reason⟩ := (blocks_iff ..).mp blocked
  obtain ⟨started', highest, seen⟩ := accept_accepted refused
  rw [started, if_pos rfl] at highest
  refine (blocks_iff ..).mpr ⟨started', by rw [highest]; omega, ?_⟩
  rw [accept_windowBits, highest]
  rcases reason with behind | known
  · left
    omega
  by_cases shared : window.slot counter = window.slot other
  · rw [blocks_iff, not_and, not_and] at refused
    rcases Nat.lt_trichotomy counter other with before | same | after
    · left
      have apart : window.windowBits ∣ other - counter :=
        (Nat.modEq_iff_dvd' (Nat.le_of_lt before)).mp shared
      have := Nat.le_of_dvd (by omega) apart
      omega
    · exact absurd (Or.inr (same ▸ known)) (refused started (same ▸ below))
    · have apart : window.windowBits ∣ counter - other :=
        (Nat.modEq_iff_dvd' (Nat.le_of_lt after)).mp shared.symm
      have := Nat.le_of_dvd (by omega) apart
      exact absurd (Or.inl (by omega)) (refused started (by omega))
  · right
    rw [seen, accept_slot, Function.update_of_ne shared]
    exact known

/-- `window` is the state reached after accepting exactly the counters in `accepted`. -/
structure Tracks (window : ReplayWindow) (accepted : Set Nat) : Prop where
  started : window.initialized = true ↔ accepted.Nonempty
  top : accepted.Nonempty → window.highest ∈ accepted
  bound : ∀ counter ∈ accepted, counter ≤ window.highest
  slots : ∀ position counter, window.seen position = some counter → counter ∈ accepted
  recalled : ∀ counter ∈ accepted, window.Blocks counter

theorem tracks_new (windowBits : Nat) : (new windowBits).Tracks ∅ where
  started := by simp [new]
  top := by simp
  bound := by simp
  slots := by simp [new]
  recalled := by simp

theorem Tracks.accepts_iff {accepted : Set Nat} (tracks : window.Tracks accepted)
    (counter : Nat) : (window.accept counter).1 = true ↔
      counter ∉ accepted ∧ (accepted.Nonempty → window.highest < counter + window.windowBits) := by
  have decided : (window.accept counter).1 = true ↔ ¬window.Blocks counter := by simp [Blocks]
  rw [decided]
  constructor
  · intro fresh
    refine ⟨fun member => fresh (tracks.recalled counter member), fun nonempty => ?_⟩
    by_contra behind
    refine fresh ((blocks_iff ..).mpr ⟨tracks.started.mpr nonempty, by omega, Or.inl (by omega)⟩)
  · rintro ⟨fresh, close⟩ blocked
    obtain ⟨started, below, behind | known⟩ := (blocks_iff ..).mp blocked
    · have := close (tracks.started.mp started)
      have := window.windowPos
      omega
    · exact fresh (tracks.slots _ _ known)

theorem Tracks.accept {accepted : Set Nat} (tracks : window.Tracks accepted)
    (fresh : (window.accept counter).1 = true) :
    (window.accept counter).2.Tracks (insert counter accepted) := by
  have open' : ¬window.Blocks counter := by simp [Blocks, fresh]
  obtain ⟨started, highest, seen⟩ := accept_accepted open'
  have top : (window.accept counter).2.highest = counter ∨
      ((window.accept counter).2.highest = window.highest ∧ window.initialized = true) := by
    rw [highest]
    split
    · rename_i init
      rcases Nat.le_total window.highest counter with ahead | behind
      · left; omega
      · right; exact ⟨by omega, init⟩
    · left; rfl
  refine ⟨?_, ?_, ?_, ?_, ?_⟩
  · simp [started]
  · intro _
    rcases top with same | ⟨same, init⟩
    · rw [same]; exact Set.mem_insert ..
    · rw [same]; exact Set.mem_insert_of_mem _ (tracks.top (tracks.started.mp init))
  · rintro other (rfl | member)
    · exact ((blocks_iff ..).mp (accept_blocks window other)).2.1
    · exact ((blocks_iff ..).mp (blocks_accept (tracks.recalled other member) counter)).2.1
  · intro position other held
    rw [seen, Function.update_apply] at held
    split at held
    · left; exact (Option.some.inj held).symm
    · right; exact tracks.slots _ _ held
  · rintro other (rfl | member)
    · exact accept_blocks window other
    · exact blocks_accept (tracks.recalled other member) counter

theorem Tracks.fresh_iff {accepted : Set Nat} (tracks : window.Tracks accepted)
    (counter : Nat) : (window.accept counter).1 = true ↔ Fresh window.windowBits accepted counter := by
  rw [tracks.accepts_iff, Fresh, and_congr_right_iff]
  intro _
  constructor
  · intro close other member
    exact (tracks.bound other member).trans_lt (close ⟨other, member⟩)
  · intro close nonempty
    exact close _ (tracks.top nonempty)

theorem accept_decides (width : Nat) : Decides accept (fun _ => True) width
    fun window accepted => window.Tracks accepted ∧ window.windowBits = width where
  fresh tracks _ := tracks.2 ▸ tracks.1.fresh_iff _
  takes tracks _ taken := ⟨tracks.1.accept taken, by rw [accept_windowBits, tracks.2]⟩
  refuses tracks _ refused := by
    rw [accept_of_blocks refused]
    exact tracks

theorem Tracks.highest?_eq {accepted : List Nat}
    (tracks : window.Tracks {counter | counter ∈ accepted}) : window.highest? = accepted.max? := by
  unfold highest?
  cases accepted with
  | nil =>
    have idle : window.initialized = false := by simpa using tracks.started
    simp [idle]
  | cons first rest =>
    have nonempty : {counter | counter ∈ first :: rest}.Nonempty := ⟨first, List.mem_cons_self ..⟩
    rw [if_pos (tracks.started.mpr nonempty), eq_comm, List.max?_eq_some_iff]
    exact ⟨tracks.top nonempty, fun counter member => tracks.bound counter member⟩

/-- A counter is accepted exactly if it is new and less than a window behind the highest accepted one. -/
theorem accept_exact (requested : Nat) (before : List UInt64) (counter : UInt64) :
    let window : ReplayWindow := after accept (new requested) (before.map UInt64.toNat)
    let taken := accepted accept (new requested) (before.map UInt64.toNat)
    ((window.accept counter.toNat).1 = true ↔ counter.toNat ∉ taken ∧
      (taken = [] ∨ ∃ highest, window.highest? = some highest ∧
        (highest < counter.toNat ∨ highest - counter.toNat < min (max requested 1) MAX_REPLAY_WINDOW_BITS))) ∧
    window.highest? = taken.max? := by
  intro window taken
  obtain ⟨tracks, width⟩ := (accept_decides _).run ⟨tracks_new requested, rfl⟩ (before.map UInt64.toNat)
    fun _ _ => trivial
  rw [Set.empty_union] at tracks
  have highest : window.highest? = taken.max? := tracks.highest?_eq
  refine ⟨?_, highest⟩
  have positive : 0 < min (max requested 1) MAX_REPLAY_WINDOW_BITS := (new requested).windowPos
  rw [tracks.fresh_iff, width, Fresh, highest, Set.mem_ofPred_eq, and_congr_right_iff]
  intro _
  cases top : taken.max? with
  | none =>
    have empty : taken = [] := List.max?_eq_none_iff.mp top
    simp [show accepted accept (new requested) (before.map UInt64.toNat) = [] from empty, empty]
  | some maximum =>
    obtain ⟨member, bound⟩ := List.max?_eq_some_iff.mp top
    have some : taken ≠ [] := List.ne_nil_of_mem member
    simp only [some, false_or, Option.some.injEq, exists_eq_left']
    constructor
    · intro close
      have near := close maximum member
      change maximum < counter.toNat + min (max requested 1) MAX_REPLAY_WINDOW_BITS at near
      omega
    · intro near other inside
      have below := bound other inside
      change other < counter.toNat + min (max requested 1) MAX_REPLAY_WINDOW_BITS
      omega

end ReplayWindow

end Gatherlink.Crypto
