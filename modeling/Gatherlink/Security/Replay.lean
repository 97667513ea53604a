import Gatherlink.Crypto.Replay

/-! The control plane's replay window: a bitmap of the counters behind the highest one. It answers as the
dataplane's slot table does. -/

namespace Gatherlink.Security
open Lib.Window

/-- Bit `i` of `bitmap` stands for the counter `highest - i`. -/
structure ReplayWindow where
  windowBits : Nat
  highest : Option Nat
  bitmap : Nat

namespace ReplayWindow

def new (windowBits : Int) : ReplayWindow := ⟨(max 1 (min windowBits 128)).toNat, none, 0⟩

/-- Whether a counter is fresh, with the window after marking it. -/
def accept (window : ReplayWindow) (counter : Int) : Bool × ReplayWindow :=
  if counter < 0 ∨ 2 ^ 64 ≤ counter then (false, window)
  else
    let counter := counter.toNat
    match window.highest with
    | none => (true, { window with highest := some counter, bitmap := 1 })
    | some highest =>
        if highest < counter then
          let shift := counter - highest
          let bitmap := if 128 ≤ shift then 0 else window.bitmap <<< shift
          (true, { window with highest := some counter, bitmap := bitmap ||| 1 })
        else
          let behind := highest - counter
          if window.windowBits ≤ behind ∨ 128 ≤ behind then (false, window)
          else
            let mask := 1 <<< behind
            if window.bitmap &&& mask ≠ 0 then (false, window)
            else (true, { window with bitmap := window.bitmap ||| mask })

/-- The window records what was accepted among the last 128 counters. -/
structure Tracks (window : ReplayWindow) (accepted : Set Nat) : Prop where
  idle : window.highest = none → accepted = ∅
  top : ∀ {highest}, window.highest = some highest → highest ∈ accepted ∧ ∀ counter ∈ accepted, counter ≤ highest
  bits : ∀ {highest}, window.highest = some highest → ∀ position < 128,
    (window.bitmap.testBit position = true ↔ position ≤ highest ∧ highest - position ∈ accepted)

theorem tracks_new (windowBits : Int) : (new windowBits).Tracks ∅ where
  idle _ := rfl
  top := nofun
  bits := nofun

theorem and_one_shiftLeft_ne_zero (bitmap position : Nat) :
    bitmap &&& 1 <<< position ≠ 0 ↔ bitmap.testBit position = true := by
  rw [Nat.one_shiftLeft, Nat.and_two_pow]
  cases bitmap.testBit position <;> simp

theorem testBit_advance (bitmap shift position : Nat) :
    ((if 128 ≤ shift then 0 else bitmap <<< shift) ||| 1).testBit position = true ↔
      position = 0 ∨ (shift < 128 ∧ shift ≤ position ∧ bitmap.testBit (position - shift) = true) := by
  rw [Nat.testBit_or, Bool.or_eq_true, Nat.testBit_one_eq_true_iff_self_eq_zero]
  split
  · rename_i far
    simp [Nat.not_lt.mpr far]
  · rename_i near
    rw [Nat.testBit_shiftLeft, Bool.and_eq_true, decide_eq_true_eq]
    constructor
    · rintro (shifted | first)
      · exact .inr ⟨by omega, shifted.1, shifted.2⟩
      · exact .inl first
    · rintro (first | shifted)
      · exact .inr first
      · exact .inl shifted.2

theorem testBit_mark (bitmap behind position : Nat) :
    (bitmap ||| 1 <<< behind).testBit position = true ↔ bitmap.testBit position = true ∨ position = behind := by
  rw [Nat.testBit_or, Nat.one_shiftLeft, Nat.testBit_two_pow, Bool.or_eq_true, decide_eq_true_eq]
  exact or_congr_right eq_comm

section Step

variable {window : ReplayWindow} {accepted : Set Nat} {counter highest : Nat}

theorem accept_first (small : counter < 2 ^ 64) (idle : window.highest = none) :
    window.accept counter = (true, { window with highest := some counter, bitmap := 1 }) := by
  have inside : ¬((counter : Int) < 0 ∨ 2 ^ 64 ≤ (counter : Int)) := by omega
  simp only [accept, if_neg inside, idle, Int.toNat_natCast]

theorem accept_ahead (small : counter < 2 ^ 64) (known : window.highest = some highest) (ahead : highest < counter) :
    window.accept counter = (true, { window with
      highest := some counter
      bitmap := (if 128 ≤ counter - highest then 0 else window.bitmap <<< (counter - highest)) ||| 1 }) := by
  have inside : ¬((counter : Int) < 0 ∨ 2 ^ 64 ≤ (counter : Int)) := by omega
  simp only [accept, if_neg inside, known, Int.toNat_natCast, if_pos ahead]

theorem accept_behind (small : counter < 2 ^ 64) (known : window.highest = some highest) (behind : counter ≤ highest) :
    window.accept counter =
      if highest - counter < window.windowBits ∧ highest - counter < 128 ∧
          window.bitmap.testBit (highest - counter) = false then
        (true, { window with bitmap := window.bitmap ||| 1 <<< (highest - counter) })
      else (false, window) := by
  have inside : ¬((counter : Int) < 0 ∨ 2 ^ 64 ≤ (counter : Int)) := by omega
  simp only [accept, if_neg inside, known, Int.toNat_natCast, if_neg (Nat.not_lt.mpr behind),
    and_one_shiftLeft_ne_zero]
  by_cases far : window.windowBits ≤ highest - counter ∨ 128 ≤ highest - counter
  · rw [if_pos far, if_neg (by omega)]
  · have near : highest - counter < window.windowBits ∧ highest - counter < 128 := by omega
    cases set : window.bitmap.testBit (highest - counter) with
    | true => simp [far]
    | false => simp [far, near]

theorem accept_windowBits (window : ReplayWindow) (counter : Int) :
    (window.accept counter).2.windowBits = window.windowBits := by
  simp only [accept]
  split
  · rfl
  · split
    · rfl
    · split_ifs <;> rfl

section
variable (tracks : window.Tracks accepted) (small : counter < 2 ^ 64)
include tracks small

theorem Tracks.fresh_iff (width : window.windowBits ≤ 128) :
    (window.accept counter).1 = true ↔ Fresh window.windowBits accepted counter := by
  cases known : window.highest with
  | none =>
    rw [accept_first small known, tracks.idle known]
    simp [Fresh]
  | some highest =>
    obtain ⟨member, bound⟩ := tracks.top known
    by_cases ahead : highest < counter
    · rw [accept_ahead small known ahead]
      have new : counter ∉ accepted := fun old => absurd (bound counter old) (by omega)
      have close : ∀ other ∈ accepted, other < counter + window.windowBits := fun other old =>
        (bound other old).trans_lt (by omega)
      exact ⟨fun _ => ⟨new, close⟩, fun _ => rfl⟩
    · have below : counter ≤ highest := Nat.le_of_not_lt ahead
      have same : highest - (highest - counter) = counter := by omega
      rw [accept_behind small known below]
      constructor
      · intro answer
        split at answer
        · rename_i open'
          have clear := (tracks.bits known _ open'.2.1).not.mp (by simp [open'.2.2])
          rw [same] at clear
          refine ⟨fun old => clear ⟨by omega, old⟩, fun other old => ?_⟩
          have := bound other old
          omega
        · contradiction
      · rintro ⟨new, close⟩
        have near := close highest member
        have inside : highest - counter < 128 := by omega
        have clear : window.bitmap.testBit (highest - counter) = false := by
          rw [← Bool.not_eq_true, tracks.bits known _ inside, same]
          exact fun old => new old.2
        rw [if_pos ⟨by omega, inside, clear⟩]

theorem Tracks.take (taken : (window.accept counter).1 = true) :
    (window.accept counter).2.Tracks (insert counter accepted) := by
  cases known : window.highest with
  | none =>
    rw [accept_first small known, tracks.idle known]
    refine ⟨nofun, fun {highest} same => ?_, fun {highest} same position _ => ?_⟩
    · obtain rfl := Option.some.inj same
      simp
    · obtain rfl := Option.some.inj same
      simp only [Nat.testBit_one_eq_true_iff_self_eq_zero, insert_empty_eq, Set.mem_singleton_iff]
      omega
  | some highest =>
    obtain ⟨member, bound⟩ := tracks.top known
    by_cases ahead : highest < counter
    · rw [accept_ahead small known ahead]
      refine ⟨nofun, fun {top} same => ?_, fun {top} same position inside => ?_⟩
      · obtain rfl := Option.some.inj same
        refine ⟨Set.mem_insert .., ?_⟩
        rintro other (rfl | old)
        · exact le_rfl
        · exact (bound other old).trans ahead.le
      · obtain rfl := Option.some.inj same
        rw [testBit_advance, Set.mem_insert_iff]
        constructor
        · rintro (rfl | ⟨near, far, set⟩)
          · exact ⟨by omega, .inl (Nat.sub_zero counter)⟩
          · obtain ⟨within, old⟩ := (tracks.bits known _ (by omega)).mp set
            have same : highest - (position - (counter - highest)) = counter - position := by omega
            exact ⟨by omega, .inr (same ▸ old)⟩
        · rintro ⟨within, same | old⟩
          · exact .inl (by omega)
          · have reached := bound _ old
            have place : highest - (position - (counter - highest)) = counter - position := by omega
            exact .inr ⟨by omega, by omega, (tracks.bits known _ (by omega)).mpr ⟨by omega, place.symm ▸ old⟩⟩
    · have below : counter ≤ highest := Nat.le_of_not_lt ahead
      rw [accept_behind small known below] at taken ⊢
      split at taken
      · rename_i open'
        rw [if_pos open']
        refine ⟨fun idle => absurd (known.symm.trans idle) (by simp), fun {top} same => ?_,
          fun {top} same position inside => ?_⟩
        · obtain rfl : highest = top := Option.some.inj (known.symm.trans same)
          refine ⟨Set.mem_insert_of_mem _ member, ?_⟩
          rintro other (rfl | old)
          · exact below
          · exact bound other old
        · obtain rfl : highest = top := Option.some.inj (known.symm.trans same)
          rw [testBit_mark, tracks.bits known _ inside, Set.mem_insert_iff]
          constructor
          · rintro (⟨within, old⟩ | rfl)
            · exact ⟨within, .inr old⟩
            · exact ⟨by omega, .inl (by omega)⟩
          · rintro ⟨within, same | old⟩
            · exact .inr (by omega)
            · exact .inl ⟨within, old⟩
      · contradiction

theorem Tracks.refuse (refused : (window.accept counter).1 = false) : (window.accept counter).2.Tracks accepted := by
  cases known : window.highest with
  | none =>
    rw [accept_first small known] at refused
    contradiction
  | some highest =>
    by_cases ahead : highest < counter
    · rw [accept_ahead small known ahead] at refused
      contradiction
    · rw [accept_behind small known (Nat.le_of_not_lt ahead)] at refused ⊢
      split at refused
      · contradiction
      · rename_i closed
        rw [if_neg closed]
        exact tracks

end

end Step

section Growth

/-- The highest counter, and the lowest one taken since the last jump of 128 or more. -/
def widen (windowBits : Nat) (span : Option (Nat × Nat)) (counter : Int) : Option (Nat × Nat) :=
  if counter < 0 ∨ 2 ^ 64 ≤ counter then span
  else
    let counter := counter.toNat
    match span with
    | none => some (counter, counter)
    | some (highest, lowest) =>
        if highest < counter then some (counter, if 128 ≤ counter - highest then counter else lowest)
        else some (highest, if highest - counter < windowBits then min lowest counter else lowest)

/-- The highest set bit stands for the lowest counter of the span. -/
structure Spans (window : ReplayWindow) (span : Option (Nat × Nat)) : Prop where
  highest : window.highest = span.map Prod.fst
  idle : span = none → window.bitmap = 0
  lowest : ∀ {high low}, span = some (high, low) → low ≤ high ∧ window.bitmap.testBit (high - low) = true ∧
    ∀ position, window.bitmap.testBit position = true → position ≤ high - low

variable {window : ReplayWindow} {span : Option (Nat × Nat)}

theorem Spans.accept (spans : window.Spans span) (narrow : window.windowBits ≤ 128) (counter : Int) :
    (window.accept counter).2.Spans (widen window.windowBits span counter) := by
  by_cases outside : counter < 0 ∨ 2 ^ 64 ≤ counter
  · rw [ReplayWindow.accept, if_pos outside, widen, if_pos outside]
    exact spans
  obtain ⟨counter, rfl⟩ := Int.eq_ofNat_of_zero_le (by omega : 0 ≤ counter)
  have small : counter < 2 ^ 64 := by omega
  rw [widen, if_neg outside]
  match span, spans with
  | none, spans =>
    rw [accept_first small spans.highest]
    refine ⟨rfl, nofun, fun same => ?_⟩
    obtain ⟨rfl, rfl⟩ := Prod.mk.inj (Option.some.inj same)
    simp [Nat.testBit_one_eq_true_iff_self_eq_zero]
  | some (high, low), spans =>
    obtain ⟨ordered, top, below⟩ := spans.lowest rfl
    by_cases ahead : high < counter
    · rw [accept_ahead small spans.highest ahead]
      simp only [Int.toNat_natCast, if_pos ahead]
      refine ⟨rfl, nofun, fun same => ?_⟩
      obtain ⟨rfl, rfl⟩ := Prod.mk.inj (Option.some.inj same)
      simp only [testBit_advance]
      split
      · refine ⟨le_rfl, .inl (Nat.sub_self _), ?_⟩
        omega
      · refine ⟨by omega, .inr ⟨by omega, by omega, ?_⟩, ?_⟩
        · rwa [show counter - low - (counter - high) = high - low by omega]
        · rintro position (first | ⟨-, -, set⟩)
          · omega
          · have := below _ set
            omega
    · rw [accept_behind small spans.highest (Nat.le_of_not_lt ahead)]
      simp only [Int.toNat_natCast, if_neg ahead]
      refine ⟨?_, nofun, fun same => ?_⟩
      · split <;> exact spans.highest
      obtain ⟨rfl, rfl⟩ := Prod.mk.inj (Option.some.inj same)
      by_cases near : high - counter < window.windowBits
      · cases set : window.bitmap.testBit (high - counter) with
        | true =>
          -- A marked counter lies in the span already.
          have inside := below _ set
          simp only [near, Bool.true_eq_false, and_false, if_false, if_true]
          rw [min_eq_left (by omega)]
          exact ⟨ordered, top, below⟩
        | false =>
          rw [if_pos near, if_pos ⟨near, by omega, rfl⟩]
          simp only [testBit_mark]
          refine ⟨by omega, ?_, ?_⟩
          · rcases Nat.le_total low counter with old | new
            · rw [min_eq_left old]
              exact .inl top
            · exact .inr (by omega)
          · rintro position (set | rfl)
            · have := below _ set
              omega
            · omega
      · rw [if_neg near, if_neg fun open' => near open'.1]
        exact ⟨ordered, top, below⟩

theorem Spans.run (spans : window.Spans span) (narrow : window.windowBits ≤ 128) (counters : List Int) :
    (counters.foldl (fun window counter => (window.accept counter).2) window).Spans
      (counters.foldl (widen window.windowBits) span) := by
  induction counters generalizing window span with
  | nil => exact spans
  | cons counter rest ih =>
    have next := ih (spans.accept narrow counter)
    rw [accept_windowBits] at next
    exact next narrow

/-- The bitmap is shifted without being cut, so it fits 128 bits only while the counters of the span do. -/
theorem bitmap_below_iff (windowBits : Int) (counters : List Int) :
    (counters.foldl (fun window counter => (window.accept counter).2) (new windowBits)).bitmap < 2 ^ 128 ↔
      ∀ span ∈ counters.foldl (widen (new windowBits).windowBits) none, span.1 - span.2 < 128 := by
  have blank : (new windowBits).Spans none := ⟨rfl, fun _ => rfl, nofun⟩
  have narrow : (new windowBits).windowBits ≤ 128 := by
    simp only [new]
    omega
  have spans := blank.run narrow counters
  constructor
  · rintro small ⟨high, low⟩ same
    by_contra wide
    have clear := Nat.testBit_lt_two_pow (small.trans_le (Nat.pow_le_pow_right two_pos (Nat.le_of_not_lt wide)))
    rw [(spans.lowest same).2.1] at clear
    contradiction
  · intro close
    apply Nat.lt_pow_two_of_testBit
    intro position far
    cases same : counters.foldl (widen (new windowBits).windowBits) none with
    | none => rw [spans.idle same, Nat.zero_testBit]
    | some span =>
      rw [← Bool.not_eq_true]
      intro set
      have := (spans.lowest same).2.2 position set
      have := close span same
      omega

theorem bitmap_grows :
    ([0, 127, 254].foldl (fun window counter => (window.accept counter).2) (new 128)).bitmap =
    2 ^ 254 + 2 ^ 127 + 1 := by
  decide

end Growth

theorem accept_decides {width : Nat} (narrow : width ≤ 128) :
    Decides (fun window counter => accept window (counter : Nat)) (· < 2 ^ 64) width
      fun window accepted => window.Tracks accepted ∧ window.windowBits = width where
  fresh tracks small := tracks.2 ▸ tracks.1.fresh_iff small (tracks.2 ▸ narrow)
  takes tracks small taken := ⟨tracks.1.take small taken, by rw [accept_windowBits, tracks.2]⟩
  refuses tracks small refused := ⟨tracks.1.refuse small refused, by rw [accept_windowBits, tracks.2]⟩

/-- For every window size both can have, bitmap and slot table answer every counter alike. -/
theorem bitmap_answers_as_slots (windowBits : Nat) (positive : 1 ≤ windowBits) (narrow : windowBits ≤ 128)
    (counters : List UInt64) :
    answers (fun window counter => accept window (counter : Nat)) (new windowBits) (counters.map UInt64.toNat) =
      answers Crypto.ReplayWindow.accept (Crypto.ReplayWindow.new windowBits) (counters.map UInt64.toNat) := by
  have width : (new windowBits).windowBits = windowBits := by
    simp only [new]
    omega
  have width' : (Crypto.ReplayWindow.new windowBits).windowBits = windowBits := by
    simp only [Crypto.ReplayWindow.new, Crypto.MAX_REPLAY_WINDOW_BITS]
    omega
  have slots : Decides Crypto.ReplayWindow.accept (· < 2 ^ 64) windowBits
      fun window accepted => window.Tracks accepted ∧ window.windowBits = windowBits :=
    ⟨fun tracks _ => (Crypto.ReplayWindow.accept_decides _).fresh tracks trivial,
      fun tracks _ => (Crypto.ReplayWindow.accept_decides _).takes tracks trivial,
      fun tracks _ => (Crypto.ReplayWindow.accept_decides _).refuses tracks trivial⟩
  apply (accept_decides narrow).answers_eq slots ⟨tracks_new _, width⟩ ⟨Crypto.ReplayWindow.tracks_new _, width'⟩
  intro number member
  obtain ⟨counter, -, rfl⟩ := List.mem_map.mp member
  exact counter.toNat_lt

/-- A jump, a late counter, a repetition, and one that has left the window. -/
theorem bitmap_answers_as_slots_of_four :
    answers (fun window counter => accept window (counter : Nat)) (new 4) [10, 12, 11, 11, 40, 36] =
      [true, true, true, false, true, false] ∧
    answers (fun window counter => accept window (counter : Nat)) (new 4) [10, 12, 11, 11, 40, 36] =
      answers Crypto.ReplayWindow.accept (Crypto.ReplayWindow.new 4) [10, 12, 11, 11, 40, 36] :=
  ⟨by decide, bitmap_answers_as_slots 4 (by decide) (by decide) [10, 12, 11, 11, 40, 36]⟩

end ReplayWindow

end Gatherlink.Security
