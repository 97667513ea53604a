import Gatherlink.Dataplane.Scheduler
import Gatherlink.Lib.SmoothRoundRobin

/-! The credits of the weighted scheduler. A selection is a round of smooth weighted round robin among the slots whose
paths are eligible; with no eligible slot it changes nothing. -/

namespace Gatherlink.Dataplane
open Protocol Lib.SmoothRoundRobin

namespace WeightedRoundRobin

section Pass

variable (paths : List CorePathConfig) (eligible : CorePathConfig → Bool)

variable (slots : List WeightedPathSlot) (slot : WeightedPathSlot)

def slotEligible : Bool := (paths[slot.pathIndex]?.map eligible).getD false

def credited : WeightedPathSlot :=
  if slotEligible paths eligible slot then
    { slot with currentWeight := slot.currentWeight + slot.weight.toNat }
  else slot

theorem credited_weight : (credited paths eligible slot).currentWeight =
    slot.currentWeight + if slotEligible paths eligible slot = true then (slot.weight.toNat : ℤ) else 0 := by
  rw [credited]
  split
  · rfl
  · rw [add_zero]

def eligibleWeight : Nat :=
  (slots.map fun slot => if slotEligible paths eligible slot then slot.weight.toNat else 0).sum

/-- A best slot that a pass over `slots` can find. -/
structure Leads (slots : List WeightedPathSlot) (start index : Nat) (slot : WeightedPathSlot)
    (best : BestSlot) : Prop where
  found : slots[index]? = some slot
  earns : slotEligible paths eligible slot = true
  best : best = ⟨start + index, slot.currentWeight + slot.weight.toNat, slot.pathIndex⟩
  most : ∀ other ∈ slots, slotEligible paths eligible other = true →
    other.currentWeight + other.weight.toNat ≤ slot.currentWeight + slot.weight.toNat

theorem creditSlots_slots (start : Nat) (total : Int) (best : Option BestSlot) :
    (creditSlots paths eligible start slots total best).1 = slots.map (credited paths eligible) := by
  induction slots generalizing start total best with
  | nil => rfl
  | cons slot rest ih =>
    rw [creditSlots, List.map_cons, credited]
    by_cases here : slotEligible paths eligible slot = true
    · have test : (paths[slot.pathIndex]?.map eligible).getD false = true := here
      simp only [if_pos test, if_pos here, ih]
    · have test : ¬(paths[slot.pathIndex]?.map eligible).getD false = true := here
      simp only [if_neg test, if_neg here, ih]

theorem creditSlots_total (start : Nat) (total : Int) (best : Option BestSlot) :
    (creditSlots paths eligible start slots total best).2.1 = total + eligibleWeight paths eligible slots := by
  induction slots generalizing start total best with
  | nil => simp [creditSlots, eligibleWeight]
  | cons slot rest ih =>
    rw [creditSlots, eligibleWeight, List.map_cons, List.sum_cons]
    by_cases here : slotEligible paths eligible slot = true
    · have test : (paths[slot.pathIndex]?.map eligible).getD false = true := here
      simp only [if_pos test, if_pos here, ih, eligibleWeight]
      push_cast
      ring
    · have test : ¬(paths[slot.pathIndex]?.map eligible).getD false = true := here
      simp [if_neg test, if_neg here, ih, eligibleWeight]

def betterOf (best : Option BestSlot) (candidate : BestSlot) : Option BestSlot :=
  match best with
  | none => some candidate
  | some current =>
      if decide (candidate.currentWeight > current.currentWeight) ||
          (candidate.currentWeight == current.currentWeight && decide (candidate.pathIndex < current.pathIndex)) then
        some candidate
      else some current

theorem creditSlots_cons (rest : List WeightedPathSlot) (start : Nat) (total : Int) (best : Option BestSlot) :
    (creditSlots paths eligible start (slot :: rest) total best).2.2 =
      if slotEligible paths eligible slot then
        (creditSlots paths eligible (start + 1) rest (total + slot.weight.toNat)
          (betterOf best ⟨start, slot.currentWeight + slot.weight.toNat, slot.pathIndex⟩)).2.2
      else (creditSlots paths eligible (start + 1) rest total best).2.2 := by
  rw [creditSlots, slotEligible]
  split
  · cases best with
    | none => rfl
    | some current => simp only [betterOf]
  · rfl

theorem betterOf_spec (best : Option BestSlot) (candidate : BestSlot) :
    ∃ winner, betterOf best candidate = some winner ∧ candidate.currentWeight ≤ winner.currentWeight ∧
      (∀ current, best = some current → current.currentWeight ≤ winner.currentWeight) ∧
      (winner = candidate ∨ best = some winner) := by
  cases best with
  | none => exact ⟨candidate, rfl, le_refl _, by simp, Or.inl rfl⟩
  | some current =>
    rw [betterOf]
    split
    · rename_i better
      refine ⟨candidate, rfl, le_refl _, ?_, Or.inl rfl⟩
      rintro _ ⟨⟩
      simp only [Bool.or_eq_true, decide_eq_true_eq, Bool.and_eq_true, beq_iff_eq] at better
      omega
    · rename_i worse
      refine ⟨current, rfl, ?_, ?_, Or.inr rfl⟩
      · simp only [Bool.or_eq_true, decide_eq_true_eq, Bool.and_eq_true, beq_iff_eq] at worse
        omega
      · rintro _ ⟨⟩
        exact le_refl _

/-- The pass ends with the best slot it started with, or with one of the list that has at least as much credit as that
and as every other eligible slot. -/
theorem creditSlots_best (start : Nat) (total : Int) (best : Option BestSlot) :
    ((creditSlots paths eligible start slots total best).2.2 = best ∧
      ∀ slot ∈ slots, slotEligible paths eligible slot = true →
        ∃ current, best = some current ∧ slot.currentWeight + slot.weight.toNat ≤ current.currentWeight) ∨
    ∃ index slot leader, (creditSlots paths eligible start slots total best).2.2 = some leader ∧
      Leads paths eligible slots start index slot leader ∧
      ∀ current, best = some current → current.currentWeight ≤ leader.currentWeight := by
  induction slots generalizing start total best with
  | nil => exact Or.inl ⟨rfl, by simp⟩
  | cons slot rest ih =>
    rw [creditSlots_cons]
    by_cases here : slotEligible paths eligible slot = true
    · rw [if_pos here]
      obtain ⟨winner, chosen, ahead, past, origin⟩ :=
        betterOf_spec best ⟨start, slot.currentWeight + slot.weight.toNat, slot.pathIndex⟩
      rw [chosen]
      rcases ih (start + 1) (total + slot.weight.toNat) (some winner) with ⟨same, others⟩ |
        ⟨index, other, leader, found, leads, further⟩
      · have most : ∀ other ∈ slot :: rest, slotEligible paths eligible other = true →
            other.currentWeight + other.weight.toNat ≤ winner.currentWeight := by
          refine List.forall_mem_cons.mpr ⟨fun _ => ahead, fun other member earns => ?_⟩
          obtain ⟨current, same', bound⟩ := others other member earns
          rwa [← Option.some.inj same'] at bound
        rcases origin with rfl | kept
        · exact Or.inr ⟨0, slot, _, same, ⟨rfl, here, rfl, most⟩, past⟩
        · refine Or.inl ⟨same.trans kept.symm, fun other member earns => ⟨winner, kept, most other member earns⟩⟩
      · have weight : leader.currentWeight = other.currentWeight + other.weight.toNat := by rw [leads.best]
        have bound := further winner rfl
        refine Or.inr ⟨index + 1, other, leader, found, ⟨leads.found, leads.earns, ?_, ?_⟩, fun current old =>
          (past current old).trans bound⟩
        · rw [leads.best, Nat.add_right_comm, Nat.add_assoc]
        · refine List.forall_mem_cons.mpr ⟨fun _ => ?_, leads.most⟩
          rw [← weight]
          exact ahead.trans bound
    · rw [if_neg here]
      rcases ih (start + 1) total best with ⟨same, others⟩ | ⟨index, other, leader, found, leads, further⟩
      · exact Or.inl ⟨same, List.forall_mem_cons.mpr ⟨fun earns => absurd earns here, others⟩⟩
      · refine Or.inr ⟨index + 1, other, leader, found, ⟨leads.found, leads.earns, ?_, ?_⟩, further⟩
        · rw [leads.best, Nat.add_right_comm, Nat.add_assoc]
        · exact List.forall_mem_cons.mpr ⟨fun earns => absurd earns here, leads.most⟩

end Pass

section Rounds

variable {paths : List CorePathConfig} {eligible : CorePathConfig → Bool} {scheduler : WeightedRoundRobin} {count : Nat}

/-- The path, the credit, the weight and the eligibility of the slot at a position. -/
def indexAt (slots : List WeightedPathSlot) (count : Nat) (position : Fin count) : Nat :=
  (slots[position.val]?.map (·.pathIndex)).getD 0

def creditAt (slots : List WeightedPathSlot) (count : Nat) (position : Fin count) : ℤ :=
  (slots[position.val]?.map (·.currentWeight)).getD 0

def weightAt (slots : List WeightedPathSlot) (count : Nat) (position : Fin count) : ℕ :=
  (slots[position.val]?.map (·.weight.toNat)).getD 0

def eligibleAt (paths : List CorePathConfig) (eligible : CorePathConfig → Bool) (slots : List WeightedPathSlot)
    (count : Nat) : Finset (Fin count) :=
  Finset.univ.filter fun position => (slots[position.val]?.map (slotEligible paths eligible)).getD false = true

/-- What selections leave alone. -/
def shape (slots : List WeightedPathSlot) : List (Nat × UInt16) := slots.map fun slot => (slot.pathIndex, slot.weight)

section
variable (slots : List WeightedPathSlot)

theorem shape_credited : shape (slots.map (credited paths eligible)) = shape slots := by
  rw [shape, List.map_map, shape]
  refine List.map_congr_left fun slot _ => ?_
  rw [Function.comp_apply, credited]
  split <;> rfl

theorem shape_modify (index : Nat) (change : WeightedPathSlot → Int) :
    shape (slots.modify index fun slot => { slot with currentWeight := change slot }) = shape slots := by
  refine List.ext_getElem? fun position => ?_
  rw [shape, shape, List.getElem?_map, List.getElem?_map, List.getElem?_modify]
  cases slots[position]? with
  | none => rfl
  | some slot =>
    simp only [Option.map_eq_map, Option.map_some]
    split <;> rfl

theorem total_eligibleAt :
    total (weightAt slots slots.length) (eligibleAt paths eligible slots slots.length) =
      eligibleWeight paths eligible slots := by
  rw [total, eligibleAt, Finset.sum_filter, eligibleWeight,
    ← Fin.sum_univ_fun_getElem slots fun slot => if slotEligible paths eligible slot then slot.weight.toNat else 0]
  refine Finset.sum_congr rfl fun position _ => ?_
  simp [weightAt]

end

/-- A selection changes nothing if no slot is eligible, and otherwise is a round among the eligible slots. -/
theorem selectEligible_cases (scheduler : WeightedRoundRobin) (paths : List CorePathConfig)
    (eligible : CorePathConfig → Bool) (length : scheduler.slots.length = count) :
    (scheduler.selectEligible paths eligible = (none, scheduler) ∧
      ∀ slot ∈ scheduler.slots, slotEligible paths eligible slot = false) ∨
    ∃ (position : Fin count) (next : WeightedRoundRobin),
      scheduler.selectEligible paths eligible = (some (indexAt scheduler.slots count position), next) ∧
      shape next.slots = shape scheduler.slots ∧
      Round (weightAt scheduler.slots count) (eligibleAt paths eligible scheduler.slots count)
        (creditAt scheduler.slots count) position (creditAt next.slots count) := by
  subst length
  have slots := creditSlots_slots paths eligible scheduler.slots 0 0 none
  have sum := creditSlots_total paths eligible scheduler.slots 0 0 none
  rw [selectEligible]
  rcases creditSlots_best paths eligible scheduler.slots 0 0 none with ⟨nobody, none⟩ |
    ⟨index, slot, leader, found, leads, -⟩
  · have idle : ∀ slot ∈ scheduler.slots, slotEligible paths eligible slot = false := by
      intro slot member
      by_contra earns
      obtain ⟨current, impossible, -⟩ := none slot member (by simpa using earns)
      cases impossible
    refine Or.inl ⟨?_, idle⟩
    rcases pass : creditSlots paths eligible 0 scheduler.slots 0 Option.none with ⟨after, sum', best⟩
    rw [pass] at nobody slots
    simp only at nobody slots
    subst nobody
    have same : scheduler.slots.map (credited paths eligible) = scheduler.slots := by
      conv_rhs => rw [← List.map_id scheduler.slots]
      refine List.map_congr_left fun slot member => ?_
      rw [credited, if_neg (by simp [idle slot member]), id]
    simp only [slots, same]
  · obtain ⟨inside, rfl⟩ := List.getElem?_eq_some_iff.mp leads.found
    rcases pass : creditSlots paths eligible 0 scheduler.slots 0 Option.none with ⟨after, sum', best⟩
    rw [pass] at found slots sum
    simp only [zero_add] at found slots sum
    subst found slots sum
    refine Or.inr ⟨⟨index, inside⟩, _, Prod.ext ?_ rfl, ?_, ?_⟩
    · simp [leads.best, indexAt, leads.found]
    · exact (shape_modify _ _ _).trans (shape_credited _)
    · have here (position : Fin scheduler.slots.length) :
          scheduler.slots[position.val]? = some scheduler.slots[position] :=
        List.getElem?_eq_getElem position.isLt
      constructor
      · simpa [eligibleAt, here ⟨index, inside⟩] using leads.earns
      · intro other earns
        have eligible' : slotEligible paths eligible scheduler.slots[other] = true := by
          simpa [eligibleAt, here other] using earns
        have bound := leads.most _ (List.getElem_mem other.isLt) eligible'
        simpa [creditAt, weightAt, here other, here ⟨index, inside⟩] using bound
      · intro participant
        have position : index = participant.val ↔ participant = ⟨index, inside⟩ := by rw [Fin.ext_iff, eq_comm]
        rw [total_eligibleAt]
        simp only [leads.best, creditAt, weightAt, eligibleAt, List.getElem?_modify,
          List.getElem?_map, here participant,
          Finset.mem_filter, Finset.mem_univ, true_and, Option.map_some, Option.getD_some, zero_add,
          Option.map_eq_map, position, ← credited_weight]
        split
        · rfl
        · rw [sub_zero]

variable {others : List WeightedPathSlot}

theorem weightAt_shape {slots : List WeightedPathSlot} (same : shape slots = shape others) :
    weightAt slots count = weightAt others count := by
  funext position
  have entry := congrArg (fun entries =>
    (entries[position.val]?.map fun entry : Nat × UInt16 => entry.2.toNat).getD 0) same
  simpa [shape, weightAt, Function.comp_def] using entry

theorem eligibleAt_shape {slots : List WeightedPathSlot} (same : shape slots = shape others) :
    eligibleAt paths eligible slots count = eligibleAt paths eligible others count := by
  ext position
  have entry := congrArg (fun entries =>
    (entries[position.val]?.map fun entry : Nat × UInt16 => (paths[entry.1]?.map eligible).getD false).getD false) same
  simp only [shape, List.getElem?_map, Option.map_map, Function.comp_def] at entry
  simp only [eligibleAt, Finset.mem_filter, Finset.mem_univ, true_and]
  exact Eq.congr_left entry

theorem length_of_shape {slots : List WeightedPathSlot} (same : shape slots = shape others) :
    slots.length = others.length := by
  simpa [shape] using congrArg List.length same

theorem slots_ext {slots : List WeightedPathSlot} (same : shape slots = shape others)
    (credits : ∀ position : Fin slots.length,
      creditAt slots slots.length position = creditAt others slots.length position) :
        slots = others := by
  refine List.ext_getElem (length_of_shape same) fun position first second => ?_
  have credit := credits ⟨position, first⟩
  have entry := congrArg (·[position]?) same
  simp only [shape, List.getElem?_map, List.getElem?_eq_getElem first, List.getElem?_eq_getElem second,
    Option.map_some, Option.some.injEq, Prod.mk.injEq] at entry
  simp only [creditAt, List.getElem?_eq_getElem first, List.getElem?_eq_getElem second, Option.map_some,
    Option.getD_some] at credit
  rcases one : slots[position] with ⟨path, weight, current⟩
  rcases two : others[position] with ⟨path', weight', current'⟩
  simp_all

end Rounds

section Compiled

variable (paths : List CorePathConfig) (allowedPathIds : List PathId) (pathWeights : List (PathId × UInt16))

theorem compiled_slot {path : CorePathConfig} {index : Nat} {slot : WeightedPathSlot}
    (made : (if !path.enabled then none
      else if !allowedPathIds.isEmpty && !allowedPathIds.contains path.pathId then none
      else (serviceWeightForPath path.pathId path.weight pathWeights).map fun weight =>
        ⟨index, weight, 0⟩) = some slot) :
    ∃ weight, slot = ⟨index, weight, 0⟩ := by
  split at made
  · cases made
  · split at made
    · cases made
    · obtain ⟨weight, -, rfl⟩ := Option.map_eq_some_iff.mp made
      exact ⟨weight, rfl⟩

theorem compile_credit (slot : WeightedPathSlot)
    (member : slot ∈ (compileWithPathWeights paths allowedPathIds pathWeights).slots) : slot.currentWeight = 0 := by
  obtain ⟨entry, -, made⟩ := List.mem_filterMap.mp member
  obtain ⟨weight, rfl⟩ := compiled_slot allowedPathIds pathWeights made
  rfl

theorem compile_creditAt (count : Nat) (position : Fin count) :
    creditAt (compileWithPathWeights paths allowedPathIds pathWeights).slots count position = 0 := by
  rw [creditAt]
  cases found : (compileWithPathWeights paths allowedPathIds pathWeights).slots[position.val]? with
  | none => rfl
  | some slot => exact compile_credit paths allowedPathIds pathWeights slot (List.mem_of_getElem? found)

theorem compile_indices : ((compileWithPathWeights paths allowedPathIds pathWeights).slots.map (·.pathIndex)).Sublist
    (List.range' 0 paths.length) := by
  rw [← List.zipIdx_map_snd 0 paths, compileWithPathWeights]
  induction paths.zipIdx with
  | nil => exact List.Sublist.refl _
  | cons entry rest ih =>
    rw [List.filterMap_cons, List.map_cons]
    split
    · exact ih.cons _
    · rename_i slot made
      obtain ⟨weight, rfl⟩ := compiled_slot allowedPathIds pathWeights made
      exact ih.cons_cons _

end Compiled

section Blocks

variable {paths : List CorePathConfig} {eligible : CorePathConfig → Bool}

def selectTimes (paths : List CorePathConfig) (eligible : CorePathConfig → Bool) :
    Nat → WeightedRoundRobin → List (Option Nat) × WeightedRoundRobin
  | 0, scheduler => ([], scheduler)
  | times + 1, scheduler =>
      let first := scheduler.selectEligible paths eligible
      let later := selectTimes paths eligible times first.2
      (first.1 :: later.1, later.2)

theorem selectTimes_add (first second : Nat) (scheduler : WeightedRoundRobin) :
    (selectTimes paths eligible (first + second) scheduler).2 =
      (selectTimes paths eligible second (selectTimes paths eligible first scheduler).2).2 := by
  induction first generalizing scheduler with
  | zero => rw [zero_add]; rfl
  | succ first ih =>
    rw [Nat.succ_add, selectTimes, selectTimes]
    exact ih _

variable {slots : List WeightedPathSlot}

theorem indexAt_shape {count : Nat} (same : shape slots = shape others) :
    indexAt slots count = indexAt others count := by
  funext position
  have entry := congrArg (fun entries => (entries[position.val]?.map fun entry : Nat × UInt16 => entry.1).getD 0) same
  simpa [shape, indexAt, Function.comp_def] using entry

theorem selectTimes_rounds (positive : 0 < eligibleWeight paths eligible slots) (times : Nat)
    {scheduler : WeightedRoundRobin} (same : shape scheduler.slots = shape slots) :
    ∃ choices : List (Fin slots.length),
      Rounds (weightAt slots slots.length) (eligibleAt paths eligible slots slots.length)
        (creditAt scheduler.slots slots.length) choices
        (creditAt (selectTimes paths eligible times scheduler).2.slots slots.length) ∧
      shape (selectTimes paths eligible times scheduler).2.slots = shape slots ∧
      (selectTimes paths eligible times scheduler).1 = choices.map
        (fun choice => some (indexAt slots slots.length choice)) ∧
      choices.length = times := by
  induction times generalizing scheduler with
  | zero => exact ⟨[], .none _, same, rfl, rfl⟩
  | succ times ih =>
    have length : scheduler.slots.length = slots.length := length_of_shape same
    rcases selectEligible_cases scheduler paths eligible length with ⟨-, nobody⟩ |
      ⟨position, next, selected, kept, round⟩
    · have idle : ¬0 < eligibleWeight paths eligible scheduler.slots := by
        rw [not_lt, Nat.le_zero, eligibleWeight, List.sum_eq_zero]
        intro weight member
        obtain ⟨slot, listed, rfl⟩ := List.mem_map.mp member
        rw [if_neg (by simp [nobody slot listed])]
      have weights : eligibleWeight paths eligible scheduler.slots = eligibleWeight paths eligible slots := by
        rw [← total_eligibleAt, ← total_eligibleAt, length, weightAt_shape same, eligibleAt_shape same]
      rw [weights] at idle
      exact absurd positive idle
    · obtain ⟨choices, rounds, shaped, picked, rfl⟩ := ih (kept.trans same)
      rw [weightAt_shape same, eligibleAt_shape same] at round
      simp only [selectTimes, selected]
      refine ⟨position :: choices, .more round rounds, shaped, ?_, rfl⟩
      rw [picked, indexAt_shape same, List.map_cons]

variable (configured paths : List CorePathConfig) (allowedPathIds : List PathId) (pathWeights : List (PathId × UInt16))
  (eligible : CorePathConfig → Bool)

theorem compile_indexAt_injective : Function.Injective
    (indexAt (compileWithPathWeights configured allowedPathIds pathWeights).slots
      (compileWithPathWeights configured allowedPathIds pathWeights).slots.length) := by
  have distinct : ((compileWithPathWeights configured allowedPathIds pathWeights).slots.map (·.pathIndex)).Nodup :=
    (compile_indices configured allowedPathIds pathWeights).nodup List.nodup_range'
  intro first second same
  simp only [indexAt, List.getElem?_eq_getElem first.isLt, List.getElem?_eq_getElem second.isLt, Option.map_some,
    Option.getD_some] at same
  have inside (position : Fin (compileWithPathWeights configured allowedPathIds pathWeights).slots.length) :
    position.val <
      ((compileWithPathWeights configured allowedPathIds pathWeights).slots.map (·.pathIndex)).length := by simp
  have equal : ((compileWithPathWeights configured allowedPathIds pathWeights).slots.map (·.pathIndex)).get
      ⟨first, inside first⟩ = ((compileWithPathWeights configured allowedPathIds pathWeights).slots.map
        (·.pathIndex)).get
      ⟨second, inside second⟩ := by simpa using same
  exact Fin.ext (Fin.mk.inj (List.nodup_iff_injective_get.mp distinct equal))

theorem fresh_block
    (positive : 0 < eligibleWeight paths eligible
      (compileWithPathWeights configured allowedPathIds pathWeights).slots) :
    (selectTimes paths eligible
        (eligibleWeight paths eligible (compileWithPathWeights configured allowedPathIds pathWeights).slots)
        (compileWithPathWeights configured allowedPathIds pathWeights)).2 =
      compileWithPathWeights configured allowedPathIds pathWeights ∧
    ∀ slot ∈ (compileWithPathWeights configured allowedPathIds pathWeights).slots,
      slotEligible paths eligible slot = true →
      (selectTimes paths eligible
        (eligibleWeight paths eligible (compileWithPathWeights configured allowedPathIds pathWeights).slots)
        (compileWithPathWeights configured allowedPathIds pathWeights)).1.count
          (some slot.pathIndex) = slot.weight.toNat := by
  have zero := compile_creditAt configured allowedPathIds pathWeights
    (compileWithPathWeights configured allowedPathIds pathWeights).slots.length
  have apart := compile_indexAt_injective configured allowedPathIds pathWeights
  generalize compileWithPathWeights configured allowedPathIds pathWeights = start at *
  obtain ⟨choices, rounds, shaped, picked, length⟩ := selectTimes_rounds positive
    (eligibleWeight paths eligible start.slots) (rfl : shape start.slots = shape start.slots)
  rw [← total_eligibleAt] at positive
  obtain ⟨exact, back⟩ := rounds.block positive (fun position _ => zero position)
    (length.trans (total_eligibleAt _).symm)
  constructor
  · have credits : ∀ position, creditAt (selectTimes paths eligible (eligibleWeight paths eligible start.slots)
        start).2.slots start.slots.length position = creditAt start.slots start.slots.length position := by
      intro position
      by_cases earns : position ∈ eligibleAt paths eligible start.slots start.slots.length
      · rw [back position earns, zero]
      · exact rounds.outside earns
    have slots := slots_ext shaped.symm fun position => (credits position).symm
    calc (selectTimes paths eligible (eligibleWeight paths eligible start.slots) start).2
        = ⟨(selectTimes paths eligible (eligibleWeight paths eligible start.slots) start).2.slots⟩ := rfl
      _ = ⟨start.slots⟩ := by rw [← slots]
      _ = start := rfl
  · intro slot member earns
    obtain ⟨position, inside, rfl⟩ := List.getElem_of_mem member
    have here : start.slots[position]? = some start.slots[position] := List.getElem?_eq_getElem inside
    have index : indexAt start.slots start.slots.length ⟨position, inside⟩ = start.slots[position].pathIndex := by
      simp [indexAt, here]
    have listed : (⟨position, inside⟩ : Fin start.slots.length) ∈
        eligibleAt paths eligible start.slots start.slots.length := by
      simpa [eligibleAt, here] using earns
    have injective : Function.Injective fun choice => some (indexAt start.slots start.slots.length choice) :=
      (Option.some_injective _).comp apart
    rw [picked, ← index, List.count_map_of_injective choices _ injective, exact _ listed]
    simp [weightAt, here]

theorem fresh_blocks (block : Nat)
    (positive : 0 < eligibleWeight paths eligible
      (compileWithPathWeights configured allowedPathIds pathWeights).slots) :
    (selectTimes paths eligible
        (block * eligibleWeight paths eligible (compileWithPathWeights configured allowedPathIds pathWeights).slots)
        (compileWithPathWeights configured allowedPathIds pathWeights)).2 =
      compileWithPathWeights configured allowedPathIds pathWeights := by
  induction block with
  | zero => rw [zero_mul]; rfl
  | succ block ih =>
    rw [Nat.succ_mul, selectTimes_add]
    rw [ih]
    exact (fresh_block configured paths allowedPathIds pathWeights eligible positive).1

/-- From a freshly compiled scheduler, every block of as many selections as the eligible weight picks each eligible path
as often as its weight says and leaves no credit. -/
theorem weighted_blocks_exact (block : Nat)
    (positive : 0 < eligibleWeight paths eligible
      (compileWithPathWeights configured allowedPathIds pathWeights).slots) :
    let weight := eligibleWeight paths eligible (compileWithPathWeights configured allowedPathIds pathWeights).slots
    let before := (selectTimes paths eligible (block * weight)
      (compileWithPathWeights configured allowedPathIds pathWeights)).2
    let picked := selectTimes paths eligible weight before
    (∀ slot ∈ (compileWithPathWeights configured allowedPathIds pathWeights).slots,
      slotEligible paths eligible slot = true →
      picked.1.count (some slot.pathIndex) = slot.weight.toNat) ∧
    shape picked.2.slots = shape (compileWithPathWeights configured allowedPathIds pathWeights).slots ∧
    ∀ slot ∈ picked.2.slots, slot.currentWeight = 0 := by
  intro weight before picked
  obtain ⟨returns, exact⟩ := fresh_block configured paths allowedPathIds pathWeights eligible positive
  have whole : picked = selectTimes paths eligible weight
      (compileWithPathWeights configured allowedPathIds pathWeights) :=
    congrArg (selectTimes paths eligible weight)
      (fresh_blocks configured paths allowedPathIds pathWeights eligible block positive)
  rw [whole, returns]
  exact ⟨exact, rfl, compile_credit configured allowedPathIds pathWeights⟩

def twoPaths : List CorePathConfig :=
  [.direct 1 1400 (.v4 1 1) (.v4 2 1) (Eq.refl true), .direct 2 1400 (.v4 1 2) (.v4 2 2) (Eq.refl true)]

theorem two_to_one_block :
    0 < eligibleWeight twoPaths (fun _ => true) (compileWithPathWeights twoPaths [] [(1, 2), (2, 1)]).slots ∧
    shape (selectTimes twoPaths (fun _ => true) 3 (selectTimes twoPaths (fun _ => true) (4 * 3)
      (compileWithPathWeights twoPaths [] [(1, 2), (2, 1)])).2).2.slots = [(0, 2), (1, 1)] := by
  have positive : 0 < eligibleWeight twoPaths (fun _ => true)
      (compileWithPathWeights twoPaths [] [(1, 2), (2, 1)]).slots := by decide
  exact ⟨positive, (weighted_blocks_exact twoPaths twoPaths [] [(1, 2), (2, 1)] (fun _ => true) 4 positive).2.1⟩

/-- After any number of selections an eligible path is less than one above its share, and lacks less than one for each
slot. -/
theorem shares_kept (times : Nat) {start : WeightedRoundRobin} {slot : WeightedPathSlot}
    (compiled : compileWithPathWeights configured allowedPathIds pathWeights = start)
    (positive : 0 < eligibleWeight paths eligible start.slots) (member : slot ∈ start.slots)
    (earns : slotEligible paths eligible slot = true) :
    let count := (selectTimes paths eligible times start).1.count (some slot.pathIndex)
    let weight := eligibleWeight paths eligible start.slots
    count * weight < times * slot.weight.toNat + weight ∧
      times * slot.weight.toNat + weight ≤ (count + start.slots.length) * weight := by
  have zero := compile_creditAt configured allowedPathIds pathWeights
  have apart := compile_indexAt_injective configured allowedPathIds pathWeights
  rw [compiled] at zero apart
  obtain ⟨choices, rounds, -, picked, rfl⟩ := selectTimes_rounds positive times rfl
  obtain ⟨position, inside, rfl⟩ := List.getElem_of_mem member
  have here := List.getElem?_eq_getElem inside
  have listed : ⟨position, inside⟩ ∈ eligibleAt paths eligible start.slots _ := by simpa [eligibleAt, here] using earns
  have counted := List.count_map_of_injective choices _ ((Option.some_injective _).comp apart) ⟨position, inside⟩
  have few := Finset.card_le_univ (eligibleAt paths eligible start.slots start.slots.length)
  obtain ⟨ahead, behind⟩ := rounds.share (total_eligibleAt ..) positive (fun _ _ => zero ..) listed
  simp only [indexAt, weightAt, here, Function.comp_def, Option.map_some, Option.getD_some, Fintype.card_fin] at *
  simp only [picked, counted]
  exact ⟨ahead, behind.trans (Nat.mul_le_mul_right _ (Nat.add_le_add_left few _))⟩

theorem two_to_one_shares :
    let count := (selectTimes twoPaths (fun _ => true) 100
      (compileWithPathWeights twoPaths [] [(1, 2), (2, 1)])).1.count
      (some 0)
    count * 3 < 100 * 2 + 3 ∧ 100 * 2 + 3 ≤ (count + 2) * 3 :=
  @shares_kept _ twoPaths _ _ (fun _ => true) 100 _ ⟨0, 2, 0⟩ rfl (by decide) (by decide) (by decide)

end Blocks

section Changing

/-- A call of the scheduler, with the paths and the eligibility of its moment. -/
inductive Selection where
  | pass (paths : List CorePathConfig) (eligible : CorePathConfig → Bool)
  | tiered (paths : List CorePathConfig) (payloadLen : Nat) (allowed : CorePathConfig → Bool)

def Selection.apply (scheduler : WeightedRoundRobin) : Selection → WeightedRoundRobin
  | .pass paths eligible => (scheduler.selectEligible paths eligible).2
  | .tiered paths payloadLen allowed => (scheduler.selectPathIndexWhere paths payloadLen allowed).2

theorem selectPathIndexWhere_keeps {Good : WeightedRoundRobin → Prop} {scheduler : WeightedRoundRobin}
    (pass : ∀ before, Good before → ∀ paths eligible, Good (before.selectEligible paths eligible).2)
    (good : Good scheduler) (paths : List CorePathConfig) (payloadLen : Nat) (allowed : CorePathConfig → Bool) :
    Good (scheduler.selectPathIndexWhere paths payloadLen allowed).2 := by
  rw [selectPathIndexWhere]
  split
  · exact good
  · have first := pass scheduler good paths fun path =>
      allowed path && path.acceptsWholePacket && decide (payloadLen ≤ path.maxDataPayload)
    split
    · rename_i whole
      rwa [whole] at first
    · rename_i whole
      rw [whole] at first
      have second := pass _ first paths fun path => allowed path && path.acceptsFragmentedPacket
      split
      · rename_i fragmented
        rwa [fragmented] at second
      · rename_i fragmented
        rw [fragmented] at second
        have third := pass _ second paths fun path =>
          allowed path && path.enabled && decide (payloadLen ≤ path.maxDataPayload)
        split
        · rename_i fitting
          rwa [fitting] at third
        · rename_i fitting
          rwa [fitting] at third

def maxWeight (slots : List WeightedPathSlot) : Nat := (slots.map (·.weight.toNat)).foldr max 0

variable {slots : List WeightedPathSlot}

variable {slot : WeightedPathSlot}

theorem weight_le_max (member : slot ∈ slots) :
    slot.weight.toNat ≤ maxWeight slots := by
  induction slots with
  | nil => cases member
  | cons first rest ih =>
    rcases List.mem_cons.mp member with rfl | later
    · exact le_max_left _ _
    · exact (ih later).trans (le_max_right _ _)

theorem max_le {bound : Nat} (each : ∀ slot ∈ slots, slot.weight.toNat ≤ bound) :
    maxWeight slots ≤ bound := by
  induction slots with
  | nil => exact Nat.zero_le bound
  | cons first rest ih =>
    exact Nat.max_le.mpr ⟨each first List.mem_cons_self, ih fun slot member =>
      each slot (List.mem_cons_of_mem _ member)⟩

theorem weightAt_le_max (slots : List WeightedPathSlot) (count : Nat) (position : Fin count) :
    weightAt slots count position ≤ maxWeight slots := by
  rw [weightAt]
  cases found : slots[position.val]? with
  | none => exact Nat.zero_le _
  | some slot => exact weight_le_max (List.mem_of_getElem? found)

/-- A scheduler that selections can lead to from these slots. -/
structure Balanced (slots : List WeightedPathSlot) (scheduler : WeightedRoundRobin) : Prop where
  shaped : shape scheduler.slots = shape slots
  credits : Bounded (maxWeight slots) (creditAt scheduler.slots slots.length)

variable {slots : List WeightedPathSlot} {scheduler : WeightedRoundRobin}

section
variable (balanced : Balanced slots scheduler)
include balanced

theorem Balanced.selectEligible (paths : List CorePathConfig)
    (eligible : CorePathConfig → Bool) : Balanced slots (scheduler.selectEligible paths eligible).2 := by
  rcases selectEligible_cases scheduler paths eligible (length_of_shape balanced.shaped) with ⟨selected, -⟩ |
    ⟨position, next, selected, kept, round⟩
  · rwa [selected]
  · rw [selected]
    refine ⟨kept.trans balanced.shaped, round.bounded (fun participant => ?_) balanced.credits⟩
    rw [weightAt_shape balanced.shaped]
    exact weightAt_le_max slots slots.length participant

theorem Balanced.run (selections : List Selection) :
    Balanced slots (selections.foldl Selection.apply scheduler) := by
  induction selections generalizing scheduler with
  | nil => exact balanced
  | cons selection rest ih =>
    apply ih
    cases selection with
    | pass paths eligible => exact balanced.selectEligible paths eligible
    | tiered paths payloadLen allowed =>
      exact selectPathIndexWhere_keeps (fun _ before => before.selectEligible) balanced paths payloadLen allowed

theorem Balanced.sum : (scheduler.slots.map (·.currentWeight)).sum = 0 := by
  have zero := balanced.credits.balanced
  rw [← length_of_shape balanced.shaped] at zero
  rw [← Fin.sum_univ_fun_getElem scheduler.slots fun slot => slot.currentWeight, ← zero]
  refine Finset.sum_congr rfl fun position _ => ?_
  simp [creditAt]

theorem Balanced.within (member : slot ∈ scheduler.slots) :
    |slot.currentWeight| ≤ slots.length * slots.length * maxWeight slots := by
  obtain ⟨position, inside, rfl⟩ := List.getElem_of_mem member
  have bound := balanced.credits.within ⟨position, length_of_shape balanced.shaped ▸ inside⟩
  rw [Fintype.card_fin] at bound
  simpa only [creditAt, List.getElem?_eq_getElem inside, Option.map_some, Option.getD_some] using bound

end

variable (configured : List CorePathConfig) (allowedPathIds : List PathId) (pathWeights : List (PathId × UInt16))

theorem compile_balanced : Balanced (compileWithPathWeights configured allowedPathIds pathWeights).slots
    (compileWithPathWeights configured allowedPathIds pathWeights) :=
  ⟨rfl, bounded_zero (compile_creditAt configured allowedPathIds pathWeights _)⟩

theorem compile_length (distinct : (configured.map (·.pathId)).Nodup) :
    (compileWithPathWeights configured allowedPathIds pathWeights).slots.length ≤ 2 ^ 16 := by
  have slots := (compile_indices configured allowedPathIds pathWeights).length_le
  rw [List.length_map, List.length_range'] at slots
  have ids := (distinct.map (UInt16.toFin_injective)).length_le_card
  rw [Fintype.card_fin, List.length_map, List.length_map] at ids
  exact slots.trans ids

/-- However the eligible slots change from selection to selection, the credits sum to zero and none exceeds the square
of the number of slots times the largest weight. With distinct path ids no gain or payment of a selection leaves 64
bits. -/
theorem credits_bounded (selections : List Selection) :
    let start := compileWithPathWeights configured allowedPathIds pathWeights
    let reached := selections.foldl Selection.apply start
    (reached.slots.map (·.currentWeight)).sum = 0 ∧
    (∀ slot ∈ reached.slots,
      |slot.currentWeight| ≤ start.slots.length * start.slots.length * maxWeight start.slots) ∧
    ((configured.map (·.pathId)).Nodup → ∀ slot ∈ reached.slots,
      ∀ amount ≤ start.slots.length * maxWeight start.slots,
        -2 ^ 63 ≤ slot.currentWeight - amount ∧ slot.currentWeight + amount < 2 ^ 63) := by
  intro start reached
  have balanced : Balanced start.slots reached :=
    (compile_balanced configured allowedPathIds pathWeights).run selections
  refine ⟨balanced.sum, fun slot member => balanced.within member, fun distinct slot member amount small => ?_⟩
  have count := compile_length configured allowedPathIds pathWeights distinct
  have most : maxWeight start.slots ≤ 2 ^ 16 := max_le fun slot _ => slot.weight.toNat_lt.le
  have bound := abs_le.mp (balanced.within member)
  have gain : start.slots.length * maxWeight start.slots ≤ 2 ^ 16 * 2 ^ 16 := Nat.mul_le_mul count most
  have square : (start.slots.length * start.slots.length * maxWeight start.slots : ℤ) ≤ 2 ^ 16 * 2 ^ 16 * 2 ^ 16 := by
    exact_mod_cast Nat.mul_le_mul (Nat.mul_le_mul count count) most
  omega

end Changing

end WeightedRoundRobin

end Gatherlink.Dataplane
