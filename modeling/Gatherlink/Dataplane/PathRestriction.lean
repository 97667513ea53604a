import Gatherlink.Dataplane.OrderedTimeline
import Gatherlink.Dataplane.WeightedCredits

/-! Selections and the paths they are restricted to. Every scheduler keeps to the paths that it is asked to choose from;
the slots of a weighted one are paths that its service may use, but its last resort is not a slot. -/

namespace Gatherlink.Dataplane

variable {paths : List CorePathConfig} {payloadLen now index : Nat} {allowed eligible : CorePathConfig → Bool}
  {path : CorePathConfig}

/-- A path that takes a payload in some way: whole if it is enabled and the payload fits, or in fragments. -/
def takes (payloadLen : Nat) (path : CorePathConfig) : Bool :=
  path.enabled && decide (payloadLen ≤ path.maxDataPayload) || path.acceptsFragmentedPacket

namespace WeightedRoundRobin

variable {scheduler : WeightedRoundRobin}

theorem slotEligible_path {slot : WeightedPathSlot} (earns : slotEligible paths eligible slot = true) :
    ∃ path, paths[slot.pathIndex]? = some path ∧ eligible path = true := by
  rw [slotEligible] at earns
  cases here : paths[slot.pathIndex]? with
  | none =>
    rw [here] at earns
    cases earns
  | some path =>
    rw [here] at earns
    exact ⟨path, rfl, earns⟩

theorem selectEligible_picks (scheduler : WeightedRoundRobin) (paths : List CorePathConfig)
    (eligible : CorePathConfig → Bool) :
    (scheduler.selectEligible paths eligible = (none, scheduler) ∧
      ∀ slot ∈ scheduler.slots, slotEligible paths eligible slot = false) ∨
    ∃ slot ∈ scheduler.slots, slotEligible paths eligible slot = true ∧
      ∃ next, scheduler.selectEligible paths eligible = (some slot.pathIndex, next) := by
  rcases selectEligible_cases scheduler paths eligible rfl with idle | ⟨position, next, selected, -, round⟩
  · exact Or.inl idle
  · have here : scheduler.slots[position.val]? = some scheduler.slots[position] :=
      List.getElem?_eq_getElem position.isLt
    refine Or.inr ⟨scheduler.slots[position], List.getElem_mem position.isLt, ?_, next, ?_⟩
    · simpa [eligibleAt, here] using round.member
    · rw [selected, indexAt, here]
      rfl

section
variable (found : (scheduler.selectPathIndexWhere paths payloadLen allowed).1 = some index)
include found

theorem selectPathIndexWhere_cases :
    (∃ slot ∈ scheduler.slots, slot.pathIndex = index ∧ ∃ path, paths[index]? = some path ∧ allowed path = true) ∨
    (paths.findIdx? fun path => allowed path && path.enabled) = some index ∧ ∀ slot ∈ scheduler.slots,
      ∀ path, paths[slot.pathIndex]? = some path → allowed path = true → takes payloadLen path = false := by
  have picked {eligible : CorePathConfig → Bool} {slot : WeightedPathSlot} (member : slot ∈ scheduler.slots)
      (earns : slotEligible paths eligible slot = true) (suits : ∀ path, eligible path = true → allowed path = true) :
      ∃ other ∈ scheduler.slots, other.pathIndex = slot.pathIndex ∧
        ∃ path, paths[slot.pathIndex]? = some path ∧ allowed path = true := by
    obtain ⟨path, here, able⟩ := slotEligible_path earns
    exact ⟨slot, member, rfl, path, here, suits path able⟩
  rw [selectPathIndexWhere] at found
  split at found
  · cases found
  · rcases selectEligible_picks scheduler paths fun path =>
        allowed path && path.acceptsWholePacket && decide (payloadLen ≤ path.maxDataPayload) with
      ⟨first, -⟩ | ⟨slot, member, earns, next, first⟩
    · rcases selectEligible_picks scheduler paths fun path => allowed path && path.acceptsFragmentedPacket with
        ⟨second, unfragmented⟩ | ⟨slot, member, earns, next, second⟩
      · rcases selectEligible_picks scheduler paths fun path =>
            allowed path && path.enabled && decide (payloadLen ≤ path.maxDataPayload) with
          ⟨third, unfitting⟩ | ⟨slot, member, earns, next, third⟩
        · simp only [first, second, third] at found
          refine Or.inr ⟨found, fun slot member path here permitted => ?_⟩
          have whole := unfitting slot member
          have fragment := unfragmented slot member
          simp only [slotEligible, here, Option.map_some, Option.getD_some, permitted, Bool.true_and] at whole fragment
          rw [takes, whole, fragment]
          rfl
        · simp only [first, second, third] at found
          rw [← Option.some.inj found]
          exact Or.inl (picked member earns fun path able => by simp only [Bool.and_eq_true] at able; exact able.1.1)
      · simp only [first, second] at found
        rw [← Option.some.inj found]
        exact Or.inl (picked member earns fun path able => (Bool.and_eq_true_iff.mp able).1)
    · simp only [first] at found
      rw [← Option.some.inj found]
      exact Or.inl (picked member earns fun path able => by simp only [Bool.and_eq_true] at able; exact able.1.1)

theorem selectPathIndexWhere_allowed (here : paths[index]? = some path) : allowed path = true := by
  rcases selectPathIndexWhere_cases found with ⟨slot, -, -, other, there, permitted⟩ | ⟨resort, -⟩
  · rwa [Option.some.inj (here.symm.trans there)]
  · have able := List.findIdx?_eq_some_iff_getElem.mp resort
    obtain ⟨inside, able, -⟩ := able
    rw [List.getElem?_eq_getElem inside] at here
    rw [Option.some.inj here] at able
    exact (Bool.and_eq_true_iff.mp able).1

theorem selectPathIndexWhere_slot
    (carried : ∃ slot ∈ scheduler.slots, ∃ path, paths[slot.pathIndex]? = some path ∧ allowed path = true ∧
      takes payloadLen path = true) : ∃ slot ∈ scheduler.slots, slot.pathIndex = index := by
  rcases selectPathIndexWhere_cases found with ⟨slot, member, same, -⟩ | ⟨-, nothing⟩
  · exact ⟨slot, member, same⟩
  · obtain ⟨slot, member, path, here, permitted, carries⟩ := carried
    rw [nothing slot member path here permitted] at carries
    cases carries

end

theorem selectPathIndexWhere_shape : shape (scheduler.selectPathIndexWhere paths payloadLen allowed).2.slots =
    shape scheduler.slots := by
  have pass (before : WeightedRoundRobin) (same : shape before.slots = shape scheduler.slots)
      (paths : List CorePathConfig) (eligible : CorePathConfig → Bool) :
      shape (before.selectEligible paths eligible).2.slots = shape scheduler.slots := by
    rcases selectEligible_cases before paths eligible rfl with ⟨selected, -⟩ | ⟨position, next, selected, kept, -⟩
    · rwa [selected]
    · rw [selected]
      exact kept.trans same
  exact @selectPathIndexWhere_keeps (fun reached => shape reached.slots = shape scheduler.slots)
    scheduler pass rfl paths
    payloadLen allowed

theorem compile_allows {config : ServiceSchedulerConfig} {slot : WeightedPathSlot}
    (member : slot ∈ (compileWithPathWeights paths config.allowedPathIds config.pathWeights).slots)
    (here : paths[slot.pathIndex]? = some path) : config.allowsPathId path.pathId = true := by
  obtain ⟨⟨listed, position⟩, present, made⟩ := List.mem_filterMap.mp member
  have there : paths[position]? = some listed := List.mem_zipIdx_iff_getElem?.mp present
  simp only at made
  split at made
  · cases made
  · split at made
    · cases made
    · rename_i permitted
      obtain ⟨weight, weighs, rfl⟩ := Option.map_eq_some_iff.mp made
      obtain rfl : listed = path := Option.some.inj (there.symm.trans here)
      rw [ServiceSchedulerConfig.allowsPathId]
      split
      · rename_i restricted
        simpa [restricted] using permitted
      · rw [serviceWeightForPath] at weighs
        split at weighs
        · rename_i unweighted
          rw [unweighted, Bool.true_or]
        · obtain ⟨entry, chosen, -⟩ := Option.map_eq_some_iff.mp weighs
          have positive := List.find?_some chosen
          rw [List.any_eq_true.mpr ⟨entry, List.mem_of_find?_eq_some chosen, positive⟩, Bool.or_true]

end WeightedRoundRobin

theorem selectRanked_allowed {score : CorePathConfig → Nat → Score}
    (found : selectRanked paths payloadLen score allowed = some index) (here : paths[index]? = some path) :
    allowed path = true := by
  have listed {suits : CorePathConfig × Nat → Bool} {key : CorePathConfig × Nat → List Nat}
      (least : (minByKey key (paths.zipIdx.filter suits)).map (·.2) = some index) : suits (path, index) = true := by
    obtain ⟨⟨other, position⟩, chosen, rfl⟩ := Option.map_eq_some_iff.mp least
    obtain ⟨present, able⟩ := List.mem_filter.mp (minByKey_mem chosen)
    rwa [Option.some.inj (here.symm.trans (List.mem_zipIdx_iff_getElem?.mp present))]
  simp only [selectRanked] at found
  split at found
  · rename_i whole
    have able := listed ((congrArg (Option.map Prod.snd) whole).trans found)
    simp only [Bool.and_eq_true] at able
    exact able.1.1
  · exact (Bool.and_eq_true_iff.mp (listed found)).1

theorem OrderedMultipathScheduler.selectPathIndexWhere_allowed {scheduler : OrderedMultipathScheduler}
    (found : (scheduler.selectPathIndexWhere now paths payloadLen allowed).1 = some index)
    (here : paths[index]? = some path) : allowed path = true := by
  rcases @select_cases scheduler ⟨now, paths, payloadLen, allowed⟩ with ⟨selected, -⟩
    | ⟨position, chosen, valid, selected⟩
  · rw [OrderedCall.select] at selected
    rw [selected] at found
    cases found
  · rw [OrderedCall.select] at selected
    rw [selected] at found
    obtain rfl : position = index := Option.some.inj found
    obtain rfl : chosen = path := Option.some.inj (valid.1.symm.trans here)
    have tier := valid.2.1
    rw [OrderedCall.tier] at tier
    split at tier
    · simp only [OrderedCall.whole, Bool.and_eq_true] at tier
      exact tier.1.1
    · exact (Bool.and_eq_true_iff.mp tier).1

theorem CompiledScheduler.selectPathIndexWhere_allowed {scheduler : CompiledScheduler}
    (found : (scheduler.selectPathIndexWhere now paths payloadLen allowed).1 = some index)
    (here : paths[index]? = some path) : allowed path = true := by
  rw [CompiledScheduler.selectPathIndexWhere] at found
  cases mode : scheduler.mode with
  | roundRobin | weightedRoundRobin | adaptive =>
    simp only [mode] at found
    exact WeightedRoundRobin.selectPathIndexWhere_allowed found here
  | orderedMultipath =>
    simp only [mode] at found
    exact OrderedMultipathScheduler.selectPathIndexWhere_allowed found here
  | lowestLatency | lossAware | capacityAware | leastQueue | earliestCompletionFirst | blockingEstimation | balanced =>
    simp only [mode] at found
    exact selectRanked_allowed found here

end Gatherlink.Dataplane
