import Gatherlink.Lib.Cover
import Gatherlink.Scheduling.Compiler

/-! The paths that are planned for a service. -/

namespace Gatherlink.Scheduling
open Config Lib.Cover

/-- The configured or detected capacity, and never zero. -/
def pathCapacityBps (path : RuntimePathConfig) : Int :=
  (firstTruthy path.scheduler.txCapacityBps (firstTruthy path.scheduler.rxCapacityBps (some 1))).getD 1

section Capacity

variable (reservedBulkBps : Nat → Option Int)

/-- What earlier reservations of the pass leave of a path. -/
def pathAvailableBps (path : RuntimePathConfig) : Int :=
  max 1 (pathCapacityBps path - (reservedBulkBps path.scheduler.pathId).getD 0)

variable (paths : List RuntimePathConfig)

/-- The paths from the one with the most room down; equal ones stay in their order. -/
def rankedByRoom : List RuntimePathConfig :=
  paths.mergeSort fun one two => pathAvailableBps reservedBulkBps two ≤ pathAvailableBps reservedBulkBps one

def smallestCapacitySet (targetBps : Int) : List RuntimePathConfig :=
  let ranked := rankedByRoom reservedBulkBps paths
  if targetBps ≤ 0 then ranked.take 1
  else
    let chosen := takeUntil (pathAvailableBps reservedBulkBps) targetBps 0 ranked
    if chosen = [] then ranked.take 1 else chosen

def totalAvailableBps : Int := (paths.map (pathAvailableBps reservedBulkBps)).sum

/-- The chosen paths cover the demand, and no smaller set does; without enough room they are all. -/
theorem smallestCapacitySet_minimal (paths : List RuntimePathConfig) {targetBps : Int} (positive : 0 < targetBps) :
    let chosen := smallestCapacitySet reservedBulkBps paths targetBps
    (targetBps ≤ totalAvailableBps reservedBulkBps paths → chosen.Subperm paths ∧
        targetBps ≤ totalAvailableBps reservedBulkBps chosen ∧
        ∀ others : List RuntimePathConfig, others.Subperm paths →
          targetBps ≤ totalAvailableBps reservedBulkBps others → chosen.length ≤ others.length) ∧
      (totalAvailableBps reservedBulkBps paths < targetBps → chosen.Perm paths) := by
  have perm : (rankedByRoom reservedBulkBps paths).Perm paths := List.mergeSort_perm ..
  have total : totalAvailableBps reservedBulkBps paths =
      ((rankedByRoom reservedBulkBps paths).map (pathAvailableBps reservedBulkBps)).sum := (perm.map _).sum_eq.symm
  have falling : (rankedByRoom reservedBulkBps paths).Pairwise fun one two =>
      pathAvailableBps reservedBulkBps two ≤ pathAvailableBps reservedBulkBps one := by
    refine (List.pairwise_mergeSort ?_ ?_ paths).imp fun ordered => by simpa using ordered
    · intro one two three
      simp only [decide_eq_true_eq]
      exact fun first second => second.trans first
    · intro one two
      simp only [Bool.or_eq_true, decide_eq_true_eq]
      exact le_total _ _
  have same : smallestCapacitySet reservedBulkBps paths targetBps =
      takeUntil (pathAvailableBps reservedBulkBps) targetBps 0 (rankedByRoom reservedBulkBps paths) := by
    rw [smallestCapacitySet, if_neg (not_le.mpr positive)]
    cases rankedByRoom reservedBulkBps paths with
    | nil => rfl
    | cons path rest => rfl
  simp only [same]
  constructor
  · intro enough
    refine ⟨(takeUntil_front 0 _).sublist.subperm.trans perm.subperm, ?_, fun others inside covers => ?_⟩
    · have reached := takeUntil_reaches positive (by rw [zero_add, ← total]; exact enough)
      rwa [zero_add] at reached
    · obtain ⟨listed, permuted, sub⟩ := inside.trans perm.symm.subperm
      by_contra fewer
      have most := sum_le_take falling sub
      have short := takeUntil_short positive (permuted.length_eq ▸ not_le.mp fewer)
      rw [(permuted.map _).sum_eq] at most
      rw [totalAvailableBps] at covers
      omega
  · intro few
    rw [takeUntil_all (fun path _ => by unfold pathAvailableBps; omega) (by rw [zero_add, ← total]; exact few)]
    exact perm

end Capacity

def pathWithCapacity (pathId : Nat) (name : String) (capacityBps : Int) : RuntimePathConfig :=
  ⟨name, { roundRobinPolicy.compilePath ⟨{ name }, pathId, none⟩ with txCapacityBps := some capacityBps }, none⟩

theorem larger_path_suffices :
    let paths := [pathWithCapacity 0 "lte" 10, pathWithCapacity 1 "dsl" 40]
    (0 : Int) < 30 ∧ 30 ≤ totalAvailableBps (fun _ => none) paths ∧ 30 ≤ totalAvailableBps (fun _ => none)
      (smallestCapacitySet (fun _ => none) paths 30) :=
  ⟨by decide, by decide, ((smallestCapacitySet_minimal (fun _ => none) _ (by decide)).1 (by decide)).2.1⟩

end Gatherlink.Scheduling
