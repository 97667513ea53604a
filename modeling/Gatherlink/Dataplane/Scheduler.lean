import Gatherlink.Dataplane.Config
import Mathlib

/-! Packet-time path selection: smooth weighted round robin, ranked selection, the ordered
multipath timeline and the fanout selector. Counters saturate at 64 bits as in the source. -/

namespace Gatherlink.Dataplane
open Protocol

def U32_MAX : Nat := 2 ^ 32 - 1

def saturatingMul (left right : Nat) : Nat := min (left * right) U64_MAX

/-- The first element with the least key; keys of one length compare as tuples do. -/
def minByKey {α : Type} (key : α → List Nat) : List α → Option α
  | [] => none
  | first :: rest => some (rest.foldl (fun best other => if key other < key best then other else best) first)

theorem minByKey_mem {α : Type} {key : α → List Nat} {values : List α} {value : α}
    (found : minByKey key values = some value) : value ∈ values := by
  cases values with
  | nil => simp [minByKey] at found
  | cons first rest =>
    simp only [minByKey, Option.some.injEq] at found
    rw [← found]
    clear found
    induction rest generalizing first with
    | nil => simp
    | cons other rest ih =>
      rw [List.foldl_cons]
      rcases List.mem_cons.mp (ih (if key other < key first then other else first)) with here | later
      · rw [here]
        split <;> simp
      · exact List.mem_cons_of_mem _ (List.mem_cons_of_mem _ later)

structure WeightedPathSlot where
  pathIndex : Nat
  weight : UInt16
  currentWeight : Int
  deriving DecidableEq

structure WeightedRoundRobin where
  slots : List WeightedPathSlot
  deriving DecidableEq

def serviceWeightForPath (pathId : PathId) (defaultWeight : UInt16) (pathWeights : List (PathId × UInt16)) :
    Option UInt16 :=
  if pathWeights.isEmpty then some defaultWeight
  else (pathWeights.find? fun weighted => weighted.1 == pathId && decide (0 < weighted.2)).map (·.2)

namespace WeightedRoundRobin

def compileWithPathWeights (paths : List CorePathConfig) (allowedPathIds : List PathId)
    (pathWeights : List (PathId × UInt16)) : WeightedRoundRobin where
  slots := paths.zipIdx.filterMap fun (path, index) =>
    if !path.enabled then none
    else if !allowedPathIds.isEmpty && !allowedPathIds.contains path.pathId then none
    else (serviceWeightForPath path.pathId path.weight pathWeights).map fun weight => ⟨index, weight, 0⟩

def compile (paths : List CorePathConfig) : WeightedRoundRobin := compileWithPathWeights paths [] []

/-- The running best slot of the credit loop: slot position, its credit and its path index. -/
structure BestSlot where
  slotIndex : Nat
  currentWeight : Int
  pathIndex : Nat

/-- One pass over the slots: eligible slots gain their weight, and the best one is tracked. -/
def creditSlots (paths : List CorePathConfig) (eligible : CorePathConfig → Bool) :
    Nat → List WeightedPathSlot → Int → Option BestSlot → List WeightedPathSlot × Int × Option BestSlot
  | _, [], total, best => ([], total, best)
  | position, slot :: rest, total, best =>
      if (paths[slot.pathIndex]?.map eligible).getD false then
        let credited := { slot with currentWeight := slot.currentWeight + slot.weight.toNat }
        let better := match best with
          | none => true
          | some current => decide (credited.currentWeight > current.currentWeight) ||
              (credited.currentWeight == current.currentWeight && decide (credited.pathIndex < current.pathIndex))
        let chosen := if better then some ⟨position, credited.currentWeight, credited.pathIndex⟩ else best
        let (slots, finalTotal, finalBest) :=
          creditSlots paths eligible (position + 1) rest (total + slot.weight.toNat) chosen
        (credited :: slots, finalTotal, finalBest)
      else
        let (slots, finalTotal, finalBest) := creditSlots paths eligible (position + 1) rest total best
        (slot :: slots, finalTotal, finalBest)

def selectEligible (scheduler : WeightedRoundRobin) (paths : List CorePathConfig)
    (eligible : CorePathConfig → Bool) : Option Nat × WeightedRoundRobin :=
  match creditSlots paths eligible 0 scheduler.slots 0 none with
  | (slots, _, none) => (none, ⟨slots⟩)
  | (slots, total, some best) =>
      (some best.pathIndex,
        ⟨slots.modify best.slotIndex fun slot => { slot with currentWeight := slot.currentWeight - total }⟩)

/-- Whole-packet paths first, then fragment-capable ones, then any enabled path that fits, then
any enabled path at all. -/
def selectPathIndexWhere (scheduler : WeightedRoundRobin) (paths : List CorePathConfig) (payloadLen : Nat)
    (allowed : CorePathConfig → Bool) : Option Nat × WeightedRoundRobin :=
  if scheduler.slots.isEmpty then (none, scheduler)
  else
    match scheduler.selectEligible paths fun path =>
        allowed path && path.acceptsWholePacket && decide (payloadLen ≤ path.maxDataPayload) with
    | (some index, next) => (some index, next)
    | (none, next) =>
        match next.selectEligible paths fun path => allowed path && path.acceptsFragmentedPacket with
        | (some index, next) => (some index, next)
        | (none, next) =>
            match next.selectEligible paths fun path =>
                allowed path && path.enabled && decide (payloadLen ≤ path.maxDataPayload) with
            | (some index, next) => (some index, next)
            | (none, next) => (paths.findIdx? fun path => allowed path && path.enabled, next)

end WeightedRoundRobin

section Ranked

variable (path : CorePathConfig) (payloadLen : Nat)

def inverseCapacity : Nat := U64_MAX - path.primitives.txCapacityBps.getD 0

def transmitTimeUs (payloadLen capacityBps : Nat) : Nat :=
  saturatingMul (saturatingMul payloadLen 8) 1000000 / max capacityBps 1

def latencyOrMax : Nat := path.primitives.latencyUs.getD U32_MAX

abbrev Score := Nat × Nat × Nat

def latencyScore (_payloadLen : Nat) : Score :=
  (latencyOrMax path, path.primitives.lossPpm, inverseCapacity path)

def lossScore (_payloadLen : Nat) : Score :=
  (path.primitives.lossPpm, latencyOrMax path, inverseCapacity path)

def capacityScore (_payloadLen : Nat) : Score :=
  (U64_MAX - path.primitives.txCapacityBps.getD 0, latencyOrMax path, path.primitives.lossPpm)

def leastQueueScore : Score :=
  (path.primitives.queueDepthPackets, path.primitives.queueDepthBytes,
    saturatingAdd path.primitives.queueOldestAgeUs (latencyScore path payloadLen).1)

def completionScore : Score :=
  (saturatingAdd (latencyOrMax path) (transmitTimeUs payloadLen (max (path.primitives.txCapacityBps.getD 1) 1)),
    path.primitives.lossPpm, inverseCapacity path)

def blockingEstimationScore : Score :=
  let (completionUs, lossPpm, inverse) := completionScore path payloadLen
  (saturatingAdd completionUs path.primitives.reorderHoldUs, lossPpm, inverse)

def balancedScore : Score :=
  let (completionUs, lossPpm, inverse) := completionScore path payloadLen
  (saturatingAdd (saturatingAdd completionUs (saturatingMul lossPpm 100)) (latencyOrMax path / 4), inverse, lossPpm)

def selectRanked (paths : List CorePathConfig) (payloadLen : Nat) (score : CorePathConfig → Nat → Score)
    (allowed : CorePathConfig → Bool) : Option Nat :=
  let key := fun (entry : CorePathConfig × Nat) =>
    let (primary, secondary, tertiary) := score entry.1 payloadLen
    [primary, secondary, tertiary, entry.2]
  let whole := minByKey key (paths.zipIdx.filter fun (path, _) =>
    allowed path && path.acceptsWholePacket && decide (payloadLen ≤ path.maxDataPayload))
  match whole with
  | some (_, index) => some index
  | none => (minByKey key (paths.zipIdx.filter fun (path, _) =>
      allowed path && path.acceptsFragmentedPacket)).map (·.2)

end Ranked

section Ordered

def UNKNOWN_ORDERED_LATENCY_US : Nat := 50000
def ORDERED_EARLY_ARRIVAL_SOFT_PENALTY_MULTIPLIER : Nat := 16

structure OrderedInFlightPacket where
  predictedArrivalUs : Nat
  bytes : Nat
  deriving DecidableEq

structure OrderedPathPrediction where
  pathReadyUs : Nat
  predictedArrivalUs : Nat
  pathAvailableAfterSendUs : Nat

/-- The virtual send timeline of ordered multipath, one queue of predicted arrivals per path. -/
structure OrderedMultipathScheduler where
  startedAt : Nat
  pathAvailableAtUs : List Nat
  inFlight : List (List OrderedInFlightPacket)
  lastOrderedArrivalUs : Nat
  nextTieStartIndex : Nat
  deriving DecidableEq

def resizeWith {α : Type} (length : Nat) (fill : α) (values : List α) : List α :=
  values.take length ++ List.replicate (length - values.length) fill

namespace OrderedMultipathScheduler

def compile (now pathCount : Nat) : OrderedMultipathScheduler where
  startedAt := now
  pathAvailableAtUs := List.replicate pathCount 0
  inFlight := List.replicate pathCount []
  lastOrderedArrivalUs := 0
  nextTieStartIndex := 0

variable (scheduler : OrderedMultipathScheduler) (primitives : PathSchedulerPrimitives)

def nowUs (now : Nat) : Nat :=
  min ((now - scheduler.startedAt) / 1000) U64_MAX

def predict (payloadLen index nowUs : Nat) : OrderedPathPrediction :=
  let capacityBps := max (primitives.txCapacityBps.getD 1) 1
  let transmitUs := transmitTimeUs payloadLen capacityBps
  let pacedTransmitUs :=
    if primitives.pacingBudgetBps = 0 then transmitUs
    else max transmitUs (transmitTimeUs payloadLen (max primitives.pacingBudgetBps 1))
  let queuedTransmitUs := transmitTimeUs primitives.queueDepthBytes capacityBps
  let queueDelayUs := saturatingAdd (saturatingAdd primitives.queueOldestAgeUs queuedTransmitUs)
    primitives.queueDepthPackets
  let latencyUs := primitives.latencyUs.getD UNKNOWN_ORDERED_LATENCY_US
  let readinessFloorUs := scheduler.lastOrderedArrivalUs - latencyUs - primitives.reorderHoldUs
  let pathReadyUs := saturatingAdd (max (scheduler.pathAvailableAtUs.getD index nowUs) readinessFloorUs)
    queueDelayUs
  { pathReadyUs
    predictedArrivalUs := saturatingAdd (saturatingAdd pathReadyUs pacedTransmitUs) latencyUs
    pathAvailableAfterSendUs := saturatingAdd pathReadyUs pacedTransmitUs }

def inFlightOverflow (payloadLen index : Nat) : Nat × Nat :=
  match scheduler.inFlight[index]? with
  | none => (0, 0)
  | some queue =>
      let pendingPackets := queue.length + 1
      let pendingBytes := queue.foldl (fun total packet => saturatingAdd total packet.bytes) payloadLen
      (if primitives.maxInFlightPackets = 0 then 0 else pendingPackets - primitives.maxInFlightPackets,
        if primitives.maxInFlightBytes = 0 then 0 else pendingBytes - primitives.maxInFlightBytes)

def inFlightWithinLimits (payloadLen index : Nat) : Bool :=
  scheduler.inFlightOverflow primitives payloadLen index == (0, 0)

def inFlightPenaltyUs (payloadLen index : Nat) : Nat :=
  let (packetOverflow, byteOverflow) := scheduler.inFlightOverflow primitives payloadLen index
  saturatingAdd (saturatingMul packetOverflow 10000000) (saturatingMul byteOverflow 1000)

def tieRotationDistance (index : Nat) : Nat :=
  if scheduler.pathAvailableAtUs.isEmpty then index
  else (index + scheduler.pathAvailableAtUs.length - scheduler.nextTieStartIndex) %
    scheduler.pathAvailableAtUs.length

def orderedScore (path : CorePathConfig) (payloadLen index nowUs : Nat) :
    List Nat :=
  let prediction := scheduler.predict path.primitives payloadLen index nowUs
  let reorderHoldUs := path.primitives.reorderHoldUs
  let last := scheduler.lastOrderedArrivalUs
  let earlyInsideHoldUs := if last = 0 then 0 else last - prediction.predictedArrivalUs
  let earlyArrivalUs :=
    if last = 0 ∨ reorderHoldUs = 0 then 0 else last - prediction.predictedArrivalUs - reorderHoldUs
  let lateArrivalUs :=
    if last = 0 ∨ reorderHoldUs = 0 then 0
    else prediction.predictedArrivalUs - saturatingAdd last reorderHoldUs
  let arrival := saturatingAdd prediction.predictedArrivalUs
    (saturatingMul earlyInsideHoldUs ORDERED_EARLY_ARRIVAL_SOFT_PENALTY_MULTIPLIER)
  let blocked := saturatingAdd arrival (saturatingMul earlyArrivalUs 1000000)
  let late := saturatingAdd blocked (saturatingMul lateArrivalUs 1000000)
  let loaded := saturatingAdd late (scheduler.inFlightPenaltyUs path.primitives payloadLen index)
  [saturatingAdd loaded (path.primitives.lossPpm * 100), prediction.pathAvailableAfterSendUs,
    scheduler.pathAvailableAtUs.getD index nowUs, inverseCapacity path, scheduler.tieRotationDistance index]

/-- Among eligible paths, those with in-flight credit if any has it, by least ordered score. -/
def selectOrdered (paths : List CorePathConfig) (payloadLen nowUs : Nat) (eligible : CorePathConfig → Bool) :
    Option Nat :=
  let credited := fun (entry : CorePathConfig × Nat) =>
    scheduler.inFlightWithinLimits entry.1.primitives payloadLen entry.2
  let hasAvailableCredit := paths.zipIdx.any fun entry => eligible entry.1 && credited entry
  let candidates := (paths.zipIdx.filter fun entry => eligible entry.1).filter fun entry =>
    !hasAvailableCredit || credited entry
  (minByKey (fun entry => scheduler.orderedScore entry.1 payloadLen entry.2 nowUs) candidates).map (·.2)

def drainCompleted (nowUs : Nat) : OrderedMultipathScheduler :=
  { scheduler with
    inFlight := scheduler.inFlight.map (·.dropWhile fun packet => decide (packet.predictedArrivalUs ≤ nowUs)) }

def normalizeIdleTimeline (nowUs : Nat) : OrderedMultipathScheduler :=
  if scheduler.inFlight.any (fun queue => !queue.isEmpty) then scheduler
  else
    match scheduler.pathAvailableAtUs.max? with
    | none => scheduler
    | some maxAvailableUs =>
        if maxAvailableUs ≥ nowUs then scheduler
        else
          { scheduler with
            pathAvailableAtUs := scheduler.pathAvailableAtUs.map (saturatingAdd · (nowUs - maxAvailableUs))
            lastOrderedArrivalUs := 0 }

def selectPathIndexWhere (now : Nat) (paths : List CorePathConfig) (payloadLen : Nat)
    (allowed : CorePathConfig → Bool) : Option Nat × OrderedMultipathScheduler :=
  let resized :=
    { scheduler with
      pathAvailableAtUs := resizeWith paths.length 0 scheduler.pathAvailableAtUs
      inFlight := resizeWith paths.length [] scheduler.inFlight }
  let nowUs := resized.nowUs now
  let current := (resized.drainCompleted nowUs).normalizeIdleTimeline nowUs
  let selected := current.selectOrdered paths payloadLen nowUs
      (fun path => allowed path && path.acceptsWholePacket && decide (payloadLen ≤ path.maxDataPayload)) <|>
    current.selectOrdered paths payloadLen nowUs fun path => allowed path && path.acceptsFragmentedPacket
  match selected.bind fun index => paths[index]?.map fun path => (index, path) with
  | none => (none, current)
  | some (index, path) =>
      let prediction := current.predict path.primitives payloadLen index nowUs
      (some index,
        { current with
          pathAvailableAtUs := current.pathAvailableAtUs.set index prediction.pathAvailableAfterSendUs
          inFlight := current.inFlight.modify index (· ++ [⟨prediction.predictedArrivalUs, payloadLen⟩])
          nextTieStartIndex := if paths.isEmpty then 0 else (index + 1) % paths.length
          lastOrderedArrivalUs := max (saturatingAdd current.lastOrderedArrivalUs 1)
            prediction.predictedArrivalUs })

end OrderedMultipathScheduler

end Ordered

structure CompiledScheduler where
  mode : SchedulerMode
  weighted : WeightedRoundRobin
  orderedMultipath : OrderedMultipathScheduler
  deriving DecidableEq

namespace CompiledScheduler

def compile (now : Nat) (mode : SchedulerMode) (paths : List CorePathConfig) : CompiledScheduler where
  mode := mode
  weighted := .compile paths
  orderedMultipath := .compile now paths.length

def selectPathIndexWhere (scheduler : CompiledScheduler) (now : Nat) (paths : List CorePathConfig)
    (payloadLen : Nat) (allowed : CorePathConfig → Bool) : Option Nat × CompiledScheduler :=
  match scheduler.mode with
  | .roundRobin | .weightedRoundRobin | .adaptive =>
      let (selected, weighted) := scheduler.weighted.selectPathIndexWhere paths payloadLen allowed
      (selected, { scheduler with weighted })
  | .lowestLatency => (selectRanked paths payloadLen latencyScore allowed, scheduler)
  | .lossAware => (selectRanked paths payloadLen lossScore allowed, scheduler)
  | .capacityAware => (selectRanked paths payloadLen capacityScore allowed, scheduler)
  | .leastQueue => (selectRanked paths payloadLen leastQueueScore allowed, scheduler)
  | .earliestCompletionFirst => (selectRanked paths payloadLen completionScore allowed, scheduler)
  | .blockingEstimation => (selectRanked paths payloadLen blockingEstimationScore allowed, scheduler)
  | .orderedMultipath =>
      let (selected, orderedMultipath) :=
        scheduler.orderedMultipath.selectPathIndexWhere now paths payloadLen allowed
      (selected, { scheduler with orderedMultipath })
  | .balanced => (selectRanked paths payloadLen balancedScore allowed, scheduler)

def requiresPerDatagramDecisions (scheduler : CompiledScheduler) : Bool :=
  scheduler.mode == .orderedMultipath

def allowsNoncoalescedBurstReuse (scheduler : CompiledScheduler) : Bool :=
  scheduler.mode == .roundRobin || scheduler.mode == .adaptive

end CompiledScheduler

/-- Every enabled path that carries the payload whole, or else every fragment-capable path. -/
def selectPathIndices (paths : List CorePathConfig) (payloadLen : Nat) : List Nat :=
  let wholePacket := (paths.zipIdx.filter fun (path, _) =>
    path.enabled && decide (payloadLen ≤ path.maxDataPayload)).map (·.2)
  if !wholePacket.isEmpty then wholePacket
  else (paths.zipIdx.filter fun (path, _) => path.acceptsFragmentedPacket).map (·.2)

end Gatherlink.Dataplane
