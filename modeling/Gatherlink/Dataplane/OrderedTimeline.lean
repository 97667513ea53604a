import Gatherlink.Dataplane.Scheduler

/-! The timeline of the ordered multipath scheduler over runs of selections: what a path's queue of predicted arrivals
holds, and when a prediction lies in the past. -/

namespace Gatherlink.Dataplane
open Protocol

namespace OrderedMultipathScheduler

section Selections

/-- A selection, with the paths as they are at its moment. -/
structure OrderedCall where
  now : Nat
  paths : List CorePathConfig
  payloadLen : Nat
  allowed : CorePathConfig → Bool

variable (scheduler : OrderedMultipathScheduler) (call : OrderedCall)

def queueAt (index : Nat) : List OrderedInFlightPacket := scheduler.inFlight.getD index []

def availableAt (index : Nat) : Nat := scheduler.pathAvailableAtUs.getD index 0

/-- The state drained for a number of paths. -/
def emptied (now pathCount : Nat) : OrderedMultipathScheduler :=
  drainCompleted { scheduler with
    pathAvailableAtUs := resizeWith pathCount 0 scheduler.pathAvailableAtUs
    inFlight := resizeWith pathCount [] scheduler.inFlight } (scheduler.nowUs now)

/-- The state that a selection compares the paths in. -/
def prepared (now pathCount : Nat) : OrderedMultipathScheduler :=
  (scheduler.emptied now pathCount).normalizeIdleTimeline (scheduler.nowUs now)

def recorded (prediction : OrderedPathPrediction) (payloadLen index : Nat)
    (paths : List CorePathConfig) : OrderedMultipathScheduler :=
  { scheduler with
    pathAvailableAtUs := scheduler.pathAvailableAtUs.set index prediction.pathAvailableAfterSendUs
    inFlight := scheduler.inFlight.modify index (· ++ [⟨prediction.predictedArrivalUs, payloadLen⟩])
    nextTieStartIndex := if paths.isEmpty then 0 else (index + 1) % paths.length
    lastOrderedArrivalUs := max (saturatingAdd scheduler.lastOrderedArrivalUs 1) prediction.predictedArrivalUs }

namespace OrderedCall

def whole (path : CorePathConfig) : Bool :=
  call.allowed path && path.acceptsWholePacket && decide (call.payloadLen ≤ path.maxDataPayload)

def fragmented (path : CorePathConfig) : Bool := call.allowed path && path.acceptsFragmentedPacket

/-- The tier that a selection uses: the paths that take the payload whole, if there are any. -/
def tier : CorePathConfig → Bool := if call.paths.any call.whole then call.whole else call.fragmented

def select : Option Nat × OrderedMultipathScheduler :=
  scheduler.selectPathIndexWhere call.now call.paths call.payloadLen call.allowed

def ready : OrderedMultipathScheduler := scheduler.prepared call.now call.paths.length

def prediction (index : Nat) (path : CorePathConfig) : OrderedPathPrediction :=
  (call.ready scheduler).predict path.primitives call.payloadLen index (scheduler.nowUs call.now)

def choice : Option Nat :=
  (call.ready scheduler).selectOrdered call.paths call.payloadLen (scheduler.nowUs call.now) call.whole <|>
    (call.ready scheduler).selectOrdered call.paths call.payloadLen (scheduler.nowUs call.now) call.fragmented

/-- If the tier has a path at all, it has one within its limits. -/
def Roomy : Prop :=
  (∃ path ∈ call.paths, call.tier path = true) → ∃ index path, call.paths[index]? = some path ∧ call.tier path = true ∧
    (call.ready scheduler).inFlightWithinLimits path.primitives call.payloadLen index = true

end OrderedCall

variable {scheduler} {call} {paths : List CorePathConfig} {payloadLen nowUs index : Nat}
  {eligible : CorePathConfig → Bool}

theorem selectOrdered_some (found : scheduler.selectOrdered paths payloadLen nowUs eligible = some index) :
    ∃ path, paths[index]? = some path ∧ eligible path = true ∧
      ((∃ other path, paths[other]? = some path ∧ eligible path = true ∧
          scheduler.inFlightWithinLimits path.primitives payloadLen other = true) →
        scheduler.inFlightWithinLimits path.primitives payloadLen index = true) := by
  obtain ⟨⟨path, position⟩, least, rfl⟩ := Option.map_eq_some_iff.mp found
  have member := minByKey_mem least
  rw [List.mem_filter, List.mem_filter, List.mem_zipIdx_iff_getElem?] at member
  obtain ⟨⟨here, able⟩, credit⟩ := member
  refine ⟨path, here, able, fun ⟨other, candidate, there, suits, within⟩ => ?_⟩
  have available : (paths.zipIdx.any fun entry => eligible entry.1 &&
      scheduler.inFlightWithinLimits entry.1.primitives payloadLen entry.2) = true := by
    rw [List.any_eq_true]
    exact ⟨(candidate, other), List.mem_zipIdx_iff_getElem?.mpr there, by simp [suits, within]⟩
  simpa [available] using credit

theorem minByKey_none {α : Type} {key : α → List Nat} {values : List α} (nothing : minByKey key values = none) :
    values = [] := by
  cases values with
  | nil => rfl
  | cons first rest => cases nothing

theorem selectOrdered_none (nothing : scheduler.selectOrdered paths payloadLen nowUs eligible = none)
    {path : CorePathConfig} (member : path ∈ paths) : eligible path = false := by
  have empty := minByKey_none (Option.map_eq_none_iff.mp nothing)
  by_contra able
  rw [Bool.not_eq_false] at able
  obtain ⟨index, inside, rfl⟩ := List.getElem_of_mem member
  have listed : (paths[index], index) ∈ paths.zipIdx :=
    List.mem_zipIdx_iff_getElem?.mpr (List.getElem?_eq_getElem inside)
  rw [List.filter_eq_nil_iff] at empty
  -- without credit anywhere every eligible path is a candidate, and with it the path that has some
  by_cases credit : (paths.zipIdx.any fun entry => eligible entry.1 &&
      scheduler.inFlightWithinLimits entry.1.primitives payloadLen entry.2) = true
  · obtain ⟨entry, there, suits⟩ := List.any_eq_true.mp credit
    rw [Bool.and_eq_true] at suits
    exact empty entry (List.mem_filter.mpr ⟨there, suits.1⟩) (by simp [suits.2])
  · exact empty _ (List.mem_filter.mpr ⟨listed, able⟩) (by simp [credit])

theorem OrderedCall.tier_of_whole (path : CorePathConfig) (member : path ∈ call.paths) (fits : call.whole path = true) :
    call.tier = call.whole := by
  rw [tier, if_pos (List.any_eq_true.mpr ⟨path, member, fits⟩)]

theorem OrderedCall.tier_of_none (nobody : ∀ path ∈ call.paths, call.whole path = false) :
    call.tier = call.fragmented := by
  rw [tier, if_neg]
  rw [List.any_eq_true, not_exists]
  exact fun path ⟨member, fits⟩ => absurd fits (by simp [nobody path member])

/-- The choice of a selection: a path of the tier, within its limits if there is such a path. -/
def OrderedCall.Chosen (call : OrderedCall) (scheduler : OrderedMultipathScheduler) (index : Nat)
    (path : CorePathConfig) :
    Prop :=
  call.paths[index]? = some path ∧ call.tier path = true ∧ (call.Roomy scheduler →
    (call.ready scheduler).inFlightWithinLimits path.primitives call.payloadLen index = true)

theorem OrderedCall.choice_chosen (found : call.choice scheduler = some index) :
    ∃ path, call.Chosen scheduler index path := by
  rw [choice] at found
  cases first : (call.ready scheduler).selectOrdered call.paths call.payloadLen
    (scheduler.nowUs call.now) call.whole with
  | some best =>
    rw [first] at found
    obtain rfl : best = index := Option.some.inj found
    obtain ⟨path, here, fits, credit⟩ := selectOrdered_some first
    have tier := call.tier_of_whole path (List.mem_of_getElem? here) fits
    rw [← tier] at fits credit
    exact ⟨path, here, fits, fun roomy => credit (roomy ⟨path, List.mem_of_getElem? here, fits⟩)⟩
  | none =>
    rw [first] at found
    obtain ⟨path, here, fits, credit⟩ := selectOrdered_some found
    have tier := call.tier_of_none fun path => selectOrdered_none first
    rw [← tier] at fits credit
    exact ⟨path, here, fits, fun roomy => credit (roomy ⟨path, List.mem_of_getElem? here, fits⟩)⟩

theorem OrderedCall.choice_none (nothing : call.choice scheduler = none) (path : CorePathConfig)
    (member : path ∈ call.paths) : call.tier path = false := by
  obtain ⟨first, second⟩ := (Option.orElse_eq_none _ _).mp nothing
  rw [call.tier_of_none fun path => selectOrdered_none first]
  exact selectOrdered_none second member

theorem select_cases :
    (call.select scheduler = (none, call.ready scheduler) ∧ ∀ path ∈ call.paths, call.tier path = false) ∨
    ∃ index path, call.Chosen scheduler index path ∧ call.select scheduler = (some index,
      (call.ready scheduler).recorded (call.prediction scheduler index path) call.payloadLen index call.paths) := by
  rw [OrderedCall.select, selectPathIndexWhere]
  split
  next nothing =>
    have nobody : (call.choice scheduler).bind (fun index => call.paths[index]?.map fun path => (index, path)) = none :=
      nothing
    refine Or.inl ⟨rfl, ?_⟩
    cases choice : call.choice scheduler with
    | none => exact call.choice_none choice
    | some index =>
      obtain ⟨path, chosen⟩ := call.choice_chosen choice
      simp [choice, chosen.1] at nobody
  next index path found =>
    have choice : (call.choice scheduler).bind (fun index => call.paths[index]?.map fun path => (index, path)) =
      some (index, path) := found
    obtain ⟨position, chosen, mapped⟩ := Option.bind_eq_some_iff.mp choice
    obtain ⟨other, here, same⟩ := Option.map_eq_some_iff.mp mapped
    obtain ⟨rfl, rfl⟩ := Prod.mk.inj same
    obtain ⟨path, valid⟩ := call.choice_chosen chosen
    obtain rfl : path = other := Option.some.inj (valid.1.symm.trans here)
    exact Or.inr ⟨position, path, valid, rfl⟩

end Selections

section Queues

variable {scheduler : OrderedMultipathScheduler} {now nowUs count index : Nat}

variable {α : Type}

theorem getD_resizeWith (count index : Nat) (fill : α) (values : List α) :
    (resizeWith count fill values).getD index fill = if index < count then values.getD index fill else fill := by
  rw [resizeWith, List.getD_eq_getElem?_getD, List.getElem?_append, List.length_take, List.getElem?_take,
    List.getElem?_replicate, List.getD_eq_getElem?_getD]
  split_ifs <;> first | rfl | omega | simp_all

theorem length_resizeWith (count : Nat) (fill : α) (values : List α) :
    (resizeWith count fill values).length = count := by
  rw [resizeWith, List.length_append, List.length_take, List.length_replicate]
  omega

/-- The timeline moves only when nothing is in flight and every path was available before, and then forward. -/
theorem normalizeIdleTimeline_cases (scheduler : OrderedMultipathScheduler) (nowUs : Nat) :
    (scheduler.normalizeIdleTimeline nowUs = scheduler ∧ ((∃ queue ∈ scheduler.inFlight, queue ≠ []) ∨
      ∀ most, scheduler.pathAvailableAtUs.max? = some most → nowUs ≤ most)) ∨
    (∀ queue ∈ scheduler.inFlight, queue = []) ∧ ∃ most < nowUs, scheduler.pathAvailableAtUs.max? = some most ∧
      scheduler.normalizeIdleTimeline nowUs = { scheduler with
        pathAvailableAtUs := scheduler.pathAvailableAtUs.map (saturatingAdd · (nowUs - most))
        lastOrderedArrivalUs := 0 } := by
  rw [normalizeIdleTimeline]
  split
  next busy =>
    obtain ⟨queue, member, nonempty⟩ := List.any_eq_true.mp busy
    exact Or.inl ⟨rfl, Or.inl ⟨queue, member, by simpa using nonempty⟩⟩
  next idle =>
    have empty : ∀ queue ∈ scheduler.inFlight, queue = [] := fun queue member => by
      simpa using List.any_eq_false.mp (Bool.eq_false_of_not_eq_true idle) queue member
    split
    next none => exact Or.inl ⟨rfl, Or.inr fun most found => by cases none.symm.trans found⟩
    next greatest found =>
      split
      next ahead =>
        refine Or.inl ⟨rfl, Or.inr fun most other => ?_⟩
        rwa [← Option.some.inj (found.symm.trans other)]
      next behind => exact Or.inr ⟨empty, greatest, not_le.mp behind, found, rfl⟩

theorem normalizeIdleTimeline_inFlight : (scheduler.normalizeIdleTimeline nowUs).inFlight = scheduler.inFlight := by
  rcases normalizeIdleTimeline_cases scheduler nowUs with ⟨same, -⟩ | ⟨-, most, -, -, moved⟩
  · rw [same]
  · rw [moved]

theorem normalizeIdleTimeline_length :
    (scheduler.normalizeIdleTimeline nowUs).pathAvailableAtUs.length = scheduler.pathAvailableAtUs.length := by
  rcases normalizeIdleTimeline_cases scheduler nowUs with ⟨same, -⟩ | ⟨-, most, -, -, moved⟩
  · rw [same]
  · rw [moved]
    exact List.length_map _

def drained (nowUs : Nat) (queue : List OrderedInFlightPacket) : List OrderedInFlightPacket :=
  queue.dropWhile fun packet => decide (packet.predictedArrivalUs ≤ nowUs)

theorem prepared_queueAt (index : Nat) : (scheduler.prepared now count).queueAt index =
    if index < count then drained (scheduler.nowUs now) (scheduler.queueAt index) else [] := by
  calc (scheduler.prepared now count).queueAt index
      = ((resizeWith count [] scheduler.inFlight).map (drained (scheduler.nowUs now))).getD index
          (drained (scheduler.nowUs now) []) := by rw [queueAt, prepared, normalizeIdleTimeline_inFlight]; rfl
    _ = drained (scheduler.nowUs now) (if index < count then scheduler.queueAt index else []) := by
          rw [List.getD_map, getD_resizeWith]; rfl
    _ = if index < count then drained (scheduler.nowUs now) (scheduler.queueAt index) else [] :=
          apply_ite (drained (scheduler.nowUs now)) _ _ _

theorem emptied_availableAt (inside : index < count) :
    (scheduler.emptied now count).availableAt index = scheduler.availableAt index :=
  (getD_resizeWith count index 0 scheduler.pathAvailableAtUs).trans (if_pos inside)

theorem prepared_availableAt : (∀ index < count, (scheduler.prepared now count).availableAt index =
      scheduler.availableAt index) ∨ ∀ index, (scheduler.prepared now count).queueAt index = [] := by
  rcases normalizeIdleTimeline_cases (scheduler.emptied now count) (scheduler.nowUs now) with ⟨same, -⟩ | ⟨idle, -⟩
  · refine Or.inl fun index inside => ?_
    rw [prepared, same, emptied_availableAt inside]
  · refine Or.inr fun index => ?_
    rw [queueAt, prepared, normalizeIdleTimeline_inFlight, List.getD_eq_getElem?_getD]
    cases found : (scheduler.emptied now count).inFlight[index]? with
    | none => rfl
    | some queue => exact idle queue (List.mem_of_getElem? found)

theorem prepared_inFlight_length : (scheduler.prepared now count).inFlight.length = count := by
  rw [prepared, normalizeIdleTimeline_inFlight]
  exact (List.length_map _).trans (length_resizeWith ..)

theorem prepared_length : (scheduler.prepared now count).pathAvailableAtUs.length = count :=
  normalizeIdleTimeline_length.trans (length_resizeWith ..)

variable {prediction : OrderedPathPrediction} {payloadLen : Nat} {paths : List CorePathConfig}

theorem recorded_queueAt (inside : index < scheduler.inFlight.length) :
    (scheduler.recorded prediction payloadLen index paths).queueAt index =
      scheduler.queueAt index ++ [⟨prediction.predictedArrivalUs, payloadLen⟩] := by
  simp [recorded, queueAt, List.getElem?_eq_getElem inside]

variable {other : Nat}

theorem recorded_queueAt_ne (apart : index ≠ other) :
    (scheduler.recorded prediction payloadLen index paths).queueAt other = scheduler.queueAt other := by
  simp [recorded, queueAt, apart]

theorem recorded_availableAt (inside : index < scheduler.pathAvailableAtUs.length) :
    (scheduler.recorded prediction payloadLen index paths).availableAt index = prediction.pathAvailableAfterSendUs := by
  simp [recorded, availableAt, inside]

theorem recorded_availableAt_ne (apart : index ≠ other) :
    (scheduler.recorded prediction payloadLen index paths).availableAt other = scheduler.availableAt other := by
  simp [recorded, availableAt, apart]

end Queues

section Order

/-- A queue in the order of its arrivals, none of them after what the path's next packet can have. -/
structure InOrder (latency available : Nat) (queue : List OrderedInFlightPacket) : Prop where
  sorted : queue.Pairwise fun earlier later => earlier.predictedArrivalUs ≤ later.predictedArrivalUs
  horizon : ∀ packet ∈ queue, packet.predictedArrivalUs ≤ saturatingAdd available latency

variable {latency available next : Nat} {queue : List OrderedInFlightPacket}

theorem inOrder_nil : InOrder latency available [] := ⟨List.Pairwise.nil, by simp⟩

variable (order : InOrder latency available queue)
include order

theorem InOrder.drained (nowUs : Nat) :
    InOrder latency available (drained nowUs queue) where
  sorted := order.sorted.sublist (List.dropWhile_sublist _)
  horizon packet member := order.horizon packet ((List.dropWhile_sublist _).subset member)

theorem InOrder.push (later : min available U64_MAX ≤ next) (bytes : Nat) :
    InOrder latency next (queue ++ [⟨saturatingAdd next latency, bytes⟩]) := by
  have grows : saturatingAdd available latency ≤ saturatingAdd next latency := by
    rw [saturatingAdd, saturatingAdd]
    omega
  constructor
  · refine List.pairwise_append.mpr ⟨order.sorted, List.pairwise_singleton _ _, fun packet member last here => ?_⟩
    rw [List.mem_singleton.mp here]
    exact (order.horizon packet member).trans grows
  · intro packet member
    rcases List.mem_append.mp member with before | last
    · exact (order.horizon packet before).trans grows
    · rw [List.mem_singleton.mp last]

theorem InOrder.drained_eq (nowUs : Nat) :
    OrderedMultipathScheduler.drained nowUs queue = queue.filter fun packet => nowUs < packet.predictedArrivalUs := by
  have sorted := order.sorted
  clear order
  induction queue with
  | nil => rfl
  | cons first rest ih =>
    obtain ⟨below, tail⟩ := List.pairwise_cons.mp sorted
    rw [OrderedMultipathScheduler.drained, List.dropWhile_cons, List.filter_cons]
    by_cases arrived : first.predictedArrivalUs ≤ nowUs
    · rw [if_pos (decide_eq_true arrived), if_neg (by simpa using arrived)]
      exact ih tail
    · have all : ∀ packet ∈ rest, nowUs < packet.predictedArrivalUs := fun packet member =>
        (not_le.mp arrived).trans_le (below packet member)
      rw [if_neg (by simpa using arrived), if_pos (by simpa using arrived),
        List.filter_eq_self.mpr fun packet member => decide_eq_true (all packet member)]

end Order

section Limits

/-- A queue within the limits that a path has. -/
structure Limited (primitives : PathSchedulerPrimitives) (queue : List OrderedInFlightPacket) : Prop where
  packets : primitives.maxInFlightPackets ≠ 0 → queue.length ≤ primitives.maxInFlightPackets
  bytes : primitives.maxInFlightBytes ≠ 0 → (queue.map (·.bytes)).sum ≤ primitives.maxInFlightBytes

variable {primitives : PathSchedulerPrimitives} {queue smaller : List OrderedInFlightPacket}

theorem limited_nil : Limited primitives [] := ⟨fun _ => Nat.zero_le _, fun _ => Nat.zero_le _⟩

theorem Limited.sublist (limited : Limited primitives queue) (fewer : smaller.Sublist queue) :
    Limited primitives smaller where
  packets nonzero := fewer.length_le.trans (limited.packets nonzero)
  bytes nonzero := ((fewer.map (·.bytes)).sum_le_sum (by simp)).trans (limited.bytes nonzero)

theorem pendingBytes_ge (start : Nat) (queue : List OrderedInFlightPacket) :
    min (start + (queue.map (·.bytes)).sum) U64_MAX ≤
    queue.foldl (fun total packet => saturatingAdd total packet.bytes) start := by
  induction queue generalizing start with
  | nil => simp
  | cons packet rest ih =>
    have later := ih (saturatingAdd start packet.bytes)
    rw [List.map_cons, List.sum_cons, List.foldl_cons]
    rw [saturatingAdd] at later ⊢
    omega

theorem limited_of_check {scheduler : OrderedMultipathScheduler} {payloadLen index : Nat} (arrival : Nat)
    (inside : index < scheduler.inFlight.length) (sized : primitives.maxInFlightBytes < U64_MAX)
    (check : scheduler.inFlightWithinLimits primitives payloadLen index = true) :
    Limited primitives (scheduler.queueAt index ++ [⟨arrival, payloadLen⟩]) := by
  have here : scheduler.inFlight[index]? = some (scheduler.queueAt index) := by
    simp [queueAt, List.getElem?_eq_getElem inside]
  rw [inFlightWithinLimits, inFlightOverflow, here, beq_iff_eq, Prod.mk.injEq] at check
  obtain ⟨packets, bytes⟩ := check
  constructor
  · intro nonzero
    rw [if_neg nonzero] at packets
    rw [List.length_append, List.length_singleton]
    omega
  · intro nonzero
    have least := pendingBytes_ge payloadLen (scheduler.queueAt index)
    rw [if_neg nonzero] at bytes
    rw [List.map_append, List.sum_append, List.map_singleton, List.sum_singleton]
    dsimp only
    omega

end Limits

section Runs

def latencyOf (primitives : PathSchedulerPrimitives) : Nat := primitives.latencyUs.getD UNKNOWN_ORDERED_LATENCY_US

def run (scheduler : OrderedMultipathScheduler) (calls : List OrderedCall) : OrderedMultipathScheduler :=
  calls.foldl (fun reached call => (call.select reached).2) scheduler

def RoomyRun : OrderedMultipathScheduler → List OrderedCall → Prop
  | _, [] => True
  | scheduler, call :: rest => call.Roomy scheduler ∧ RoomyRun (call.select scheduler).2 rest

variable {scheduler : OrderedMultipathScheduler} {call : OrderedCall} {index : Nat} {path : CorePathConfig}

theorem saturated_wait (available floor delay transmit : Nat) : min available U64_MAX ≤
    saturatingAdd (saturatingAdd (max available floor) delay) transmit := by
  rw [saturatingAdd, saturatingAdd]
  omega

theorem predict_later (primitives : PathSchedulerPrimitives) (payloadLen nowUs : Nat)
    (inside : index < scheduler.pathAvailableAtUs.length) : min (scheduler.availableAt index) U64_MAX ≤
    (scheduler.predict primitives payloadLen index nowUs).pathAvailableAfterSendUs := by
  have same : scheduler.pathAvailableAtUs.getD index nowUs = scheduler.availableAt index := by
    simp [availableAt, List.getElem?_eq_getElem inside]
  rw [← same]
  exact saturated_wait _ _ _ _

theorem OrderedCall.Chosen.queued (chosen : call.Chosen scheduler index path) :
    index < (call.ready scheduler).inFlight.length :=
  (List.getElem?_eq_some_iff.mp chosen.1).choose.trans_eq prepared_inFlight_length.symm

theorem OrderedCall.Chosen.timed (chosen : call.Chosen scheduler index path) :
    index < (call.ready scheduler).pathAvailableAtUs.length :=
  (List.getElem?_eq_some_iff.mp chosen.1).choose.trans_eq prepared_length.symm

variable {fixed : List PathSchedulerPrimitives}

def latencyAt (fixed : List PathSchedulerPrimitives) (index : Nat) : Nat := (fixed[index]?.map latencyOf).getD 0

/-- What every run keeps. -/
def Timeline (fixed : List PathSchedulerPrimitives) (scheduler : OrderedMultipathScheduler) : Prop :=
  ∀ index, InOrder (latencyAt fixed index) (scheduler.availableAt index) (scheduler.queueAt index)

theorem Timeline.prepared (timeline : Timeline fixed scheduler) (now count : Nat) :
    Timeline fixed (scheduler.prepared now count) := by
  intro index
  rcases @prepared_availableAt scheduler now count with same | idle
  · rw [prepared_queueAt]
    split
    · rename_i inside
      rw [same index inside]
      exact (timeline index).drained _
    · exact inOrder_nil
  · rw [idle]
    exact inOrder_nil

theorem Timeline.select (timeline : Timeline fixed scheduler) (same : call.paths.map (·.primitives) = fixed) :
    Timeline fixed (call.select scheduler).2 := by
  have before : Timeline fixed (call.ready scheduler) := timeline.prepared call.now call.paths.length
  rcases @select_cases scheduler call with ⟨selected, -⟩ | ⟨index, path, chosen, selected⟩
  · rwa [selected]
  · rw [selected]
    intro other
    by_cases this : index = other
    · subst this
      have latency : latencyAt fixed index = latencyOf path.primitives := by
        rw [latencyAt, ← same, List.getElem?_map, chosen.1]
        rfl
      have pushed := (before index).push (predict_later path.primitives call.payloadLen (scheduler.nowUs call.now)
        chosen.timed) call.payloadLen
      rw [recorded_queueAt chosen.queued, recorded_availableAt chosen.timed, latency]
      rwa [latency] at pushed
    · rw [recorded_queueAt_ne this, recorded_availableAt_ne this]
      exact before other

def AllLimited (fixed : List PathSchedulerPrimitives) (scheduler : OrderedMultipathScheduler) : Prop :=
  ∀ (index : Nat) (primitives : PathSchedulerPrimitives), fixed[index]? = some primitives →
    Limited primitives (scheduler.queueAt index)

theorem AllLimited.prepared (limited : AllLimited fixed scheduler) (now count : Nat) :
    AllLimited fixed (scheduler.prepared now count) := by
  intro index primitives found
  rw [prepared_queueAt]
  split
  · exact (limited index primitives found).sublist (List.dropWhile_sublist _)
  · exact limited_nil

theorem AllLimited.select (limited : AllLimited fixed scheduler) (same : call.paths.map (·.primitives) = fixed)
    (sized : ∀ primitives ∈ fixed, primitives.maxInFlightBytes < 2 ^ 32) (roomy : call.Roomy scheduler) :
    AllLimited fixed (call.select scheduler).2 := by
  have before : AllLimited fixed (call.ready scheduler) := limited.prepared call.now call.paths.length
  rcases @select_cases scheduler call with ⟨selected, -⟩ | ⟨index, path, chosen, selected⟩
  · rwa [selected]
  · rw [selected]
    intro other primitives found
    by_cases this : index = other
    · subst this
      have small := sized primitives (List.mem_of_getElem? found)
      have own : primitives = path.primitives := by
        rw [← same, List.getElem?_map, chosen.1] at found
        exact (Option.some.inj found).symm
      rw [recorded_queueAt chosen.queued]
      apply limited_of_check _ chosen.queued (small.trans (by decide))
      rw [own]
      exact chosen.2.2 roomy
    · rw [recorded_queueAt_ne this]
      exact before other primitives found

variable {calls : List OrderedCall}

theorem Timeline.run (timeline : Timeline fixed scheduler)
    (same : ∀ call ∈ calls, call.paths.map (·.primitives) = fixed) : Timeline fixed (scheduler.run calls) := by
  induction calls generalizing scheduler with
  | nil => exact timeline
  | cons call rest ih =>
    exact ih (timeline.select (same call List.mem_cons_self)) fun later member =>
      same later (List.mem_cons_of_mem _ member)

theorem AllLimited.run (limited : AllLimited fixed scheduler)
    (same : ∀ call ∈ calls, call.paths.map (·.primitives) = fixed)
    (sized : ∀ primitives ∈ fixed, primitives.maxInFlightBytes < 2 ^ 32) (roomy : RoomyRun scheduler calls) :
    AllLimited fixed (scheduler.run calls) := by
  induction calls generalizing scheduler with
  | nil => exact limited
  | cons call rest ih =>
    exact ih (limited.select (same call List.mem_cons_self) sized roomy.1)
      (fun later member => same later (List.mem_cons_of_mem _ member)) roomy.2

theorem compile_queueAt (started pathCount index : Nat) : (compile started pathCount).queueAt index = [] := by
  rw [queueAt, compile, List.getD_eq_getElem?_getD, List.getElem?_replicate]
  split <;> rfl

/-- Over every run with fixed primitives the queues stay sorted and a drain takes out exactly what has arrived; and they
stay within the limits as long as there is room for every packet. -/
theorem ordered_in_flight_tracked (started pathCount : Nat) (fixed : List PathSchedulerPrimitives)
    (calls : List OrderedCall)
    (same : ∀ call ∈ calls, call.paths.map (·.primitives) = fixed)
    (sized : ∀ primitives ∈ fixed, primitives.maxInFlightBytes < 2 ^ 32) :
    let reached := (compile started pathCount).run calls
    (∀ queue ∈ reached.inFlight,
      queue.Pairwise fun earlier later => earlier.predictedArrivalUs ≤ later.predictedArrivalUs) ∧
    (∀ nowUs, (reached.drainCompleted nowUs).inFlight =
      reached.inFlight.map fun queue => queue.filter fun packet => nowUs < packet.predictedArrivalUs) ∧
    (RoomyRun (compile started pathCount) calls → ∀ (index : Nat) (queue : List OrderedInFlightPacket)
      (primitives : PathSchedulerPrimitives), reached.inFlight[index]? = some queue → fixed[index]? = some primitives →
        (primitives.maxInFlightPackets ≠ 0 → queue.length ≤ primitives.maxInFlightPackets) ∧
        (primitives.maxInFlightBytes ≠ 0 → (queue.map (·.bytes)).sum ≤ primitives.maxInFlightBytes)) := by
  intro reached
  have timeline : Timeline fixed reached := by
    apply Timeline.run _ same
    intro index
    rw [compile_queueAt]
    exact inOrder_nil
  have order (queue : List OrderedInFlightPacket) (member : queue ∈ reached.inFlight) :
      ∃ latency available, InOrder latency available queue := by
    obtain ⟨index, inside, rfl⟩ := List.getElem_of_mem member
    have here := timeline index
    rw [queueAt, List.getD_eq_getElem _ _ inside] at here
    exact ⟨_, _, here⟩
  refine ⟨fun queue member => ?_, fun nowUs => ?_, fun roomy index queue primitives here found => ?_⟩
  · obtain ⟨latency, available, inOrder⟩ := order queue member
    exact inOrder.sorted
  · refine List.map_congr_left fun queue member => ?_
    obtain ⟨latency, available, inOrder⟩ := order queue member
    exact inOrder.drained_eq nowUs
  · have limited : AllLimited fixed reached := by
      apply AllLimited.run _ same sized roomy
      intro index primitives found
      rw [compile_queueAt]
      exact limited_nil
    have own := limited index primitives found
    rw [queueAt, List.getD_eq_getElem?_getD, here] at own
    exact ⟨own.packets, own.bytes⟩

def satelliteLink : PathSchedulerPrimitives :=
  { txCapacityBps := some 1000000000, latencyUs := some 20000, maxInFlightPackets := 2 }

theorem satelliteLink_lossless : satelliteLink.lossPpm ≤ 1000000 := by decide

def satellitePath : CorePathConfig :=
  { CorePathConfig.direct 1 1400 (.v4 1 1) (.v4 2 1) (Eq.refl true) with
    primitives := satelliteLink
    lossBound := satelliteLink_lossless }

def satelliteCall (now : Nat) : OrderedCall := ⟨now, [satellitePath], 100, fun _ => true⟩

theorem two_packets_within_limits :
    RoomyRun (compile 0 1) [satelliteCall 0, satelliteCall 10000000] ∧
    ∀ (index : Nat) (queue : List OrderedInFlightPacket) (primitives : PathSchedulerPrimitives),
      ((compile 0 1).run [satelliteCall 0, satelliteCall 10000000]).inFlight[index]? = some queue →
      [satelliteLink][index]? = some primitives → (primitives.maxInFlightPackets ≠ 0 →
        queue.length ≤ primitives.maxInFlightPackets) ∧ (primitives.maxInFlightBytes ≠ 0 →
        (queue.map (·.bytes)).sum ≤ primitives.maxInFlightBytes) := by
  have room (now : Nat) (scheduler : OrderedMultipathScheduler)
      (within : ((satelliteCall now).ready scheduler).inFlightWithinLimits satelliteLink 100 0 = true) :
      (satelliteCall now).Roomy scheduler := fun _ => ⟨0, satellitePath, rfl, rfl, within⟩
  have roomy : RoomyRun (compile 0 1) [satelliteCall 0, satelliteCall 10000000] :=
    ⟨room _ _ (by decide), room _ _ (by decide), trivial⟩
  refine ⟨roomy, (ordered_in_flight_tracked 0 1 [satelliteLink]
    [satelliteCall 0, satelliteCall 10000000] ?_ ?_).2.2 roomy⟩
  · intro call member
    rcases List.mem_pair.mp member with rfl | rfl <;> rfl
  · intro primitives member
    rw [List.mem_singleton.mp member]
    decide

end Runs

section Causality

variable {scheduler : OrderedMultipathScheduler} {call : OrderedCall}
  {index now nowUs : Nat} {path : CorePathConfig}

/-- The path is not behind the clock: it has been promised up to now, or nothing is in flight any more and no path has
been promised for longer. -/
def OrderedCall.Timely (call : OrderedCall) (scheduler : OrderedMultipathScheduler) (index : Nat) : Prop :=
  scheduler.nowUs call.now ≤ scheduler.availableAt index ∨
  ∀ other < call.paths.length, drained (scheduler.nowUs call.now) (scheduler.queueAt other) = [] ∧
    scheduler.availableAt other ≤ scheduler.availableAt index

theorem normalizeIdleTimeline_forward (index : Nat) :
    min (scheduler.availableAt index) U64_MAX ≤ (scheduler.normalizeIdleTimeline nowUs).availableAt index := by
  rcases normalizeIdleTimeline_cases scheduler nowUs with ⟨same, -⟩ | ⟨-, most, -, -, moved⟩
  · rw [same]
    exact min_le_left _ _
  · rw [moved, availableAt, availableAt, List.getD_eq_getElem?_getD, List.getD_eq_getElem?_getD, List.getElem?_map]
    cases scheduler.pathAvailableAtUs[index]? with
    | none => exact min_le_left _ _
    | some available =>
      simp only [Option.getD_some, Option.map_some, saturatingAdd]
      omega

theorem normalizeIdleTimeline_idle (bounded : nowUs ≤ U64_MAX) (inside : index < scheduler.pathAvailableAtUs.length)
    (idle : ∀ queue ∈ scheduler.inFlight, queue = [])
    (greatest : ∀ other < scheduler.pathAvailableAtUs.length, scheduler.availableAt other ≤
      scheduler.availableAt index) :
    nowUs ≤ (scheduler.normalizeIdleTimeline nowUs).availableAt index := by
  have here : scheduler.pathAvailableAtUs[index]? = some (scheduler.availableAt index) := by
    simp [availableAt, List.getElem?_eq_getElem inside]
  have maximum : scheduler.pathAvailableAtUs.max? = some (scheduler.availableAt index) := by
    rw [List.max?_eq_some_iff]
    refine ⟨List.mem_of_getElem? here, fun other member => ?_⟩
    obtain ⟨position, within, rfl⟩ := List.getElem_of_mem member
    have bound := greatest position within
    rwa [availableAt, List.getD_eq_getElem _ _ within] at bound
  rcases normalizeIdleTimeline_cases scheduler nowUs with ⟨same, ⟨queue, member, busy⟩ | ahead⟩ |
    ⟨-, most, behind, found, moved⟩
  · exact absurd (idle queue member) busy
  · rw [same]
    exact ahead _ maximum
  · obtain rfl : scheduler.availableAt index = most := Option.some.inj (maximum.symm.trans found)
    rw [moved]
    nth_rewrite 1 [availableAt]
    rw [List.getD_eq_getElem?_getD, List.getElem?_map, here]
    simp only [Option.map_some, Option.getD_some, saturatingAdd]
    omega

theorem nowUs_le (scheduler : OrderedMultipathScheduler) (now : Nat) : scheduler.nowUs now ≤ U64_MAX := min_le_right _ _

theorem OrderedCall.Timely.available (timely : call.Timely scheduler index) (inside : index < call.paths.length) :
    scheduler.nowUs call.now ≤ (call.ready scheduler).availableAt index := by
  have bounded := nowUs_le scheduler call.now
  rcases timely with promised | idle
  · have forward := @normalizeIdleTimeline_forward (scheduler.emptied call.now call.paths.length)
      (scheduler.nowUs call.now) index
    rw [emptied_availableAt inside] at forward
    exact (le_min promised bounded).trans forward
  · have lengths : (scheduler.emptied call.now call.paths.length).pathAvailableAtUs.length = call.paths.length :=
      length_resizeWith ..
    apply normalizeIdleTimeline_idle bounded (inside.trans_eq lengths.symm)
    · intro queue member
      obtain ⟨position, within, rfl⟩ := List.getElem_of_mem member
      have small : position < call.paths.length := by
        rw [show (scheduler.emptied call.now call.paths.length).inFlight.length = call.paths.length from
          (List.length_map _).trans (length_resizeWith ..)] at within
        exact within
      have drained := @prepared_queueAt scheduler call.now call.paths.length position
      rw [if_pos small, (idle position small).1, queueAt, prepared, normalizeIdleTimeline_inFlight,
        List.getD_eq_getElem _ _ within] at drained
      exact drained
    · intro other within
      rw [lengths] at within
      rw [emptied_availableAt inside, emptied_availableAt within]
      exact (idle other within).2

theorem select_startedAt : (call.select scheduler).2.startedAt = scheduler.startedAt := by
  have ready : (call.ready scheduler).startedAt = scheduler.startedAt := by
    rcases normalizeIdleTimeline_cases (scheduler.emptied call.now call.paths.length) (scheduler.nowUs call.now) with
      ⟨same, -⟩ | ⟨-, most, -, -, moved⟩
    · rw [OrderedCall.ready, prepared, same]
      rfl
    · rw [OrderedCall.ready, prepared, moved]
      rfl
  rcases @select_cases scheduler call with ⟨selected, -⟩ | ⟨index, path, chosen, selected⟩
  · rw [selected, ready]
  · rw [selected]
    exact ready

theorem select_nowUs (now : Nat) : (call.select scheduler).2.nowUs now = scheduler.nowUs now := by
  rw [nowUs, select_startedAt, nowUs]

/-- A packet that has not arrived stays in its queue. -/
theorem select_keeps {packet : OrderedInFlightPacket} (member : packet ∈ scheduler.queueAt index)
    (inside : index < call.paths.length) (early : scheduler.nowUs call.now < packet.predictedArrivalUs) :
    packet ∈ (call.select scheduler).2.queueAt index := by
  have ready : packet ∈ (call.ready scheduler).queueAt index := by
    rw [OrderedCall.ready, prepared_queueAt, if_pos inside]
    rw [← List.takeWhile_append_dropWhile (p := fun packet =>
      decide (packet.predictedArrivalUs ≤ scheduler.nowUs call.now))
      (l := scheduler.queueAt index), List.mem_append] at member
    rcases member with arrived | waiting
    · have past := List.all_eq_true.mp List.all_takeWhile packet arrived
      exact absurd (of_decide_eq_true past) (not_le.mpr early)
    · exact waiting
  rcases @select_cases scheduler call with ⟨selected, -⟩ | ⟨chosenIndex, path, chosen, selected⟩
  · rwa [selected]
  · rw [selected]
    by_cases this : chosenIndex = index
    · subst this
      rw [recorded_queueAt chosen.queued]
      exact List.mem_append_left _ ready
    · rwa [recorded_queueAt_ne this]

theorem run_keeps {packet : OrderedInFlightPacket} {calls : List OrderedCall}
    (member : packet ∈ scheduler.queueAt index)
    (early : ∀ call ∈ calls, index < call.paths.length ∧ scheduler.nowUs call.now < packet.predictedArrivalUs) :
    packet ∈ (scheduler.run calls).queueAt index := by
  induction calls generalizing scheduler with
  | nil => exact member
  | cons call rest ih =>
    obtain ⟨⟨inside, before⟩, later⟩ := List.forall_mem_cons.mp early
    apply ih (select_keeps member inside before)
    simpa only [select_nowUs] using later

/-- A packet selected on a timely path is predicted to arrive no sooner than the latency allows, and is counted as in
flight until then. -/
theorem ordered_arrival_causal (selected : (call.select scheduler).1 = some index)
    (here : call.paths[index]? = some path) (timely : call.Timely scheduler index)
    (fits : scheduler.nowUs call.now + latencyOf path.primitives ≤ U64_MAX) :
    ∃ packet, (call.select scheduler).2.queueAt index = (call.ready scheduler).queueAt index ++ [packet] ∧
      scheduler.nowUs call.now + latencyOf path.primitives ≤ packet.predictedArrivalUs ∧
      ∀ later : List OrderedCall, (∀ other ∈ later, index < other.paths.length ∧
          scheduler.nowUs other.now < scheduler.nowUs call.now + latencyOf path.primitives) →
        packet ∈ ((call.select scheduler).2.run later).queueAt index := by
  rcases @select_cases scheduler call with ⟨nothing, -⟩ | ⟨position, own, chosen, result⟩
  · rw [nothing] at selected
    cases selected
  · rw [result] at selected
    obtain rfl : position = index := Option.some.inj selected
    obtain rfl : own = path := Option.some.inj (chosen.1.symm.trans here)
    have queued : (call.select scheduler).2.queueAt position = (call.ready scheduler).queueAt position ++
        [⟨(call.prediction scheduler position own).predictedArrivalUs, call.payloadLen⟩] := by
      rw [result]
      exact recorded_queueAt chosen.queued
    have arrives : scheduler.nowUs call.now + latencyOf own.primitives ≤
        (call.prediction scheduler position own).predictedArrivalUs := by
      have available := timely.available (List.getElem?_eq_some_iff.mp here).choose
      have departs := predict_later own.primitives call.payloadLen (scheduler.nowUs call.now) chosen.timed
      have arrival : (call.prediction scheduler position own).predictedArrivalUs = saturatingAdd
        (call.prediction scheduler position own).pathAvailableAfterSendUs (latencyOf own.primitives) := rfl
      rw [arrival, saturatingAdd]
      rw [OrderedCall.prediction]
      omega
    refine ⟨_, queued, arrives, fun later early => run_keeps ?_ fun other member => ?_⟩
    · rw [queued]
      exact List.mem_append_right _ (List.mem_singleton_self _)
    · rw [select_nowUs]
      exact ⟨(early other member).1, (early other member).2.trans_le arrives⟩

theorem second_packet_waits : ∃ packet,
    packet ∈ ((satelliteCall 20000000).select ((compile 0 1).run [satelliteCall 0])).2.queueAt 0 ∧
      40000 ≤ packet.predictedArrivalUs := by
  have idle : (satelliteCall 20000000).Timely ((compile 0 1).run [satelliteCall 0]) 0 := by
    refine Or.inr fun other inside => ?_
    obtain rfl : other = 0 := Nat.lt_one_iff.mp inside
    exact ⟨by decide, le_refl _⟩
  have here : (satelliteCall 20000000).paths[0]? = some satellitePath := rfl
  obtain ⟨packet, queued, late, -⟩ := ordered_arrival_causal (by decide) here idle (by decide)
  have arrival : ((compile 0 1).run [satelliteCall 0]).nowUs (satelliteCall 20000000).now +
      latencyOf satellitePath.primitives = 40000 := by decide
  refine ⟨packet, ?_, late⟩
  rw [queued]
  exact List.mem_append_right _ (List.mem_singleton_self _)

/-- The second packet is selected at 10 ms on a path of 20 ms, predicted for 20 ms and drained at 25 ms. -/
theorem second_packet_arrives_early :
    ((compile 0 1).run [satelliteCall 0, satelliteCall 10000000]).inFlight = [[⟨20000, 100⟩, ⟨20000, 100⟩]] ∧
    (compile 0 1).nowUs 10000000 + latencyOf satellitePath.primitives = 30000 ∧
    (((compile 0 1).run [satelliteCall 0, satelliteCall 10000000]).drainCompleted 25000).inFlight = [[]] := by
  decide +kernel

end Causality

end OrderedMultipathScheduler

end Gatherlink.Dataplane
