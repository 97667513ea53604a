import Gatherlink.Dataplane.Reassembly
import Gatherlink.Engine.Plan

/-! What planning makes of a datagram that goes to several paths: either all of them carry it whole, or
each path cuts its copy to its own size, under one datagram id. -/

namespace Gatherlink.Engine
open Protocol Dataplane Lib.Exec Lib.Chunks

section Planning

variable {serviceId : ServiceId} {payloadLen now : Nat} {source : SocketAddr}

/-- Either all of the paths carry a payload whole, or none of them does. -/
def CarryAlike (paths : List CorePathConfig) (payloadLen : Nat) : Prop :=
  (∀ path ∈ paths, payloadLen ≤ path.maxDataPayload) ∨ ∀ path ∈ paths, path.maxDataPayload < payloadLen

theorem selectPathIndices_alike (paths : List CorePathConfig) (payloadLen : Nat) :
    (∀ index ∈ selectPathIndices paths payloadLen, ∀ path, paths[index]? = some path →
      payloadLen ≤ path.maxDataPayload) ∨
    ∀ index ∈ selectPathIndices paths payloadLen, ∀ path, paths[index]? = some path →
      path.maxDataPayload < payloadLen := by
  unfold selectPathIndices
  have present {good : CorePathConfig × Nat → Bool} {index : Nat} {path : CorePathConfig}
      (selected : index ∈ (paths.zipIdx.filter good).map (·.2)) (here : paths[index]? = some path) :
      (path, index) ∈ paths.zipIdx ∧ good (path, index) = true := by
    obtain ⟨⟨found, _⟩, listed, rfl⟩ := List.mem_map.mp selected
    obtain ⟨present, capable⟩ := List.mem_filter.mp listed
    obtain rfl : found = path := Option.some.inj ((List.mem_zipIdx_iff_getElem?.mp present).symm.trans here)
    exact ⟨present, capable⟩
  by_cases none : ((paths.zipIdx.filter fun entry =>
      entry.1.enabled && decide (payloadLen ≤ entry.1.maxDataPayload)).map (·.2)).isEmpty = true
  · right
    simp only [none, Bool.not_true, Bool.false_eq_true, if_false]
    intro index selected path here
    obtain ⟨listed, capable⟩ := present selected here
    -- a path that may carry fragments is enabled, so it is not among the whole-packet paths for its MTU
    have enabled : path.enabled = true := (Bool.and_eq_true_iff.mp capable).1
    by_contra fits
    rw [List.isEmpty_iff, List.map_eq_nil_iff, List.filter_eq_nil_iff] at none
    exact none _ listed (by simp [enabled]; omega)
  · left
    simp only [none, Bool.not_false, if_true]
    intro index selected path here
    simpa using (Bool.and_eq_true_iff.mp (present selected here).2).2

theorem fanoutPaths_alike (engine : CoreDataplane) (scheduler : ServiceSchedulerConfig) (fanout : UInt16) :
    CarryAlike (engine.fanoutPaths payloadLen scheduler fanout) payloadLen := by
  have listed {path : CorePathConfig} (member : path ∈ engine.fanoutPaths payloadLen scheduler fanout) :
      ∃ index ∈ selectPathIndices engine.paths payloadLen, engine.paths[index]? = some path := by
    have eligible : path ∈ ((selectPathIndices engine.paths payloadLen).filterMap fun index =>
        engine.paths[index]?).filter fun path => scheduler.allowsPathId path.pathId := by
      unfold CoreDataplane.fanoutPaths at member
      split at member
      · exact List.mem_of_mem_take member
      · exact member
    simpa [List.mem_filterMap] using (List.mem_filter.mp eligible).1
  refine (selectPathIndices_alike engine.paths payloadLen).imp (fun all path member => ?_) fun all path member => ?_
  · obtain ⟨index, selected, here⟩ := listed member
    exact all index selected path here
  · obtain ⟨index, selected, here⟩ := listed member
    exact all index selected path here

theorem carryAlike_singleton (path : CorePathConfig) (payloadLen : Nat) : [path] ≠ [] ∧
    CarryAlike [path] payloadLen := by
  simp only [CarryAlike, List.mem_singleton, forall_eq]
  exact ⟨List.cons_ne_nil _ _, by omega⟩

theorem selectServicePaths_alike : Returns (fun paths => paths ≠ [] ∧ CarryAlike paths payloadLen)
    (selectServicePaths now serviceId payloadLen source) := by
  refine Returns.skip fun scheduler => Returns.ite (fun _ => ?_) fun _ => ?_
  · exact Returns.skip fun path => Returns.pure (carryAlike_singleton path _)
  · have looked : Returns (CarryAlike · payloadLen)
        (reads (·.fanoutPaths payloadLen scheduler (scheduler.effectiveFanout payloadLen)) :
          PlanM (List CorePathConfig)) := Returns.reads fun engine => fanoutPaths_alike engine _ _
    exact Returns.bind looked fun paths alike => Returns.ite (fun _ => Returns.throw) fun some =>
      Returns.pure ⟨mt List.isEmpty_iff.mpr some, alike⟩

theorem selectPeerScopedPaths_alike {peerScope : UInt32} :
    Returns (fun paths => paths ≠ [] ∧ CarryAlike paths payloadLen)
    (selectPeerScopedPaths serviceId peerScope payloadLen) :=
  Returns.skip fun _ => Returns.skip fun _ => Returns.skip fun _ => Returns.ite (fun _ => Returns.throw) fun _ =>
    Returns.skip fun path => Returns.pure (carryAlike_singleton path _)

variable {burst : Bool} {datagram : ReceivedDatagram}

/-- Whatever the policy, a datagram has a path, and its paths either all carry it whole or none of them does. -/
theorem selectDatagramPaths_alike {run : BurstRun} :
    Returns (fun selected => selected.1 ≠ [] ∧ CarryAlike selected.1 datagram.payload.length)
      (selectDatagramPaths serviceId burst run datagram) := by
  unfold selectDatagramPaths
  cases datagram.peerScope with
  | some peerScope => exact Returns.bind selectPeerScopedPaths_alike fun paths alike => Returns.pure alike
  | none =>
    refine Returns.ite (fun _ => ?_) fun _ =>
      Returns.bind selectServicePaths_alike fun paths alike => Returns.pure alike
    refine Returns.skip fun reusable => ?_
    cases reusable with
    | some path => exact Returns.pure (carryAlike_singleton path _)
    | none => exact Returns.bind selectServicePaths_alike fun paths alike => Returns.pure alike

/-- One copy of a datagram for each path, all under the sequence and the id of the datagram. -/
def copiesFor (serviceId : ServiceId) (datagram : ReceivedDatagram) (sequence : SequenceNumber)
    (fragment : Option UInt32) (paths : List CorePathConfig) : List PlannedDatagram :=
  paths.map fun path => ⟨datagram.payload, datagram.source, datagram.peerScope, sequence, serviceId, path, fragment,
    decide (paths.length > 1)⟩

theorem planDatagram_copies {run : BurstRun} :
    Returns (fun planned : List PlannedDatagram × BurstRun => ∃ sequence fragment paths,
        planned.1 = copiesFor serviceId datagram sequence fragment paths ∧
        paths ≠ [] ∧ ∀ path ∈ paths, fragment = none ↔ datagram.payload.length ≤ path.maxDataPayload)
      (planDatagram serviceId burst run datagram) := by
  refine Returns.skip fun sequence => Returns.bind selectDatagramPaths_alike fun selected choice => ?_
  have assigned : Returns (fun fragment : Option UInt32 => fragment ≠ none ↔
      (selected.1.head?.map fun path => decide (datagram.payload.length > path.maxDataPayload)).getD false = true)
      (assignDatagramId selected.1 datagram.payload.length) := by
    refine Returns.ite (fun large => ?_) fun small => Returns.pure (by simp [small])
    rintro state value next ⟨⟩
    simp [large]
  refine Returns.bind assigned fun fragment large => Returns.pure ⟨sequence, fragment, selected.1, rfl, choice.1, ?_⟩
  have alike := choice.2
  intro path member
  cases listed : selected.1 with
  | nil => simp [listed] at member
  | cons head rest =>
    have first : fragment = none ↔ datagram.payload.length ≤ head.maxDataPayload := by
      rw [listed] at large
      simp only [List.head?_cons, Option.map_some, Option.getD_some, decide_eq_true_eq] at large
      rw [← not_iff_not, ← ne_eq, large]
      omega
    rw [listed] at alike member
    rcases alike with whole | cut
    · have one := whole head (by simp)
      have two := whole path member
      exact ⟨fun _ => two, fun _ => first.mpr one⟩
    · have one := cut head (by simp)
      have two := cut path member
      rw [first]
      omega

end Planning

section Fragments

def fragmentsOf (copy : PlannedDatagram) : List Frame :=
  ((fragmentDatagram copy).toOption.getD []).map (·.frame)

theorem coalescePlannedFrames_fragments {serviceId : ServiceId} {planned : List PlannedDatagram}
    {frames : List FramePlan} (identified : ∀ copy ∈ planned, copy.fragment.isSome)
    (framed : coalescePlannedFrames serviceId planned = .ok frames) :
    (∀ copy ∈ planned, ∃ plans, fragmentDatagram copy = .ok plans) ∧
      frames.map (·.frame) = planned.flatMap fragmentsOf := by
  induction planned generalizing frames with
  | nil =>
    rw [coalescePlannedFrames] at framed
    rw [← Except.ok.inj framed]
    exact ⟨by simp, rfl⟩
  | cons copy rest ih =>
    rw [coalescePlannedFrames, if_pos (identified copy (by simp))] at framed
    cases cut : fragmentDatagram copy with
    | error error => simp [cut, bind, Except.bind] at framed
    | ok plans =>
      cases others : coalescePlannedFrames serviceId rest with
      | error error => simp [cut, others, bind, Except.bind] at framed
      | ok later =>
        simp only [cut, others, bind, Except.bind, Except.ok.injEq] at framed
        obtain ⟨made, frames⟩ := ih (fun other member => identified other (by simp [member])) others
        refine ⟨?_, ?_⟩
        · intro other member
          rcases List.mem_cons.mp member with rfl | later'
          · exact ⟨plans, cut⟩
          · exact made other later'
        · rw [← framed, List.map_append, frames, List.flatMap_cons]
          simp [fragmentsOf, cut, Except.toOption]

/-- What the receiver can tell of a frame that carries a fragment of a copy. -/
structure IsFragmentOf (copy : PlannedDatagram) (id : UInt32) (index : Nat) (frame : Frame) : Prop where
  kind : frame.kind = .data
  serviceId : frame.serviceId = copy.serviceId
  pathId : frame.pathId = copy.path.pathId
  sequence : frame.sequence = copy.sequence
  piece : ∃ fragment, frame.fragment = some fragment ∧
    CarriesPiece id (chunks copy.path.maxFragmentPayload copy.payload) index fragment frame.payload

theorem fragmentsOf_spec {copy : PlannedDatagram} {id : UInt32} {plans : List FramePlan}
    (identified : copy.fragment = some id) (made : fragmentDatagram copy = .ok plans) :
    (fragmentsOf copy).length = (chunks copy.path.maxFragmentPayload copy.payload).length ∧
      ∀ {index frame}, (fragmentsOf copy)[index]? = some frame → IsFragmentOf copy id index frame := by
  obtain ⟨length, placed⟩ := fragmentDatagram_ok identified made
  have frames : fragmentsOf copy = plans.map (·.frame) := by simp [fragmentsOf, made, Except.toOption]
  refine ⟨by rw [frames, List.length_map, length], ?_⟩
  intro index frame here
  rw [frames, List.getElem?_map, Option.map_eq_some_iff] at here
  obtain ⟨plan, position, rfl⟩ := here
  obtain ⟨shape, piece⟩ := placed index plan position
  exact ⟨shape.kind, shape.serviceId, shape.pathId, shape.sequence, piece⟩

end Fragments

end Gatherlink.Engine
