import Gatherlink.Dataplane.PathRestriction
import Gatherlink.Engine.ServicePolicy

/-! The paths that a service may use, over runs in which its scheduler is changed. Pinned flowlets and compiled slots
outlive the config they were made under; what planning chooses stays within the current config as long as they do. -/

namespace Gatherlink.Engine
open Protocol Crypto Dataplane Lib.Lookup Lib.Exec
open WeightedRoundRobin (shape)

section Policy

/-- The weighted scheduler that a selection for a service uses. -/
def CoreDataplane.weightedFor (engine : CoreDataplane) (serviceId : ServiceId) : WeightedRoundRobin :=
  (engine.serviceWeightedSchedulers serviceId).getD (.compileWithPathWeights engine.paths
    (engine.serviceScheduler serviceId).allowedPathIds (engine.serviceScheduler serviceId).pathWeights)

def CoreDataplane.Allows (engine : CoreDataplane) (serviceId : ServiceId) (path : CorePathConfig) : Prop :=
  (engine.serviceScheduler serviceId).allowsPathId path.pathId = true

/-- A service that keeps flowlets may use the path that one is pinned to. -/
def MayKeep (scheduler : ServiceSchedulerConfig) (flowlet : ServiceFlowletState) : Prop :=
  scheduler.flowletIdleUs ≠ 0 → scheduler.allowsPathId flowlet.pathId = true

/-- Flowlets are pinned to paths that their services may use, and so are the slots of the weighted schedulers. -/
structure Confined (engine : CoreDataplane) : Prop where
  pins : ∀ (key : ServiceFlowletKey) (flowlet : ServiceFlowletState), engine.serviceFlowlets key = some flowlet →
    MayKeep (engine.serviceScheduler key.serviceId) flowlet
  slots : ∀ (serviceId : ServiceId) (weighted : WeightedRoundRobin),
    engine.serviceWeightedSchedulers serviceId = some weighted → ∀ slot ∈ weighted.slots, ∀ path,
      engine.paths[slot.pathIndex]? = some path → engine.Allows serviceId path

/-- The paths that a peer can be answered on, or all of them. -/
def CoreDataplane.reaches (engine : CoreDataplane) (peerScope : Option UInt32) (path : CorePathConfig) : Bool :=
  match peerScope with
  | none => true
  | some scope => (engine.learnedPathRemotes (scope, path.pathId)).isSome

/-- The config leaves a datagram no way out of the paths of its service: path weights without a list of paths restrict
only a weighted service, and a weighted service has a slot for the datagram. -/
structure Covered (engine : CoreDataplane) (serviceId : ServiceId) (datagram : ReceivedDatagram) : Prop where
  inherits : datagram.peerScope = none →
    (engine.serviceScheduler serviceId).effectiveFanout datagram.payload.length = 1 →
    (engine.serviceScheduler serviceId).pathPolicy = .inherit →
    (engine.serviceScheduler serviceId).allowedPathIds = [] → (engine.serviceScheduler serviceId).pathWeights = []
  weighted : (datagram.peerScope = none →
      (engine.serviceScheduler serviceId).effectiveFanout datagram.payload.length = 1) →
    (engine.serviceScheduler serviceId).pathPolicy = .weightedRoundRobin →
    ∃ slot ∈ (engine.weightedFor serviceId).slots, ∃ path, engine.paths[slot.pathIndex]? = some path ∧
      engine.reaches datagram.peerScope path = true ∧ takes datagram.payload.length path = true

variable {engine start : CoreDataplane} {serviceId : ServiceId}

theorem Confined.weighted (confined : Confined engine) {slot : WeightedPathSlot} {path : CorePathConfig}
    (member : slot ∈ (engine.weightedFor serviceId).slots) (here : engine.paths[slot.pathIndex]? = some path) :
    engine.Allows serviceId path := by
  rw [CoreDataplane.weightedFor] at member
  cases stored : engine.serviceWeightedSchedulers serviceId with
  | some weighted =>
    rw [stored] at member
    exact confined.slots serviceId weighted stored slot member path here
  | none =>
    rw [stored] at member
    exact WeightedRoundRobin.compile_allows member here

/-- What planning leaves as it was at the start, and what it keeps. -/
structure Planning (start engine : CoreDataplane) : Prop where
  confined : Confined engine
  paths : engine.paths = start.paths
  schedulers : engine.serviceSchedulers = start.serviceSchedulers
  learned : engine.learnedPathRemotes = start.learnedPathRemotes
  shapes : ∀ serviceId, shape (engine.weightedFor serviceId).slots = shape (start.weightedFor serviceId).slots

theorem Planning.refl (confined : Confined engine) : Planning engine engine := ⟨confined, rfl, rfl, rfl, fun _ => rfl⟩

theorem Planning.scheduler (planning : Planning start engine) (serviceId : ServiceId) :
    engine.serviceScheduler serviceId = start.serviceScheduler serviceId := by
  rw [CoreDataplane.serviceScheduler, planning.schedulers, CoreDataplane.serviceScheduler]

theorem Planning.same {next : CoreDataplane} (planning : Planning start engine)
    (same : (next.paths, next.serviceSchedulers, next.learnedPathRemotes, next.serviceFlowlets,
      next.serviceWeightedSchedulers) = (engine.paths, engine.serviceSchedulers, engine.learnedPathRemotes,
      engine.serviceFlowlets, engine.serviceWeightedSchedulers)) : Planning start next := by
  obtain ⟨⟨pins, slots⟩, paths, schedulers, learned, shapes⟩ := planning
  cases next
  cases engine
  cases same
  exact ⟨⟨pins, slots⟩, paths, schedulers, learned, shapes⟩

theorem mem_of_shape {slots others : List WeightedPathSlot} {slot : WeightedPathSlot}
    (same : shape slots = shape others) (member : slot ∈ slots) :
    ∃ other ∈ others, other.pathIndex = slot.pathIndex := by
  have listed : (slot.pathIndex, slot.weight) ∈ shape others := same ▸ List.mem_map_of_mem member
  obtain ⟨other, present, equal⟩ := List.mem_map.mp listed
  exact ⟨other, present, congrArg Prod.fst equal⟩

end Policy

section Selection

variable {start : CoreDataplane} {serviceId : ServiceId} {now payloadLen : Nat} {source : SocketAddr}

/-- A position at which only paths of the service are. -/
def Suits (start : CoreDataplane) (serviceId : ServiceId) (index : Option Nat) : Prop :=
  ∀ position, index = some position → ∀ path, start.paths[position]? = some path → start.Allows serviceId path

theorem pathAt_allowed {index : Option Nat} (suits : Suits start serviceId index) :
    Keeps (Planning start) (start.Allows serviceId) (pathAt index) := by
  refine Keeps.bind (P := fun path => ∀ found, path = some found → start.Allows serviceId found)
    (Keeps.reads fun engine planning found here => ?_) fun path known => ?_
  · obtain ⟨position, same, listed⟩ := Option.bind_eq_some_iff.mp here
    rw [planning.paths] at listed
    exact suits position same found listed
  · cases path with
    | none => exact Keeps.throw
    | some path => exact Keeps.pure (known path rfl)

theorem selectScheduledPath_allowed {allowed : CorePathConfig → Bool}
    (narrow : ∀ path, allowed path = true → start.Allows serviceId path) :
    Keeps (Planning start) (start.Allows serviceId) (selectScheduledPath now payloadLen allowed) := by
  refine Keeps.bind (P := Suits start serviceId) (Keeps.modifyGet (fun engine planning => ?_) fun engine planning => ?_)
    fun index suits => pathAt_allowed suits
  · exact planning.same rfl
  · intro position found path here
    rw [← planning.paths] at here
    exact narrow path (CompiledScheduler.selectPathIndexWhere_allowed found here)

variable {engine : CoreDataplane} {paths : List CorePathConfig} {path : CorePathConfig} {datagram : ReceivedDatagram}
  {key : ServiceFlowletKey} {scheduler : ServiceSchedulerConfig} {peerScope : UInt32}

theorem Planning.store (planning : Planning start engine) {moved : WeightedRoundRobin}
    (same : shape moved.slots = shape (engine.weightedFor serviceId).slots) :
    Planning start { engine with
      serviceWeightedSchedulers := insert engine.serviceWeightedSchedulers serviceId moved } := by
  refine ⟨⟨planning.confined.pins, fun other weighted stored slot member path here => ?_⟩, planning.paths,
    planning.schedulers, planning.learned, fun other => ?_⟩
  · simp only [insert_apply] at stored
    split at stored
    · rename_i own
      obtain rfl := Option.some.inj stored
      obtain ⟨former, present, index⟩ := mem_of_shape same member
      rw [← index] at here
      rw [own]
      exact planning.confined.weighted present here
    · exact planning.confined.slots other weighted stored slot member path here
  · rw [CoreDataplane.weightedFor]
    simp only [insert_apply]
    split
    · rename_i own
      rw [own]
      exact same.trans (planning.shapes serviceId)
    · exact planning.shapes other

theorem selectWeightedServicePathWhere_allowed {usable : CorePathConfig → Bool}
    (carried : ∃ slot ∈ (start.weightedFor serviceId).slots, ∃ path, start.paths[slot.pathIndex]? = some path ∧
      usable path = true ∧ takes payloadLen path = true) :
    Keeps (Planning start) (start.Allows serviceId) (selectWeightedServicePathWhere serviceId payloadLen
      (start.serviceScheduler serviceId) usable) := by
  refine Keeps.bind (P := Suits start serviceId) (Keeps.modifyGet (fun engine planning => ?_) fun engine planning => ?_)
    fun index suits => pathAt_allowed suits
  · rw [← planning.scheduler serviceId]
    exact planning.store WeightedRoundRobin.selectPathIndexWhere_shape
  · intro position found path here
    rw [← planning.scheduler serviceId] at found
    obtain ⟨slot, member, other, there, permitted, carries⟩ := carried
    obtain ⟨own, present, index⟩ := mem_of_shape (planning.shapes serviceId).symm member
    have carried : ∃ slot ∈ (engine.weightedFor serviceId).slots, ∃ path, engine.paths[slot.pathIndex]? = some path ∧
        usable path = true ∧ takes payloadLen path = true := by
      refine ⟨own, present, other, ?_, permitted, carries⟩
      rw [planning.paths, index]
      exact there
    obtain ⟨chosen, listed, rfl⟩ := WeightedRoundRobin.selectPathIndexWhere_slot found carried
    rw [← planning.paths] at here
    have allows := planning.confined.weighted listed here
    rwa [CoreDataplane.Allows, planning.scheduler] at allows

theorem bestWholePath_mem (found : bestWholePath paths payloadLen = some path) : path ∈ paths :=
  (List.mem_filter.mp (minByKey_mem found)).1

theorem bestFragmentPath_mem (found : bestFragmentPath paths = some path) : path ∈ paths :=
  (List.mem_filter.mp (minByKey_mem found)).1

theorem requirePath_allowed {first second : Option CorePathConfig} (all : ∀ path ∈ paths, start.Allows serviceId path)
    (whole : ∀ path, first = some path → path ∈ paths) (fragment : ∀ path, second = some path → path ∈ paths) :
    Keeps (Planning start) (start.Allows serviceId) (requirePath (first <|> second)) := by
  cases first with
  | some path => exact Keeps.pure (all path (whole path rfl))
  | none =>
    cases second with
    | some path => exact Keeps.pure (all path (fragment path rfl))
    | none => exact Keeps.throw

theorem selectSingleBest_allowed : Keeps (Planning start) (start.Allows serviceId)
    (selectSingleBestServicePath payloadLen (start.serviceScheduler serviceId)) :=
  Keeps.bind (Keeps.reads fun _ _ _ member => (List.mem_filter.mp member).2) fun _ all =>
    requirePath_allowed all (fun _ => bestWholePath_mem) fun _ => bestFragmentPath_mem

theorem selectPathForService_allowed (covered : Covered start serviceId datagram)
    (unscoped : datagram.peerScope = none)
    (single : (start.serviceScheduler serviceId).effectiveFanout datagram.payload.length = 1) :
    Keeps (Planning start) (start.Allows serviceId)
      (selectPathForService now serviceId datagram.payload.length (start.serviceScheduler serviceId)) := by
  unfold selectPathForService
  cases policy : (start.serviceScheduler serviceId).pathPolicy with
  | inherit =>
    refine Keeps.ite (fun empty => selectScheduledPath_allowed fun path _ => ?_) fun _ =>
      selectScheduledPath_allowed fun path permitted => permitted
    have none := List.isEmpty_iff.mp empty
    rw [CoreDataplane.Allows, ServiceSchedulerConfig.allowsPathId, none, covered.inherits unscoped single policy none]
    rfl
  | singleBestPath => exact selectSingleBest_allowed
  | weightedRoundRobin =>
    obtain ⟨slot, member, path, here, -, carries⟩ := covered.weighted (fun _ => single) policy
    exact selectWeightedServicePathWhere_allowed ⟨slot, member, path, here, rfl, carries⟩

theorem Planning.pin (planning : Planning start engine)
    {flowlet : ServiceFlowletState}
    (allows : (start.serviceScheduler key.serviceId).allowsPathId flowlet.pathId = true) :
    Planning start { engine with serviceFlowlets := insert engine.serviceFlowlets key flowlet } := by
  refine ⟨⟨fun other found stored => ?_, planning.confined.slots⟩, planning.paths,
    planning.schedulers, planning.learned,
    planning.shapes⟩
  simp only [insert_apply] at stored
  split at stored
  · rename_i own
    obtain rfl := Option.some.inj stored
    rw [← planning.scheduler] at allows
    rw [own]
    exact fun _ => allows
  · exact planning.confined.pins other found stored

theorem warmFlowletPath_eq_some {found : ServiceFlowletState × CorePathConfig}
    (warm : engine.warmFlowletPath now key payloadLen scheduler = some found) :
    scheduler.flowletIdleUs ≠ 0 ∧ engine.serviceFlowlets key = some found.1 ∧ found.2.pathId = found.1.pathId := by
  simp only [CoreDataplane.warmFlowletPath] at warm
  split_ifs at warm with idle
  obtain ⟨flowlet, stored, warm⟩ := Option.bind_eq_some_iff.mp warm
  split_ifs at warm
  obtain ⟨path, listed, rfl⟩ := Option.map_eq_some_iff.mp warm
  have suits := List.find?_some listed
  simp only [Bool.and_eq_true, beq_iff_eq] at suits
  exact ⟨idle, stored, suits.1.1⟩

theorem selectServiceFlowletPath_allowed (covered : Covered start serviceId datagram)
    (unscoped : datagram.peerScope = none)
    (single : (start.serviceScheduler serviceId).effectiveFanout datagram.payload.length = 1) :
    Keeps (Planning start) (start.Allows serviceId)
      (selectServiceFlowletPath now serviceId source datagram.payload.length (start.serviceScheduler serviceId)) := by
  have remember {flowlet : ServiceFlowletState}
      (allows : (start.serviceScheduler serviceId).allowsPathId flowlet.pathId = true) :
      Keeps (Planning start) (fun _ => True) (rememberFlowlet ⟨serviceId, source⟩ flowlet) :=
    Keeps.modify fun engine planning => planning.pin allows
  refine Keeps.bind (P := fun warm => ∀ found, warm = some found →
      (start.serviceScheduler serviceId).allowsPathId found.1.pathId = true ∧ found.2.pathId = found.1.pathId)
    (Keeps.reads fun engine planning found here => ?_) fun warm known => ?_
  · obtain ⟨keeps, stored, same⟩ := warmFlowletPath_eq_some here
    refine ⟨?_, same⟩
    rw [← planning.scheduler] at keeps ⊢
    exact planning.confined.pins _ _ stored keeps
  · cases warm with
    | some found =>
      obtain ⟨allows, same⟩ := known found rfl
      refine Keeps.bind (remember allows) fun _ _ => Keeps.pure ?_
      rw [CoreDataplane.Allows, same]
      exact allows
    | none =>
      refine Keeps.bind (selectPathForService_allowed covered unscoped single) fun path allows =>
        Keeps.ite (fun _ => ?_) fun _ => Keeps.pure allows
      exact Keeps.bind (remember allows) fun _ _ => Keeps.pure allows

theorem fanoutPaths_allowed {fanout : UInt16} (member : path ∈ engine.fanoutPaths payloadLen scheduler fanout) :
    scheduler.allowsPathId path.pathId = true := by
  unfold CoreDataplane.fanoutPaths at member
  split at member
  · exact (List.mem_filter.mp (List.mem_of_mem_take member)).2
  · exact (List.mem_filter.mp member).2

theorem selectServicePaths_allowed (covered : Covered start serviceId datagram)
    (unscoped : datagram.peerScope = none) :
    Keeps (Planning start) (fun paths => ∀ path ∈ paths, start.Allows serviceId path)
      (selectServicePaths now serviceId datagram.payload.length source) := by
  refine Keeps.after_reads _ (fun engine planning => planning.scheduler serviceId) ?_
  refine Keeps.ite (fun single => ?_) fun _ => ?_
  · exact Keeps.bind (selectServiceFlowletPath_allowed covered unscoped single) fun path allows =>
      Keeps.pure (by simpa using allows)
  · refine Keeps.bind (P := fun paths => ∀ path ∈ paths, start.Allows serviceId path)
      (Keeps.reads fun engine _ path member => fanoutPaths_allowed member) fun paths all => ?_
    exact Keeps.ite (fun _ => Keeps.throw) fun _ => Keeps.pure all

theorem reachable_contains (present : path ∈ engine.paths) (reached : engine.reaches (some peerScope) path = true) :
    ((engine.paths.filter fun path => (engine.learnedPathRemotes (peerScope, path.pathId)).isSome).map
      (·.pathId)).contains path.pathId = true := by
  rw [List.contains_iff_mem]
  exact List.mem_map_of_mem (List.mem_filter.mpr ⟨present, reached⟩)

theorem selectPeerScopedPaths_allowed
    (covered : Covered start serviceId datagram) (answers : datagram.peerScope = some peerScope) :
    Keeps (Planning start) (fun paths => ∀ path ∈ paths, start.Allows serviceId path)
      (selectPeerScopedPaths serviceId peerScope datagram.payload.length) := by
  refine Keeps.after_reads _ (fun engine planning => planning.scheduler serviceId) ?_
  refine Keeps.after_reads ((start.paths.filter fun path =>
      (start.learnedPathRemotes (peerScope, path.pathId)).isSome).map (·.pathId))
    (fun engine planning => by rw [planning.paths, planning.learned]) ?_
  refine Keeps.bind (P := fun paths => ∀ path ∈ paths, start.Allows serviceId path)
    (Keeps.reads fun engine _ path member => ?_) fun eligible all => ?_
  · exact (Bool.and_eq_true_iff.mp (List.mem_filter.mp member).2).2
  refine Keeps.ite (fun _ => Keeps.throw) fun _ => Keeps.bind (P := start.Allows serviceId) ?_ fun path chosen =>
    Keeps.pure (by simpa using chosen)
  have best := @requirePath_allowed start serviceId eligible (bestWholePath eligible datagram.payload.length)
    (eligible.find? (·.acceptsFragmentedPacket)) all (fun _ => bestWholePath_mem) fun _ => List.mem_of_find?_eq_some
  cases policy : (start.serviceScheduler serviceId).pathPolicy with
  | weightedRoundRobin =>
    obtain ⟨slot, member, path, here, reached, carries⟩ := covered.weighted (by simp [answers]) policy
    rw [answers] at reached
    exact selectWeightedServicePathWhere_allowed
      ⟨slot, member, path, here, reachable_contains (List.mem_of_getElem? here) reached, carries⟩
  | singleBestPath => exact best
  | inherit => exact best

end Selection

section Planned

variable {start : CoreDataplane} {serviceId : ServiceId} {burst : Bool} {run : BurstRun} {datagram : ReceivedDatagram}

/-- A burst is on a path of the service, or on none. -/
def BurstRun.On (run : BurstRun) (start : CoreDataplane) (serviceId : ServiceId) : Prop :=
  ∀ path, run.path = some path → start.Allows serviceId path

theorem idle_on : BurstRun.On {} start serviceId := by
  intro path held
  cases held

theorem selectDatagramPaths_allowed (covered : Covered start serviceId datagram) (on : run.On start serviceId) :
    Keeps (Planning start) (fun selected => (∀ path ∈ selected.1, start.Allows serviceId path) ∧
      selected.2.On start serviceId) (selectDatagramPaths serviceId burst run datagram) := by
  unfold selectDatagramPaths
  cases scope : datagram.peerScope with
  | some peerScope =>
    exact Keeps.bind (selectPeerScopedPaths_allowed covered scope) fun paths all => Keeps.pure ⟨all, idle_on⟩
  | none =>
    refine Keeps.ite (fun _ => ?_) fun _ =>
      Keeps.bind (selectServicePaths_allowed covered scope) fun paths all => Keeps.pure ⟨all, on⟩
    refine Keeps.bind (P := fun reusable => ∀ path, reusable = some path → start.Allows serviceId path)
      (Keeps.reads fun engine _ path reused => ?_) fun reusable known => ?_
    · exact on path (reusableBurstPath_eq_some.mp reused).1
    · cases reusable with
      | some path => exact Keeps.pure ⟨by simpa using known path rfl, on⟩
      | none => exact Keeps.bind (selectServicePaths_allowed covered scope) fun paths all => Keeps.pure ⟨all, idle_on⟩

theorem advance_on {paths : List CorePathConfig} {fragment : Option UInt32} (on : run.On start serviceId)
    (all : ∀ path ∈ paths, start.Allows serviceId path) :
    (run.advance burst datagram paths fragment).On start serviceId := by
  rw [BurstRun.advance]
  split
  · split
    · exact idle_on
    · cases first : paths.head? with
      | none => exact on
      | some path =>
        simp only
        split
        · exact on
        · intro other same
          rw [← Option.some.inj same]
          exact all path (List.mem_of_head? first)
  · exact on

theorem planDatagram_allowed (covered : Covered start serviceId datagram) (on : run.On start serviceId) :
    Keeps (Planning start) (fun planned => (∀ copy ∈ planned.1, start.Allows serviceId copy.path) ∧
      planned.2.On start serviceId) (planDatagram serviceId burst run datagram) := by
  refine Keeps.bind (P := fun _ => True) (Keeps.modifyGet (fun _ planning => planning.same rfl) fun _ _ => trivial)
    fun sequence _ => Keeps.bind (selectDatagramPaths_allowed covered on) fun selected allowed => ?_
  refine Keeps.bind (P := fun _ => True) (Keeps.ite (fun _ => Keeps.modifyGet (fun _ planning => planning.same rfl)
    fun _ _ => trivial) fun _ => Keeps.pure trivial) fun fragment _ => Keeps.pure ⟨?_, advance_on allowed.2 allowed.1⟩
  intro copy member
  obtain ⟨path, listed, rfl⟩ := List.mem_map.mp member
  exact allowed.1 path listed

theorem planFrom_allowed {datagrams : List ReceivedDatagram}
    (covered : ∀ datagram ∈ datagrams, Covered start serviceId datagram) (on : run.On start serviceId) :
    Keeps (Planning start) (fun planned => ∀ copy ∈ planned, start.Allows serviceId copy.path)
      (planFrom serviceId burst run datagrams) := by
  induction datagrams generalizing run with
  | nil => exact Keeps.pure fun _ member => absurd member List.not_mem_nil
  | cons datagram rest ih =>
    obtain ⟨here, later⟩ := List.forall_mem_cons.mp covered
    refine Keeps.bind (planDatagram_allowed here on) fun planned allowed => ?_
    refine Keeps.bind (ih later allowed.2) fun others all => Keeps.pure fun copy member => ?_
    rcases List.mem_append.mp member with first | other
    · exact allowed.1 copy first
    · exact all copy other

end Planned

section Sending

variable {os : Os} {aead : Aead}

theorem Confined.same {before after : Machine} (same : Same Machine.policy before after)
    (confined : Confined before.engine) : Confined after.engine := by
  simp only [Same, Machine.policy, Prod.mk.injEq] at same
  obtain ⟨paths, schedulers, weighted, flowlets⟩ := same
  have scheduler (serviceId : ServiceId) :
      after.engine.serviceScheduler serviceId = before.engine.serviceScheduler serviceId := by
    rw [CoreDataplane.serviceScheduler, schedulers, CoreDataplane.serviceScheduler]
  constructor
  · intro key flowlet stored
    rw [flowlets] at stored
    rw [scheduler]
    exact confined.pins key flowlet stored
  · intro serviceId found stored slot member path here
    rw [weighted] at stored
    rw [paths] at here
    rw [CoreDataplane.Allows, scheduler]
    exact confined.slots serviceId found stored slot member path here

theorem anywhere {ε σ α : Type} (program : EStateM ε σ α) : Moves (fun _ _ => True) program := fun _ => trivial

theorem onNet_aloof {α : Type} (program : EStateM UdpServiceError Net α) : Aloof (onNet program) :=
  Moves.focus (anywhere program) fun _ _ _ => rfl

theorem policy_sends : Sends os aead (Same Machine.policy) where
  rests same := congrArg Prod.snd same
  seals := Moves.attempt fun _ => rfl
  batches := batches_of (fun _ => Moves.attempt fun _ => rfl) (fun _ _ => rfl) _
  wraps _ _ := rfl

end Sending

section Runs

variable {os : Os} {aead : Aead} {now : Nat} {name : String} {machine : Machine} {datagrams : List ReceivedDatagram}

/-- A property that depends only on the policy. -/
def Policed (property : Machine → Prop) : Prop :=
  ∀ ⦃before after⦄, Same Machine.policy before after → property before → property after

theorem confined_policed : Policed fun machine => Confined machine.engine := fun _ _ => Confined.same

variable {property : Machine → Prop}

variable {α : Type} {paths : List CorePathConfig} {serviceId : ServiceId} {weighted : WeightedRoundRobin}
  {slot : WeightedPathSlot} {path : CorePathConfig} {config : CoreRuntimeConfig}

theorem Policed.after {β : Type} (policed : Policed property) {first : Run α} {next : α → Run β}
    (head : property (finalState (first machine))) (tail : ∀ value, Aloof (next value)) :
    property (finalState ((first >>= next) machine)) := by
  cases ran : first machine with
  | ok value middle =>
    rw [ran] at head
    rw [bind_ok ran]
    exact policed (tail value middle) head
  | error error middle =>
    rw [ran] at head
    rwa [bind_error ran]

theorem Policed.forwardDatagrams (policed : Policed property)
    (prepared : property (finalState (prepareForward name datagrams machine))) :
    property (finalState (forwardDatagrams os aead now name datagrams machine)) :=
  policed.after prepared fun _ => Moves.bind (Moves.reads _) fun _ =>
    Moves.ite (fun _ => loopFrames_poised.weaken fun _ _ same => congrArg Prod.snd same) fun _ =>
      policy_sends.transmitPlannedFrames

theorem Policed.forwardDatagramsSummary (policed : Policed property)
    (prepared : property (finalState (prepareForward name datagrams machine))) :
    property (finalState (forwardDatagramsSummary os aead now name datagrams machine)) := by
  rw [Engine.forwardDatagramsSummary, bind_reads]
  split
  · exact policed.after (policed.forwardDatagrams prepared) fun _ => Moves.pure _
  · exact policed.after prepared fun _ => policy_sends.transmitPlannedFramesSummary

/-- The datagrams of a forward are covered by the config of the service they are for. -/
def CoversForward (machine : Machine) (name : String) (datagrams : List ReceivedDatagram) : Prop :=
  ∀ service, machine.engine.services.find? (·.config.name == name) = some service →
    ∀ datagram ∈ datagrams, Covered machine.engine service.config.serviceId datagram

/-- The engine of the machine is one in which planning from `start` goes on. -/
def Machine.Plans (start : CoreDataplane) (machine : Machine) : Prop := Planning start machine.engine

theorem ensureServiceEnabled_keeps {invariant : Machine → Prop} :
    Keeps invariant (fun _ => True) (ensureServiceEnabled serviceId) := by
  refine Keeps.bind (P := fun _ => True) (Keeps.reads fun _ _ => trivial) fun disabled _ => ?_
  cases disabled with
  | none => exact Keeps.pure trivial
  | some reason => exact Keeps.throw

theorem prepareForward_confined (covered : CoversForward machine name datagrams) (confined : Confined machine.engine) :
    Confined (finalState (prepareForward name datagrams machine)).engine := by
  rw [prepareForward, bind_reads]
  cases found : machine.engine.services.find? (·.config.name == name) with
  | none => exact confined
  | some service =>
    have learned : Keeps (Machine.Plans machine.engine) (fun _ => True) (learnLocalSources service datagrams) := by
      refine Keeps.modify fun reached planning => ?_
      split
      · exact Planning.same planning rfl
      · exact planning
    have planned : Keeps (Machine.Plans machine.engine) (fun _ => True)
        (planFrames service.config.serviceId datagrams) := by
      refine Keeps.bind (Keeps.focus (planFrom_allowed (covered service found) idle_on) (fun _ planning => planning)
        fun _ _ _ planning => planning) fun planned _ => ?_
      cases coalescePlannedFrames service.config.serviceId planned with
      | ok frames => exact Keeps.pure trivial
      | error error => exact Keeps.throw
    refine (Keeps.bind ensureServiceEnabled_keeps (fun _ _ => Keeps.bind learned fun _ _ =>
      Keeps.bind planned fun _ _ =>
      Keeps.pure (P := fun _ => True) trivial) machine ?_).1.confined
    exact Planning.refl confined

theorem fromPrimitives_slots {schedulers : HashMap ServiceId ServiceSchedulerConfig}
    (stored : serviceWeightedSchedulersFromPrimitives schedulers paths serviceId = some weighted)
    (member : slot ∈ weighted.slots) (here : paths[slot.pathIndex]? = some path) :
    ((schedulers serviceId).getD .normal).allowsPathId path.pathId = true := by
  obtain ⟨scheduler, own, compiled⟩ := Option.bind_eq_some_iff.mp stored
  split at compiled
  · rw [← Option.some.inj compiled] at member
    rw [own]
    exact WeightedRoundRobin.compile_allows member here
  · cases compiled

theorem setServiceScheduler_confined {scheduler : ServiceSchedulerConfig}
    (pinned : ∀ source flowlet, machine.engine.serviceFlowlets ⟨serviceId, source⟩ = some flowlet →
      MayKeep scheduler flowlet) (confined : Confined machine.engine) :
    Confined (finalState (setServiceScheduler serviceId scheduler machine)).engine := by
  constructor
  · intro key flowlet stored
    have former : machine.engine.serviceFlowlets key = some flowlet := stored
    change MayKeep ((insert machine.engine.serviceSchedulers serviceId scheduler key.serviceId).getD .normal) flowlet
    rw [insert_apply]
    split
    · rename_i own
      obtain ⟨keyService, source⟩ := key
      exact pinned source flowlet (by rw [← show keyService = serviceId from own]; exact former)
    · exact confined.pins key flowlet former
  · intro other weighted stored slot member path here
    exact fromPrimitives_slots stored member here

theorem reapplyScheduler_confined {mode : SchedulerMode} (confined : Confined machine.engine) :
    Confined (finalState (reapplyScheduler now paths mode machine)).engine := by
  rw [reapplyScheduler]
  split
  · exact confined
  · cases firstDuplicate [] (paths.map (·.pathId)) with
    | some pathId => exact confined
    | none =>
      exact ⟨confined.pins, fun other weighted stored slot member path here => fromPrimitives_slots stored member here⟩

theorem compiled_slots
    (stored : compileServiceWeightedSchedulers config.services config.paths serviceId = some weighted)
    (member : slot ∈ weighted.slots) (here : config.paths[slot.pathIndex]? = some path) :
    ((compileServiceSchedulers config.services serviceId).getD .normal).allowsPathId path.pathId = true := by
  obtain ⟨service, listed, entry⟩ := List.mem_map.mp (mem_of_ofList stored)
  obtain ⟨rfl, rfl⟩ := Prod.mk.inj entry
  have present : service ∈ config.services := (List.mem_filter.mp listed).1
  have distinct : ((config.services.map fun service => (service.serviceId, service.scheduler)).map Prod.fst).Nodup := by
    rw [List.map_map]
    exact config.serviceIdsUnique
  have own : compileServiceSchedulers config.services service.serviceId = some service.scheduler :=
    ofList_of_mem distinct (List.mem_map_of_mem present)
  rw [own]
  exact WeightedRoundRobin.compile_allows member here

theorem reapplyConfig_confined
    (pinned : ∀ key flowlet, machine.engine.serviceFlowlets key = some flowlet →
      MayKeep ((compileServiceSchedulers config.services key.serviceId).getD .normal) flowlet)
    (confined : Confined machine.engine) :
    Confined (finalState (reapplyConfig os now config machine)).engine := by
  rw [reapplyConfig, bind_reads]
  have same := onNet_aloof (reapplyServices os machine.engine.services config.services {}) machine
  cases ran : onNet (reapplyServices os machine.engine.services config.services {}) machine with
  | error error middle =>
    rw [ran] at same
    rw [bind_error ran]
    exact Confined.same same confined
  | ok prepared middle =>
    rw [ran] at same
    rw [bind_ok ran]
    have flowlets : middle.engine.serviceFlowlets = machine.engine.serviceFlowlets :=
      congrArg (fun policy => policy.2.2.2) same
    refine confined_policed.after ?_ fun _ => Moves.bind (Moves.reads _) fun _ => Moves.bind (onNet_aloof _) fun _ =>
      Moves.bind (Moves.modify fun _ => rfl) fun _ => Moves.pure _
    refine ⟨fun key flowlet stored => pinned key flowlet ?_, fun other weighted stored slot member path here =>
      compiled_slots stored member here⟩
    rw [← flowlets]
    exact stored

/-- An operation of the runs considered here, in a state where it can be made: every datagram forwarded is covered, and
no new config that keeps flowlets forbids a path that one of the service is pinned to. -/
def Operation.Confines (machine : Machine) : Operation → Prop
  | .forward _ name datagrams => CoversForward machine name datagrams
  | .forwardDetailed _ name datagrams => CoversForward machine name datagrams
  | .setServiceScheduler serviceId scheduler => ∀ source flowlet,
      machine.engine.serviceFlowlets ⟨serviceId, source⟩ = some flowlet → MayKeep scheduler flowlet
  | .reapplyConfig _ config => ∀ key flowlet, machine.engine.serviceFlowlets key = some flowlet →
      MayKeep ((compileServiceSchedulers config.services key.serviceId).getD .normal) flowlet
  | .reapplyScheduler _ _ _ => True
  | _ => False

def ConfiningRun (os : Os) (aead : Aead) : Machine → List Operation → Prop
  | _, [] => True
  | machine, operation :: rest =>
    operation.Confines machine ∧ ConfiningRun os aead (operation.after os aead machine) rest

theorem finalState_discard (program : Run α) (machine : Machine) :
    finalState (discard program machine) = finalState (program machine) :=
  (Moves.discard fun _ => rfl : Moves (fun before after => after = finalState (program before))
    (discard program)) machine

theorem Operation.Confines.confined {operation : Operation} (confines : operation.Confines machine)
    (confined : Confined machine.engine) : Confined (operation.after os aead machine).engine := by
  have discarded {α : Type} {program : Run α} (ends : Confined (finalState (program machine)).engine) :
      Confined (finalState (discard program machine)).engine := by
    rw [finalState_discard]
    exact ends
  cases operation with
  | forward now name datagrams =>
    exact discarded (confined_policed.forwardDatagramsSummary (prepareForward_confined confines confined))
  | forwardDetailed now name datagrams =>
    exact discarded (confined_policed.forwardDatagrams (prepareForward_confined confines confined))
  | setServiceScheduler serviceId scheduler => exact setServiceScheduler_confined confines confined
  | reapplyConfig now config => exact discarded (reapplyConfig_confined confines confined)
  | reapplyScheduler now paths mode => exact discarded (reapplyScheduler_confined confined)
  | _ => exact confines.elim

theorem run_confined {operations : List Operation} (confining : ConfiningRun os aead machine operations)
    (confined : Confined machine.engine) : Confined (run os aead operations machine).engine := by
  induction operations generalizing machine with
  | nil => exact confined
  | cons operation rest ih => exact ih confining.2 (confining.1.confined confined)

theorem Started.confined (started : Started os now config machine) :
    Confined machine.engine := by
  obtain ⟨net, -, bound⟩ := started
  have returns : Returns Confined (CoreDataplane.bind os now config) := by
    refine Returns.skip fun services => Returns.skip fun transports => ?_
    rintro state value next ⟨⟩
    exact ⟨nofun, fun other weighted stored slot member path here => compiled_slots stored member here⟩
  exact returns bound

/-- Along such a run every path that planning chooses is one that the service may use at that time. -/
theorem planned_paths_allowed {config : CoreRuntimeConfig} (started : Started os now config machine)
    {operations : List Operation} (confining : ConfiningRun os aead machine operations) {serviceId : ServiceId}
    (covered : ∀ datagram ∈ datagrams, Covered (run os aead operations machine).engine serviceId datagram)
    {planned : List PlannedDatagram} {next : CoreDataplane}
    (plans : planDatagrams serviceId datagrams (run os aead operations machine).engine = .ok planned next) :
    ∀ copy ∈ planned,
      ((run os aead operations machine).engine.serviceScheduler serviceId).allowsPathId copy.path.pathId = true :=
  (planFrom_allowed covered idle_on _ (Planning.refl (run_confined confining started.confined))).2 plans

/-- A scheduler for one path, with the given path policy and flowlet idle time. -/
def onlyPath (pathId : PathId) (pathPolicy : ServicePathPolicy) (flowletIdleUs : Nat) : ServiceSchedulerConfig :=
  { ServiceSchedulerConfig.normal with allowedPathIds := [pathId], pathPolicy, flowletIdleUs }

/-- A flowlet is pinned by a weighted choice before the path policy changes. -/
def secondPathOnly : List Operation :=
  [.setServiceScheduler 300 (onlyPath 2 .weightedRoundRobin 1000), .forward 0 "app" [sized 5],
    .setServiceScheduler 300 (onlyPath 2 .inherit 1000)]

theorem restricted_to_second_path :
    (run .willing .transparent secondPathOnly twinMachine).engine.serviceFlowlets ⟨300, .v4 4 1⟩ ≠ none ∧
    ∃ planned next,
      planDatagrams 300 [sized 5] (run .willing .transparent secondPathOnly twinMachine).engine = .ok planned next ∧
      ∀ copy ∈ planned, ((run .willing .transparent secondPathOnly twinMachine).engine.serviceScheduler
        300).allowsPathId
        copy.path.pathId = true := by
  have started : Started .willing 0 (twinConfig narrowPath twinPath (by decide)) twinMachine := ⟨Net.blank, rfl, rfl⟩
  have succeeds : (outcome (planDatagrams 300 [sized 5]
      (run .willing .transparent secondPathOnly twinMachine).engine)).isOk = true := by decide +kernel
  have first : ConfiningRun .willing .transparent twinMachine (secondPathOnly.take 2) := by
    refine ⟨fun source flowlet stored => ?_, ?_, trivial⟩
    · cases stored
    · rintro service ⟨⟩ datagram member
      obtain rfl := List.mem_singleton.mp member
      refine ⟨fun _ _ policy => ?_, fun _ _ => ⟨⟨1, 1, 0⟩, by decide, twinPath, rfl, rfl, by decide⟩⟩
      cases policy
  have confining : ConfiningRun .willing .transparent twinMachine secondPathOnly := by
    refine ⟨first.1, first.2.1, fun source flowlet stored _ => ?_, trivial⟩
    -- the pin is one that the first scheduler allows, and the two allow the same paths
    have former : (run .willing .transparent (secondPathOnly.take 2) twinMachine).engine.serviceScheduler 300 =
        onlyPath 2 .weightedRoundRobin 1000 := by decide +kernel
    have pinned := (run_confined first started.confined).pins _ _ stored
    rw [former] at pinned
    exact pinned (by decide)
  have covered : ∀ datagram ∈ [sized 5],
      Covered (run .willing .transparent secondPathOnly twinMachine).engine 300 datagram := by
    refine fun datagram _ => ⟨fun _ _ _ unrestricted => ?_, fun _ policy => ?_⟩
    · cases unrestricted
    · cases policy
  obtain ⟨planned, next, ran, -⟩ := reaches_of_isOk succeeds
  exact ⟨by decide +kernel, planned, next, ran, planned_paths_allowed started confining covered ran⟩

def busyPath : CorePathConfig := { twinPath with state := .busy }

/-- A flowlet stays on the path it was pinned to before the service was restricted to the other one; a weighted service
whose only path takes no fragments resorts to the other path; and path weights alone do not restrict a service that
inherits the path policy. -/
theorem restriction_not_enforced : Started .willing 0 (twinConfig narrowPath twinPath (by decide)) twinMachine ∧
    (plannedPaths (outcome (planDatagrams 300 [sized 5] (run .willing .transparent
      [.setServiceScheduler 300 { ServiceSchedulerConfig.normal with flowletIdleUs := 1000 },
        .forward 0 "app" [sized 5],
        .setServiceScheduler 300 (onlyPath 2 .inherit 1000)] twinMachine).engine))).map (·.pathId) = [1] ∧
    (plannedPaths (outcome (planDatagrams 300 [sized 14] (run .willing .transparent
      [.reapplyScheduler 0 [narrowPath, busyPath] .roundRobin,
        .setServiceScheduler 300 (onlyPath 2 .weightedRoundRobin 0)] twinMachine).engine))).map (·.pathId) = [1] ∧
    (plannedPaths (outcome (planDatagrams 300 [sized 5] (run .willing .transparent
      [.setServiceScheduler 300 { ServiceSchedulerConfig.normal with pathWeights := [(2, 1)] }]
        twinMachine).engine))).map (·.pathId) = [1] ∧
    (onlyPath 2 .inherit 1000).allowsPathId 1 = false ∧ (onlyPath 2 .weightedRoundRobin 0).allowsPathId 1 = false ∧
    { ServiceSchedulerConfig.normal with pathWeights := [(2, 1)] }.allowsPathId 1 = false :=
  ⟨⟨Net.blank, rfl, rfl⟩, by decide +kernel, by decide +kernel, by decide +kernel, by decide, by decide, by decide⟩

end Runs

end Gatherlink.Engine
