import Gatherlink.Engine.Confinement

/-! Flowlets over whole histories of drains. A datagram whose path its service chooses leaves a pin behind, and only
datagrams of the same source move that pin; a burst carries datagrams along without looking at their pins. -/

namespace Gatherlink.Engine
open Protocol Crypto Dataplane Lib.Lookup Lib.Exec

section Turns

/-- The planning of one datagram of a drain, with the engine before and after it. -/
structure Turn where
  serviceId : ServiceId
  burst : Bool
  run : BurstRun
  datagram : ReceivedDatagram
  before : CoreDataplane
  planned : List PlannedDatagram
  after : CoreDataplane

def Turn.key (turn : Turn) : ServiceFlowletKey := ⟨turn.serviceId, turn.datagram.source⟩

/-- The turns of a drain, up to the first datagram that cannot be planned. -/
def planTurns (serviceId : ServiceId) (burst : Bool) : BurstRun → List ReceivedDatagram → CoreDataplane → List Turn
  | _, [], _ => []
  | run, datagram :: rest, engine =>
      match planDatagram serviceId burst run datagram engine with
      | .ok (planned, later) next =>
          ⟨serviceId, burst, run, datagram, engine, planned, next⟩ :: planTurns serviceId burst later rest next
      | .error _ _ => []

/-- The turns of a forward, for a service that is known and enabled. -/
def forwardTurns (name : String) (datagrams : List ReceivedDatagram) (machine : Machine) : List Turn :=
  match machine.engine.services.find? (·.config.name == name) with
  | none => []
  | some service =>
      if (machine.engine.disabledServices service.config.serviceId).isSome then []
      else planTurns service.config.serviceId (decide (datagrams.length ≥ BURST_BATCH_MIN_DATAGRAMS)) {} datagrams
        (finalState (learnLocalSources service datagrams machine)).engine

def Operation.turns (machine : Machine) : Operation → List Turn
  | .forward _ name datagrams => forwardTurns name datagrams machine
  | .forwardDetailed _ name datagrams => forwardTurns name datagrams machine
  | _ => []

def Machine.turns (os : Os) (aead : Aead) : List Operation → Machine → List Turn
  | [], _ => []
  | operation :: rest, machine =>
      operation.turns machine ++ Machine.turns os aead rest (operation.after os aead machine)

/-- Drains, with changes of the paths and of the enabled services between them. -/
def Operation.Drains : Operation → Prop
  | .forward _ _ _ | .forwardDetailed _ _ _ | .reapplyScheduler _ _ _ | .arrive _ _ | .disableService _ _
  | .enableService _ => True
  | _ => False

/-- What flowlets depend on: the pins and the configs of the services. -/
def CoreDataplane.pins (engine : CoreDataplane) :
    HashMap ServiceFlowletKey ServiceFlowletState × HashMap ServiceId ServiceSchedulerConfig :=
  (engine.serviceFlowlets, engine.serviceSchedulers)

/-- A turn is a step of planning. -/
def Turn.Genuine (turn : Turn) : Prop :=
  ∃ later, planDatagram turn.serviceId turn.burst turn.run turn.datagram turn.before =
    .ok (turn.planned, later) turn.after

/-- Every turn finds the pins that the one before it left. -/
def Linked (engine : CoreDataplane) : List Turn → CoreDataplane → Prop
  | [], last => last.pins = engine.pins
  | turn :: rest, last => turn.Genuine ∧ turn.before.pins = engine.pins ∧ Linked turn.after rest last

variable {engine middle last : CoreDataplane} {turns others : List Turn}

theorem Linked.start {other : CoreDataplane} (same : other.pins = engine.pins) (linked : Linked engine turns last) :
    Linked other turns last := by
  cases turns with
  | nil => exact Eq.trans linked same.symm
  | cons turn rest => exact ⟨linked.1, linked.2.1.trans same.symm, linked.2.2⟩

theorem Linked.append (first : Linked engine turns middle) (second : Linked middle others last) :
    Linked engine (turns ++ others) last := by
  induction turns generalizing engine with
  | nil => exact second.start (Eq.symm first)
  | cons turn rest ih => exact ⟨first.1, first.2.1, ih first.2.2⟩

theorem Linked.split (linked : Linked engine (turns ++ others) last) :
    ∃ middle, Linked engine turns middle ∧ Linked middle others last := by
  induction turns generalizing engine with
  | nil => exact ⟨engine, rfl, linked⟩
  | cons turn rest ih =>
    obtain ⟨middle, first, second⟩ := ih linked.2.2
    exact ⟨middle, ⟨linked.1, linked.2.1, first⟩, second⟩

end Turns

section Planning

variable {serviceId : ServiceId} {burst : Bool} {run : BurstRun} {datagram : ReceivedDatagram}
  {engine next : CoreDataplane}

/-- A view of one pin and of the service configs. -/
def CoreDataplane.pin (key : ServiceFlowletKey) (engine : CoreDataplane) :
    Option ServiceFlowletState × HashMap ServiceId ServiceSchedulerConfig :=
  (engine.serviceFlowlets key, engine.serviceSchedulers)

theorem pin_unscheduled (key : ServiceFlowletKey) : Unscheduled (CoreDataplane.pin key) :=
  ⟨fun _ _ => rfl, fun _ _ => rfl, fun _ _ => rfl, fun _ _ => rfl⟩

theorem pins_unscheduled : Unscheduled CoreDataplane.pins :=
  ⟨fun _ _ => rfl, fun _ _ => rfl, fun _ _ => rfl, fun _ _ => rfl⟩

theorem pin_unpinned {key other : ServiceFlowletKey} (different : key ≠ other) :
    Unpinned (CoreDataplane.pin key) other := by
  intro engine flowlet
  exact Prod.ext (insert_of_ne _ _ different) rfl

/-- A program that leaves the pins as they are when it fails. -/
def Tentative {α : Type} (program : PlanM α) : Prop :=
  ∀ ⦃state error next⦄, program state = .error error next → next.pins = state.pins

variable {α β : Type} {first : PlanM α} {payloadLen : Nat} {source : SocketAddr}

theorem Tentative.of_same {program : PlanM α} (same : Moves (Same CoreDataplane.pins) program) :
    Tentative program := by
  intro state error next failed
  have moved := same state
  rwa [failed] at moved

theorem Tentative.of_ok {program : PlanM α} (succeeds : ∀ state, ∃ value next, program state = .ok value next) :
    Tentative program := by
  intro state error next failed
  obtain ⟨value, reached, ran⟩ := succeeds state
  rw [ran] at failed
  cases failed

theorem Tentative.after_same {next : α → PlanM β} (same : Moves (Same CoreDataplane.pins) first)
    (tail : ∀ value, Tentative (next value)) : Tentative (first >>= next) := by
  intro state error final failed
  have moved := same state
  cases ran : first state with
  | error failure middle =>
    rw [bind_error ran] at failed
    rw [ran] at moved
    cases failed
    exact moved
  | ok value middle =>
    rw [bind_ok ran] at failed
    rw [ran] at moved
    exact (tail value failed).trans moved

theorem Tentative.before_ok {next : α → PlanM β} (head : Tentative first)
    (succeeds : ∀ value state, ∃ found reached, next value state = .ok found reached) : Tentative (first >>= next) := by
  intro state error final failed
  cases ran : first state with
  | error failure middle =>
    rw [bind_error ran] at failed
    cases failed
    exact head ran
  | ok value middle =>
    obtain ⟨found, reached, follows⟩ := succeeds value middle
    rw [bind_ok ran, follows] at failed
    cases failed

theorem selectServicePaths_tentative {now : Nat} :
    Tentative (selectServicePaths now serviceId payloadLen source) := by
  refine Tentative.after_same (Moves.reads _) fun scheduler => ?_
  by_cases single : scheduler.effectiveFanout payloadLen = 1
  · simp only [if_pos single]
    refine Tentative.before_ok (Tentative.after_same (Moves.reads _) fun warm => ?_) fun _ _ => ⟨_, _, rfl⟩
    cases warm with
    | some found => exact Tentative.of_ok fun _ => ⟨_, _, rfl⟩
    | none =>
      refine Tentative.after_same (selectPathForService_same pins_unscheduled) fun path =>
        Tentative.of_ok fun state => ?_
      split
      · exact ⟨_, _, rfl⟩
      · exact ⟨_, _, rfl⟩
  · simp only [if_neg single]
    exact Tentative.of_same (Moves.bind (Moves.reads _) fun _ =>
      Moves.ite (fun _ => Moves.throw _) fun _ => Moves.pure _)

theorem assignDatagramId_ok (paths : List CorePathConfig) (payloadLen : Nat) (engine : CoreDataplane) :
    ∃ fragment next, assignDatagramId paths payloadLen engine = .ok fragment next ∧ next.pins = engine.pins := by
  unfold assignDatagramId
  split
  · exact ⟨_, _, rfl, rfl⟩
  · exact ⟨_, _, rfl, rfl⟩

theorem planDatagram_tentative : Tentative (planDatagram serviceId burst run datagram) := by
  have service : Tentative (selectServicePaths datagram.now serviceId datagram.payload.length datagram.source) :=
    selectServicePaths_tentative
  refine Tentative.after_same (nextSequenceFor_same pins_unscheduled) fun sequence =>
    Tentative.before_ok ?_ fun choice state => ?_
  · unfold selectDatagramPaths
    cases datagram.peerScope with
    | some peerScope =>
      exact Tentative.before_ok (.of_same (selectPeerScopedPaths_same pins_unscheduled)) fun _ _ => ⟨_, _, rfl⟩
    | none =>
      cases burst with
      | false => exact Tentative.before_ok service fun _ _ => ⟨_, _, rfl⟩
      | true =>
        refine Tentative.after_same (Moves.reads _) fun reusable => ?_
        cases reusable with
        | some path => exact Tentative.of_ok fun _ => ⟨_, _, rfl⟩
        | none => exact Tentative.before_ok service fun _ _ => ⟨_, _, rfl⟩
  · obtain ⟨fragment, next, assigned, -⟩ := assignDatagramId_ok choice.1 datagram.payload.length state
    exact ⟨_, next, bind_ok assigned⟩

theorem planFrames_engine (serviceId : ServiceId) (datagrams : List ReceivedDatagram) (machine : Machine)
    (result : List FramePlan → β) :
    (finalState ((planFrames serviceId datagrams >>= fun frames => pure (result frames) : Run β) machine)).engine =
      finalState (planDatagrams serviceId datagrams machine.engine) := by
  cases ran : planDatagrams serviceId datagrams machine.engine with
  | error error next =>
    have failed : onEngine (planDatagrams serviceId datagrams) machine = .error error { machine with engine := next } :=
      focus_error ran
    rw [planFrames, bind_assoc, bind_error failed]
    rfl
  | ok planned next =>
    have planned' : onEngine (planDatagrams serviceId datagrams) machine = .ok planned
        { machine with engine := next } :=
      focus_ok ran
    rw [planFrames, bind_assoc, bind_ok planned']
    cases coalescePlannedFrames serviceId planned with
    | ok frames => rfl
    | error error => rfl

/-- The turns of a drain link the engine before it to the one after it. -/
theorem planTurns_linked (datagrams : List ReceivedDatagram) :
    Linked engine (planTurns serviceId burst run datagrams engine)
      (finalState (planFrom serviceId burst run datagrams engine)) := by
  induction datagrams generalizing run engine with
  | nil => rfl
  | cons datagram rest ih =>
    rw [planTurns, planFrom]
    cases ran : planDatagram serviceId burst run datagram engine with
    | error error next =>
      rw [bind_error ran]
      exact planDatagram_tentative ran
    | ok value next =>
      obtain ⟨planned, later⟩ := value
      rw [bind_ok ran]
      refine ⟨⟨later, ran⟩, rfl, ?_⟩
      have reached : finalState ((do let others ← planFrom serviceId burst later rest; pure (planned ++ others) :
          PlanM (List PlannedDatagram)) next) = finalState (planFrom serviceId burst later rest next) := by
        cases followed : planFrom serviceId burst later rest next with
        | ok others final => rw [bind_ok followed]; rfl
        | error error final => rw [bind_error followed]
      rw [reached]
      exact ih

/-- The burst carries the datagram along on this path, without asking the service. -/
def Turn.Carried (turn : Turn) (path : CorePathConfig) : Prop :=
  turn.burst = true ∧ turn.run.Carries turn.before turn.serviceId turn.datagram.payload.length path

/-- One path is looked for, and not on behalf of a peer. -/
structure Turn.Single (turn : Turn) : Prop where
  unscoped : turn.datagram.peerScope = none
  fanout : (turn.before.serviceScheduler turn.serviceId).effectiveFanout turn.datagram.payload.length = 1

variable {turn : Turn}

theorem selectServicePaths_single {now : Nat} {paths : List CorePathConfig}
    (single : (engine.serviceScheduler serviceId).effectiveFanout payloadLen = 1)
    (ran : selectServicePaths now serviceId payloadLen source engine = .ok paths next) :
    ∃ path, paths = [path] ∧ selectServiceFlowletPath now serviceId source payloadLen
      (engine.serviceScheduler serviceId)
      engine = .ok path next := by
  rw [selectServicePaths, bind_reads] at ran
  simp only [if_pos single] at ran
  obtain ⟨path, middle, chosen, ran⟩ := bind_ok_split ran
  cases ran
  exact ⟨path, rfl, chosen⟩

theorem Turn.Genuine.selects (genuine : turn.Genuine) : ∃ paths later middle,
    selectDatagramPaths turn.serviceId turn.burst turn.run turn.datagram
      (turn.before.numbered turn.datagram.peerScope) = .ok (paths, later) middle ∧
    turn.planned.map (·.path) = paths ∧ turn.after.pins = middle.pins := by
  obtain ⟨later, ran⟩ := genuine
  obtain ⟨sequence, numbered, numbers, ran⟩ := bind_ok_split ran
  cases numbers
  obtain ⟨⟨paths, run⟩, middle, selected, ran⟩ := bind_ok_split ran
  obtain ⟨fragment, final, assigned, ran⟩ := bind_ok_split ran
  obtain ⟨known, reached, succeeds, same⟩ := assignDatagramId_ok paths turn.datagram.payload.length middle
  rw [assigned] at succeeds
  cases succeeds
  obtain ⟨copies, ended⟩ := EStateM.Result.ok.inj ran
  refine ⟨paths, run, middle, selected, ?_, ended ▸ same⟩
  rw [← (Prod.mk.inj copies).1, List.map_map]
  exact List.map_id paths

/-- Either the burst carries the datagram, or its service chooses the path by its flowlet. -/
theorem Turn.Genuine.choice (genuine : turn.Genuine) (single : turn.Single) :
    (∃ path, turn.Carried path ∧ turn.planned.map (·.path) = [path] ∧ turn.after.pins = turn.before.pins) ∨
    ∃ path middle, turn.planned.map (·.path) = [path] ∧ turn.after.pins = middle.pins ∧
      selectServiceFlowletPath turn.datagram.now turn.serviceId turn.datagram.source turn.datagram.payload.length
        (turn.before.serviceScheduler turn.serviceId) (turn.before.numbered none) = .ok path middle := by
  obtain ⟨paths, later, middle, selected, planned, after⟩ := genuine.selects
  have decides {run : BurstRun} (ran : (do
      let paths ← selectServicePaths turn.datagram.now turn.serviceId turn.datagram.payload.length turn.datagram.source
      pure (paths, run) : PlanM (List CorePathConfig × BurstRun)) (turn.before.numbered none) =
        .ok (paths, later) middle) :
      ∃ path, paths = [path] ∧ selectServiceFlowletPath turn.datagram.now turn.serviceId turn.datagram.source
        turn.datagram.payload.length (turn.before.serviceScheduler turn.serviceId) (turn.before.numbered none) =
          .ok path middle := by
    obtain ⟨found, reached, chosen, ran⟩ := bind_ok_split ran
    cases ran
    exact selectServicePaths_single single.fanout chosen
  rw [planned]
  rw [single.unscoped] at selected
  rw [selectDatagramPaths, single.unscoped] at selected
  cases bursting : turn.burst with
  | false =>
    simp only [bursting, Bool.false_eq_true, if_false] at selected
    obtain ⟨path, alone, chosen⟩ := decides selected
    exact .inr ⟨path, middle, alone, after, chosen⟩
  | true =>
    simp only [bursting, if_true] at selected
    rw [selectServicePathsForBurstBatch, bind_reads, reusableBurstPath_numbered] at selected
    cases reusable : turn.before.reusableBurstPath turn.serviceId turn.datagram.payload.length turn.run with
    | some path =>
      rw [reusable] at selected
      cases selected
      exact .inl ⟨path, ⟨bursting, reusableBurstPath_eq_some.mp reusable⟩, rfl, after⟩
    | none =>
      rw [reusable] at selected
      obtain ⟨path, alone, chosen⟩ := decides selected
      exact .inr ⟨path, middle, alone, after, chosen⟩

variable {now payloadLen : Nat} {source : SocketAddr} {scheduler : ServiceSchedulerConfig} {path : CorePathConfig}

/-- A path chosen by flowlet is the pinned one if the flowlet is warm and the path can take the payload, and is pinned
from now on. -/
theorem selectServiceFlowletPath_pins (sticky : scheduler.flowletIdleUs ≠ 0)
    (ran : selectServiceFlowletPath now serviceId source payloadLen scheduler engine = .ok path next) :
    (∀ found, engine.warmFlowletPath now ⟨serviceId, source⟩ payloadLen scheduler = some found → path = found.2) ∧
    ∃ startedAt, next.serviceFlowlets ⟨serviceId, source⟩ = some ⟨path.pathId, startedAt, now⟩ := by
  rw [selectServiceFlowletPath, bind_reads] at ran
  cases warm : engine.warmFlowletPath now ⟨serviceId, source⟩ payloadLen scheduler with
  | some found =>
    rw [warm] at ran
    obtain ⟨-, -, same⟩ := warmFlowletPath_eq_some warm
    cases ran
    refine ⟨?_, found.1.startedAt, ?_⟩
    · rintro other ⟨⟩
      rfl
    · simp only [insert_self, same]
  | none =>
    rw [warm] at ran
    obtain ⟨chosen, middle, -, ran⟩ := bind_ok_split ran
    rw [if_pos (Nat.pos_of_ne_zero sticky)] at ran
    cases ran
    refine ⟨?_, now, insert_self ..⟩
    rintro found ⟨⟩

/-- The flowlet was used within the idle time and started within the maximum hold. -/
def ServiceFlowletState.Warm (flowlet : ServiceFlowletState) (scheduler : ServiceSchedulerConfig) (now : Nat) : Prop :=
  now - flowlet.lastUsed < scheduler.flowletIdleUs * 1000 ∧
    (scheduler.flowletMaxHoldUs = 0 ∨ now - flowlet.startedAt < scheduler.flowletMaxHoldUs * 1000)

theorem warmFlowletPath_of_warm {key : ServiceFlowletKey} {flowlet : ServiceFlowletState}
    (sticky : scheduler.flowletIdleUs ≠ 0) (stored : engine.serviceFlowlets key = some flowlet)
    (warm : flowlet.Warm scheduler now) (listed : path ∈ engine.paths) (pinned : path.pathId = flowlet.pathId)
    (active : path.acceptsWholePacket = true) (fits : payloadLen ≤ path.maxDataPayload) :
    ∃ found, engine.warmFlowletPath now key payloadLen scheduler = some (flowlet, found) := by
  have suits : (path.pathId == flowlet.pathId && path.acceptsWholePacket && decide (payloadLen ≤ path.maxDataPayload)) =
      true := by
    simp [pinned, active, fits]
  have present : (engine.paths.find? fun path => path.pathId == flowlet.pathId && path.acceptsWholePacket &&
      decide (payloadLen ≤ path.maxDataPayload)).isSome = true := List.find?_isSome.mpr ⟨path, listed, suits⟩
  obtain ⟨found, located⟩ := Option.isSome_iff_exists.mp present
  refine ⟨found, ?_⟩
  simp only [CoreDataplane.warmFlowletPath, if_neg sticky, stored, Option.bind_some, located, Option.map_some]
  exact if_pos warm

end Planning

section Histories

variable {os : Os} {aead : Aead} {machine : Machine} {engine middle last : CoreDataplane} {turns : List Turn}
  {first second : Turn} {key : ServiceFlowletKey}

theorem Linked.keeps_pin (linked : Linked engine turns last)
    (others : ∀ turn ∈ turns, turn.datagram.peerScope = none → turn.key ≠ key) :
    last.pin key = engine.pin key := by
  have shown {one two : CoreDataplane} (same : two.pins = one.pins) : two.pin key = one.pin key :=
    congrArg (fun pins => (pins.1 key, pins.2)) same
  induction turns generalizing engine with
  | nil => exact shown linked
  | cons turn rest ih =>
    obtain ⟨⟨later, ran⟩, start, follows⟩ := linked
    obtain ⟨other, apart⟩ := List.forall_mem_cons.mp others
    have moves : Moves (Same (CoreDataplane.pin key)) (planDatagram turn.serviceId turn.burst turn.run turn.datagram) :=
      planDatagram_pins (pin_unscheduled key) fun unscoped => pin_unpinned (other unscoped).symm
    have moved := moves turn.before
    rw [ran] at moved
    calc last.pin key
      _ = turn.after.pin key := ih follows apart
      _ = turn.before.pin key := moved
      _ = engine.pin key := shown start

theorem Linked.schedulers (linked : Linked engine turns last) (serviceId : ServiceId) :
    ∀ turn ∈ turns, turn.before.serviceScheduler serviceId = engine.serviceScheduler serviceId := by
  have shown {one two : CoreDataplane} (same : two.serviceSchedulers = one.serviceSchedulers) :
      two.serviceScheduler serviceId = one.serviceScheduler serviceId := by
    rw [CoreDataplane.serviceScheduler, same, CoreDataplane.serviceScheduler]
  induction turns generalizing engine with
  | nil => simp
  | cons turn rest ih =>
    obtain ⟨⟨later, ran⟩, start, follows⟩ := linked
    have here := shown (congrArg Prod.snd start)
    have moves : Moves (Same CoreDataplane.fanoutView)
        (planDatagram turn.serviceId turn.burst turn.run turn.datagram) := planDatagram_same fanoutView_unplanned
    have moved := moves turn.before
    rw [ran] at moved
    have after := shown (congrArg Prod.snd moved)
    refine List.forall_mem_cons.mpr ⟨here, fun other member => ?_⟩
    exact (ih follows other member).trans (after.trans here)

theorem linked_policed (engine : CoreDataplane) (turns : List Turn) :
    Policed fun machine => Linked engine turns machine.engine := by
  intro before after same linked
  simp only [Same, Machine.policy, Prod.mk.injEq] at same
  have pins : after.engine.pins = before.engine.pins := Prod.ext same.2.2.2 same.2.1
  have more : Linked engine (turns ++ []) after.engine := linked.append pins
  rwa [List.append_nil] at more

theorem prepareForward_linked (name : String) (datagrams : List ReceivedDatagram) :
    Linked machine.engine (forwardTurns name datagrams machine)
      (finalState (prepareForward name datagrams machine)).engine := by
  rw [prepareForward, forwardTurns, bind_reads]
  cases machine.engine.services.find? (·.config.name == name) with
  | none => rfl
  | some service =>
    cases disabled : machine.engine.disabledServices service.config.serviceId with
    | some reason =>
      simp only [disabled, Option.isSome_some, if_true]
      rw [bind_error (ensureServiceEnabled_refuses disabled)]
      rfl
    | none =>
      have enabled : ensureServiceEnabled service.config.serviceId machine = .ok ⟨⟩ machine := by
        rw [ensureServiceEnabled, bind_reads, disabled]
        rfl
      obtain ⟨learned, learns, pins⟩ : ∃ learned, learnLocalSources service datagrams machine = .ok ⟨⟩ learned ∧
          machine.engine.pins = learned.engine.pins := by
        refine ⟨_, rfl, ?_⟩
        split
        · rfl
        · rfl
      simp only [disabled, Option.isSome_none, Bool.false_eq_true, if_false]
      rw [bind_ok enabled, bind_ok learns, learns, planFrames_engine]
      exact (planTurns_linked datagrams).start pins

/-- What an operation plans leads from the engine before it to the engine after it. -/
theorem Operation.Drains.linked {operation : Operation} (drains : operation.Drains) :
    Linked machine.engine (operation.turns machine) (operation.after os aead machine).engine := by
  cases operation with
  | forward now name datagrams =>
    rw [Operation.after, Operation.perform, finalState_discard]
    exact (linked_policed _ _).forwardDatagramsSummary (prepareForward_linked name datagrams)
  | forwardDetailed now name datagrams =>
    rw [Operation.after, Operation.perform, finalState_discard]
    exact (linked_policed _ _).forwardDatagrams (prepareForward_linked name datagrams)
  | reapplyScheduler now paths mode =>
    rw [Operation.after, Operation.perform, finalState_discard, Engine.reapplyScheduler]
    split
    · rfl
    · cases firstDuplicate [] (paths.map (·.pathId)) with
      | some pathId => rfl
      | none => rfl
  | arrive socketId arrival => rfl
  | disableService serviceId reason => rfl
  | enableService serviceId => rfl
  | _ => exact drains.elim

theorem turns_linked {operations : List Operation} (drains : ∀ operation ∈ operations, operation.Drains) :
    Linked machine.engine (machine.turns os aead operations) (Engine.run os aead operations machine).engine := by
  induction operations generalizing machine with
  | nil => rfl
  | cons operation rest ih =>
    obtain ⟨here, later⟩ := List.forall_mem_cons.mp drains
    exact here.linked.append (ih later)

/-- The pin of the source was last used less than `idle` before `now`, on this path. -/
def Turn.PinnedTo (turn : Turn) (now idle : Nat) (path : CorePathConfig) : Prop :=
  ∃ flowlet, turn.before.serviceFlowlets turn.key = some flowlet ∧ flowlet.pathId = path.pathId ∧
    now - flowlet.lastUsed < idle

/-- A turn leaves its source with a pin to the path it took. -/
theorem Turn.Genuine.leaves_pin {later idle : Nat} (genuine : first.Genuine) (single : first.Single)
    (chosen : ∀ path, first.Carried path → first.PinnedTo later idle path)
    (sticky : (first.before.serviceScheduler first.serviceId).flowletIdleUs ≠ 0)
    (soon : later - first.datagram.now < idle) :
    ∃ path flowlet, first.planned.map (·.path) = [path] ∧ first.after.serviceFlowlets first.key = some flowlet ∧
      flowlet.pathId = path.pathId ∧ later - flowlet.lastUsed < idle := by
  rcases genuine.choice single with ⟨path, carried, planned, pins⟩ | ⟨path, middle, planned, pins, selects⟩
  · obtain ⟨flowlet, stored, same, recent⟩ := chosen path carried
    exact ⟨path, flowlet, planned, (congrFun (congrArg Prod.fst pins) first.key).trans stored, same, recent⟩
  · obtain ⟨-, startedAt, stored⟩ := selectServiceFlowletPath_pins sticky selects
    exact ⟨path, _, planned, (congrFun (congrArg Prod.fst pins) first.key).trans stored, rfl, soon⟩

/-- Where a turn goes that finds a warm pin to a path which can take the payload. -/
theorem Turn.Genuine.follows_pin (genuine : second.Genuine) (single : second.Single) {flowlet : ServiceFlowletState}
    (stored : second.before.serviceFlowlets second.key = some flowlet)
    (aligned : ∀ path, second.Carried path → path.pathId = flowlet.pathId)
    (sticky : (second.before.serviceScheduler second.serviceId).flowletIdleUs ≠ 0)
    (warm : flowlet.Warm (second.before.serviceScheduler second.serviceId) second.datagram.now)
    (fits : ∃ path ∈ second.before.paths, path.pathId = flowlet.pathId ∧ path.acceptsWholePacket = true ∧
      second.datagram.payload.length ≤ path.maxDataPayload) :
    second.planned.map (·.path.pathId) = [flowlet.pathId] := by
  have ids {path : CorePathConfig} (planned : second.planned.map (·.path) = [path]) :
      second.planned.map (·.path.pathId) = [path.pathId] := by
    have mapped := congrArg (List.map (·.pathId)) planned
    rwa [List.map_map] at mapped
  rcases genuine.choice single with ⟨path, carried, planned, -⟩ | ⟨path, middle, planned, -, selects⟩
  · rw [ids planned, aligned path carried]
  · obtain ⟨path, listed, pinned, active, room⟩ := fits
    have stored' : (second.before.numbered none).serviceFlowlets second.key = some flowlet := stored
    obtain ⟨found, warmed⟩ := warmFlowletPath_of_warm sticky stored' warm listed pinned active room
    obtain ⟨same, -⟩ := selectServiceFlowletPath_pins sticky selects
    rw [ids planned, same _ warmed, (warmFlowletPath_eq_some warmed).2.2]

/-- Two datagrams of one source, with none of that source between them, go to the same path if the second comes within
the idle time and the maximum hold and the path can take it, unless one of them is carried along by its burst on a path
that is not the one its source is pinned to. A datagram that is carried along does not renew the pin. -/
theorem flowlet_sticks {operations : List Operation} (drains : ∀ operation ∈ operations, operation.Drains)
    {earlier between later : List Turn}
    (history : machine.turns os aead operations = earlier ++ first :: (between ++ second :: later))
    (same : second.key = first.key) (one : first.Single) (two : second.Single)
    (apart : ∀ turn ∈ between, turn.datagram.peerScope = none → turn.key ≠ first.key)
    (sticky : (machine.engine.serviceScheduler first.serviceId).flowletIdleUs ≠ 0)
    (chosen : ∀ path, first.Carried path → first.PinnedTo second.datagram.now
      ((machine.engine.serviceScheduler first.serviceId).flowletIdleUs * 1000) path)
    (aligned : ∀ path, second.Carried path → ∀ flowlet, second.before.serviceFlowlets first.key = some flowlet →
      path.pathId = flowlet.pathId)
    (soon : second.datagram.now - first.datagram.now <
      (machine.engine.serviceScheduler first.serviceId).flowletIdleUs * 1000)
    (held : ∀ flowlet, second.before.serviceFlowlets first.key = some flowlet →
      (machine.engine.serviceScheduler first.serviceId).flowletMaxHoldUs = 0 ∨
        second.datagram.now - flowlet.startedAt <
          (machine.engine.serviceScheduler first.serviceId).flowletMaxHoldUs * 1000)
    (fits : ∃ path ∈ second.before.paths, path.pathId ∈ first.planned.map (·.path.pathId) ∧
      path.acceptsWholePacket = true ∧ second.datagram.payload.length ≤ path.maxDataPayload) :
    second.planned.map (·.path.pathId) = first.planned.map (·.path.pathId) := by
  have linked : Linked machine.engine (machine.turns os aead operations)
      (Engine.run os aead operations machine).engine :=
    turns_linked drains
  rw [history] at linked
  have config := linked.schedulers first.serviceId
  have own : second.serviceId = first.serviceId := congrArg ServiceFlowletKey.serviceId same
  have early := config first (by simp)
  have late := config second (by simp)
  obtain ⟨start, -, genuine, -, linked⟩ := linked.split
  obtain ⟨reached, among, following, found, -⟩ := linked.split
  -- The first datagram leaves a pin, and nothing touches it until the second one.
  obtain ⟨path, flowlet, planned, pinned, here, recent⟩ := genuine.leaves_pin one chosen (early ▸ sticky) soon
  have kept : second.before.serviceFlowlets first.key = some flowlet :=
    calc second.before.serviceFlowlets first.key
      _ = reached.serviceFlowlets first.key := congrFun (congrArg Prod.fst found) first.key
      _ = first.after.serviceFlowlets first.key := congrArg Prod.fst (among.keeps_pin apart)
      _ = _ := pinned
  have ids : first.planned.map (·.path.pathId) = [path.pathId] := by
    have mapped := congrArg (List.map (·.pathId)) planned
    rwa [List.map_map] at mapped
  rw [ids, ← here] at fits ⊢
  simp only [List.mem_singleton] at fits
  have scheduler : second.before.serviceScheduler second.serviceId =
      machine.engine.serviceScheduler first.serviceId := by
    rw [own]
    exact late
  refine following.follows_pin two (same ▸ kept) (fun other carried => aligned other carried _ kept) ?_ ?_ fits
  · rwa [scheduler]
  · rw [scheduler]
    exact ⟨recent, held _ kept⟩

/-- Two paths taken in turn, and flowlets that stay warm for a millisecond. -/
def stickyMachine : Machine :=
  run .willing .transparent [.setServiceScheduler 300 { ServiceSchedulerConfig.normal with flowletIdleUs := 1000 }]
    twinMachine

/-- A datagram of five bytes from one of the local ports. -/
def fromPort (port : UInt16) (now : Nat) : ReceivedDatagram := ⟨.replicate 5 1, .v4 4 port, none, now⟩

def apartDrains : List Operation :=
  [.forward 0 "app" [fromPort 1 0], .forward 0 "app" [fromPort 2 10], .forward 0 "app" [fromPort 1 20]]

/-- What the conditions on a turn look at. -/
def Turn.facts (turn : Turn) :
    (ServiceFlowletKey × Option UInt32 × Bool) × UInt16 × Nat × List PathId × Bool :=
  ((turn.key, turn.datagram.peerScope, turn.burst),
    (turn.before.serviceScheduler turn.serviceId).effectiveFanout turn.datagram.payload.length, turn.datagram.now,
    turn.planned.map (·.path.pathId),
    turn.before.paths.contains narrowPath && decide (turn.datagram.payload.length ≤ narrowPath.maxDataPayload))

theorem apart_facts : (stickyMachine.turns .willing .transparent apartDrains).map Turn.facts =
    [((⟨300, .v4 4 1⟩, none, false), 1, 0, [1], true),
      ((⟨300, .v4 4 2⟩, none, false), 1, 10, [2], true),
      ((⟨300, .v4 4 1⟩, none, false), 1, 20, [1], true)] := by
  decide +kernel

/-- Drained apart, the two datagrams of one source go to the same path, whatever the other source sends. -/
theorem apart_sticks : ∃ first other second,
    stickyMachine.turns .willing .transparent apartDrains = [] ++ first :: ([other] ++ second :: []) ∧
    second.planned.map (·.path.pathId) = first.planned.map (·.path.pathId) := by
  have facts := apart_facts
  obtain ⟨first, other, second, history⟩ := List.length_eq_three.mp (by simpa using congrArg List.length facts)
  rw [history] at facts
  simp only [List.map_cons, List.map_nil, List.cons.injEq, Turn.facts, Prod.mk.injEq, and_true, Bool.and_eq_true,
    decide_eq_true_eq, List.contains_iff_mem] at facts
  obtain ⟨⟨⟨key, scope, alone⟩, fanout, now, planned, -⟩, ⟨⟨key', -, -⟩, -⟩, ⟨key'', scope'', alone''⟩, fanout'', now'',
    -, listed, room⟩ := facts
  have own : first.serviceId = 300 := congrArg ServiceFlowletKey.serviceId key
  have drains : ∀ operation ∈ apartDrains, operation.Drains := by simp [apartDrains, Operation.Drains]
  have history : stickyMachine.turns .willing .transparent apartDrains = [] ++
      first :: ([other] ++ second :: []) := history
  refine ⟨first, other, second, history, flowlet_sticks drains history (key''.trans key.symm) ⟨scope, fanout⟩
    ⟨scope'', fanout''⟩ ?_ ?_ ?_ ?_ ?_ ?_ ⟨narrowPath, listed, ?_, by decide, room⟩⟩
  · intro turn member _
    rw [List.mem_singleton.mp member, key', key]
    decide
  · rw [own]
    decide
  · rintro path ⟨bursting, -⟩
    rw [alone] at bursting
    contradiction
  · rintro path ⟨bursting, -⟩
    rw [alone''] at bursting
    cases bursting
  · rw [own, now, now'']
    decide
  · intro flowlet _
    rw [own]
    exact .inl (by decide)
  · rw [planned]
    decide

/-- In a burst, a datagram follows the other source to its path. -/
theorem burst_breaks_flowlet : Started .willing 0 (twinConfig narrowPath twinPath (by decide)) twinMachine ∧
    (stickyMachine.turns .willing .transparent [.forward 0 "app" [fromPort 1 0], .forward 0 "app" [fromPort 2 10],
        .forward 0 "app" [fromPort 2 20, fromPort 1 30]]).map
      (fun turn => (turn.datagram.source, turn.datagram.now, turn.planned.map (·.path.pathId),
        turn.before.paths.contains narrowPath)) =
      [(.v4 4 1, 0, [1], true), (.v4 4 2, 10, [2], true), (.v4 4 2, 20, [2], true), (.v4 4 1, 30, [2], true)] ∧
    (stickyMachine.engine.serviceScheduler 300).flowletIdleUs = 1000 ∧
    (stickyMachine.engine.serviceScheduler 300).flowletMaxHoldUs = 0 ∧
    narrowPath.acceptsWholePacket = true ∧ 5 ≤ narrowPath.maxDataPayload :=
  ⟨⟨Net.blank, rfl, rfl⟩, by decide +kernel, by decide, by decide, by decide, by decide⟩

end Histories

end Gatherlink.Engine
