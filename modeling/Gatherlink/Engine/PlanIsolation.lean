import Gatherlink.Engine.BurstFanout

/-! Planning a drain datagram by datagram. The first datagram that cannot be planned takes the whole drain with it. -/

namespace Gatherlink.Engine
open Protocol Crypto Dataplane Lib.Lookup Lib.Exec

variable {serviceId : ServiceId} {burst : Bool} {run : BurstRun} {datagram : ReceivedDatagram}
  {datagrams : List ReceivedDatagram} {engine : CoreDataplane}

section Isolated

/-- The copies of a drain in which every datagram stands for itself: one that cannot be planned is passed over. It has
spent its sequence number and ended the burst run. -/
def planIsolated (serviceId : ServiceId) (burst : Bool) :
    BurstRun → List ReceivedDatagram → CoreDataplane → List PlannedDatagram
  | _, [], _ => []
  | run, datagram :: rest, engine =>
      match planDatagram serviceId burst run datagram engine with
      | .ok (planned, later) next => planned ++ planIsolated serviceId burst later rest next
      | .error _ next => planIsolated serviceId burst {} rest next

/-- The drain is long enough for its datagrams to carry each other along. -/
def isBurst (datagrams : List ReceivedDatagram) : Bool := decide (datagrams.length ≥ BURST_BATCH_MIN_DATAGRAMS)

/-- Every datagram of the drain can be planned in its turn. -/
def AllPlannable (serviceId : ServiceId) (burst : Bool) : BurstRun → List ReceivedDatagram → CoreDataplane → Prop
  | _, [], _ => True
  | run, datagram :: rest, engine => ∃ planned later next,
      planDatagram serviceId burst run datagram engine = .ok (planned, later) next ∧
        AllPlannable serviceId burst later rest next

/-- No datagram of the drain can be planned in its turn. -/
def NonePlannable (serviceId : ServiceId) (burst : Bool) : BurstRun → List ReceivedDatagram → CoreDataplane → Prop
  | _, [], _ => True
  | run, datagram :: rest, engine => ∃ error next,
      planDatagram serviceId burst run datagram engine = .error error next ∧
        NonePlannable serviceId burst {} rest next

/-- A drain of the enabled service of that name meets the engine in which the source of its last datagram is learned. -/
def Forwardable (machine : Machine) (name : String) (service : UserlandUdpService) (datagrams : List ReceivedDatagram)
    (engine : CoreDataplane) : Prop :=
  machine.engine.services.find? (·.config.name == name) = some service ∧
    machine.engine.disabledServices service.config.serviceId = none ∧
    (finalState (learnLocalSources service datagrams machine)).engine = engine

end Isolated

section Forwarded

variable {os : Os} {aead : Aead} {now : Nat} {name : String} {machine : Machine} {service : UserlandUdpService}
  {planned : List PlannedDatagram} {next : CoreDataplane}

section
variable (ready : Forwardable machine name service datagrams engine)
include ready

theorem Forwardable.prepareForward :
    prepareForward name datagrams machine =
      (planFrames service.config.serviceId datagrams >>= fun frames => pure (service, frames))
        { machine with engine } := by
  obtain ⟨found, enabled, learned⟩ := ready
  have passed : ensureServiceEnabled service.config.serviceId machine = .ok ⟨⟩ machine := by
    rw [ensureServiceEnabled, bind_reads, enabled]
    rfl
  have learns : learnLocalSources service datagrams machine = .ok ⟨⟩ { machine with engine } := by
    rw [← learned]
    simp only [learnLocalSources, finalState, modify, modifyGet, MonadStateOf.modifyGet, EStateM.modifyGet]
    split <;> rfl
  rw [Engine.prepareForward, bind_reads, found]
  simp only
  rw [bind_ok passed, bind_ok learns]

theorem Forwardable.fails (failed : planDatagrams service.config.serviceId datagrams engine = .error error next) :
    forwardDatagramsSummary os aead now name datagrams machine = .error error { machine with engine := next } := by
  have stopped : Engine.prepareForward name datagrams machine = .error error { machine with engine := next } := by
    rw [ready.prepareForward, planFrames, bind_assoc]
    exact bind_error (focus_error failed)
  rw [forwardDatagramsSummary, bind_reads]
  split
  · rw [forwardDatagrams, bind_assoc]
    exact bind_error stopped
  · exact bind_error stopped

/-- A planned drain over path transports is packed into frames and sent. -/
theorem Forwardable.sends (transports : machine.engine.pathTransports.isEmpty = false)
    (ran : planDatagrams service.config.serviceId datagrams engine = .ok planned next) :
    forwardDatagramsSummary os aead now name datagrams machine =
      (liftExcept (coalescePlannedFrames service.config.serviceId planned) >>=
        transmitPlannedFramesSummary os aead now service.config.name) { machine with engine := next } := by
  have planned' : onEngine (planDatagrams service.config.serviceId datagrams) { machine with engine } =
      .ok planned { machine with engine := next } := focus_ok ran
  have prepared : Engine.prepareForward name datagrams machine =
      (liftExcept (coalescePlannedFrames service.config.serviceId planned) >>= fun frames => pure (service, frames))
        { machine with engine := next } := by
    rw [ready.prepareForward, planFrames, bind_assoc, bind_ok planned']
  rw [forwardDatagramsSummary, bind_reads, transports]
  simp only [Bool.false_eq_true, if_false]
  cases packed : coalescePlannedFrames service.config.serviceId planned with
  | error error =>
    rw [packed] at prepared
    exact bind_error prepared
  | ok frames =>
    rw [packed] at prepared
    exact bind_ok prepared

end

end Forwarded

section Drains

/-- A drain without failures is planned whole. -/
theorem AllPlannable.planFrom (all : AllPlannable serviceId burst run datagrams engine) :
    ∃ next, planFrom serviceId burst run datagrams engine =
      .ok (planIsolated serviceId burst run datagrams engine) next := by
  induction datagrams generalizing run engine with
  | nil => exact ⟨engine, rfl⟩
  | cons datagram rest ih =>
    obtain ⟨planned, later, middle, first, others⟩ := all
    obtain ⟨next, ran⟩ := ih others
    refine ⟨next, ?_⟩
    rw [Engine.planFrom, planIsolated, bind_ok first, first]
    exact bind_ok ran

/-- The first failure ends the drain, whatever was planned before it. -/
theorem planFrom_of_not_all (some : ¬AllPlannable serviceId burst run datagrams engine) :
    ∃ error next, planFrom serviceId burst run datagrams engine = .error error next := by
  induction datagrams generalizing run engine with
  | nil => exact absurd trivial some
  | cons datagram rest ih =>
    rw [planFrom]
    cases first : planDatagram serviceId burst run datagram engine with
    | error error next => exact ⟨error, next, bind_error first⟩
    | ok value middle =>
      obtain ⟨planned, later⟩ := value
      obtain ⟨error, next, ran⟩ := ih fun others => some ⟨planned, later, middle, first, others⟩
      rw [bind_ok first]
      exact ⟨error, next, bind_error ran⟩

theorem planIsolated_eq_nil :
    planIsolated serviceId burst run datagrams engine = [] ↔ NonePlannable serviceId burst run datagrams engine := by
  induction datagrams generalizing run engine with
  | nil => exact ⟨fun _ => trivial, fun _ => rfl⟩
  | cons datagram rest ih =>
    rw [planIsolated]
    cases first : planDatagram serviceId burst run datagram engine with
    | error error next =>
      simp only [NonePlannable, first]
      constructor
      · intro empty
        exact ⟨error, next, rfl, ih.mp empty⟩
      · rintro ⟨_, _, ⟨⟩, others⟩
        exact ih.mpr others
    | ok value next =>
      obtain ⟨planned, later⟩ := value
      have some : planned ≠ [] := by
        obtain ⟨_, _, paths, same, found, -⟩ := planDatagram_copies first
        rw [show planned = _ from same]
        exact mt List.map_eq_nil_iff.mp found
      simp only [NonePlannable, first]
      constructor
      · intro empty
        exact absurd (List.append_eq_nil_iff.mp empty).1 some
      · rintro ⟨_, _, ⟨⟩, _⟩

/-- A drain plans what it would plan if every datagram stood for itself exactly when none of its datagrams fails, or all
of them do. Forwarding it sends nothing if one of them fails; if none does, the copies of all of them are sent. -/
theorem drain_isolated_iff :
    ((outcome (planDatagrams serviceId datagrams engine)).toOption.getD [] =
        planIsolated serviceId (isBurst datagrams) {} datagrams engine ↔
      AllPlannable serviceId (isBurst datagrams) {} datagrams engine ∨
      NonePlannable serviceId (isBurst datagrams) {} datagrams engine) ∧
    ∀ os aead now name machine service, Forwardable machine name service datagrams engine →
      service.config.serviceId = serviceId →
      (¬AllPlannable serviceId (isBurst datagrams) {} datagrams engine → ∃ error after,
        forwardDatagramsSummary os aead now name datagrams machine = .error error after ∧ after.net = machine.net) ∧
      (AllPlannable serviceId (isBurst datagrams) {} datagrams engine → machine.engine.pathTransports.isEmpty = false →
        ∃ next, forwardDatagramsSummary os aead now name datagrams machine =
          (liftExcept (coalescePlannedFrames serviceId
              (planIsolated serviceId (isBurst datagrams) {} datagrams engine)) >>=
            transmitPlannedFramesSummary os aead now service.config.name) { machine with engine := next }) := by
  have same : planDatagrams serviceId datagrams engine =
      planFrom serviceId (isBurst datagrams) {} datagrams engine := rfl
  by_cases all : AllPlannable serviceId (isBurst datagrams) {} datagrams engine
  · obtain ⟨next, ran⟩ := all.planFrom
    rw [same, ran]
    refine ⟨⟨fun _ => .inl all, fun _ => rfl⟩, ?_⟩
    rintro os aead now name machine service ready rfl
    exact ⟨fun other => absurd all other, fun _ transports => ⟨next, ready.sends transports (same.trans ran)⟩⟩
  · obtain ⟨error, next, ran⟩ := planFrom_of_not_all all
    rw [same, ran, ← planIsolated_eq_nil]
    refine ⟨⟨fun nothing => .inr nothing.symm, fun either => (either.resolve_left all).symm⟩, ?_⟩
    rintro os aead now name machine service ready rfl
    exact ⟨fun _ => ⟨error, _, ready.fails (same.trans ran), rfl⟩, fun other => absurd other all⟩

/-- A reply to a peer that has not been heard of on any path. -/
def strayReply : ReceivedDatagram := ⟨[1], .v4 4 1, some 9, 0⟩

theorem stray_reply_sends_nothing : ∃ error after,
    forwardDatagramsSummary .willing .transparent 0 "app" [sized 5, strayReply] twinMachine = .error error after ∧
      after.net = twinMachine.net := by
  refine (drain_isolated_iff.2 _ _ _ _ _ _ ⟨rfl, rfl, rfl⟩ (Eq.refl (300 : ServiceId))).1 fun all => ?_
  obtain ⟨next, ran⟩ := all.planFrom
  have failed : (outcome (planDatagrams 300 [sized 5, strayReply] twinMachine.engine)).isOk = false := by
    decide +kernel
  have planned : (outcome (planDatagrams 300 [sized 5, strayReply] twinMachine.engine)).isOk = true :=
    congrArg (fun result => (outcome result).isOk) ran
  rw [failed] at planned
  contradiction

/-- Alone, a datagram is planned and a packet leaves; with a reply behind it that cannot be planned, nothing is planned
and no packet leaves. -/
theorem stray_reply_stops_drain : Started .willing 0 (twinConfig narrowPath twinPath (by decide)) twinMachine ∧
    (planIsolated 300 true {} [sized 5, strayReply] twinMachine.engine).map (·.payload) =
      [(sized 5).payload, (sized 5).payload] ∧
    ((outcome (planDatagrams 300 [sized 5, strayReply] twinMachine.engine)).toOption.getD []).length = 0 ∧
    (Engine.run .willing .transparent [.forward 0 "app" [sized 5]] twinMachine).net.history.carried.length = 2 ∧
    (Engine.run .willing .transparent [.forward 0 "app" [sized 5, strayReply]]
      twinMachine).net.history.carried.length = 0 :=
  ⟨⟨Net.blank, rfl, rfl⟩, by decide +kernel, by decide +kernel, by decide +kernel, by decide +kernel⟩

end Drains

end Gatherlink.Engine
