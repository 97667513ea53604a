import Gatherlink.Engine.FanoutDelivery
import Gatherlink.Engine.Quiet

/-! A datagram that a service copies to several paths, planned alone and planned inside a burst. A burst may
keep a datagram on the path of the one before it without asking the service scheduler. -/

namespace Gatherlink.Engine
open Protocol Dataplane Lib.Lookup Lib.Exec

/-- The paths of the copies that planning produced, none if it failed. -/
def plannedPaths (result : Except DataplaneError (List PlannedDatagram)) : List CorePathConfig :=
  (result.toOption.getD []).map (·.path)

/-- Planning the first datagrams of a list, with the burst state to go on with. -/
def planFirst (serviceId : ServiceId) (burst : Bool) :
    BurstRun → List ReceivedDatagram → PlanM (List PlannedDatagram × BurstRun)
  | run, [] => pure ([], run)
  | run, datagram :: rest => do
      let (planned, run) ← planDatagram serviceId burst run datagram
      let (later, run) ← planFirst serviceId burst run rest
      pure (planned ++ later, run)

section Selected

variable {serviceId : ServiceId} {burst : Bool} {run : BurstRun} {datagram : ReceivedDatagram} {engine : CoreDataplane}

def CoreDataplane.numbered (engine : CoreDataplane) (peerScope : Option UInt32) : CoreDataplane :=
  finalState (nextSequenceFor peerScope engine)

theorem planDatagram_paths :
    plannedPaths (outcome ((Prod.fst <$> planDatagram serviceId burst run datagram) engine)) =
      ((outcome (selectDatagramPaths serviceId burst run datagram (engine.numbered datagram.peerScope))).toOption.map
        Prod.fst).getD [] := by
  have numbers : ∃ sequence, nextSequenceFor datagram.peerScope engine =
      .ok sequence (engine.numbered datagram.peerScope) := ⟨_, rfl⟩
  obtain ⟨sequence, numbers⟩ := numbers
  rw [map_eq_pure_bind, planDatagram, bind_assoc, bind_ok numbers, bind_assoc]
  cases chosen : selectDatagramPaths serviceId burst run datagram (engine.numbered datagram.peerScope) with
  | error error next => rw [bind_error chosen]; rfl
  | ok selected next =>
    rw [bind_ok chosen]
    obtain ⟨paths, later⟩ := selected
    have assigned : ∃ fragment after, assignDatagramId paths datagram.payload.length next = .ok fragment after := by
      unfold assignDatagramId
      split
      · exact ⟨_, _, rfl⟩
      · exact ⟨_, _, rfl⟩
    obtain ⟨fragment, after, assigned⟩ := assigned
    rw [bind_assoc, bind_ok assigned]
    change ((paths.map _).map _) = paths
    rw [List.map_map]
    exact List.map_id paths

/-- What planning leaves alone and fanout looks at. -/
def CoreDataplane.fanoutView (engine : CoreDataplane) :
    List CorePathConfig × HashMap ServiceId ServiceSchedulerConfig :=
  (engine.paths, engine.serviceSchedulers)

theorem fanoutView_unplanned : Unplanned CoreDataplane.fanoutView :=
  ⟨⟨fun _ _ => rfl, fun _ _ => rfl, fun _ _ => rfl, fun _ _ => rfl⟩, fun _ _ => rfl⟩

theorem planFirst_same {τ : Type} {view : CoreDataplane → τ} (unplanned : Unplanned view)
    (datagrams : List ReceivedDatagram) : Moves (Same view) (planFirst serviceId burst run datagrams) := by
  induction datagrams generalizing run with
  | nil => exact Moves.pure _
  | cons datagram rest ih =>
    exact Moves.bind (planDatagram_same unplanned) fun _ => Moves.bind ih fun _ => Moves.pure _

/-- The paths that the service scheduler copies a payload of this length to. -/
def CoreDataplane.copyPaths (engine : CoreDataplane) (serviceId : ServiceId) (payloadLen : Nat) :
    List CorePathConfig :=
  engine.fanoutPaths payloadLen (engine.serviceScheduler serviceId)
    ((engine.serviceScheduler serviceId).effectiveFanout payloadLen)

theorem copyPaths_same {later : CoreDataplane} (same : Same CoreDataplane.fanoutView engine later) (payloadLen : Nat) :
    later.copyPaths serviceId payloadLen = engine.copyPaths serviceId payloadLen ∧
      later.serviceScheduler serviceId = engine.serviceScheduler serviceId := by
  have paths : later.paths = engine.paths := congrArg Prod.fst same
  have schedulers : later.serviceSchedulers = engine.serviceSchedulers := congrArg Prod.snd same
  have scheduler : later.serviceScheduler serviceId = engine.serviceScheduler serviceId := by
    rw [CoreDataplane.serviceScheduler, schedulers, CoreDataplane.serviceScheduler]
  refine ⟨?_, scheduler⟩
  rw [CoreDataplane.copyPaths, scheduler, CoreDataplane.fanoutPaths, paths]
  rfl

variable {payloadLen : Nat} {source : SocketAddr}

/-- A scheduler that fans out answers with its copy paths, whatever was planned before. -/
theorem selectServicePaths_fanned {now : Nat}
    (fanned : (engine.serviceScheduler serviceId).effectiveFanout payloadLen ≠ 1) :
    outcome (selectServicePaths now serviceId payloadLen source engine) =
      if engine.copyPaths serviceId payloadLen = [] then .error .noPathAvailable
      else .ok (engine.copyPaths serviceId payloadLen) := by
  rw [selectServicePaths, bind_reads]
  simp only [if_neg fanned]
  change outcome (requirePaths (engine.copyPaths serviceId payloadLen) engine) = _
  rw [requirePaths]
  by_cases none : engine.copyPaths serviceId payloadLen = []
  · rw [if_pos (List.isEmpty_iff.mpr none), if_pos none]
    rfl
  · rw [if_neg (by rwa [List.isEmpty_iff]), if_neg none]
    rfl

theorem selectServicePaths_copies {now : Nat}
    (fanout : (engine.serviceScheduler serviceId).effectiveFanout payloadLen ≠ 1) :
    (outcome (selectServicePaths now serviceId payloadLen source engine)).toOption.getD [] =
      engine.copyPaths serviceId payloadLen := by
  rw [selectServicePaths_fanned fanout]
  split
  · rename_i none
    exact none.symm
  · rfl

/-- The burst path may carry the next datagram: the core scheduler does not decide anew for every datagram, and the
datagram joins the frame being filled or the run on the path. -/
def BurstRun.Carries (run : BurstRun) (engine : CoreDataplane) (serviceId : ServiceId) (payloadLen : Nat)
    (path : CorePathConfig) : Prop :=
  let configured := (engine.serviceScheduler serviceId).pathRunDatagrams
  let maxRun := if configured = 0 then BURST_PATH_SEND_RUN_DATAGRAMS else max configured BURST_BATCH_MIN_DATAGRAMS
  run.path = some path ∧ engine.scheduler.requiresPerDatagramDecisions = false ∧
    (canExtendBatch path run.batchLen payloadLen = true ∨ engine.scheduler.allowsNoncoalescedBurstReuse = true ∧
      canReuseBurstPathWithoutCoalescing path payloadLen run.runLen maxRun = true)

theorem reusableBurstPath_eq_some {path : CorePathConfig} :
    engine.reusableBurstPath serviceId payloadLen run = some path ↔ run.Carries engine serviceId payloadLen path := by
  simp only [CoreDataplane.reusableBurstPath, BurstRun.Carries, Option.bind_eq_some_iff,
    Option.ite_none_right_eq_some, Bool.and_eq_true, Bool.or_eq_true, Bool.not_eq_true', Option.some.injEq]
  constructor
  · rintro ⟨held, present, able, rfl⟩
    exact ⟨present, able⟩
  · rintro ⟨present, able⟩
    exact ⟨path, present, able, rfl⟩

/-- Selection that succeeds or fails with the copy paths does so behind a continuation that keeps them. -/
theorem outcome_fst {program : PlanM (List CorePathConfig)} (after : BurstRun) :
    ((outcome ((program >>= fun paths => pure (paths, after) : PlanM (List CorePathConfig × BurstRun))
      engine)).toOption.map
      Prod.fst).getD [] = (outcome (program engine)).toOption.getD [] := by
  cases ran : program engine with
  | ok paths next =>
    rw [bind_ok ran]
    rfl
  | error error next =>
    rw [bind_error ran]
    rfl

theorem numbered_same (engine : CoreDataplane) (peerScope : Option UInt32) :
    Same CoreDataplane.fanoutView engine (engine.numbered peerScope) := rfl

theorem selectServicePaths_numbered {now : Nat}
    (fanout : (engine.serviceScheduler serviceId).effectiveFanout payloadLen ≠ 1) :
    (outcome (selectServicePaths now serviceId payloadLen source (engine.numbered none))).toOption.getD [] =
      engine.copyPaths serviceId payloadLen := by
  obtain ⟨copies, scheduler⟩ := copyPaths_same (numbered_same engine none) payloadLen
  rw [← scheduler] at fanout
  rw [selectServicePaths_copies fanout, copies]

theorem planDatagrams_single :
    planDatagrams serviceId [datagram] = Prod.fst <$> planDatagram serviceId false {} datagram := by
  have few : decide ([datagram].length ≥ BURST_BATCH_MIN_DATAGRAMS) = false := rfl
  rw [planDatagrams, few, planFrom, map_eq_pure_bind]
  simp [planFrom]

theorem alone_paths (unscoped : datagram.peerScope = none)
    (fanout : (engine.serviceScheduler serviceId).effectiveFanout datagram.payload.length ≠ 1) :
    plannedPaths (outcome (planDatagrams serviceId [datagram] engine)) =
      engine.copyPaths serviceId datagram.payload.length := by
  rw [planDatagrams_single, planDatagram_paths, selectDatagramPaths, unscoped]
  simp only [Bool.false_eq_true, if_false]
  rw [outcome_fst]
  exact selectServicePaths_numbered fanout

theorem reusableBurstPath_numbered {scope : Option UInt32} :
    (engine.numbered scope).reusableBurstPath serviceId payloadLen run =
      engine.reusableBurstPath serviceId payloadLen run := rfl

/-- In a burst, it goes to the burst path if that may carry it and to the copy paths otherwise. -/
theorem burst_paths (unscoped : datagram.peerScope = none)
    (fanout : (engine.serviceScheduler serviceId).effectiveFanout datagram.payload.length ≠ 1) :
    plannedPaths (outcome ((Prod.fst <$> planDatagram serviceId true run datagram) engine)) =
      (engine.reusableBurstPath serviceId datagram.payload.length run).elim
        (engine.copyPaths serviceId datagram.payload.length) fun path => [path] := by
  rw [planDatagram_paths, selectDatagramPaths, unscoped]
  simp only [if_true]
  rw [selectServicePathsForBurstBatch, bind_reads, reusableBurstPath_numbered]
  cases engine.reusableBurstPath serviceId datagram.payload.length run with
  | some path => rfl
  | none =>
    simp only
    rw [outcome_fst]
    exact selectServicePaths_numbered fanout

/-- A datagram with fanout is planned on the same paths in a burst as alone exactly when the burst has no path that
may carry it, or only one that is all there is to copy it to. -/
theorem burst_fanout_iff {mid : CoreDataplane} {before : List ReceivedDatagram} {planned : List PlannedDatagram}
    (drained : planFirst serviceId true {} before engine = .ok (planned, run) mid)
    (unscoped : datagram.peerScope = none)
    (fanout : (engine.serviceScheduler serviceId).effectiveFanout datagram.payload.length ≠ 1) :
    (∀ path, path ∈ plannedPaths (outcome ((Prod.fst <$> planDatagram serviceId true run datagram) mid)) ↔
        path ∈ plannedPaths (outcome (planDatagrams serviceId [datagram] engine))) ↔
      ∀ path, run.Carries mid serviceId datagram.payload.length path →
        ∀ other, other ∈ engine.copyPaths serviceId datagram.payload.length ↔ other = path := by
  have same : Same CoreDataplane.fanoutView engine mid := by
    have moved : Same CoreDataplane.fanoutView engine (finalState (planFirst serviceId true {} before engine)) :=
      planFirst_same fanoutView_unplanned before engine
    rwa [drained] at moved
  obtain ⟨copies, scheduler⟩ := copyPaths_same same datagram.payload.length
  rw [alone_paths unscoped fanout, burst_paths unscoped (by rw [scheduler]; exact fanout), copies]
  cases reusable : mid.reusableBurstPath serviceId datagram.payload.length run with
  | none =>
    have idle : ∀ path, ¬run.Carries mid serviceId datagram.payload.length path := by
      intro path carries
      rw [reusableBurstPath_eq_some.mpr carries] at reusable
      cases reusable
    simp [idle]
  | some path =>
    have carries := reusableBurstPath_eq_some.mp reusable
    simp only [Option.elim_some, List.mem_singleton]
    constructor
    · intro alike held carried other
      have again := reusableBurstPath_eq_some.mpr carried
      rw [reusable, Option.some.injEq] at again
      rw [← again]
      exact (alike other).symm
    · intro only other
      exact (only path carries other).symm

end Selected

section Bypass

/-- Two paths, and copies to both of them for datagrams of at most five bytes. -/
def copyingMachine : Machine :=
  run .willing .transparent
    [.setServiceScheduler 300 { ServiceSchedulerConfig.normal with fanout := 2, fanoutBelowBytes := 5 }] twinMachine

def sized (length : Nat) : ReceivedDatagram := ⟨.replicate length 1, .v4 4 1, none, 0⟩

/-- Behind another datagram that was copied, nothing is reused. -/
theorem burst_fanout_after_copies : ∃ planned run mid,
    planFirst 300 true {} [sized 3] copyingMachine.engine = .ok (planned, run) mid ∧
      ∀ path, path ∈ plannedPaths (outcome ((Prod.fst <$> planDatagram 300 true run (sized 4)) mid)) ↔
        path ∈ plannedPaths (outcome (planDatagrams 300 [sized 4] copyingMachine.engine)) := by
  obtain ⟨⟨planned, run⟩, mid, ran⟩ : ∃ value mid,
      planFirst 300 true {} [sized 3] copyingMachine.engine = .ok value mid := ⟨_, _, rfl⟩
  have idle : (outcome (planFirst 300 true {} [sized 3] copyingMachine.engine)).toOption.map (·.2) = some {} := by
    decide
  rw [ran] at idle
  have ended : run = {} := Option.some.inj idle
  refine ⟨planned, run, mid, ran, (burst_fanout_iff ran rfl (by decide)).mpr ?_⟩
  rintro path ⟨held, -⟩
  rw [ended] at held
  cases held

/-- Alone, four bytes are copied to both paths; behind ten bytes they follow those on their one path. -/
theorem burst_bypasses_fanout : Started .willing 0 (twinConfig narrowPath twinPath (by decide)) twinMachine ∧
    (copyingMachine.engine.serviceScheduler 300).effectiveFanout 4 = 2 ∧
    plannedPaths (outcome (planDatagrams 300 [sized 4] copyingMachine.engine)) = [narrowPath, twinPath] ∧
    plannedPaths (outcome (planDatagrams 300 [sized 10, sized 4] copyingMachine.engine)) = [narrowPath, narrowPath] :=
  ⟨⟨Net.blank, rfl, rfl⟩, by decide, by decide, by decide⟩

end Bypass

end Gatherlink.Engine
