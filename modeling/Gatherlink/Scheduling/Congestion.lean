import Gatherlink.Scheduling.Scoring

/-! Congestion fairness: the pacing budget inferred from path pressure, and the controller that
holds it steady from one compile to the next. -/

namespace Gatherlink.Scheduling
open Config Lib

def CONGESTION_MODERATE_LOSS_PPM : Nat := 20000
def CONGESTION_HIGH_LOSS_PPM : Nat := 80000
def CONGESTION_MODERATE_QUEUE_AGE_US : Nat := 25000
def CONGESTION_HIGH_QUEUE_AGE_US : Nat := 100000
def CONGESTION_MODERATE_QUEUE_PACKETS : Nat := 256
def CONGESTION_HIGH_QUEUE_PACKETS : Nat := 1024
def CONGESTION_MODERATE_SEND_FAILURES : Nat := 8
def CONGESTION_HIGH_SEND_FAILURES : Nat := 64

/-- Clean, moderate and high pressure. -/
abbrev CongestionPressureLevel := Fin 3

/-- The share of the capacity, in percent, left at a pressure level. -/
def congestionPolicyFactor : SchedulerCongestionPolicy → CongestionPressureLevel → Nat
  | .off => ![100, 100, 100]
  | .conservative => ![90, 75, 55]
  | .adaptive => ![100, 85, 65]
  | .volatile => ![85, 70, 50]

inductive CongestionReason where
  | clean
  | disabled
  | moderatePressure
  | highPressure
  | awaitingPressureConfirmation
  | heldForRecoveryHysteresis
  deriving DecidableEq, Repr

structure CongestionFairnessDecision where
  pressureLevel : CongestionPressureLevel
  pacingBudgetBps : Nat
  reason : CongestionReason
  deriving DecidableEq, Repr

structure CongestionFairnessPathState where
  pressureLevel : CongestionPressureLevel := 0
  pacingBudgetBps : Nat := 0
  reason : CongestionReason := .clean
  pressureWindows : Nat := 0
  recoveryWindows : Nat := 0
  deriving DecidableEq, Repr

structure CongestionFairnessController where
  pressureWindowsRequired : Nat := 1
  recoveryWindowsRequired : Nat := 3
  paths : Dict String CongestionFairnessPathState := .empty

namespace CongestionFairnessPathState

def remember (state : CongestionFairnessPathState) (decision : CongestionFairnessDecision) :
    CongestionFairnessPathState :=
  { state with
    pressureLevel := decision.pressureLevel
    pacingBudgetBps := decision.pacingBudgetBps
    reason := decision.reason }

/-- The decision in force, reported under another reason. -/
def held (state : CongestionFairnessPathState) (reason : CongestionReason) : CongestionFairnessDecision :=
  ⟨state.pressureLevel, state.pacingBudgetBps, reason⟩

/-- Rising pressure is taken over once confirmed; falling pressure only after enough cleaner windows. -/
def stabilize (pressureWindowsRequired recoveryWindowsRequired : Nat) (state : CongestionFairnessPathState)
    (decision : CongestionFairnessDecision) : CongestionFairnessDecision × CongestionFairnessPathState :=
  if decision.pressureLevel > state.pressureLevel then
    let state := { state with recoveryWindows := 0, pressureWindows := state.pressureWindows + 1 }
    if state.pressureWindows ≥ max 1 pressureWindowsRequired then (decision, state.remember decision)
    else (state.held .awaitingPressureConfirmation, state)
  else if decision.pressureLevel = state.pressureLevel then
    let state := { state with pressureWindows := max state.pressureWindows pressureWindowsRequired }
    let state := { state with
      recoveryWindows := if decision.pressureLevel > 0 then 0 else state.recoveryWindows + 1 }
    (decision, state.remember decision)
  else
    let state := { state with pressureWindows := 0, recoveryWindows := state.recoveryWindows + 1 }
    if state.recoveryWindows < max 1 recoveryWindowsRequired then (state.held .heldForRecoveryHysteresis, state)
    else (decision, state.remember decision)

end CongestionFairnessPathState

def CongestionFairnessController.stabilize (controller : CongestionFairnessController) (pathName : String)
    (decision : CongestionFairnessDecision) : CongestionFairnessDecision × CongestionFairnessController :=
  let state := (controller.paths.get? pathName).getD {}
  let (stable, state) := state.stabilize controller.pressureWindowsRequired controller.recoveryWindowsRequired decision
  (stable, { controller with paths := controller.paths.set pathName state })

def congestionPressureLevel (metrics : PathSchedulerMetrics) : CongestionPressureLevel :=
  if metrics.lossPpm ≥ CONGESTION_HIGH_LOSS_PPM ∨ metrics.queueOldestAgeUs ≥ CONGESTION_HIGH_QUEUE_AGE_US ∨
      metrics.queueDepthPackets ≥ CONGESTION_HIGH_QUEUE_PACKETS ∨
      metrics.sendFailures ≥ CONGESTION_HIGH_SEND_FAILURES ∨ metrics.localDrops > 0 then 2
  else if metrics.lossPpm ≥ CONGESTION_MODERATE_LOSS_PPM ∨
      metrics.queueOldestAgeUs ≥ CONGESTION_MODERATE_QUEUE_AGE_US ∨
      metrics.queueDepthPackets ≥ CONGESTION_MODERATE_QUEUE_PACKETS ∨
      metrics.sendFailures ≥ CONGESTION_MODERATE_SEND_FAILURES then 1
  else 0

def compileCongestionFairness (metrics : PathSchedulerMetrics) (policy : SchedulerCongestionPolicy)
    (capacityBps : Option Int) : CongestionFairnessDecision :=
  match policy, capacityBps with
  | .off, _ => ⟨0, 0, .disabled⟩
  | _, none => ⟨0, 0, .disabled⟩
  | policy, some capacityBps =>
      if capacityBps ≤ 0 then ⟨0, 0, .disabled⟩
      else
        let pressureLevel := congestionPressureLevel metrics
        if pressureLevel = 0 then ⟨0, 0, .clean⟩
        else
          ⟨pressureLevel, max 1 (capacityBps.toNat * congestionPolicyFactor policy pressureLevel / 100),
            if pressureLevel = 2 then .highPressure else .moderatePressure⟩

section Recovery

namespace CongestionFairnessController

variable (controller : CongestionFairnessController) (path : String)

/-- The controller after the decisions for one path, newest first. -/
def after : List CongestionFairnessDecision → CongestionFairnessController
  | [] => { controller with paths := .empty }
  | decision :: earlier => ((after earlier).stabilize path decision).2

/-- What the controller holds about the path. -/
def stateAfter (history : List CongestionFairnessDecision) : CongestionFairnessPathState :=
  ((controller.after path history).paths.get? path).getD {}

def levelAfter (history : List CongestionFairnessDecision) : Nat := (controller.stateAfter path history).pressureLevel

end CongestionFairnessController

/-- The newest `windows` decisions are all below the level. -/
def AllBelow (windows : Nat) (history : List CongestionFairnessDecision) (level : Nat) : Prop :=
  windows ≤ history.length ∧ ∀ decision ∈ history.take windows, decision.pressureLevel < level

variable {controller : CongestionFairnessController} {path : String}
  {history earlier : List CongestionFairnessDecision} {decision : CongestionFairnessDecision}

variable {level : Nat}

theorem AllBelow.mono {few many : Nat} (le : few ≤ many)
    (below : AllBelow many history level) : AllBelow few history level :=
  ⟨le.trans below.1, fun decision member => below.2 decision (List.take_subset_take_left _ le member)⟩

theorem AllBelow.cons {windows : Nat} (less : decision.pressureLevel < level)
    (below : AllBelow windows history level) : AllBelow (windows + 1) (decision :: history) level := by
  refine ⟨Nat.succ_le_succ below.1, ?_⟩
  exact List.forall_mem_cons.mpr ⟨less, below.2⟩

theorem after_windows (history : List CongestionFairnessDecision) :
    (controller.after path history).pressureWindowsRequired = controller.pressureWindowsRequired ∧
      (controller.after path history).recoveryWindowsRequired = controller.recoveryWindowsRequired := by
  induction history with
  | nil => exact ⟨rfl, rfl⟩
  | cons decision earlier ih => exact ih

theorem stateAfter_cons :
    controller.stateAfter path (decision :: earlier) = ((controller.stateAfter path earlier).stabilize
      controller.pressureWindowsRequired controller.recoveryWindowsRequired decision).2 := by
  obtain ⟨pressure, recovery⟩ := @after_windows controller path earlier
  rw [← pressure, ← recovery, CongestionFairnessController.stateAfter, CongestionFairnessController.after,
    CongestionFairnessController.stabilize, Dict.get?_set_self]
  rfl

theorem levelAfter_cases (controller : CongestionFairnessController) (path : String)
    (decision : CongestionFairnessDecision) (earlier : List CongestionFairnessDecision) :
    let level := controller.levelAfter path earlier
    let next := controller.levelAfter path (decision :: earlier)
    let windows := (controller.stateAfter path (decision :: earlier)).recoveryWindows
    level < decision.pressureLevel ∧ level ≤ next ∧ windows = 0 ∨
      decision.pressureLevel = level ∧ next = level ∧ (0 < level → windows = 0) ∨
      decision.pressureLevel < level ∧ windows = (controller.stateAfter path earlier).recoveryWindows + 1 ∧
        (windows < max 1 controller.recoveryWindowsRequired ∧ next = level ∨
          max 1 controller.recoveryWindowsRequired ≤ windows ∧ next = decision.pressureLevel) := by
  simp only [CongestionFairnessController.levelAfter, stateAfter_cons, CongestionFairnessPathState.stabilize]
  rcases lt_trichotomy (controller.stateAfter path earlier).pressureLevel decision.pressureLevel with less | same | more
  · rw [if_pos less]
    refine Or.inl ⟨less, ?_⟩
    split
    · exact ⟨Fin.le_def.mp less.le, rfl⟩
    · exact ⟨le_rfl, rfl⟩
  · rw [if_neg same.not_lt, if_pos same.symm]
    exact Or.inr (Or.inl ⟨congrArg Fin.val same.symm, congrArg Fin.val same.symm, fun some =>
      if_pos (Fin.lt_def.mpr (same ▸ some))⟩)
  · rw [if_neg more.not_gt, if_neg more.ne]
    refine Or.inr (Or.inr ⟨more, ?_⟩)
    split
    · exact ⟨rfl, Or.inl ⟨by assumption, rfl⟩⟩
    · exact ⟨rfl, Or.inr ⟨Nat.le_of_not_lt (by assumption), rfl⟩⟩

theorem levelAfter_le (history : List CongestionFairnessDecision) : controller.levelAfter path history ≤ 2 :=
  Nat.le_of_lt_succ (controller.stateAfter path history).pressureLevel.isLt

/-- The counter stands for decisions below the level, or it is left over from the fall to the moderate level that the
newest decision made. -/
theorem recoveryWindows_counted (history : List CongestionFairnessDecision) :
    0 < controller.levelAfter path history →
      AllBelow (controller.stateAfter path history).recoveryWindows history (controller.levelAfter path history) ∨
      max 1 controller.recoveryWindowsRequired ≤ (controller.stateAfter path history).recoveryWindows ∧
        ∃ decision earlier, history = decision :: earlier ∧ controller.levelAfter path earlier = 2 ∧
          controller.levelAfter path history = 1 := by
  induction history with
  | nil => exact fun some => absurd some (Nat.lt_irrefl 0)
  | cons decision earlier ih =>
    intro some
    have none {level : Nat} : AllBelow 0 (decision :: earlier) level := ⟨Nat.zero_le _, by simp⟩
    rcases levelAfter_cases controller path decision earlier with
      ⟨_, _, reset⟩ | ⟨_, kept, reset⟩ | ⟨less, counted, ⟨few, kept⟩ | ⟨enough, fell⟩⟩
    · exact Or.inl (reset ▸ none)
    · exact Or.inl (reset (kept ▸ some) ▸ none)
    · rw [kept] at some ⊢
      rcases ih some with below | ⟨enough, _⟩
      · exact Or.inl (counted ▸ below.cons less)
      · omega
    · have high := @levelAfter_le controller path earlier
      exact Or.inr ⟨enough, decision, earlier, rfl, by omega, by omega⟩

/-- The level falls only on as many cleaner decisions as are required, unless a clean decision comes right after the one
that lowered the level to moderate: the counter still stands at what that fall took. -/
theorem level_falls_on_evidence_iff (controller : CongestionFairnessController) (path : String)
    (history : List CongestionFairnessDecision) :
    (∀ decision earlier, decision :: earlier <:+ history →
        controller.levelAfter path (decision :: earlier) < controller.levelAfter path earlier →
        AllBelow controller.recoveryWindowsRequired (decision :: earlier) (controller.levelAfter path earlier)) ↔
      controller.recoveryWindowsRequired ≤ 1 ∨ ∀ clean moderate earlier, clean :: moderate :: earlier <:+ history →
        controller.levelAfter path earlier = 2 → controller.levelAfter path (moderate :: earlier) = 1 →
        clean.pressureLevel ≠ 0 := by
  constructor
  · intro evident
    refine or_iff_not_imp_left.mpr fun several clean moderate earlier part high fell none => ?_
    have first := levelAfter_cases controller path moderate earlier
    have second := levelAfter_cases controller path clean (moderate :: earlier)
    rw [none, Fin.val_zero] at second
    have below := (evident clean (moderate :: earlier) part (by omega)).2 moderate
    obtain ⟨more, windows⟩ : ∃ more, controller.recoveryWindowsRequired = more + 2 :=
      Nat.exists_eq_add_of_le' (Nat.lt_of_not_le several)
    rw [windows] at below
    have less := below (by simp)
    omega
  · intro fine decision earlier part fell
    have step := levelAfter_cases controller path decision earlier
    rcases recoveryWindows_counted earlier (Nat.zero_lt_of_lt fell) with below | ⟨_, moderate, before, rfl, high, one⟩
    · exact (below.cons (by omega)).mono (by omega)
    · rcases fine with single | spaced
      · have here : AllBelow 1 (decision :: moderate :: before) (controller.levelAfter path (moderate :: before)) :=
          ⟨by simp, by simp; omega⟩
        exact here.mono single
      · refine absurd (Fin.ext ?_) (spaced decision moderate before part high one)
        rw [Fin.val_zero]
        omega

def pressureDecision (level : CongestionPressureLevel) : CongestionFairnessDecision := ⟨level, 0, .clean⟩

/-- Three moderate decisions lower the level from high, and the first clean one ends the limit. -/
theorem clean_after_fall_not_confirmed :
    let history := [0, 1, 1, 1, 2].map pressureDecision
    let controller : CongestionFairnessController := {}
    controller.levelAfter "lte" history = 0 ∧ controller.levelAfter "lte" history.tail = 1 ∧
      ¬AllBelow controller.recoveryWindowsRequired history (controller.levelAfter "lte" history.tail) := by
  refine ⟨by decide, by decide, fun below => ?_⟩
  exact absurd (below.2 (pressureDecision 1) (by simp)) (by decide)

end Recovery

end Gatherlink.Scheduling
