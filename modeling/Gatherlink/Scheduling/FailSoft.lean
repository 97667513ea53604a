import Gatherlink.Scheduling.Compiler

/-! Which of the guards can leave no path in normal use. The guards that rank the active paths keep
one of them; those that compare a path with a limit may drain the last one. -/

namespace Gatherlink.Scheduling
open Config Lib

/-- A path the dataplane uses for ordinary packets. -/
def Active (path : RuntimePathSchedulerConfig) : Prop := path.enabled = true ∧ path.state = .active

def AnyActive (paths : List RuntimePathSchedulerConfig) : Prop := ∃ path ∈ paths, Active path

instance (path : RuntimePathSchedulerConfig) : Decidable (Active path) := inferInstanceAs (Decidable (_ ∧ _))

instance (paths : List RuntimePathSchedulerConfig) : Decidable (AnyActive paths) :=
  inferInstanceAs (Decidable (∃ path ∈ paths, Active path))

theorem not_active_drain {path : RuntimePathSchedulerConfig} {weight : Nat} : ¬Active (drain path weight) := by
  simp [Active, drain]

section OneKept

variable {paths : List RuntimePathSchedulerConfig} {entry : RuntimePathSchedulerConfig × Nat}
  {chosen : RuntimePathSchedulerConfig → Nat → Bool}

theorem mem_activePaths :
    entry ∈ activePaths paths ↔ paths[entry.2]? = some entry.1 ∧ Active entry.1 := by
  simp [activePaths, Active, List.mem_zipIdx_iff_getElem?]

theorem anyActive_iff (paths : List RuntimePathSchedulerConfig) : AnyActive paths ↔ activePaths paths ≠ [] := by
  constructor
  · rintro ⟨path, member, active⟩ none
    obtain ⟨index, found⟩ := List.mem_iff_getElem?.mp member
    have here : (path, index) ∈ activePaths paths := mem_activePaths.mpr ⟨found, active⟩
    rw [none] at here
    exact List.not_mem_nil here
  · intro some
    obtain ⟨entry, here⟩ := List.exists_mem_of_ne_nil _ some
    obtain ⟨found, active⟩ := mem_activePaths.mp here
    exact ⟨entry.1, List.mem_of_getElem? found, active⟩

theorem anyActive_drainAt (kept : entry ∈ activePaths paths) (spared : chosen entry.1 entry.2 = false) :
    AnyActive (drainAt paths chosen) := by
  obtain ⟨found, active⟩ := mem_activePaths.mp kept
  refine ⟨entry.1, List.mem_map.mpr ⟨entry, List.mem_zipIdx_iff_getElem?.mpr found, ?_⟩, active⟩
  rw [spared]
  rfl

theorem anyActive_of_drainAt (some : AnyActive (drainAt paths chosen)) :
    AnyActive paths := by
  obtain ⟨path, member, active⟩ := some
  obtain ⟨entry, listed, rfl⟩ := List.mem_map.mp member
  by_cases taken : chosen entry.1 entry.2 = true
  · rw [if_pos taken] at active
    exact absurd active not_active_drain
  · rw [if_neg taken] at active
    exact ⟨entry.1, List.mem_of_getElem? (List.mem_zipIdx_iff_getElem?.mp listed), active⟩

theorem anyActive_applyOrderedArrivalGuard (paths : List RuntimePathSchedulerConfig) :
    AnyActive (applyOrderedArrivalGuard paths) ↔ AnyActive paths := by
  simp only [applyOrderedArrivalGuard]
  split
  · exact Iff.rfl
  · split
    · exact Iff.rfl
    next fastestIndex fastestPath fastestArrivalUs found =>
      constructor
      · exact anyActive_of_drainAt
      · intro _
        -- The fastest path itself stays.
        have listed := List.argmin_mem found
        obtain ⟨entry, active, same⟩ := List.mem_filterMap.mp listed
        obtain ⟨prediction, _, same⟩ := Option.map_eq_some_iff.mp same
        obtain ⟨rfl, rfl, rfl⟩ := same
        exact anyActive_drainAt active (by simp)

theorem anyActive_applySingleBestPath (paths : List RuntimePathSchedulerConfig) :
    AnyActive (applySingleBestPath paths) ↔ AnyActive paths := by
  simp only [applySingleBestPath]
  split
  · exact Iff.rfl
  · split
    · exact Iff.rfl
    next best found =>
      constructor
      · exact anyActive_of_drainAt
      · intro _
        exact anyActive_drainAt (List.argmin_mem found) (by simp)

theorem activePaths_unique {one two : RuntimePathSchedulerConfig × Nat}
    (first : one ∈ activePaths paths) (second : two ∈ activePaths paths) (same : one.2 = two.2) : one = two := by
  have found := (mem_activePaths.mp first).1
  rw [same, (mem_activePaths.mp second).1] at found
  exact Prod.ext (Option.some.inj found).symm same

theorem anyActive_applyOrderedReceiverFeedbackGuard (paths : List RuntimePathSchedulerConfig)
    (config : GatherlinkConfig) (telemetry : SchedulerTelemetrySnapshot) :
    AnyActive (applyOrderedReceiverFeedbackGuard paths config telemetry) ↔ AnyActive paths := by
  simp only [applyOrderedReceiverFeedbackGuard]
  generalize severity : (fun entry : RuntimePathSchedulerConfig × Nat =>
    ((config.paths[entry.2]?).bind fun configuredPath => telemetry.paths.get? configuredPath.name).any
      (orderedReceiverPressureIsSevere entry.1)) = isSevere
  split
  · exact Iff.rfl
  next several =>
    split
    · exact Iff.rfl
    · constructor
      · exact anyActive_of_drainAt
      · intro some
        by_cases every : (activePaths paths).filter isSevere = activePaths paths
        · -- Every active path is under pressure: the least bad one is spared.
          rw [if_pos every]
          generalize (fun entry : RuntimePathSchedulerConfig × Nat => rank _ 0 entry.2) = score
          cases found : (activePaths paths).argmin score with
          | none => exact absurd (List.argmin_eq_none.mp found) ((anyActive_iff paths).mp some)
          | some kept => exact anyActive_drainAt (List.argmin_mem found) (by simp)
        · obtain ⟨entry, active, calm⟩ : ∃ entry ∈ activePaths paths, isSevere entry = false := by
            by_contra none
            apply every
            rw [List.filter_eq_self]
            intro entry active
            by_contra calm
            exact none ⟨entry, active, by simpa using calm⟩
          refine anyActive_drainAt active ?_
          have spared : entry.2 ∉ ((activePaths paths).filter isSevere).map Prod.snd := by
            intro member
            obtain ⟨other, severe, same⟩ := List.mem_map.mp member
            obtain ⟨listed, pressed⟩ := List.mem_filter.mp severe
            rw [activePaths_unique listed active same, calm] at pressed
            exact Bool.false_ne_true pressed
          simp [spared]

end OneKept

section Limits

/-- At least as good, by the margin a guard allows, as every enabled path with a known value. -/
def NotSlower (value : RuntimePathSchedulerConfig → Option Int) (allowed : RuntimePathSchedulerConfig → Int → Int)
    (paths : List RuntimePathSchedulerConfig) (path : RuntimePathSchedulerConfig) : Prop :=
  ∀ other ∈ paths, other.enabled = true → ∀ fastest ∈ value other, ∀ own ∈ value path, own ≤ allowed path fastest

theorem le_fastestKnown_iff {known : List Int} {own : Int} {allowed : Int → Int} (mono : Monotone allowed)
    (generous : own ≤ allowed own) (member : own ∈ known) :
    (∀ fastest, fastestKnown known = some fastest → own ≤ allowed fastest) ↔ ∀ other ∈ known, own ≤ allowed other := by
  unfold fastestKnown
  split
  next few =>
    constructor
    · intro _ other listed
      obtain ⟨only, rfl⟩ : ∃ only, known = [only] := by
        rw [← List.length_eq_one_iff]
        have := List.length_pos_of_mem member
        omega
      rw [List.mem_singleton] at member listed
      rw [listed, ← member]
      exact generous
    · intro _ fastest absent
      exact absurd absent (by simp)
  · constructor
    · intro within other listed
      have some : known.min?.isSome := List.isSome_min?_of_mem listed
      obtain ⟨fastest, found⟩ := Option.isSome_iff_exists.mp some
      exact (within fastest found).trans (mono ((List.min?_eq_some_iff.mp found).2 other listed))
    · intro within fastest found
      exact within fastest (List.min?_mem found)

variable {value : RuntimePathSchedulerConfig → Option Int} {allowed : RuntimePathSchedulerConfig → Int → Int}
  {demote : RuntimePathSchedulerConfig → RuntimePathSchedulerConfig}

theorem anyActive_demoteSlower (mono : ∀ path, Monotone (allowed path)) (generous : ∀ path own, own ≤ allowed path own)
    (demoted : ∀ path, ¬Active (demote path)) (paths : List RuntimePathSchedulerConfig) :
    AnyActive (demoteSlower value allowed demote paths) ↔
      ∃ path ∈ paths, Active path ∧ NotSlower value allowed paths path := by
  have known (other : Int) : other ∈ (paths.filter (·.enabled)).filterMap value ↔
      ∃ path ∈ paths, path.enabled = true ∧ value path = some other := by
    simp [List.mem_filterMap, and_assoc]
  -- An active path is one of the enabled ones its own value is compared with.
  have within {path : RuntimePathSchedulerConfig} (member : path ∈ paths) (active : Active path) :
      (∀ fastest, fastestKnown ((paths.filter (·.enabled)).filterMap value) = some fastest →
        ∀ own ∈ value path, own ≤ allowed path fastest) ↔ NotSlower value allowed paths path := by
    constructor
    · intro bound other listed enabled fastest isFastest own isOwn
      have here := (known own).mpr ⟨path, member, active.1, isOwn⟩
      exact (le_fastestKnown_iff (mono path) (generous path own) here).mp
        (fun fastest found => bound fastest found own isOwn) fastest
          ((known fastest).mpr ⟨other, listed, enabled, isFastest⟩)
    · intro bound fastest found own isOwn
      have here := (known own).mpr ⟨path, member, active.1, isOwn⟩
      refine (le_fastestKnown_iff (mono path) (generous path own) here).mpr ?_ fastest found
      intro other listed
      obtain ⟨source, listed, enabled, isOther⟩ := (known other).mp listed
      exact bound source listed enabled other isOther own isOwn
  unfold demoteSlower
  cases found : fastestKnown ((paths.filter (·.enabled)).filterMap value) with
  | none =>
    constructor
    · rintro ⟨path, member, active⟩
      refine ⟨path, member, active, (within member active).mp ?_⟩
      intro fastest found'
      rw [found] at found'
      cases found'
    · rintro ⟨path, member, active, _⟩
      exact ⟨path, member, active⟩
  | some fastest =>
    rw [found] at within
    have fast (path : RuntimePathSchedulerConfig) :
        (value path).any (allowed path fastest < ·) = false ↔ ∀ own ∈ value path, own ≤ allowed path fastest := by
      cases value path with
      | none => simp
      | some own => simp
    constructor
    · rintro ⟨result, member, active⟩
      obtain ⟨path, listed, rfl⟩ := List.mem_map.mp member
      by_cases slower : (value path).any (allowed path fastest < ·) = true ∧ path.state = .active
      · rw [if_pos slower] at active
        exact absurd active (demoted path)
      · rw [if_neg slower] at active
        refine ⟨path, listed, active, (within listed active).mp ?_⟩
        intro fastest' same
        obtain rfl := Option.some.inj same
        apply (fast path).mp
        by_contra above
        exact slower ⟨by simpa using above, active.2⟩
    · rintro ⟨path, member, active, notSlower⟩
      refine ⟨path, List.mem_map.mpr ⟨path, member, ?_⟩, active⟩
      have below := (fast path).mpr ((within member active).mpr notSlower fastest rfl)
      rw [if_neg]
      rw [below]
      simp

theorem latencyLimitUs_mono : Monotone latencyLimitUs := by
  intro one two below
  simp only [latencyLimitUs, LATENCY_GUARD_MIN_MARGIN_US, LATENCY_GUARD_MARGIN_DIVISOR]
  omega

theorem anyActive_applyLatencyGuard (paths : List RuntimePathSchedulerConfig) :
    AnyActive (applyLatencyGuard paths) ↔
      ∃ path ∈ paths, Active path ∧ NotSlower (·.latencyUs) (fun _ => latencyLimitUs) paths path := by
  apply anyActive_demoteSlower
  · intro _
    exact latencyLimitUs_mono
  · intro _ own
    simp only [latencyLimitUs, LATENCY_GUARD_MIN_MARGIN_US]
    omega
  · intro path
    simp [Active]

theorem anyActive_applyArrivalGuard (paths : List RuntimePathSchedulerConfig) :
    AnyActive (applyArrivalGuard paths) ↔ ∃ path ∈ paths, Active path ∧
      NotSlower arrivalPredictionUs (fun path fastest => fastest + reorderBudgetUs path) paths path := by
  apply anyActive_demoteSlower
  · intro path one two below
    exact Int.add_le_add_right below _
  · intro path own
    exact le_add_of_nonneg_right (Int.natCast_nonneg _)
  · intro path
    exact not_active_drain

end Limits

section Telemetry

/-- What no guard changes: everything but the state, the weight and the pacing budget. -/
def facts (path : RuntimePathSchedulerConfig) : RuntimePathSchedulerConfig :=
  { path with state := .active, weight := 1, pacingBudgetBps := 0 }

/-- Control traffic has been silent on the path for long enough to score it as down. -/
def Down (telemetry : Option SchedulerTelemetrySnapshot) (name : String) : Prop :=
  ∃ metrics, telemetry.bind (·.paths.get? name) = some metrics ∧ STALE_CONTROL_DOWN_US ≤ metrics.staleControlAgeUs

/-- A path after pacing: the same facts in the same state. -/
def Paced (entry : RuntimePathSchedulerConfig × PathConfig) (result : RuntimePathSchedulerConfig) : Prop :=
  facts result = facts entry.1 ∧ result.state = entry.1.state

/-- A path after the guards of the telemetry: still active unless it is down. -/
def Guarded (telemetry : Option SchedulerTelemetrySnapshot) (entry : RuntimePathSchedulerConfig × PathConfig)
    (result : RuntimePathSchedulerConfig) : Prop :=
  facts result = facts entry.1 ∧ (Active result ↔ Active entry.1 ∧ ¬Down telemetry entry.2.name)

theorem enabled_of_facts {one two : RuntimePathSchedulerConfig} (same : facts one = facts two) :
    one.enabled = two.enabled :=
  congrArg (·.enabled) same

theorem pacePath_paced (policy : SchedulerCongestionPolicy) (telemetry : SchedulerTelemetrySnapshot)
    (path : RuntimePathSchedulerConfig) (configuredPath : PathConfig)
    (controller : Option CongestionFairnessController) :
    Paced (path, configuredPath) (pacePath policy telemetry path configuredPath controller).1 := by
  unfold pacePath
  split
  · exact ⟨rfl, rfl⟩
  · split
    · exact ⟨rfl, rfl⟩
    · dsimp only
      split <;> exact ⟨rfl, rfl⟩

theorem pacePaths_paced (policy : SchedulerCongestionPolicy) (telemetry : SchedulerTelemetrySnapshot)
    (entries : List (RuntimePathSchedulerConfig × PathConfig)) (controller : Option CongestionFairnessController) :
    List.Forall₂ Paced entries (pacePaths policy telemetry entries controller).1 := by
  induction entries generalizing controller with
  | nil => exact .nil
  | cons entry rest ih => exact .cons (pacePath_paced policy telemetry entry.1 entry.2 controller) (ih _)

variable {α β : Type} {left : List α} {right : List β} {paths : List RuntimePathSchedulerConfig}
  {config : GatherlinkConfig}

theorem forall₂_zip_left {R : α × β → α → Prop} (here : ∀ entry, R entry entry.1)
    (lengths : left.length = right.length) : List.Forall₂ R (left.zip right) left := by
  induction left generalizing right with
  | nil => exact .nil
  | cons first left ih =>
    cases right with
    | nil => simp at lengths
    | cons second right => exact .cons (here (first, second)) (ih (by simpa using lengths))

theorem forall₂_zip_map {γ δ : Type} {R : α × β → γ → Prop} {S : α × β → δ → Prop} {change : γ × β → δ}
    (step : ∀ entry result, R entry result → S entry (change (result, entry.2)))
    {results : List γ} (related : List.Forall₂ R (left.zip right) results) (lengths : left.length = right.length) :
    List.Forall₂ S (left.zip right) ((results.zip right).map change) := by
  induction left generalizing right results with
  | nil =>
    cases related
    exact .nil
  | cons first left ih =>
    cases right with
    | nil => simp at lengths
    | cons second right =>
      cases related with
      | cons head tail => exact .cons (step _ _ head) (ih tail (by simpa using lengths))

theorem applyCongestionFairness_paced
    (telemetry : SchedulerTelemetrySnapshot) (controller : Option CongestionFairnessController)
    (lengths : paths.length = config.paths.length) :
    List.Forall₂ Paced (paths.zip config.paths) (applyCongestionFairness paths config telemetry controller).1 := by
  unfold applyCongestionFairness
  split
  · exact forall₂_zip_left (fun _ => ⟨rfl, rfl⟩) lengths
  · exact pacePaths_paced ..

theorem scorePath_down (metrics : PathSchedulerMetrics) :
    (scorePath metrics).health = .down ↔ STALE_CONTROL_DOWN_US ≤ metrics.staleControlAgeUs := by
  change metrics.health = .down ↔ _
  unfold PathSchedulerMetrics.health
  split
  next stale => simp [stale]
  next fresh =>
    constructor
    · split <;> simp
    · intro stale
      exact absurd stale fresh

theorem guardHealth_guarded (mode : SchedulerPolicy) (telemetry : SchedulerTelemetrySnapshot)
    {entry : RuntimePathSchedulerConfig × PathConfig} {result : RuntimePathSchedulerConfig}
    (paced : Paced entry result) :
    Guarded (some telemetry) entry
      (guardHealth mode ((scoreSnapshot telemetry.paths).get? entry.2.name) result) := by
  obtain ⟨same, state⟩ := paced
  have active : Active result ↔ Active entry.1 := by rw [Active, Active, enabled_of_facts same, state]
  rw [get?_scoreSnapshot]
  unfold guardHealth Guarded Down
  rw [Option.bind_some]
  cases known : telemetry.paths.get? entry.2.name with
  | none => simpa using ⟨same, active⟩
  | some metrics =>
    simp only [Option.map_some, Option.some.injEq, exists_eq_left', ← scorePath_down]
    split
    next down => exact ⟨same, by simp [not_active_drain, down.1]⟩
    next kept =>
      have alive : Active entry.1 → (scorePath metrics).health ≠ .down := by
        intro isActive down
        exact kept ⟨down, (active.mpr isActive).2⟩
      split
      · refine ⟨same, ?_⟩
        change Active result ↔ _
        rw [active]
        exact ⟨fun isActive => ⟨isActive, alive isActive⟩, And.left⟩
      · refine ⟨same, ?_⟩
        rw [active]
        exact ⟨fun isActive => ⟨isActive, alive isActive⟩, And.left⟩

theorem applyTelemetryGuards_guarded (telemetry : Option SchedulerTelemetrySnapshot)
    (mode : SchedulerPolicy) (controller : Option CongestionFairnessController)
    (lengths : paths.length = config.paths.length) :
    List.Forall₂ (Guarded telemetry) (paths.zip config.paths)
      (applyTelemetryGuards config telemetry mode controller paths).1 := by
  cases telemetry with
  | none => exact forall₂_zip_left (fun _ => ⟨rfl, by simp [Down]⟩) lengths
  | some snapshot =>
    exact forall₂_zip_map (fun _ _ paced => guardHealth_guarded mode snapshot paced)
      (applyCongestionFairness_paced snapshot controller lengths) lengths

end Telemetry

section Compile

variable {config : GatherlinkConfig} {telemetry : Option SchedulerTelemetrySnapshot}
  {effectiveMode : Option SchedulerPolicy}

variable {policy : SchedulerPolicyBase} {compiled : List RuntimePathSchedulerConfig}

theorem compilePaths_eq (found : policyForMode (selectedMode config effectiveMode) = some policy) :
    compilePaths config telemetry effectiveMode = some (config.paths.zipIdx.map fun entry =>
      policy.compilePath ⟨entry.1, entry.2, telemetry.bind (·.paths.get? entry.1.name)⟩) := by
  unfold compilePaths compilePathScheduler compilePathPolicy
  rw [found]
  exact List.mapM_pure

theorem compileScheduler_eq (controller : Option CongestionFairnessController)
    (found : policyForMode (selectedMode config effectiveMode) = some policy)
    (compiles : compilePaths config telemetry effectiveMode = some compiled) :
    compileScheduler config telemetry effectiveMode controller =
      some (⟨policy.rustMode, applyModeGuards config telemetry (selectedMode config effectiveMode)
          (applyTelemetryGuards config telemetry (selectedMode config effectiveMode) controller compiled).1⟩,
        (applyTelemetryGuards config telemetry (selectedMode config effectiveMode) controller compiled).2) := by
  rw [compileScheduler, compiles, rustModeForPolicy, found]
  rfl

theorem policy_of_compilePaths
    (compiles : compilePaths config telemetry effectiveMode = some compiled) (some : AnyActive compiled) :
    ∃ policy, policyForMode (selectedMode config effectiveMode) = .some policy := by
  cases found : policyForMode (selectedMode config effectiveMode) with
  | some policy => exact ⟨policy, rfl⟩
  | none =>
    exfalso
    unfold compilePaths compilePathScheduler compilePathPolicy at compiles
    rw [found] at compiles
    cases entries : config.paths.zipIdx with
    | nil =>
      rw [entries, List.mapM_nil] at compiles
      cases compiles
      obtain ⟨_, absent, _⟩ := some
      cases absent
    | cons entry rest =>
      rw [entries, List.mapM_cons] at compiles
      cases compiles

/-- What the guards of a mode ask of a path that is to stay in use. -/
def InTime (mode : SchedulerPolicy) (paths : List RuntimePathSchedulerConfig) (path : RuntimePathSchedulerConfig) :
    Prop :=
  match mode with
  | .latencyGuardedCapacity => NotSlower (·.latencyUs) (fun _ => latencyLimitUs) paths path
  | .arrivalGuardedCapacity =>
      NotSlower arrivalPredictionUs (fun path fastest => fastest + reorderBudgetUs path) paths path
  | _ => True

theorem anyActive_ite {condition : Prop} [Decidable condition]
    {guard : List RuntimePathSchedulerConfig → List RuntimePathSchedulerConfig}
    (keeps : ∀ paths, AnyActive (guard paths) ↔ AnyActive paths) (paths : List RuntimePathSchedulerConfig) :
    AnyActive (if condition then guard paths else paths) ↔ AnyActive paths := by
  split
  · exact keeps paths
  · exact Iff.rfl

theorem anyActive_applyModeGuards (config : GatherlinkConfig) (telemetry : Option SchedulerTelemetrySnapshot)
    (mode : SchedulerPolicy) (paths : List RuntimePathSchedulerConfig) :
    AnyActive (applyModeGuards config telemetry mode paths) ↔
      ∃ path ∈ paths, Active path ∧ InTime mode paths path := by
  simp only [applyModeGuards]
  rw [anyActive_ite anyActive_applySingleBestPath]
  have ranked (paths : List RuntimePathSchedulerConfig) :
      AnyActive (telemetry.elim paths fun snapshot =>
        if mode = .orderedMultipath ∨ mode = .orderedMultipathCapacityAware then
          applyOrderedReceiverFeedbackGuard paths config snapshot
        else paths) ↔ AnyActive paths := by
    cases telemetry with
    | none => exact Iff.rfl
    | some snapshot =>
      exact anyActive_ite (fun paths => anyActive_applyOrderedReceiverFeedbackGuard paths config snapshot) paths
  rw [ranked, anyActive_ite anyActive_applyOrderedArrivalGuard]
  by_cases latency : mode = .latencyGuardedCapacity
  · subst latency
    exact anyActive_applyLatencyGuard paths
  · rw [if_neg latency]
    by_cases arrival : mode = .arrivalGuardedCapacity
    · subst arrival
      exact anyActive_applyArrivalGuard paths
    · rw [if_neg arrival]
      have always (path : RuntimePathSchedulerConfig) : InTime mode paths path := by
        unfold InTime
        split
        · exact absurd rfl latency
        · exact absurd rfl arrival
        · trivial
      simp [AnyActive, always]

/-- The guards of a mode read only what the guards of the telemetry leave alone. -/
theorem inTime_of_facts {mode : SchedulerPolicy} {one two : List RuntimePathSchedulerConfig}
    {first second : RuntimePathSchedulerConfig} (lists : one.map facts = two.map facts)
    (same : facts first = facts second) : InTime mode one first ↔ InTime mode two second := by
  have read (paths : List RuntimePathSchedulerConfig) (path : RuntimePathSchedulerConfig) :
      InTime mode (paths.map facts) (facts path) ↔ InTime mode paths path := by
    unfold InTime
    split
    · exact List.forall_mem_map
    · exact List.forall_mem_map
    · exact Iff.rfl
  rw [← read one first, ← read two second, lists, same]

theorem exists_mem_of_forall₂ {α β : Type} {R : α → β → Prop} {P : α → Prop} {Q : β → Prop} {left : List α}
    {right : List β} (related : List.Forall₂ R left right) (agree : ∀ one two, R one two → (P one ↔ Q two)) :
    (∃ one ∈ left, P one) ↔ ∃ two ∈ right, Q two := by
  induction related with
  | nil => simp
  | cons head _ ih => simp only [List.exists_mem_cons_iff, agree _ _ head, ih]

theorem map_facts_guarded {paths guarded : List RuntimePathSchedulerConfig}
    (related : List.Forall₂ (Guarded telemetry) (paths.zip config.paths) guarded)
    (lengths : paths.length = config.paths.length) : guarded.map facts = paths.map facts := by
  have same : List.Forall₂ Eq ((paths.zip config.paths).map fun entry => facts entry.1) (guarded.map facts) := by
    rw [List.forall₂_map_left_iff, List.forall₂_map_right_iff]
    exact related.imp fun _ _ kept => kept.1.symm
  rw [List.forall₂_eq_eq_eq] at same
  calc guarded.map facts
    _ = ((paths.zip config.paths).map Prod.fst).map facts := by rw [← same, List.map_map]; rfl
    _ = paths.map facts := by rw [List.map_fst_zip lengths.le]

/-- Some path stays in normal use exactly if some active path is neither down nor too slow for the
guard of its mode. -/
theorem compileScheduler_failSoft_iff (controller : Option CongestionFairnessController)
    {compiled : List RuntimePathSchedulerConfig}
    (compiles : compilePaths config telemetry effectiveMode = some compiled) (some : AnyActive compiled) :
    ∃ runtime next, compileScheduler config telemetry effectiveMode controller = .some (runtime, next) ∧
      (AnyActive runtime.paths ↔ ∃ entry ∈ compiled.zip config.paths, Active entry.1 ∧
        ¬Down telemetry entry.2.name ∧ InTime (selectedMode config effectiveMode) compiled entry.1) := by
  obtain ⟨policy, found⟩ := policy_of_compilePaths compiles some
  have lengths : compiled.length = config.paths.length := by
    rw [compilePaths_eq found] at compiles
    cases compiles
    simp
  have related := applyTelemetryGuards_guarded telemetry (selectedMode config effectiveMode) controller lengths
  have same := map_facts_guarded related lengths
  refine ⟨_, _, compileScheduler_eq controller found compiles, ?_⟩
  refine (anyActive_applyModeGuards ..).trans (exists_mem_of_forall₂ related ?_).symm
  rintro entry result ⟨kept, active⟩
  rw [active, inTime_of_facts same kept, and_assoc]

def stalePaths : GatherlinkConfig := { paths := [{ name := "lte" }, { name := "dsl" }] }

theorem no_loss_valid : 0 ≤ 1000000 := Nat.zero_le _

/-- Two minutes without control traffic on one path. -/
def silentTelemetry : SchedulerTelemetrySnapshot where
  paths := Dict.empty.set "lte"
    { pathName := "lte", pathId := 0, staleControlAgeUs := 120000000, loss_valid := no_loss_valid }

theorem compileScheduler_failSoft_iff_of_one_silent :
    ∃ compiled, compilePaths stalePaths (some silentTelemetry) none = some compiled ∧ AnyActive compiled ∧
      ∃ runtime next, compileScheduler stalePaths (some silentTelemetry) none none = some (runtime, next) ∧
        (AnyActive runtime.paths ↔ ∃ entry ∈ compiled.zip stalePaths.paths, Active entry.1 ∧
          ¬Down (some silentTelemetry) entry.2.name ∧ InTime (selectedMode stalePaths none) compiled entry.1) :=
  ⟨_, rfl, by decide, compileScheduler_failSoft_iff none rfl (by decide)⟩

/-- The health guard drains the only path. -/
theorem only_path_drained :
    ∃ compiled runtime, compilePaths { paths := [{ name := "lte" }] } (some silentTelemetry) none = some compiled ∧
      AnyActive compiled ∧
      compileScheduler { paths := [{ name := "lte" }] } (some silentTelemetry) none none = some (runtime, none) ∧
      ¬AnyActive runtime.paths :=
  ⟨_, _, rfl, by decide, rfl, by decide⟩

end Compile

end Gatherlink.Scheduling
