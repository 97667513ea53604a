import Mathlib

/-! Reasoning about programs that keep their state when they fail. `Moves` bounds how a program can
change the state, whether it succeeds or fails; `Commutes` says that a change of view of the state
passes through a program. Both are closed under the ways programs are built. -/

namespace Gatherlink.Lib.Exec

variable {ε σ α β : Type}

/-- The state a program leaves behind, on success and on failure. -/
def finalState : EStateM.Result ε σ α → σ
  | .ok _ state => state
  | .error _ state => state

/-- The value a program returns or the error it fails with. -/
def outcome : EStateM.Result ε σ α → Except ε α
  | .ok value _ => .ok value
  | .error error _ => .error error

variable {first : EStateM ε σ α} {next : α → EStateM ε σ β} {state middle : σ} {value : α} {error : ε} {τ δ : Type}
  {part : σ → τ} {put : σ → τ → σ} {rename : δ → ε} {program : EStateM δ τ α} {inner : τ}
  {change : σ → Except ε α × σ}

theorem bind_ok (ran : first state = .ok value middle) : (first >>= next) state = next value middle := by
  simp [bind, EStateM.bind, ran]

theorem bind_error (ran : first state = .error error middle) : (first >>= next) state = .error error middle := by
  simp [bind, EStateM.bind, ran]

theorem bind_ok_split {last : σ} {value : β} (ran : (first >>= next) state = .ok value last) :
    ∃ found middle, first state = .ok found middle ∧ next found middle = .ok value last := by
  cases start : first state with
  | ok found middle => exact ⟨found, middle, rfl, by rwa [bind_ok start] at ran⟩
  | error error middle =>
    rw [bind_error start] at ran
    contradiction

theorem except_bind_ok {first : Except ε α} {next : α → Except ε β} {value : β} (done : (first >>= next) = .ok value) :
    ∃ middle, first = .ok middle ∧ next middle = .ok value := by
  cases first with
  | error error => cases done
  | ok middle => exact ⟨middle, rfl, done⟩

theorem except_bind_iff {first : Except ε α} {next : α → Except ε β} {value : β} :
    (first >>= next) = .ok value ↔ ∃ middle, first = .ok middle ∧ next middle = .ok value := by
  constructor
  · exact except_bind_ok
  · rintro ⟨middle, rfl, done⟩
    exact done

theorem except_pure_iff {made : α} : (pure made : Except ε α) = .ok value ↔ made = value :=
  ⟨Except.ok.inj, congrArg Except.ok⟩

variable {condition : Prop}

theorem except_guard_iff [Decidable condition] {next : β → Except ε α} {rest : Except ε α} :
    (if condition then throw error >>= next else rest) = .ok value ↔ ¬condition ∧ rest = .ok value := by
  split
  · rename_i holds
    exact ⟨nofun, fun both => absurd holds both.1⟩
  · rename_i fails
    exact ⟨fun done => ⟨fails, done⟩, And.right⟩

theorem except_check_iff [Decidable condition] {made : α} :
    (if condition then throw error else pure made : Except ε α) = .ok value ↔ ¬condition ∧ made = value := by
  split
  · rename_i holds
    exact ⟨nofun, fun both => absurd holds both.1⟩
  · rename_i fails
    rw [except_pure_iff]
    exact ⟨fun done => ⟨fails, done⟩, And.right⟩

theorem except_map_ok {first : Except ε α} {change : α → β} {value : β} (done : first.map change = .ok value) :
    ∃ middle, first = .ok middle ∧ change middle = value := by
  cases first with
  | error error => contradiction
  | ok middle => exact ⟨middle, rfl, Except.ok.inj done⟩

theorem except_eq_ok_get {result : Except ε α} (succeeds : result.toOption.isSome) :
    result = .ok (result.toOption.get succeeds) := by
  cases result with
  | error error => contradiction
  | ok value => rfl

theorem except_bind_error {first : Except ε α} {next : α → Except ε β} (failed : (first >>= next) = .error error) :
    first = .error error ∨ ∃ middle, first = .ok middle ∧ next middle = .error error := by
  cases first with
  | error failure => exact .inl (congrArg Except.error (Except.error.inj failed))
  | ok middle => exact .inr ⟨middle, rfl, failed⟩

/-- Run a program on a part of the state, renaming its errors. -/
def focus {τ δ : Type} (part : σ → τ) (put : σ → τ → σ) (rename : δ → ε) (program : EStateM δ τ α) :
    EStateM ε σ α := fun state =>
  match program (part state) with
  | .ok value inner => .ok value (put state inner)
  | .error error inner => .error (rename error) (put state inner)

theorem focus_ok (ran : program (part state) = .ok value inner) :
    focus part put rename program state = .ok value (put state inner) := by
  rw [focus, ran]

theorem focus_error {error : δ} (ran : program (part state) = .error error inner) :
    focus part put rename program state = .error (rename error) (put state inner) := by
  rw [focus, ran]

/-- What the state shows, without changing it. -/
def reads (look : σ → α) : EStateM ε σ α := fun state => .ok (look state) state

theorem bind_reads {look : σ → α} : (reads look >>= next) state = next (look state) state := rfl

/-- A state change that may report a failure; the changed state is kept either way. -/
def attempt (change : σ → Except ε α × σ) : EStateM ε σ α := fun state =>
  match change state with
  | (.ok value, next) => .ok value next
  | (.error error, next) => .error error next

theorem attempt_ok (succeeds : (change state).1 = .ok value) :
    attempt change state = .ok value (change state).2 := by
  unfold attempt
  rcases changed : change state with ⟨failure | found, after⟩ <;> simp_all

theorem attempt_error (fails : (change state).1 = .error error) :
    attempt change state = .error error (change state).2 := by
  unfold attempt
  rcases changed : change state with ⟨failure | found, after⟩ <;> simp_all

/-- Hand a program's failure to its caller as a value. -/
def capture {δ : Type} (program : EStateM δ σ α) : EStateM ε σ (Except δ α) := fun state =>
  match program state with
  | .ok value next => .ok (.ok value) next
  | .error error next => .ok (.error error) next

section Moves

/-- Every run relates its initial state to its final one. -/
def Moves (R : σ → σ → Prop) (program : EStateM ε σ α) : Prop :=
  ∀ state, R state (finalState (program state))

variable {R : σ → σ → Prop}

/-- What the view shows has not changed. -/
def Same {τ : Type} (view : σ → τ) (before after : σ) : Prop := view after = view before

instance {τ : Type} (view : σ → τ) : IsPreorder σ (Same view) where
  refl _ := rfl
  trans _ _ _ first second := Eq.trans second first

theorem Moves.weaken {S : σ → σ → Prop} {program : EStateM ε σ α} (moves : Moves S program)
    (weaker : ∀ before after, S before after → R before after) : Moves R program :=
  fun state => weaker _ _ (moves state)

theorem Moves.discard {program : EStateM ε σ α} (moves : Moves R program) : Moves R (discard program) := by
  intro state
  have moved := moves state
  change R state (finalState ((Function.const α PUnit.unit <$> program) state))
  simp only [Functor.map, EStateM.map]
  cases ran : program state <;> rwa [ran] at moved

theorem Moves.modify {change : σ → σ} (step : ∀ state, R state (change state)) :
    Moves R (modify change : EStateM ε σ PUnit) :=
  step

theorem Moves.modifyGet {change : σ → α × σ} (step : ∀ state, R state (change state).2) :
    Moves R (modifyGet change : EStateM ε σ α) :=
  step

theorem Moves.attempt (step : ∀ state, R state (change state).2) : Moves R (attempt change) := by
  intro state
  have moved := step state
  unfold Exec.attempt
  split
  · rename_i value next changed
    rwa [changed] at moved
  · rename_i error next changed
    rwa [changed] at moved

theorem Moves.capture {program : EStateM δ σ α} (inner : Moves R program) :
    Moves R (capture program : EStateM ε σ (Except δ α)) := by
  intro state
  have moved := inner state
  unfold Exec.capture
  cases ran : program state <;> rwa [ran] at moved

variable {second : EStateM ε σ α} {body : α → EStateM ε σ PUnit}

theorem Moves.ite {condition : Prop} [Decidable condition] (yes : condition → Moves R first)
    (no : ¬condition → Moves R second) :
    Moves R (if condition then first else second) :=
  iteInduction yes no

theorem Moves.focus {S : τ → τ → Prop} (inner : Moves S program)
    (lift : ∀ state inside, S (part state) inside → R state (put state inside)) :
    Moves R (focus part put rename program) := by
  intro state
  have moved := inner (part state)
  unfold Exec.focus
  cases ran : program (part state) with
  | ok value inside =>
    rw [ran] at moved
    exact lift state inside moved
  | error error inside =>
    rw [ran] at moved
    exact lift state inside moved

variable [IsPreorder σ R]

theorem Moves.pure (value : α) : Moves R (Pure.pure value : EStateM ε σ α) :=
  fun state => refl_of R state

theorem Moves.throw (error : ε) : Moves R (throw error : EStateM ε σ α) :=
  fun state => refl_of R state

theorem Moves.reads (look : σ → α) : Moves R (reads look : EStateM ε σ α) :=
  fun state => refl_of R state

theorem Moves.bind (head : Moves R first) (tail : ∀ value, Moves R (next value)) : Moves R (first >>= next) := by
  intro state
  have start := head state
  cases ran : first state with
  | ok value middle =>
    rw [bind_ok ran]
    rw [ran] at start
    exact trans_of R start (tail value middle)
  | error error middle =>
    rw [bind_error ran]
    rw [ran] at start
    exact start

theorem Moves.forM {items : List α} (step : ∀ item ∈ items, Moves R (body item)) :
    Moves R (items.forM body) := by
  induction items with
  | nil => exact Moves.pure _
  | cons item rest ih =>
    exact Moves.bind (step item List.mem_cons_self)
      fun _ => ih fun other member => step other (List.mem_cons_of_mem _ member)

end Moves

section Ensures

/-- From a state that satisfies `before`, a success ends in `after` and a failure in `failed`. -/
def Ensures (before : σ → Prop) (program : EStateM ε σ α) (after : α → σ → Prop) (failed : σ → Prop) : Prop :=
  ∀ state, before state →
    match program state with
    | .ok value next => after value next
    | .error _ next => failed next

variable {before failed : σ → Prop} {after : α → σ → Prop} {program : EStateM ε σ α} {good : α → Prop} {view : σ → τ}
  {start : σ}

theorem Ensures.pure (holds : ∀ state, before state → after value state) :
    Ensures before (Pure.pure value : EStateM ε σ α) after failed :=
  holds

theorem Ensures.throw (holds : ∀ state, before state → failed state) :
    Ensures before (throw error : EStateM ε σ α) after failed :=
  holds

theorem Ensures.bind {middle : α → σ → Prop} {after : β → σ → Prop}
    (head : Ensures before first middle failed) (tail : ∀ value, Ensures (middle value) (next value) after failed) :
    Ensures before (first >>= next) after failed := by
  intro state holds
  have start := head state holds
  cases ran : first state with
  | ok value reached =>
    rw [ran] at start
    rw [bind_ok ran]
    exact tail value reached start
  | error error reached =>
    rw [ran] at start
    rw [bind_error ran]
    exact start

theorem Ensures.modify {after : PUnit → σ → Prop} {change : σ → σ}
    (holds : ∀ state, before state → after ⟨⟩ (change state)) :
    Ensures before (modify change : EStateM ε σ PUnit) after failed :=
  holds

theorem Ensures.attempt
    (ok : ∀ state value, before state → (change state).1 = .ok value → after value (change state).2)
    (error : ∀ state error, before state → (change state).1 = .error error → failed (change state).2) :
    Ensures before (attempt change) after failed := by
  intro state holds
  have succeeds := ok state
  have fails := error state
  unfold Exec.attempt
  rcases changed : change state with ⟨failure | value, next⟩
  · rw [changed] at fails
    exact fails failure holds rfl
  · rw [changed] at succeeds
    exact succeeds value holds rfl

theorem Ensures.reads (look : σ → α) : Ensures before (reads look : EStateM ε σ α) (fun _ => before) failed :=
  fun _ holds => holds

/-- A value that a program returns, whatever state it starts from. -/
def Returns (good : α → Prop) (program : EStateM ε σ α) : Prop :=
  ∀ ⦃state value next⦄, program state = .ok value next → good value

theorem Returns.anything (program : EStateM ε σ α) : Returns (fun _ => True) program := fun _ _ _ _ => trivial

theorem Returns.pure (holds : good value) :
    Returns good (Pure.pure value : EStateM ε σ α) := by
  rintro state found next ⟨⟩
  exact holds

theorem Returns.throw : Returns good (throw error : EStateM ε σ α) := by
  rintro state found next ⟨⟩

theorem Returns.reads {look : σ → α} (holds : ∀ state, good (look state)) :
    Returns good (reads look : EStateM ε σ α) := by
  rintro state found next ⟨⟩
  exact holds state

theorem Returns.ite {condition : Prop} [Decidable condition] (yes : condition → Returns good first)
    (no : ¬condition → Returns good second) :
    Returns good (if condition then first else second) :=
  iteInduction yes no

theorem Returns.bind {mid : α → Prop} {good : β → Prop}
    (head : Returns mid first) (tail : ∀ value, mid value → Returns good (next value)) :
    Returns good (first >>= next) := by
  intro state value final ran
  cases start : first state with
  | ok middle reached =>
    rw [bind_ok start] at ran
    exact tail middle (head start) ran
  | error error reached =>
    rw [bind_error start] at ran
    cases ran

theorem Returns.skip {good : β → Prop} (tail : ∀ value, Returns good (next value)) : Returns good (first >>= next) :=
  Returns.bind (Returns.anything _) fun value _ => tail value

theorem Returns.focus {program : EStateM δ τ α} (returns : Returns good program) :
    Returns good (focus part put rename program) := by
  intro state value next ran
  unfold Exec.focus at ran
  cases inner : program (part state) with
  | ok found inside =>
    rw [inner] at ran
    cases ran
    exact returns inner
  | error error inside =>
    rw [inner] at ran
    cases ran

theorem Ensures.same (moves : Moves (Same view) program) (returns : Returns good program) :
    Ensures (Same view start) program (fun value state => Same view start state ∧ good value) (Same view start) := by
  intro state same
  have moved := moves state
  cases ran : program state with
  | ok value next =>
    rw [ran] at moved
    exact ⟨trans_of (Same view) same moved, returns ran⟩
  | error error next =>
    rw [ran] at moved
    exact trans_of (Same view) same moved

theorem Ensures.kept (moves : Moves (Same view) program) :
    Ensures (Same view start) program (fun _ => Same view start) (Same view start) := by
  intro state same
  have ended := Ensures.same moves (Returns.anything _) state same
  cases ran : program state with
  | ok value next =>
    rw [ran] at ended
    exact ended.1
  | error error next =>
    rw [ran] at ended
    exact ended

theorem Ensures.keeps {invariant : σ → Prop} (ensures : Ensures invariant program (fun _ => invariant) invariant) :
    Moves (fun start stop => invariant start → invariant stop) program := by
  intro state holds
  have ended := ensures state holds
  cases ran : program state <;> rwa [ran] at ended

instance keeps_isPreorder {invariant : σ → Prop} :
    IsPreorder σ (fun start stop => invariant start → invariant stop) where
  refl _ := id
  trans _ _ _ first second := second ∘ first

end Ensures

section Keeps

/-- From a state that satisfies the invariant a program ends in one that does, and what it returns is good. -/
def Keeps (invariant : σ → Prop) (good : α → Prop) (program : EStateM ε σ α) : Prop :=
  ∀ state, invariant state →
    invariant (finalState (program state)) ∧ ∀ ⦃value next⦄, program state = .ok value next → good value

variable {invariant : σ → Prop} {P : α → Prop}

theorem Keeps.pure (holds : P value) : Keeps invariant P (Pure.pure value : EStateM ε σ α) := by
  intro state start
  refine ⟨start, ?_⟩
  rintro found next ⟨⟩
  exact holds

theorem Keeps.throw : Keeps invariant P (throw error : EStateM ε σ α) := by
  intro state start
  refine ⟨start, ?_⟩
  rintro found next ⟨⟩

theorem Keeps.reads {look : σ → α} (holds : ∀ state, invariant state → P (look state)) :
    Keeps invariant P (reads look : EStateM ε σ α) := by
  intro state start
  refine ⟨start, ?_⟩
  rintro found next ⟨⟩
  exact holds state start

theorem Keeps.modify {change : σ → σ} (step : ∀ state, invariant state → invariant (change state)) :
    Keeps invariant (fun _ => True) (modify change : EStateM ε σ PUnit) :=
  fun state start => ⟨step state start, fun _ _ _ => trivial⟩

theorem Keeps.modifyGet {change : σ → α × σ} (step : ∀ state, invariant state → invariant (change state).2)
    (holds : ∀ state, invariant state → P (change state).1) :
    Keeps invariant P (modifyGet change : EStateM ε σ α) := by
  intro state start
  refine ⟨step state start, ?_⟩
  rintro found next ⟨⟩
  exact holds state start

theorem Keeps.ite {condition : Prop} [Decidable condition] (yes : condition → Keeps invariant P first)
    (no : ¬condition → Keeps invariant P second) :
    Keeps invariant P (if condition then first else second) :=
  iteInduction yes no

theorem Keeps.bind {final : β → Prop}
    (head : Keeps invariant P first) (tail : ∀ value, P value → Keeps invariant final (next value)) :
    Keeps invariant final (first >>= next) := by
  intro state start
  obtain ⟨kept, returned⟩ := head state start
  cases ran : first state with
  | ok value middle =>
    rw [bind_ok ran]
    rw [ran] at kept
    exact tail value (returned ran) middle kept
  | error error middle =>
    rw [bind_error ran]
    rw [ran] at kept
    exact ⟨kept, fun _ _ impossible => by cases impossible⟩

theorem Keeps.after_reads {look : σ → α} {final : β → Prop} (found : α)
    (steady : ∀ state, invariant state → look state = found) (tail : Keeps invariant final (next found)) :
    Keeps invariant final (Exec.reads look >>= next) :=
  Keeps.bind (P := (· = found)) (Keeps.reads steady) fun _ same => same ▸ tail

theorem Keeps.focus {I : τ → Prop} (inside : Keeps I P program) (enter : ∀ state, invariant state → I (part state))
    (leave : ∀ state next, invariant state → I next → invariant (put state next)) :
    Keeps invariant P (focus part put rename program) := by
  intro state start
  obtain ⟨kept, returned⟩ := inside (part state) (enter state start)
  cases ran : program (part state) with
  | ok value next =>
    rw [focus_ok ran]
    rw [ran] at kept
    refine ⟨leave state next start kept, ?_⟩
    rintro found after ⟨⟩
    exact returned ran
  | error error next =>
    rw [focus_error ran]
    rw [ran] at kept
    exact ⟨leave state next start kept, fun _ _ impossible => by cases impossible⟩

end Keeps

section Fails

/-- Every error that a program fails with is of the given kind. -/
def Fails (kind : ε → Prop) (program : EStateM ε σ α) : Prop :=
  ∀ ⦃state error next⦄, program state = .error error next → kind error

variable {kind : ε → Prop}

theorem Fails.pure (value : α) : Fails kind (Pure.pure value : EStateM ε σ α) := by
  rintro state error next ⟨⟩

theorem Fails.throw (known : kind error) : Fails kind (throw error : EStateM ε σ α) := by
  rintro state found next ⟨⟩
  exact known

theorem Fails.reads (look : σ → α) : Fails kind (reads look : EStateM ε σ α) := by
  rintro state error next ⟨⟩

theorem Fails.modify (change : σ → σ) : Fails kind (modify change : EStateM ε σ PUnit) := by
  rintro state error next ⟨⟩

theorem Fails.modifyGet (change : σ → α × σ) : Fails kind (modifyGet change : EStateM ε σ α) := by
  rintro state error next ⟨⟩

theorem Fails.capture (program : EStateM δ σ α) :
    Fails kind (capture program : EStateM ε σ (Except δ α)) := by
  intro state error next ran
  unfold Exec.capture at ran
  split at ran <;> cases ran

theorem Fails.attempt
    (known : ∀ state error, (change state).1 = .error error → kind error) : Fails kind (attempt change) := by
  intro state error next ran
  unfold Exec.attempt at ran
  have answer := known state
  rcases changed : change state with ⟨failure | value, after⟩
  · rw [changed] at ran answer
    cases ran
    exact answer error rfl
  · rw [changed] at ran
    cases ran

theorem Fails.ite {condition : Prop} [Decidable condition] (yes : condition → Fails kind first)
    (no : ¬condition → Fails kind second) :
    Fails kind (if condition then first else second) :=
  iteInduction yes no

theorem Fails.bind {mid : α → Prop} (head : Fails kind first)
    (returns : Returns mid first) (tail : ∀ value, mid value → Fails kind (next value)) :
    Fails kind (first >>= next) := by
  intro state error final ran
  cases start : first state with
  | ok value reached =>
    rw [bind_ok start] at ran
    exact tail value (returns start) ran
  | error failure reached =>
    rw [bind_error start] at ran
    cases ran
    exact head start

theorem Fails.seq (head : Fails kind first) (tail : ∀ value, Fails kind (next value)) : Fails kind (first >>= next) :=
  head.bind (Returns.anything _) fun value _ => tail value

theorem Fails.focus {inner : δ → Prop} (inside : Fails inner program)
    (known : ∀ {error}, inner error → kind (rename error)) :
    Fails kind (focus part put rename program) := by
  intro state error next ran
  unfold Exec.focus at ran
  cases ended : program (part state) with
  | ok value middle =>
    rw [ended] at ran
    cases ran
  | error failure middle =>
    rw [ended] at ran
    cases ran
    exact known (inside ended)

theorem Fails.forM {items : List α} (step : ∀ item ∈ items, Fails kind (body item)) :
    Fails kind (items.forM body) := by
  induction items with
  | nil => exact Fails.pure _
  | cons item rest ih =>
    exact Fails.seq (step item List.mem_cons_self)
      fun _ => ih fun other member => step other (List.mem_cons_of_mem _ member)

end Fails

section Reaches

/-- From `state` the program succeeds, and ends in `after`. -/
def Reaches (program : EStateM ε σ α) (state : σ) (after : α → σ → Prop) : Prop :=
  ∃ value next, program state = .ok value next ∧ after value next

variable {after : α → σ → Prop} {program : EStateM ε σ α} {look : σ → α} {change : σ → σ} {final : β → σ → Prop}

theorem reaches_of_isOk (succeeds : (outcome (program state)).isOk = true) :
    Reaches program state fun _ _ => True := by
  cases ran : program state with
  | ok value next => exact ⟨value, next, ran, trivial⟩
  | error error next => simp [ran, outcome, Except.isOk, Except.toBool] at succeeds

theorem Reaches.mono {weaker : α → σ → Prop} (reaches : Reaches program state after)
    (step : ∀ {value next}, after value next → weaker value next) : Reaches program state weaker := by
  obtain ⟨value, next, ran, ends⟩ := reaches
  exact ⟨value, next, ran, step ends⟩

/-- What a program reaches holds of the run that is known. -/
theorem Reaches.of_ran {next : σ} (reaches : Reaches program state after)
    (ran : program state = .ok value next) : after value next := by
  obtain ⟨found, last, same, holds⟩ := reaches
  obtain ⟨rfl, rfl⟩ : found = value ∧ last = next := by simpa [ran, eq_comm] using same
  exact holds

theorem Reaches.pure (ends : after value state) : Reaches (Pure.pure value : EStateM ε σ α) state after :=
  ⟨value, state, rfl, ends⟩

theorem Reaches.reads (ends : after (look state) state) :
    Reaches (reads look : EStateM ε σ α) state after :=
  ⟨look state, state, rfl, ends⟩

theorem Reaches.modify {after : PUnit → σ → Prop} (ends : after ⟨⟩ (change state)) :
    Reaches (modify change : EStateM ε σ PUnit) state after :=
  ⟨⟨⟩, change state, rfl, ends⟩

theorem Reaches.modifyGet {change : σ → α × σ} (ends : after (change state).1 (change state).2) :
    Reaches (modifyGet change : EStateM ε σ α) state after :=
  ⟨(change state).1, (change state).2, rfl, ends⟩

theorem Reaches.bind {middle : α → σ → Prop} (head : Reaches first state middle)
    (tail : ∀ value reached, middle value reached → Reaches (next value) reached final) :
    Reaches (first >>= next) state final := by
  obtain ⟨value, reached, ran, holds⟩ := head
  obtain ⟨result, last, ran', ends⟩ := tail value reached holds
  exact ⟨result, last, by rw [bind_ok ran, ran'], ends⟩

theorem reaches_after_reads
    (tail : Reaches (next (look state)) state final) : Reaches (reads look >>= next) state final :=
  tail

theorem reaches_after_modify {next : PUnit → EStateM ε σ β}
    (tail : Reaches (next ⟨⟩) (change state) final) : Reaches (modify change >>= next) state final :=
  tail

theorem reaches_after_modifyGet {change : σ → α × σ}
    (tail : Reaches (next (change state).1) (change state).2 final) : Reaches (modifyGet change >>= next) state final :=
  tail

theorem Reaches.attempt {change : σ → Except ε α × σ} (succeeds : (change state).1 = .ok value)
    (ends : after value (change state).2) : Reaches (attempt change) state after :=
  ⟨value, (change state).2, attempt_ok succeeds, ends⟩

theorem Reaches.capture {program : EStateM δ σ α} (reaches : Reaches program state after) :
    Reaches (capture program : EStateM ε σ _) state fun answer next =>
      ∃ value, answer = .ok value ∧ after value next := by
  obtain ⟨value, next, ran, holds⟩ := reaches
  refine ⟨.ok value, next, ?_, value, rfl, holds⟩
  unfold Exec.capture
  rw [ran]

theorem reaches_after_attempt {change : σ → Except ε α × σ}
    (succeeds : (change state).1 = .ok value) (tail : Reaches (next value) (change state).2 final) :
    Reaches (attempt change >>= next) state final := by
  obtain ⟨result, last, ran', ends⟩ := tail
  exact ⟨result, last, by rw [bind_ok (attempt_ok succeeds), ran'], ends⟩

theorem Reaches.focus {program : EStateM δ τ α} {inner : α → τ → Prop} (inside : Reaches program (part state) inner)
    (leave : ∀ {value next}, inner value next → after value (put state next)) :
    Reaches (focus part put rename program) state after := by
  obtain ⟨value, next, ran, ends⟩ := inside
  refine ⟨value, put state next, ?_, leave ends⟩
  unfold Exec.focus
  rw [ran]

theorem Reaches.head (reaches : Reaches (first >>= next) state final) : Reaches first state fun _ _ => True := by
  obtain ⟨value, ended, ran, -⟩ := reaches
  obtain ⟨found, middle, start, -⟩ := bind_ok_split ran
  exact ⟨found, middle, start, trivial⟩

theorem Reaches.discard {ends : σ → Prop} (reaches : Reaches program state fun _ => ends) :
    Reaches (discard program) state fun _ => ends := by
  obtain ⟨value, next, ran, holds⟩ := reaches
  refine ⟨⟨⟩, next, ?_, holds⟩
  change EStateM.map _ program state = _
  simp [EStateM.map, ran]

theorem Reaches.of_discard {ends : PUnit → σ → Prop}
    (reaches : Reaches (Functor.discard program) state ends) : Reaches program state fun _ _ => True := by
  obtain ⟨value, next, ran, -⟩ := reaches
  change EStateM.map _ program state = _ at ran
  cases inner : program state with
  | ok found middle => exact ⟨found, middle, inner, trivial⟩
  | error error middle => simp [EStateM.map, inner] at ran

theorem Reaches.forM {items : List α} (invariant : List α → σ → Prop)
    (step : ∀ {done item rest reached}, items = done ++ item :: rest → invariant done reached →
      Reaches (body item) reached fun _ => invariant (done ++ [item]))
    (start : invariant [] state) : Reaches (items.forM body) state fun _ => invariant items := by
  suffices general : ∀ done rest reached, items = done ++ rest → invariant done reached →
      Reaches (rest.forM body) reached fun _ => invariant items from general [] items state rfl start
  intro done rest
  induction rest generalizing done with
  | nil =>
    intro reached split holds
    rw [List.append_nil] at split
    exact Reaches.pure (split ▸ holds)
  | cons item rest ih =>
    intro reached split holds
    exact Reaches.bind (step split holds) fun _ next holds' => ih (done ++ [item]) next (by simp [split]) holds'

end Reaches

section Stops

/-- From `state` the program fails with `error`. -/
def Stops (program : EStateM ε σ α) (state : σ) (error : ε) : Prop := ∃ next, program state = .error error next

theorem Stops.not_ok {program : EStateM ε σ α} {next : σ} (stops : Stops program state error) :
    program state ≠ .ok value next := by
  obtain ⟨last, ran⟩ := stops
  rw [ran]
  exact fun impossible => by cases impossible

theorem Stops.throw : Stops (throw error : EStateM ε σ α) state error := ⟨state, rfl⟩

theorem Stops.attempt (fails : (change state).1 = .error error) :
    Stops (attempt change) state error :=
  ⟨(change state).2, attempt_error fails⟩

variable {failure : δ}

theorem Stops.seq (head : Stops first state error) :
    Stops (first >>= next) state error := by
  obtain ⟨last, ran⟩ := head
  exact ⟨last, bind_error ran⟩

theorem Reaches.stops {middle : α → σ → Prop}
    (head : Reaches first state middle) (tail : ∀ value reached, middle value reached →
      Stops (next value) reached error) :
    Stops (first >>= next) state error := by
  obtain ⟨value, reached, ran, holds⟩ := head
  obtain ⟨last, ended⟩ := tail value reached holds
  exact ⟨last, by rw [bind_ok ran, ended]⟩

theorem stops_after_reads {look : σ → α} (tail : Stops (next (look state)) state error) :
    Stops (reads look >>= next) state error :=
  tail

theorem Stops.focus (inside : Stops program (part state) failure) :
    Stops (focus part put rename program) state (rename failure) := by
  obtain ⟨last, ran⟩ := inside
  exact ⟨put state last, focus_error ran⟩

theorem Stops.capture {program : EStateM δ σ α} (stops : Stops program state failure) :
    Reaches (capture program : EStateM ε σ _) state fun answer _ => answer = .error failure := by
  obtain ⟨last, ran⟩ := stops
  refine ⟨.error failure, last, ?_, rfl⟩
  unfold Exec.capture
  rw [ran]

end Stops

section Commutes

def mapState (view : σ → σ) : EStateM.Result ε σ α → EStateM.Result ε σ α
  | .ok value state => .ok value (view state)
  | .error error state => .error error (view state)

/-- Running on the viewed state is viewing the state that was run on. -/
def Commutes (view : σ → σ) (program : EStateM ε σ α) : Prop :=
  ∀ state, program (view state) = mapState view (program state)

variable {view : σ → σ}

theorem Commutes.pure (value : α) : Commutes view (Pure.pure value : EStateM ε σ α) := fun _ => rfl

theorem Commutes.throw (error : ε) : Commutes view (throw error : EStateM ε σ α) := fun _ => rfl

theorem Commutes.modify {change : σ → σ} (step : ∀ state, change (view state) = view (change state)) :
    Commutes view (modify change : EStateM ε σ PUnit) := by
  intro state
  exact congrArg (EStateM.Result.ok PUnit.unit) (step state)

theorem Commutes.modifyGet {change : σ → α × σ}
    (step : ∀ state, change (view state) = ((change state).1, view (change state).2)) :
    Commutes view (modifyGet change : EStateM ε σ α) := by
  intro state
  change EStateM.Result.ok (change (view state)).1 (change (view state)).2 = _
  rw [step state]
  rfl

theorem Commutes.bind (head : Commutes view first) (tail : ∀ value, Commutes view (next value)) :
    Commutes view (first >>= next) := by
  intro state
  have start := head state
  cases ran : first state with
  | ok value middle =>
    rw [ran] at start
    rw [bind_ok ran, bind_ok start]
    exact tail value middle
  | error error middle =>
    rw [ran] at start
    rw [bind_error ran, bind_error start]
    rfl

/-- A program on a part of the state, which the view may change in its own way. -/
theorem Commutes.focus {inside : τ → τ} (commutes : Commutes inside program)
    (front : ∀ state, part (view state) = inside (part state))
    (back : ∀ state inner, put (view state) (inside inner) = view (put state inner)) :
    Commutes view (focus part put rename program) := by
  intro state
  unfold Exec.focus
  rw [front state, commutes (part state)]
  cases program (part state) with
  | ok value inner => exact congrArg (EStateM.Result.ok value) (back state inner)
  | error error inner => exact congrArg (EStateM.Result.error (rename error)) (back state inner)

theorem Commutes.unchanged (program : EStateM ε σ α) : Commutes id program := by
  intro state
  change program state = _
  cases program state <;> rfl

theorem Commutes.reads {look : σ → α} (same : ∀ state, look (view state) = look state) :
    Commutes view (reads look : EStateM ε σ α) := by
  intro state
  change EStateM.Result.ok (look (view state)) (view state) = _
  rw [same state]
  rfl

theorem Commutes.attempt (step : ∀ state, change (view state) = ((change state).1, view (change state).2)) :
    Commutes view (attempt change) := by
  intro state
  unfold Exec.attempt
  rw [step state]
  rcases change state with ⟨_ | _, next⟩ <;> rfl

theorem Commutes.ite {condition : Prop} [Decidable condition] (yes : Commutes view first) (no : Commutes view second) :
        Commutes view (if condition then first else second) := by
  split
  · exact yes
  · exact no

theorem Commutes.forM {items : List α} (step : ∀ item, Commutes view (body item)) :
    Commutes view (items.forM body) := by
  induction items with
  | nil => exact Commutes.pure _
  | cons item rest ih =>
    exact Commutes.bind (step item) fun _ => ih

/-- States that look alike lead to results that look alike. -/
def Respects (view : σ → σ) (program : EStateM ε σ α) : Prop :=
  ∀ ⦃state other⦄, view state = view other → mapState view (program state) = mapState view (program other)

theorem Commutes.respects {program : EStateM ε σ α} (commutes : Commutes view program) : Respects view program := by
  intro state other alike
  rw [← commutes state, ← commutes other, alike]

/-- Two runs that look alike so far still do after steps that keep them so. -/
theorem mapState_bind {first' : EStateM ε σ α} {next' : α → EStateM ε σ β} {other : σ}
    (head : mapState view (first state) = mapState view (first' other))
    (tail : ∀ {value middle middle'}, first state = .ok value middle → view middle = view middle' →
      mapState view (next value middle) = mapState view (next' value middle')) :
    mapState view ((first >>= next) state) = mapState view ((first' >>= next') other) := by
  cases ran : first state with
  | ok value middle =>
    cases ran' : first' other with
    | ok value' middle' =>
      rw [ran, ran'] at head
      obtain ⟨rfl, same⟩ := EStateM.Result.ok.inj head
      rw [bind_ok ran, bind_ok ran']
      exact tail ran same
    | error error middle' =>
      rw [ran, ran'] at head
      cases head
  | error error middle =>
    cases ran' : first' other with
    | ok value' middle' =>
      rw [ran, ran'] at head
      cases head
    | error error' middle' =>
      rw [ran, ran'] at head
      rw [bind_error ran, bind_error ran']
      obtain ⟨rfl, same⟩ := EStateM.Result.error.inj head
      exact congrArg (EStateM.Result.error error) same

theorem Respects.bind (head : Respects view first)
    (tail : ∀ value, Respects view (next value)) : Respects view (first >>= next) :=
  fun _ _ alike => mapState_bind (head alike) fun _ same => tail _ same

end Commutes

end Gatherlink.Lib.Exec
