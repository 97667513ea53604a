import Gatherlink.Dataplane.Sessions
import Gatherlink.Engine.Steps

/-! Where session and socket state comes from: a bind makes all of it from a config, and a reapply
that gets far enough makes all of it anew. Between those, runs are made of admitted steps. -/

namespace Gatherlink.Engine
open Crypto Dataplane Lib.Exec

section Bind

variable {os : Os} {now : Nat} {config : CoreRuntimeConfig} {machine : Machine}

/-- A machine whose engine has just been bound from a config, with nothing in its history. -/
def Started (os : Os) (now : Nat) (config : CoreRuntimeConfig) (machine : Machine) : Prop :=
  ∃ net, net.history = {} ∧ CoreDataplane.bind os now config net = .ok machine.engine machine.net

def startedMachine (config : CoreRuntimeConfig) : Option Machine :=
  match CoreDataplane.bind .willing 0 config Net.blank with
  | .ok engine net => some ⟨engine, net, {}, {}⟩
  | .error _ _ => none

theorem bindServices_quiet (services : List UdpServiceConfig) :
    Moves (Same Net.records) (bindServices os services) := by
  induction services with
  | nil => exact Moves.pure _
  | cons service rest ih =>
    exact Moves.bind (UserlandUdpService.bind_quiet os service) fun _ => Moves.bind ih fun _ => Moves.pure _

theorem Started.records (started : Started os now config machine) :
    machine.net.records = (([], [], [], []), []) := by
  obtain ⟨net, blank, bound⟩ := started
  have quiet : Moves (Same Net.records) (CoreDataplane.bind os now config) :=
    Moves.bind (bindServices_quiet _) fun _ => Moves.bind (PathTransportSet.bind_quiet os _) fun _ => Moves.pure _
  have same := quiet net
  rw [bound] at same
  exact same.trans (by simp [Net.records, Net.ledgers, blank])

theorem Started.ledgers (started : Started os now config machine) : machine.net.ledgers = ([], [], [], []) :=
  congrArg Prod.fst started.records

/-- What a bind takes from the config. -/
structure Installed (config : CoreRuntimeConfig) (engine : CoreDataplane) : Prop where
  security : engine.transportSecurity = .fromConfig config.security
  attached : AttachedFrom config.paths engine.pathTransports
  fragments : engine.remoteFragments = .default
  paths : engine.paths = config.paths

theorem Started.fromConfig (started : Started os now config machine) : Installed config machine.engine := by
  obtain ⟨net, -, bound⟩ := started
  have returns : Returns (Installed config) (CoreDataplane.bind os now config) := by
    refine Returns.skip fun services =>
      Returns.bind (PathTransportSet.bind_attached os config.paths) fun transports attached => ?_
    rintro state value next ⟨⟩
    exact ⟨rfl, attached, rfl, rfl⟩
  exact returns bound

theorem Started.installed (started : Started os now config machine) :
    machine.engine.transportSecurity = .fromConfig config.security ∧
      RebuiltFrom config.paths machine.engine.pathTransports ∧
      machine.engine.remoteFragments = .default :=
  ⟨started.fromConfig.security, started.fromConfig.attached.rebuilt, started.fromConfig.fragments⟩

end Bind

section Reapply

variable {os : Os} {aead : Aead} {now : Nat} {config : CoreRuntimeConfig}

/-- A reapply leaves the tracked state alone, or it gets far enough to replace sockets and keys. -/
def Reapplied (now : Nat) (config : CoreRuntimeConfig) (before after : Machine) : Prop :=
  Same Machine.tracked before after ∨ ∃ middle rebuilt, Same Machine.tracked before middle ∧
    RebuiltFrom config.paths rebuilt ∧
    after = { middle with engine := middle.engine.installPaths now config rebuilt }

theorem reapplyServices_quiet {current : List UserlandUdpService} {services : List UdpServiceConfig}
    {outcome : ReapplyOutcome} : Moves (Same Net.records) (reapplyServices os current services outcome) := by
  have single {current : Option UserlandUdpService} {desired : UdpServiceConfig} {outcome : ReapplyOutcome} :
      Moves (Same Net.records) (reapplyService os current desired outcome) := by
    cases current with
    | none => exact Moves.bind (UserlandUdpService.bind_quiet os _) fun _ => Moves.pure _
    | some current =>
      refine Moves.ite (fun _ => Moves.bind (UserlandUdpService.cloneWithConfig_quiet os _ _) fun _ => Moves.pure _)
        fun _ => Moves.bind (UserlandUdpService.canPreserveSocketFor_quiet os _ _) fun _ =>
          Moves.ite (fun _ => ?_) fun _ => ?_
      · exact Moves.bind (UserlandUdpService.cloneWithConfig_quiet os _ _) fun _ => Moves.pure _
      · exact Moves.bind (UserlandUdpService.bind_quiet os _) fun _ => Moves.pure _
  induction services generalizing outcome with
  | nil => exact Moves.pure _
  | cons desired rest ih => exact Moves.bind single fun _ => Moves.bind ih fun _ => Moves.pure _

theorem reapplyConfig_reapplied (os : Os) (now : Nat) (config : CoreRuntimeConfig) (machine : Machine) :
    Reapplied now config machine (finalState (reapplyConfig os now config machine)) := by
  have ensured : Ensures (Same Machine.tracked machine) (reapplyConfig os now config)
      (fun _ => Reapplied now config machine) (Same Machine.tracked machine) := by
    refine Ensures.bind (Ensures.reads _) fun current => ?_
    refine Ensures.bind (Ensures.kept ((onNet_quiet reapplyServices_quiet).weaken fun _ _ => tracked_of_steady))
      fun prepared => ?_
    refine Ensures.bind (Ensures.kept (Moves.modify fun _ => rfl)) fun _ => ?_
    refine Ensures.bind (Ensures.reads _) fun transports => ?_
    refine Ensures.bind (Ensures.same
      ((onNet_quiet (rebindPreserving_quiet os transports config.paths)).weaken fun _ _ => tracked_of_steady)
      (Returns.focus (rebindPreserving_attached os transports config.paths))) fun rebuilt => ?_
    have installed : Ensures (fun state => Same Machine.tracked machine state ∧ AttachedFrom config.paths rebuilt)
        (modify fun state => { state with engine := state.engine.installPaths now config rebuilt } : Run PUnit)
        (fun _ => Reapplied now config machine) (Same Machine.tracked machine) :=
      Ensures.modify fun middle reached => Or.inr ⟨middle, rebuilt, reached.1, reached.2.rebuilt, rfl⟩
    exact Ensures.bind installed fun _ => Ensures.pure fun _ reached => reached
  have ended := ensured machine rfl
  cases ran : reapplyConfig os now config machine with
  | ok outcome after =>
    rw [ran] at ended
    exact ended
  | error error after =>
    rw [ran] at ended
    exact Or.inl ended

/-- An invariant of the admitted steps holds along a run whose reapplies preserve it. -/
theorem Admits.run_keeps {invariant : Machine → Prop} {check : Machine → CoreRuntimeConfig → Prop}
    (admits : Admits os aead fun before after => invariant before → invariant after)
    (reapply : ∀ {before after now config}, invariant before → check before config →
      Reapplied now config before after → invariant after)
    {operations : List Operation} {machine : Machine} (start : invariant machine)
    (along : Along os aead check machine operations) : invariant (run os aead operations machine) := by
  refine run_invariant (fun {machine operation} holds allowed => ?_) start along
  cases operation with
  | reapplyConfig now config =>
    have reapplied := reapplyConfig_reapplied os now config machine
    have same : Operation.after os aead (.reapplyConfig now config) machine =
        finalState (Engine.reapplyConfig os now config machine) := by
      have moved : Moves (fun before after => after = finalState (Engine.reapplyConfig os now config before))
          (discard (Engine.reapplyConfig os now config)) := Moves.discard fun _ => rfl
      exact moved machine
    exact same ▸ reapply holds allowed reapplied
  | _ => exact admits.perform _ (by simp) machine holds

end Reapply

end Gatherlink.Engine
