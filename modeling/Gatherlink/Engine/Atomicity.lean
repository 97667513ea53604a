import Gatherlink.Engine.Reapply

/-! What a failed reapply leaves behind. The services are swapped in before the path sockets are
rebuilt, so a failure of the second part meets an engine that is already changed. -/

namespace Gatherlink.Engine
open Protocol Dataplane Lib.Lookup Lib.Exec

section Outcomes

variable (os : Os) (now : Nat) (config : CoreRuntimeConfig) (machine : Machine)

/-- The services of the requested config, as the first part of a reapply prepares them. -/
def prepareServices : EStateM.Result UdpServiceError Net (List UserlandUdpService × ReapplyOutcome) :=
  reapplyServices os machine.engine.services config.services {} machine.net

theorem reapplyConfig_cases :
    (∃ error net, prepareServices os config machine = .error error net ∧
      reapplyConfig os now config machine = .error (.udpService error) { machine with net }) ∨
    (∃ prepared net error after, prepareServices os config machine = .ok prepared net ∧
      machine.engine.pathTransports.rebindPreserving os config.paths net = .error error after ∧
      reapplyConfig os now config machine = .error (.udpService error)
        { machine with engine := machine.engine.installServices config prepared.1, net := after }) ∨
    ∃ prepared net rebuilt after outcome, prepareServices os config machine = .ok prepared net ∧
      machine.engine.pathTransports.rebindPreserving os config.paths net = .ok rebuilt after ∧
      ∃ final, reapplyConfig os now config machine = .ok outcome final := by
  have start (next : List UserlandUdpService → Run ReapplyOutcome) :
      (reads (·.engine.services) >>= next) machine = next machine.engine.services machine := bind_ok rfl
  unfold prepareServices
  rw [reapplyConfig, start]
  cases prepares : reapplyServices os machine.engine.services config.services {} machine.net with
  | error error net => exact .inl ⟨error, net, rfl, bind_error (focus_error prepares)⟩
  | ok prepared net =>
    have first : onNet (reapplyServices os machine.engine.services config.services {}) machine =
        .ok prepared { machine with net } := focus_ok prepares
    -- from here on: install the services, look at the sockets, rebuild them
    cases rebinds : machine.engine.pathTransports.rebindPreserving os config.paths net with
    | error error after =>
      exact .inr (.inl ⟨prepared, net, error, after, rfl, rebinds,
        (bind_ok first).trans ((bind_ok rfl).trans ((bind_ok rfl).trans (bind_error (focus_error rebinds))))⟩)
    | ok rebuilt after =>
      have second : onNet (machine.engine.pathTransports.rebindPreserving os config.paths)
          { machine with engine := machine.engine.installServices config prepared.1, net } =
          .ok rebuilt { machine with engine := machine.engine.installServices config prepared.1, net := after } :=
        focus_ok rebinds
      exact .inr (.inr ⟨prepared, net, rebuilt, after, _, rfl, rebinds, _,
        (bind_ok first).trans ((bind_ok rfl).trans ((bind_ok rfl).trans (bind_ok second)))⟩)

/-- Once the services are prepared, no bind, clone or address call for a path socket fails. -/
def PathsReady : Prop :=
  ∀ prepared net, prepareServices os config machine = .ok prepared net →
    ∃ rebuilt after, machine.engine.pathTransports.rebindPreserving os config.paths net = .ok rebuilt after

end Outcomes

section InForce

/-- The services and the paths of a config are those the engine already has. -/
structure InForce (config : CoreRuntimeConfig) (engine : CoreDataplane) : Prop where
  services : engine.services.map (·.config) = config.services
  serviceSchedulers : engine.serviceSchedulers = compileServiceSchedulers config.services
  serviceWeightedSchedulers :
    engine.serviceWeightedSchedulers = compileServiceWeightedSchedulers config.services config.paths
  disabledServices : ∀ serviceId, engine.disabledServices serviceId ≠ none →
    serviceId ∈ config.services.map (·.serviceId)
  paths : engine.paths = config.paths

variable {os : Os} {config : CoreRuntimeConfig} {engine : CoreDataplane}

variable {desired : UdpServiceConfig} {service : UserlandUdpService} {outcome : ReapplyOutcome}
  {current : List UserlandUdpService}

theorem fromBoundSocket_returns {socket : UdpSocket} :
    Returns (fun service => service = ⟨desired, socket, empty⟩)
      (UserlandUdpService.fromBoundSocket os desired socket) :=
  Returns.skip fun _ => Returns.skip fun _ => Returns.pure rfl

theorem bind_returns :
    Returns (fun service => service.config = desired) (UserlandUdpService.bind os desired) := by
  unfold UserlandUdpService.bind
  split
  · exact Returns.throw
  · refine Returns.skip fun socket => ?_
    intro net service after ran
    rw [fromBoundSocket_returns ran]

/-- A duplicated service has the new config, and everything else of the old one. -/
theorem cloneWithConfig_returns :
    Returns (fun cloned => cloned = { service with config := desired }) (service.cloneWithConfig os desired) := by
  refine Returns.skip fun preserved => Returns.ite (fun _ => ?_) fun _ => Returns.throw
  refine Returns.skip fun _ => Returns.bind fromBoundSocket_returns fun cloned same =>
    Returns.skip fun _ => Returns.pure ?_
  rw [same]

theorem reapplyService_config {current : Option UserlandUdpService} :
    Returns (fun prepared => prepared.1.config = desired) (reapplyService os current desired outcome) := by
  have cloned {service : UserlandUdpService} :
      Returns (fun cloned => cloned.config = desired) (service.cloneWithConfig os desired) := by
    intro net found after ran
    rw [cloneWithConfig_returns ran]
  cases current with
  | none => exact Returns.bind bind_returns fun _ same => Returns.pure same
  | some current =>
    refine Returns.ite (fun _ => Returns.bind cloned fun _ same => Returns.pure same) fun _ =>
      Returns.skip fun _ => Returns.ite (fun _ => ?_) fun _ => ?_
    · exact Returns.bind cloned fun _ same => Returns.pure same
    · exact Returns.bind bind_returns fun _ same => Returns.pure same

theorem reapplyServices_configs {services : List UdpServiceConfig} :
    Returns (fun prepared => prepared.1.map (·.config) = services) (reapplyServices os current services outcome) := by
  induction services generalizing outcome with
  | nil => exact Returns.pure rfl
  | cons desired rest ih =>
    exact Returns.bind reapplyService_config fun _ first => Returns.bind ih fun _ others =>
      Returns.pure (by simp [first, others])

theorem reapplyServices_same {kept : List UserlandUdpService}
    (found : ∀ service ∈ kept, current.find? (·.config.name == service.config.name) = some service) :
    Returns (fun prepared => prepared.1 = kept) (reapplyServices os current (kept.map (·.config)) outcome) := by
  induction kept generalizing outcome with
  | nil => exact Returns.pure rfl
  | cons service rest ih =>
    have first : Returns (fun prepared => prepared.1 = service)
        (reapplyService os (current.find? (·.config.name == service.config.name)) service.config outcome) := by
      rw [found service (by simp)]
      exact Returns.ite (fun _ => Returns.bind cloneWithConfig_returns fun _ same => Returns.pure same)
        fun changed => absurd rfl changed
    exact Returns.bind first fun _ same => Returns.bind (ih fun other member => found other (by simp [member]))
      fun _ others => Returns.pure (by simp [same, others])

theorem find_by_name {services : List UserlandUdpService} (unique : (services.map (·.config.name)).Nodup)
    (member : service ∈ services) :
    services.find? (·.config.name == service.config.name) = some service := by
  induction services with
  | nil => simp at member
  | cons other rest ih =>
    rw [List.map_cons, List.nodup_cons] at unique
    rcases List.mem_cons.mp member with rfl | later
    · simp
    · have different : other.config.name ≠ service.config.name := by
        intro same
        exact unique.1 (same ▸ List.mem_map_of_mem later)
      rw [List.find?_cons_of_neg (by simpa using different)]
      exact ih unique.2 later

variable {net after : Net} {prepared : List UserlandUdpService × ReapplyOutcome}

theorem InForce.install (inForce : InForce config engine)
    (ran : reapplyServices os engine.services config.services {} net = .ok prepared after) :
    engine.installServices config prepared.1 = engine := by
  have unique : (engine.services.map (·.config.name)).Nodup := by
    have names := config.serviceNamesUnique
    rw [← inForce.services, List.map_map] at names
    exact names
  have same : prepared.1 = engine.services := by
    rw [← inForce.services] at ran
    exact reapplyServices_same (fun service member => find_by_name unique member) ran
  have kept : retain (fun serviceId => engine.services.any (·.config.serviceId == serviceId)) engine.disabledServices =
      engine.disabledServices := by
    funext serviceId
    rw [retain]
    split
    · rfl
    · rename_i absent
      by_contra disabled
      have listed := inForce.disabledServices serviceId fun none => disabled none.symm
      rw [← inForce.services, List.map_map] at listed
      obtain ⟨service, member, named⟩ := List.mem_map.mp listed
      exact absent (List.any_eq_true.mpr ⟨service, member, by simpa using named⟩)
  rw [same, CoreDataplane.installServices, kept, ← inForce.serviceSchedulers, ← inForce.serviceWeightedSchedulers,
    ← inForce.paths]

theorem inForce_of_install (ran : reapplyServices os engine.services config.services {} net = .ok prepared after)
    (same : engine.installServices config prepared.1 = engine) : InForce config engine := by
  have services : prepared.1 = engine.services := congrArg CoreDataplane.services same
  have configs : engine.services.map (·.config) = config.services := by
    rw [← services]
    exact reapplyServices_configs ran
  refine ⟨configs, (congrArg CoreDataplane.serviceSchedulers same).symm,
    (congrArg CoreDataplane.serviceWeightedSchedulers same).symm, ?_, (congrArg CoreDataplane.paths same).symm⟩
  intro serviceId disabled
  have kept := congrFun (congrArg CoreDataplane.disabledServices same) serviceId
  simp only [CoreDataplane.installServices, retain, services] at kept
  split at kept
  · rename_i listed
    obtain ⟨service, member, named⟩ := List.any_eq_true.mp listed
    rw [← configs, List.map_map]
    exact List.mem_map.mpr ⟨service, member, by simpa using named⟩
  · exact absurd kept.symm disabled

end InForce

/-- A failed reapply leaves the engine as it was exactly when its path sockets can be rebuilt once the services are
prepared, or the services and paths it installs before are already in force. -/
theorem reapply_atomic_iff (os : Os) (now : Nat) (config : CoreRuntimeConfig) (machine : Machine) :
    (∀ error after, reapplyConfig os now config machine = .error error after → after.engine = machine.engine) ↔
      PathsReady os config machine ∨ InForce config machine.engine := by
  obtain ⟨error, net, failed, ended⟩ | ⟨prepared, net, error, failedNet, ok, failed, ended⟩ |
    ⟨prepared, net, rebuilt, after, outcome, ok, rebinds, final, ended⟩ := reapplyConfig_cases os now config machine
  · rw [ended]
    refine ⟨fun _ => .inl ?_, ?_⟩
    · intro prepared later prepares
      rw [failed] at prepares
      contradiction
    · rintro - _ _ ⟨⟩
      rfl
  · rw [ended]
    refine ⟨fun atomic => .inr (inForce_of_install ok (atomic _ _ rfl)), ?_⟩
    rintro (ready | inForce) _ _ ⟨⟩
    · obtain ⟨rebuilt, after, rebinds⟩ := ready prepared net ok
      rw [failed] at rebinds
      contradiction
    · exact inForce.install ok
  · rw [ended]
    refine ⟨fun _ => .inl ?_, fun _ _ _ failed => nomatch failed⟩
    intro found later prepares
    obtain ⟨rfl, rfl⟩ := EStateM.Result.ok.inj (ok.symm.trans prepares)
    exact ⟨rebuilt, after, rebinds⟩

section Counterexample

def busyHost : Os :=
  { Os.willing with bind := fun _ address => if address = .v4 9 9 then .error .other else .ok address }

def lonePath (bind : SocketAddr) (mtu : Nat) (large : V1_HEADER_LEN + FRAGMENT_METADATA_LEN < mtu) : CorePathConfig :=
  ⟨1, mtu, some bind, some (.v4 2 1), none, true, .active, 1, {}, large, CorePathConfig.weight_one,
    CorePathConfig.lossless⟩

def loneConfig (path : CorePathConfig) : CoreRuntimeConfig :=
  .ofPath path (.static 1 2 (.replicate 32 5) (.replicate 32 6))

/-- The path of the running engine is to move to the taken address, with a smaller MTU. -/
theorem failed_reapply_keeps_new_paths : ∃ machine,
    Started busyHost 0 (loneConfig (lonePath (.v4 1 1) 1400 (by decide))) machine ∧
    ∃ error after, reapplyConfig busyHost 1 (loneConfig (lonePath (.v4 9 9) 1200 (by decide))) machine =
      .error error after ∧
      machine.engine.paths = [lonePath (.v4 1 1) 1400 (by decide)] ∧
      after.engine.paths = [lonePath (.v4 9 9) 1200 (by decide)] ∧
      after.engine.pathTransports = machine.engine.pathTransports := by
  have started : Started busyHost 0 (loneConfig (lonePath (.v4 1 1) 1400 (by decide))) ⟨_, _, {}, {}⟩ :=
    ⟨Net.blank, rfl, rfl⟩
  exact ⟨_, started, _, _, rfl, rfl, rfl, rfl⟩

end Counterexample

end Gatherlink.Engine
