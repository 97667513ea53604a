import Gatherlink.Config.Expansion
import Gatherlink.Dataplane.RuntimeConfig

/-! The ids that the control plane gives services and those that the dataplane would give them are the same, as far
as the dataplane hands out the last id of the range. -/

namespace Gatherlink.Config
open Lib.Allocation Dataplane

section Requests

variable {services : List ServiceConfig}

theorem reduceOption_map_serviceId (services : List ServiceConfig) :
    (services.map (·.serviceId)).reduceOption = services.filterMap (·.serviceId) := by
  unfold List.reduceOption
  rw [List.filterMap_map]
  rfl

theorem named_in_range (id : Nat) (named : some id ∈ services.map (·.serviceId)) : 256 ≤ id ∧ id ≤ 65535 := by
  obtain ⟨service, -, same⟩ := List.mem_map.mp named
  exact service.serviceId_valid id same

theorem allocateServiceIds_eq_ok (fits : services.length ≤ 65280) :
    allocateServiceIds services = .ok (assignAll 256 (services.map (·.serviceId))) := by
  have within : ∀ id ∈ assignAll 256 (services.map (·.serviceId)), id ≤ 65535 := fun id member =>
    assignAll_le (fun id named => (named_in_range id named).2) (by simpa using fits) member
  unfold assignAll at within ⊢
  rw [reduceOption_map_serviceId] at within ⊢
  exact allocateFrom_eq_ok within

end Requests

section Runtime

variable {services : List UdpServiceConfig} {paths : List CorePathConfig} {mode : Dataplane.SchedulerMode}
  {security : TransportSecurityConfig}

/-- Services and paths that leave nothing but the ids to decide. -/
structure Bindable (services : List UdpServiceConfig) (paths : List CorePathConfig) : Prop where
  constructed : ∀ service ∈ services, service.Constructed
  names : (services.map (·.name)).Nodup
  listens : (services.filterMap (·.listen)).Nodup
  pathIds : (paths.map (·.pathId)).Nodup
  somePath : paths ≠ []

theorem numbers_explicitServiceIds (services : List UdpServiceConfig) :
    numbers (explicitServiceIds services) = (services.map (·.requestedId)).reduceOption := by
  induction services with
  | nil => rfl
  | cons service rest ih =>
    rw [List.map_cons, UdpServiceConfig.requestedId]
    by_cases automatic : service.serviceId = 0
    · rw [if_pos automatic, List.reduceOption_cons_of_none, ← ih]
      simp [explicitServiceIds, automatic]
    · rw [if_neg automatic, List.reduceOption_cons_of_some, ← ih]
      simp [explicitServiceIds, automatic]

theorem assignedNumbers_start (services : List UdpServiceConfig) :
    assignedNumbers (explicitServiceIds services) ({} : ServiceScan).nextServiceId services =
      assignAll 256 (services.map (·.requestedId)) := by
  unfold assignedNumbers assignAll
  rw [numbers_explicitServiceIds]
  rfl

theorem new_numbers {config : CoreRuntimeConfig}
    (made : CoreRuntimeConfig.newWithPathsSchedulerAndSecurity services paths mode security = .ok config) :
    config.services.map (·.serviceId.toNat) = assignAll 256 (services.map (·.requestedId)) ∧
      (65535 ∈ assignAll 256 (services.map (·.requestedId)) → some 65535 ∈ services.map (·.requestedId)) := by
  unfold CoreRuntimeConfig.newWithPathsSchedulerAndSecurity at made
  split at made
  · contradiction
  split at made
  · contradiction
  rename_i finals ok
  split at made
  · contradiction
  split at made
  · contradiction
  obtain rfl := Except.ok.inj made
  have given := finalizeServices_numbers ok
  rwa [assignedNumbers_start] at given

theorem new_total (bindable : Bindable services paths) (fits : services.length ≤ 65280)
    (distinct : (services.map (·.requestedId)).reduceOption.Nodup)
    (range : ∀ id, some id ∈ services.map (·.requestedId) → 256 ≤ id ∧ id ≤ 65535)
    (last : 65535 ∈ assignAll 256 (services.map (·.requestedId)) → some 65535 ∈ services.map (·.requestedId)) :
    ∃ config, CoreRuntimeConfig.newWithPathsSchedulerAndSecurity services paths mode security = .ok config := by
  have few : ¬MAX_USER_SERVICES < services.length := by
    have max : MAX_USER_SERVICES = 65280 := rfl
    omega
  have acceptable : Acceptable (explicitServiceIds services) {} services := by
    have ids := assignedNumbers_start services
    constructor
    · exact bindable.constructed
    · simpa using bindable.names
    · simpa using bindable.listens
    · simpa [ids] using assignAll_nodup distinct
    · rw [ids]
      intro id member
      exact ⟨start_le_of_mem_assignAll (fun id named => (range id named).1) member,
        assignAll_le (fun id named => (range id named).2) (by simpa using fits) member⟩
    · rwa [ids]
    · intro named
      apply mem_numbers.mp
      rw [numbers_explicitServiceIds]
      exact List.reduceOption_mem_iff.mpr named
  obtain ⟨finals, ok⟩ := @finalizeServices_total _ services.length _ _ acceptable
  have checked := (checkPathIds_eq_ok_iff .nil).mpr (by simpa using bindable.pathIds)
  unfold CoreRuntimeConfig.newWithPathsSchedulerAndSecurity
  rw [if_neg few]
  split
  · rename_i error failed
    rw [ok] at failed
    contradiction
  split
  · rename_i error failed
    rw [checked] at failed
    contradiction
  · rw [dif_neg bindable.somePath]
    exact ⟨_, rfl⟩

end Runtime

section Agreement

variable {configured : List ServiceConfig} {services : List UdpServiceConfig} {paths : List CorePathConfig}
  {mode : Dataplane.SchedulerMode} {security : TransportSecurityConfig}

/-- The last id goes to an automatic service exactly when every id is in use and no service names it. -/
theorem last_id_automatic_iff (distinct : (configured.filterMap (·.serviceId)).Nodup)
    (fits : configured.length ≤ 65280) :
    (65535 ∈ assignAll 256 (configured.map (·.serviceId)) → some 65535 ∈ configured.map (·.serviceId)) ↔
      configured.length < 65280 ∨ some 65535 ∈ configured.map (·.serviceId) := by
  by_cases named : some 65535 ∈ configured.map (·.serviceId)
  · simp [named]
  · rw [← reduceOption_map_serviceId] at distinct
    have top := top_mem_assignAll_iff distinct named_in_range (by simpa using fits) (by omega) named
    rw [List.length_map] at top
    simp only [named, top, or_false, imp_false]
    omega

/-- The dataplane accepts the services, the control plane gives them the same ids, and these are what the services
ask for. -/
structure SameIds (configured : List ServiceConfig) (services : List UdpServiceConfig) (paths : List CorePathConfig)
    (mode : Dataplane.SchedulerMode) (security : TransportSecurityConfig) (config : CoreRuntimeConfig)
    (ids : List Nat) : Prop where
  made : CoreRuntimeConfig.newWithPathsSchedulerAndSecurity services paths mode security = .ok config
  allocated : allocateServiceIds configured = .ok ids
  same : config.services.map (·.serviceId.toNat) = ids
  distinct : ids.Nodup
  range : ∀ id ∈ ids, 256 ≤ id ∧ id ≤ 65535
  kept : List.Forall₂ (fun service id => ∀ named ∈ service.serviceId, id = named) configured ids

theorem service_ids_agree_iff (matching : services.map (·.requestedId) = configured.map (·.serviceId))
    (bindable : Bindable services paths) (distinct : (configured.filterMap (·.serviceId)).Nodup)
    (fits : configured.length ≤ 65280) :
    (∃ config ids, SameIds configured services paths mode security config ids) ↔
      configured.length < 65280 ∨ some 65535 ∈ configured.map (·.serviceId) := by
  rw [← last_id_automatic_iff distinct fits]
  constructor
  · rintro ⟨config, ids, agreed⟩
    have given := (new_numbers agreed.made).2
    rwa [matching] at given
  · intro last
    rw [← matching] at last
    have few : services.length ≤ 65280 := by
      have lengths := congrArg List.length matching
      simp only [List.length_map] at lengths
      omega
    rw [← reduceOption_map_serviceId] at distinct
    obtain ⟨config, made⟩ := @new_total services paths mode security bindable few (by rwa [matching])
      (by rw [matching]; exact named_in_range) last
    refine ⟨config, _, made, allocateServiceIds_eq_ok fits, ?_, assignAll_nodup distinct, ?_, ?_⟩
    · rw [(new_numbers made).1, matching]
    · intro id member
      exact ⟨start_le_of_mem_assignAll (fun id named => (named_in_range id named).1) member,
        assignAll_le (fun id named => (named_in_range id named).2) (by simpa using fits) member⟩
    · exact List.forall₂_map_left_iff.mp assign_kept

def automatic (name : String) : UdpServiceConfig where
  serviceId := 0
  name
  listen := none
  target := .v4 0x7F000001 5000
  priority := 100
  returnMode := .fixed
  scheduler := .normal
  userRange := .inl rfl

def crowdName (index : Nat) : String := String.ofList (List.replicate (index + 1) 'a')

def onePath : CorePathConfig := .direct 0 1200 (.v4 0x7F000001 5001) (.v4 0x7F000001 5002) rfl

theorem trim_crowdName (index : Nat) : Lib.Text.trim (automatic (crowdName index)).name.toList ≠ [] := by
  have kept : (List.replicate (index + 1) 'a').dropWhile Lib.Text.isWhitespace = List.replicate (index + 1) 'a' := rfl
  simp [automatic, crowdName, Lib.Text.trim, kept]

theorem crowd_bindable (count : Nat) :
    Bindable ((List.range count).map fun index => automatic (crowdName index)) [onePath] := by
  constructor
  · intro service member
    obtain ⟨index, -, rfl⟩ := List.mem_map.mp member
    unfold UdpServiceConfig.Constructed UdpServiceConfig.withAssignedServiceId UdpServiceConfig.newWithScheduler
    rw [if_neg (trim_crowdName index), dif_neg (by simp [automatic]), if_neg (by simp [automatic])]
  · rw [List.map_map]
    apply List.Nodup.map _ List.nodup_range
    intro one two same
    have lengths := congrArg String.length same
    simpa [automatic, crowdName] using lengths
  · have silent : ((List.range count).map fun index => automatic (crowdName index)).filterMap (·.listen) = [] := by
      simp [List.filterMap_map, automatic]
    rw [silent]
    exact .nil
  · decide
  · decide

/-- A full house of automatic services: the control plane gives the last of them the last id, the dataplane
refuses. -/
theorem last_automatic_id_refused :
    ∃ (configured : List ServiceConfig) (services : List UdpServiceConfig) (paths : List CorePathConfig),
      services.map (·.requestedId) = configured.map (·.serviceId) ∧ Bindable services paths ∧
      (configured.filterMap (·.serviceId)).Nodup ∧ configured.length = 65280 ∧
      (∃ ids, allocateServiceIds configured = .ok ids) ∧
      ∀ mode security config,
        CoreRuntimeConfig.newWithPathsSchedulerAndSecurity services paths mode security ≠ .ok config := by
  have requests : ((List.range 65280).map fun index => automatic (crowdName index)).map (·.requestedId) =
      ((List.range 65280).map fun index => ({ name := crowdName index } : ServiceConfig)).map (·.serviceId) := by
    rw [List.map_map, List.map_map]
    rfl
  have none_named : ((List.range 65280).map fun index => ({ name := crowdName index } : ServiceConfig)).filterMap
      (·.serviceId) = [] := by
    simp
  have length : ((List.range 65280).map fun index => ({ name := crowdName index } : ServiceConfig)).length = 65280 := by
    rw [List.length_map, List.length_range]
  refine ⟨_, _, [onePath], requests, crowd_bindable 65280, none_named ▸ .nil, length,
    ⟨_, allocateServiceIds_eq_ok length.le⟩, ?_⟩
  intro mode security config made
  have last := (new_numbers made).2
  rw [requests, last_id_automatic_iff (none_named ▸ .nil) length.le, length] at last
  rcases last with fewer | named
  · exact absurd fewer (Nat.lt_irrefl _)
  · have found := List.reduceOption_mem_iff.mpr named
    rw [reduceOption_map_serviceId, none_named] at found
    exact absurd found List.not_mem_nil

theorem two_services_agree :
    ∃ config ids, SameIds [{ name := "a", serviceId := some 256 }, { name := "aa" }]
      [{ automatic "a" with serviceId := 256, userRange := .inr rfl }, automatic "aa"] [onePath] .roundRobin .none
      config ids :=
  (service_ids_agree_iff (by decide) ⟨by decide, by decide, by decide, by decide, by decide⟩ (by decide)
    (by decide)).mpr (.inl (by decide))

end Agreement

end Gatherlink.Config
