import Gatherlink.Dataplane.Config
import Gatherlink.Lib.Allocation
import Gatherlink.Lib.Text

/-! How a runtime config is put together from services and paths: the checks, in the order in which they are made,
and the ids of the services that have none yet. -/

namespace Gatherlink.Dataplane
open Protocol Lib.Allocation

def USER_SERVICE_ID_START : ServiceId := RESERVED_SERVICE_ID_END + 1

def MAX_USER_SERVICES : Nat := (65535 - USER_SERVICE_ID_START).toNat + 1

namespace UdpServiceConfig

theorem zero_or_unreserved {serviceId : ServiceId}
    (reserved : ¬(serviceId ≠ 0 ∧ isReservedServiceId serviceId = true)) :
    serviceId = 0 ∨ isReservedServiceId serviceId = false := by
  by_cases zero : serviceId = 0
  · exact .inl zero
  · exact .inr (Bool.eq_false_iff.mpr fun low => reserved ⟨zero, low⟩)

def newWithScheduler (serviceId : ServiceId) (name : String) (listen : Option SocketAddr) (target : SocketAddr)
    (priority : UInt16) (returnMode : ServiceReturnMode) (scheduler : ServiceSchedulerConfig) :
    Except UdpServiceError UdpServiceConfig :=
  if Lib.Text.trim name.toList = [] then .error .emptyServiceName
  else if reserved : serviceId ≠ 0 ∧ isReservedServiceId serviceId = true then
    .error (.reservedServiceId name serviceId)
  else if priority = 0 then .error (.servicePriorityTooSmall name)
  else .ok ⟨serviceId, name, listen, target, priority, returnMode, scheduler, zero_or_unreserved reserved⟩

def withAssignedServiceId (service : UdpServiceConfig) (serviceId : ServiceId) :
    Except UdpServiceError UdpServiceConfig :=
  newWithScheduler serviceId service.name service.listen service.target service.priority service.returnMode
    service.scheduler

def Constructed (service : UdpServiceConfig) : Prop := service.withAssignedServiceId service.serviceId = .ok service

instance (service : UdpServiceConfig) : Decidable service.Constructed := inferInstanceAs (Decidable (_ = _))

end UdpServiceConfig

section Services

theorem toNat_succ {id : ServiceId} (last : ¬id = 65535) : (id + 1).toNat = id.toNat + 1 := by
  have bound := id.toNat_lt
  have less : id.toNat ≠ 65535 := fun same => last (UInt16.toNat_inj.mp same)
  rw [UInt16.toNat_add, UInt16.toNat_one]
  omega

variable {next : ServiceId} {services : List UdpServiceConfig}

theorem room_shrinks (last : ¬next = 65535) :
    65535 - (next + 1).toNat < 65535 - next.toNat := by
  have bound := (next + 1).toNat_lt
  rw [toNat_succ last] at bound ⊢
  omega

/-- The next id that no service names. The ids end at the largest 16-bit number. -/
def skipExplicitServiceIds (explicitServiceIds : List ServiceId) (count : Nat) (next : ServiceId) :
    Except UdpServiceError ServiceId :=
  if next ∈ explicitServiceIds then
    if last : next = 65535 then .error (.tooManyServices count MAX_USER_SERVICES)
    else skipExplicitServiceIds explicitServiceIds count (next + 1)
  else .ok next
termination_by 65535 - next.toNat
decreasing_by exact room_shrinks last

/-- The id of a service and the cursor behind it. The cursor moves past every id that it hands out. -/
def assignServiceId (explicitServiceIds : List ServiceId) (count : Nat) (service : UdpServiceConfig)
    (next : ServiceId) : Except UdpServiceError (ServiceId × ServiceId) :=
  if service.serviceId = 0 then do
    let assigned ← skipExplicitServiceIds explicitServiceIds count next
    if assigned = 65535 then .error (.tooManyServices count MAX_USER_SERVICES)
    else .ok (assigned, assigned + 1)
  else .ok (service.serviceId, next)

/-- What the loop over the services has seen, and the cursor of the automatic ids. -/
structure ServiceScan where
  names : List String := []
  listens : List SocketAddr := []
  serviceIds : List ServiceId := []
  nextServiceId : ServiceId := USER_SERVICE_ID_START

def ServiceScan.after (scan : ServiceScan) (service : UdpServiceConfig) (serviceId next : ServiceId) : ServiceScan where
  names := service.name :: scan.names
  listens := service.listen.toList ++ scan.listens
  serviceIds := serviceId :: scan.serviceIds
  nextServiceId := next

def finalizeServices (explicitServiceIds : List ServiceId) (count : Nat) :
    ServiceScan → List UdpServiceConfig → Except UdpServiceError (List UdpServiceConfig)
  | _, [] => .ok []
  | scan, service :: rest =>
      if service.name ∈ scan.names then .error (.duplicateServiceName service.name)
      else
        match service.listen.filter (· ∈ scan.listens) with
        | some listen => .error (.duplicateListenAddress listen)
        | none => do
            let (serviceId, next) ← assignServiceId explicitServiceIds count service scan.nextServiceId
            if serviceId ∈ scan.serviceIds then .error (.duplicateServiceId serviceId)
            else
              let finalized ← service.withAssignedServiceId serviceId
              let others ← finalizeServices explicitServiceIds count (scan.after service serviceId next) rest
              .ok (finalized :: others)

def explicitServiceIds (services : List UdpServiceConfig) : List ServiceId :=
  (services.map (·.serviceId)).filter (· ≠ 0)

def checkPathIds : List PathId → List CorePathConfig → Except UdpServiceError Unit
  | _, [] => .ok ()
  | pathIds, path :: rest =>
      if path.pathId ∈ pathIds then .error (.duplicatePathId path.pathId)
      else checkPathIds (path.pathId :: pathIds) rest

end Services

section Assignment

variable {explicit : List ServiceId} {count : Nat}

/-- The ids of a list as the numbers that the allocation is about. -/
abbrev numbers (ids : List ServiceId) : List Nat := ids.map UInt16.toNat

theorem mem_numbers {id : ServiceId} {ids : List ServiceId} : id.toNat ∈ numbers ids ↔ id ∈ ids := by
  constructor
  · intro member
    obtain ⟨other, found, same⟩ := List.mem_map.mp member
    rwa [← UInt16.toNat_inj.mp same]
  · exact List.mem_map_of_mem

theorem skipExplicitServiceIds_eq_ok {id : ServiceId} (skipped : skipExplicitServiceIds explicit count next = .ok id) :
        id.toNat = nextFree (numbers explicit) next.toNat := by
  fun_induction skipExplicitServiceIds explicit count next with
  | case1 member => contradiction
  | case2 next member last ih =>
    rw [nextFree, if_pos (mem_numbers.mpr member), ← toNat_succ last]
    exact ih skipped
  | case3 next free =>
    obtain rfl := Except.ok.inj skipped
    rw [nextFree, if_neg (fun member => free (mem_numbers.mp member))]

theorem skipExplicitServiceIds_total (within : nextFree (numbers explicit) next.toNat ≤ 65535) :
    ∃ id, skipExplicitServiceIds explicit count next = .ok id := by
  fun_induction skipExplicitServiceIds explicit count next with
  | case1 member =>
    rw [nextFree, if_pos (mem_numbers.mpr member)] at within
    have past := le_nextFree (numbers explicit) ((65535 : ServiceId).toNat + 1)
    have last : (65535 : ServiceId).toNat = 65535 := rfl
    omega
  | case2 next member last ih =>
    rw [nextFree, if_pos (mem_numbers.mpr member), ← toNat_succ last] at within
    exact ih within
  | case3 next free => exact ⟨next, rfl⟩

def UdpServiceConfig.requestedId (service : UdpServiceConfig) : Option Nat :=
  if service.serviceId = 0 then none else some service.serviceId.toNat

def assignedNumbers (explicit : List ServiceId) (next : ServiceId) (services : List UdpServiceConfig) : List Nat :=
  assign (numbers explicit) next.toNat (services.map (·.requestedId))

variable {service : UdpServiceConfig}

theorem assignServiceId_eq_ok {id after : ServiceId}
    (assigned : assignServiceId explicit count service next = .ok (id, after)) (services : List UdpServiceConfig) :
    assignedNumbers explicit next (service :: services) = id.toNat :: assignedNumbers explicit after services ∧
      (id = 65535 → service.requestedId = some 65535) ∧ next ≤ after ∧ (service.serviceId = 0 → next ≤ id) := by
  unfold assignServiceId at assigned
  unfold assignedNumbers UdpServiceConfig.requestedId
  split at assigned
  · rename_i automatic
    cases skipped : skipExplicitServiceIds explicit count next with
    | error error => rw [skipped] at assigned; contradiction
    | ok found =>
      simp only [skipped, bind, Except.bind] at assigned
      split at assigned
      · contradiction
      · rename_i last
        obtain ⟨rfl, rfl⟩ := Prod.mk.inj (Except.ok.inj assigned)
        have number := skipExplicitServiceIds_eq_ok skipped
        have above := le_nextFree (numbers explicit) next.toNat
        have after := toNat_succ last
        refine ⟨?_, fun same => absurd same last, ?_, ?_⟩
        · rw [List.map_cons, if_pos automatic, assign, ← number, after]
        · rw [UInt16.le_iff_toNat_le]
          omega
        · intro _
          rw [UInt16.le_iff_toNat_le]
          omega
  · rename_i named
    obtain ⟨rfl, rfl⟩ := Prod.mk.inj (Except.ok.inj assigned)
    refine ⟨?_, ?_, UInt16.le_refl _, fun automatic => absurd automatic named⟩
    · rw [List.map_cons, if_neg named, assign]
    · intro last
      rw [if_neg named, last]
      rfl

theorem assignServiceId_named {id after : ServiceId} {number : Nat} (named : service.requestedId = some number)
    (assigned : assignServiceId explicit count service next = .ok (id, after)) : id.toNat = number := by
  unfold UdpServiceConfig.requestedId at named
  unfold assignServiceId at assigned
  split at named
  · cases named
  · rename_i explicitId
    simp only [if_neg explicitId, Except.ok.injEq, Prod.mk.injEq] at assigned
    rw [← assigned.1, Option.some.inj named]

theorem assignServiceId_total
    (within : ∀ number ∈ assignedNumbers explicit next (service :: services), number ≤ 65535)
    (last : 65535 ∈ assignedNumbers explicit next (service :: services) →
      some 65535 ∈ (service :: services).map (·.requestedId))
    (unnamed : some 65535 ∈ (service :: services).map (·.requestedId) → 65535 ∈ explicit) :
    ∃ id after, assignServiceId explicit count service next = .ok (id, after) := by
  unfold assignServiceId
  split
  · rename_i automatic
    have first : nextFree (numbers explicit) next.toNat ∈ assignedNumbers explicit next (service :: services) := by
      unfold assignedNumbers
      rw [List.map_cons, UdpServiceConfig.requestedId, if_pos automatic, assign]
      exact List.mem_cons_self ..
    obtain ⟨id, skipped⟩ := @skipExplicitServiceIds_total explicit count next (within _ first)
    have number := skipExplicitServiceIds_eq_ok skipped
    have different : ¬id = 65535 := by
      rintro rfl
      have top : (65535 : ServiceId).toNat = 65535 := rfl
      rw [← number, top] at first
      have taken := mem_numbers.mpr (unnamed (last first))
      rw [number] at taken
      exact nextFree_not_mem _ _ taken
    refine ⟨id, id + 1, ?_⟩
    simp only [skipped, bind, Except.bind, if_neg different]
  · exact ⟨_, _, rfl⟩

end Assignment

section Finalized

variable {service finalized : UdpServiceConfig} {serviceId : ServiceId}

theorem withAssignedServiceId_eq_ok (assigned : service.withAssignedServiceId serviceId = .ok finalized) :
    finalized.serviceId = serviceId ∧ finalized.name = service.name := by
  unfold UdpServiceConfig.withAssignedServiceId UdpServiceConfig.newWithScheduler at assigned
  split at assigned
  · contradiction
  split at assigned
  · contradiction
  split at assigned
  · contradiction
  · obtain rfl := Except.ok.inj assigned
    exact ⟨rfl, rfl⟩

theorem withAssignedServiceId_total (constructed : service.Constructed) (user : isReservedServiceId serviceId = false) :
    ∃ finalized, service.withAssignedServiceId serviceId = .ok finalized := by
  unfold UdpServiceConfig.Constructed UdpServiceConfig.withAssignedServiceId UdpServiceConfig.newWithScheduler
    at constructed
  split at constructed
  · contradiction
  rename_i named
  split at constructed
  · contradiction
  split at constructed
  · contradiction
  rename_i weighted
  unfold UdpServiceConfig.withAssignedServiceId UdpServiceConfig.newWithScheduler
  rw [if_neg named, dif_neg (by simp [user]), if_neg weighted]
  exact ⟨_, rfl⟩

variable {explicit : List ServiceId} {count : Nat} {scan : ServiceScan} {service : UdpServiceConfig}
  {rest finals : List UdpServiceConfig}

/-- One turn of the loop that did not fail. -/
structure FinalizedFirst (explicit : List ServiceId) (count : Nat) (scan : ServiceScan) (service : UdpServiceConfig)
    (rest finals : List UdpServiceConfig) (id after : ServiceId) (finalized : UdpServiceConfig)
    (others : List UdpServiceConfig) : Prop where
  freshName : service.name ∉ scan.names
  assigned : assignServiceId explicit count service scan.nextServiceId = .ok (id, after)
  freshId : id ∉ scan.serviceIds
  withId : service.withAssignedServiceId id = .ok finalized
  later : finalizeServices explicit count (scan.after service id after) rest = .ok others
  finals_eq : finals = finalized :: others

theorem finalizeServices_cons (ok : finalizeServices explicit count scan (service :: rest) = .ok finals) :
    ∃ id after finalized others, FinalizedFirst explicit count scan service rest finals id after finalized others := by
  rw [finalizeServices] at ok
  split at ok
  · contradiction
  rename_i freshName
  split at ok
  · contradiction
  cases assigned : assignServiceId explicit count service scan.nextServiceId with
  | error error => rw [assigned] at ok; contradiction
  | ok given =>
    obtain ⟨id, after⟩ := given
    simp only [assigned, bind, Except.bind] at ok
    split at ok
    · contradiction
    rename_i freshId
    cases withId : service.withAssignedServiceId id with
    | error error => rw [withId] at ok; contradiction
    | ok finalized =>
      cases later : finalizeServices explicit count (scan.after service id after) rest with
      | error error => simp only [withId, later] at ok; contradiction
      | ok others =>
        simp only [withId, later] at ok
        exact ⟨id, after, finalized, others, freshName, assigned, freshId, withId, later, (Except.ok.inj ok).symm⟩

/-- The loop hands out the ids of the allocation, and never the last id unless a service names it. -/
theorem finalizeServices_numbers (ok : finalizeServices explicit count scan rest = .ok finals) :
    finals.map (·.serviceId.toNat) = assignedNumbers explicit scan.nextServiceId rest ∧
      (65535 ∈ assignedNumbers explicit scan.nextServiceId rest → some 65535 ∈ rest.map (·.requestedId)) := by
  induction rest generalizing scan finals with
  | nil =>
    obtain rfl := Except.ok.inj ok
    exact ⟨rfl, fun member => absurd member (List.not_mem_nil)⟩
  | cons service rest ih =>
    obtain ⟨id, after, finalized, others, first⟩ := finalizeServices_cons ok
    obtain ⟨given, top, -, -⟩ := assignServiceId_eq_ok first.assigned rest
    obtain ⟨tail, last⟩ := ih first.later
    constructor
    · calc finals.map (·.serviceId.toNat)
          = finalized.serviceId.toNat :: others.map (·.serviceId.toNat) := by rw [first.finals_eq]; rfl
        _ = id.toNat :: assignedNumbers explicit after rest := by
          rw [(withAssignedServiceId_eq_ok first.withId).1, tail]
          rfl
        _ = _ := given.symm
    · rw [given]
      intro member
      rcases List.mem_cons.mp member with same | member
      · have named := top (UInt16.toNat_inj.mp same.symm)
        rw [List.map_cons, named]
        exact List.mem_cons_self ..
      · exact List.mem_cons_of_mem _ (last member)

/-- Names and ids that are new to the scan, each once, and none of them reserved. -/
structure Finalized (scan : ServiceScan) (finals : List UdpServiceConfig) : Prop where
  names : (finals.map (·.name) ++ scan.names).Nodup
  serviceIds : (finals.map (·.serviceId) ++ scan.serviceIds).Nodup
  assigned : ∀ service ∈ finals, isReservedServiceId service.serviceId = false

theorem unreserved_of_assigned {id after : ServiceId} (user : USER_SERVICE_ID_START ≤ next)
    (assigned : assignServiceId explicit count service next = .ok (id, after))
    (withId : service.withAssignedServiceId id = .ok finalized) :
    isReservedServiceId finalized.serviceId = false := by
  have same := (withAssignedServiceId_eq_ok withId).1
  rcases finalized.userRange with zero | unreserved
  · rw [same] at zero
    subst zero
    by_cases automatic : service.serviceId = 0
    · obtain ⟨-, -, -, above⟩ := assignServiceId_eq_ok assigned []
      exact absurd (UInt16.le_trans user (above automatic)) (by decide)
    · simp only [assignServiceId, if_neg automatic, Except.ok.injEq, Prod.mk.injEq] at assigned
      exact absurd assigned.1 automatic
  · exact unreserved

theorem finalizeServices_finalized (user : USER_SERVICE_ID_START ≤ scan.nextServiceId) (seenNames : scan.names.Nodup)
    (seenIds : scan.serviceIds.Nodup) (ok : finalizeServices explicit count scan rest = .ok finals) :
    Finalized scan finals := by
  induction rest generalizing scan finals with
  | nil =>
    obtain rfl := Except.ok.inj ok
    exact ⟨seenNames, seenIds, by simp⟩
  | cons service rest ih =>
    obtain ⟨id, after, finalized, others, first⟩ := finalizeServices_cons ok
    obtain ⟨-, -, onward, -⟩ := assignServiceId_eq_ok first.assigned []
    obtain ⟨sameId, sameName⟩ := withAssignedServiceId_eq_ok first.withId
    have tail := @ih (scan.after service id after) others (UInt16.le_trans user onward)
      (List.nodup_cons.mpr ⟨first.freshName, seenNames⟩) (List.nodup_cons.mpr ⟨first.freshId, seenIds⟩) first.later
    rw [first.finals_eq]
    constructor
    · rw [List.map_cons, sameName, List.cons_append]
      exact List.nodup_middle.mp tail.names
    · rw [List.map_cons, sameId, List.cons_append]
      exact List.nodup_middle.mp tail.serviceIds
    · intro other member
      rcases List.mem_cons.mp member with rfl | member
      · exact unreserved_of_assigned user first.assigned first.withId
      · exact tail.assigned other member

/-- Services that the loop accepts after what it has seen: nothing repeats and every id fits. -/
structure Acceptable (explicit : List ServiceId) (scan : ServiceScan) (services : List UdpServiceConfig) : Prop where
  constructed : ∀ service ∈ services, service.Constructed
  names : (services.map (·.name) ++ scan.names).Nodup
  listens : (services.filterMap (·.listen) ++ scan.listens).Nodup
  distinct : (assignedNumbers explicit scan.nextServiceId services ++ numbers scan.serviceIds).Nodup
  user : ∀ number ∈ assignedNumbers explicit scan.nextServiceId services, 256 ≤ number ∧ number ≤ 65535
  last : 65535 ∈ assignedNumbers explicit scan.nextServiceId services → some 65535 ∈ services.map (·.requestedId)
  named : some 65535 ∈ services.map (·.requestedId) → 65535 ∈ explicit

theorem Acceptable.listen_fresh (acceptable : Acceptable explicit scan (service :: rest)) :
    service.listen.filter (· ∈ scan.listens) = none := by
  have listens := acceptable.listens
  cases heard : service.listen with
  | none => rfl
  | some address =>
    rw [List.filterMap_cons_some heard, List.cons_append, List.nodup_cons] at listens
    have fresh : address ∉ scan.listens := fun seen => listens.1 (List.mem_append_right _ seen)
    exact Option.filter_some_neg (by simpa using fresh)

theorem Acceptable.tail {id after : ServiceId} (acceptable : Acceptable explicit scan (service :: rest))
    (assigned : assignServiceId explicit count service scan.nextServiceId = .ok (id, after)) :
    Acceptable explicit (scan.after service id after) rest := by
  obtain ⟨given, top, -, -⟩ := assignServiceId_eq_ok assigned rest
  constructor
  · exact fun other member => acceptable.constructed other (List.mem_cons_of_mem _ member)
  · exact List.nodup_middle.mpr acceptable.names
  · have listens := acceptable.listens
    show (rest.filterMap (·.listen) ++ (service.listen.toList ++ scan.listens)).Nodup
    cases heard : service.listen with
    | none => rwa [List.filterMap_cons_none heard] at listens
    | some address =>
      rw [List.filterMap_cons_some heard] at listens
      exact List.nodup_middle.mpr listens
  · have distinct := acceptable.distinct
    rw [given] at distinct
    exact List.nodup_middle.mpr distinct
  · intro number member
    apply acceptable.user number
    rw [given]
    exact List.mem_cons_of_mem _ member
  · intro member
    have distinct := acceptable.distinct
    rw [given, List.cons_append, List.nodup_cons] at distinct
    have named : some 65535 ∈ (service :: rest).map (·.requestedId) := by
      apply acceptable.last
      rw [given]
      exact List.mem_cons_of_mem _ member
    rcases List.mem_cons.mp named with first | named
    · -- the first service names the last id, so that the allocation cannot give it out again
      have kept := assignServiceId_named first.symm assigned
      rw [kept] at distinct
      exact absurd (List.mem_append_left _ member) distinct.1
    · exact named
  · exact fun named => acceptable.named (List.mem_cons_of_mem _ named)

theorem finalizeServices_total (acceptable : Acceptable explicit scan rest) :
    ∃ finals, finalizeServices explicit count scan rest = .ok finals := by
  induction rest generalizing scan with
  | nil => exact ⟨[], rfl⟩
  | cons service rest ih =>
    obtain ⟨id, after, assigned⟩ := @assignServiceId_total explicit count service scan.nextServiceId rest
      (fun number member => (acceptable.user number member).2) acceptable.last acceptable.named
    obtain ⟨given, -, -, -⟩ := assignServiceId_eq_ok assigned rest
    have distinct := acceptable.distinct
    rw [given, List.cons_append, List.nodup_cons] at distinct
    have freshName : service.name ∉ scan.names := by
      have names := acceptable.names
      rw [List.map_cons, List.cons_append, List.nodup_cons] at names
      exact fun seen => names.1 (List.mem_append_right _ seen)
    have freshId : id ∉ scan.serviceIds := by
      intro seen
      exact distinct.1 (List.mem_append_right _ (mem_numbers.mpr seen))
    have user : isReservedServiceId id = false := by
      have range := (acceptable.user id.toNat (by rw [given]; exact List.mem_cons_self ..)).1
      have low : RESERVED_SERVICE_ID_END.toNat = 255 := rfl
      simp only [isReservedServiceId, decide_eq_false_iff_not, UInt16.le_iff_toNat_le, low]
      omega
    obtain ⟨finalized, withId⟩ :=
      withAssignedServiceId_total (acceptable.constructed service List.mem_cons_self) user
    obtain ⟨others, later⟩ := ih (acceptable.tail assigned)
    refine ⟨finalized :: others, ?_⟩
    simp only [finalizeServices, if_neg freshName, acceptable.listen_fresh, assigned, bind, Except.bind,
      if_neg freshId, withId, later]

end Finalized

section Construction

variable {paths : List CorePathConfig} {finals : List UdpServiceConfig}

theorem checkPathIds_eq_ok_iff {seen : List PathId} (distinct : seen.Nodup) :
    checkPathIds seen paths = .ok () ↔ (paths.map (·.pathId) ++ seen).Nodup := by
  induction paths generalizing seen with
  | nil => simpa [checkPathIds] using distinct
  | cons path rest ih =>
    rw [checkPathIds, List.map_cons, List.cons_append]
    split
    · rename_i member
      constructor
      · intro failed
        contradiction
      · intro nodup
        exact absurd (List.mem_append_right _ member) (List.nodup_cons.mp nodup).1
    · rename_i fresh
      rw [ih (List.nodup_cons.mpr ⟨fresh, distinct⟩), List.nodup_middle]

theorem finalized_of_fresh {count : Nat}
    (ok : finalizeServices (explicitServiceIds services) count {} services = .ok finals) :
    Finalized {} finals :=
  finalizeServices_finalized (UInt16.le_refl _) .nil .nil ok

theorem finalized_names (finalized : Finalized {} finals) :
    (finals.map (·.name)).Nodup := by
  simpa using finalized.names

theorem finalized_ids (finalized : Finalized {} finals) :
    (finals.map (·.serviceId)).Nodup := by
  simpa using finalized.serviceIds

theorem checked_path_ids (checked : checkPathIds [] paths = .ok ()) :
    (paths.map (·.pathId)).Nodup := by
  simpa using (checkPathIds_eq_ok_iff .nil).mp checked

def CoreRuntimeConfig.newWithPathsSchedulerAndSecurity (services : List UdpServiceConfig)
    (paths : List CorePathConfig) (schedulerMode : SchedulerMode) (security : TransportSecurityConfig) :
    Except UdpServiceError CoreRuntimeConfig :=
  if MAX_USER_SERVICES < services.length then .error (.tooManyServices services.length MAX_USER_SERVICES)
  else
    match ok : finalizeServices (explicitServiceIds services) services.length {} services with
    | .error error => .error error
    | .ok finals =>
        match checked : checkPathIds [] paths with
        | .error error => .error error
        | .ok () =>
            if empty : paths = [] then .error .missingPath
            else
              .ok
                { services := finals
                  paths
                  schedulerMode
                  security
                  pathIdsUnique := checked_path_ids checked
                  pathsNonempty := empty
                  serviceIdsUnique := finalized_ids (finalized_of_fresh ok)
                  serviceNamesUnique := finalized_names (finalized_of_fresh ok)
                  servicesAssigned := (finalized_of_fresh ok).assigned }

end Construction

end Gatherlink.Dataplane
