import Gatherlink.Lib.Allocation
import Gatherlink.Scheduling.Compiler

/-! The runtime config that a configured node is expanded to. -/

namespace Gatherlink.Config
open Lib.Allocation

section ServiceIds

/-- The loop over the services; `next` is where the search for a free id goes on. -/
def allocateFrom (explicitIds : List Nat) : Nat → List ServiceConfig → Except String (List Nat)
  | _, [] => .ok []
  | next, service :: rest =>
      match service.serviceId with
      | some serviceId => do
          let assigned ← allocateFrom explicitIds next rest
          .ok (serviceId :: assigned)
      | none =>
          let next := nextFree explicitIds next
          if 65535 < next then .error "too many services for the u16 user service id range"
          else do
            let assigned ← allocateFrom explicitIds (next + 1) rest
            .ok (next :: assigned)

def allocateServiceIds (services : List ServiceConfig) : Except String (List Nat) :=
  allocateFrom (services.filterMap (·.serviceId)) USER_SERVICE_ID_START services

theorem allocateFrom_eq_ok {explicitIds : List Nat} {next : Nat} {services : List ServiceConfig}
    (within : ∀ id ∈ assign explicitIds next (services.map (·.serviceId)), id ≤ 65535) :
    allocateFrom explicitIds next services = .ok (assign explicitIds next (services.map (·.serviceId))) := by
  induction services generalizing next with
  | nil => rfl
  | cons service rest ih =>
    rw [List.map_cons] at within ⊢
    cases named : service.serviceId with
    | some serviceId =>
      rw [named, assign] at within
      have tail := ih fun id member => within id (List.mem_cons_of_mem _ member)
      simp only [allocateFrom, named, tail, assign, bind, Except.bind]
    | none =>
      rw [named, assign] at within
      have tail := ih fun id member => within id (List.mem_cons_of_mem _ member)
      have first := within _ List.mem_cons_self
      simp only [allocateFrom, named, if_neg (Nat.not_lt.mpr first), tail, assign, bind, Except.bind]

end ServiceIds

end Gatherlink.Config
