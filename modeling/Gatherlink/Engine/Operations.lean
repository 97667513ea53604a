import Gatherlink.Engine.Control

/-! Runs of one engine: any sequence of its public operations and of packet arrivals. An operation
that fails keeps what it changed, and the run goes on. -/

namespace Gatherlink.Engine
open Protocol Crypto Dataplane Lib.BigEndian Lib.Exec

inductive Operation where
  | arrive (socketId : Nat) (arrival : Arrival)
  | forward (now : Nat) (name : String) (datagrams : List ReceivedDatagram)
  | forwardDetailed (now : Nat) (name : String) (datagrams : List ReceivedDatagram)
  | transmit (now : Nat) (serviceId : ServiceId) (payload : Bytes)
  | transmitOnPath (now : Nat) (serviceId : ServiceId) (pathId : PathId) (payload : Bytes)
  | transmitToPeer (now : Nat) (serviceId : ServiceId) (payload : Bytes) (peerScope : UInt32)
  | receive (maxFrames : Nat) (moment : FlushMoment)
  | receiveListed (packets : List PathPacket) (moment : FlushMoment)
  | receiveDetailed (packets : List PathPacket)
  | reapplyConfig (now : Nat) (config : CoreRuntimeConfig)
  | reapplyScheduler (now : Nat) (paths : List CorePathConfig) (mode : SchedulerMode)
  | disableService (serviceId : ServiceId) (reason : String)
  | enableService (serviceId : ServiceId)
  | setServiceScheduler (serviceId : ServiceId) (scheduler : ServiceSchedulerConfig)

def enqueueArrival (socketId : Nat) (arrival : Arrival) : Run PUnit :=
  modify fun machine =>
    { machine with
      net :=
        { machine.net with
          inbound := Function.update machine.net.inbound socketId (machine.net.inbound socketId ++ [arrival]) } }

variable (os : Os) (aead : Aead)

def Operation.perform : Operation → Run PUnit
  | .arrive socketId arrival => enqueueArrival socketId arrival
  | .forward now name datagrams => discard (forwardDatagramsSummary os aead now name datagrams)
  | .forwardDetailed now name datagrams => discard (forwardDatagrams os aead now name datagrams)
  | .transmit now serviceId payload => discard (transmitServicePayload os aead now serviceId payload)
  | .transmitOnPath now serviceId pathId payload =>
      discard (transmitServicePayloadOnPath os aead now serviceId pathId payload)
  | .transmitToPeer now serviceId payload peerScope =>
      discard (transmitServicePayloadToPeer os aead now serviceId payload peerScope)
  | .receive maxFrames moment => discard (receiveAvailableFromPathsSummary os aead maxFrames moment)
  | .receiveListed packets moment => discard (receiveListedSummary os aead packets moment)
  | .receiveDetailed packets => discard (receiveAvailableFromPaths os aead packets)
  | .reapplyConfig now config => discard (Engine.reapplyConfig os now config)
  | .reapplyScheduler now paths mode => discard (Engine.reapplyScheduler now paths mode)
  | .disableService serviceId reason => Engine.disableService serviceId reason
  | .enableService serviceId => Engine.enableService serviceId
  | .setServiceScheduler serviceId scheduler => Engine.setServiceScheduler serviceId scheduler

def Operation.after (operation : Operation) (machine : Machine) : Machine :=
  finalState (operation.perform os aead machine)

def run (operations : List Operation) (machine : Machine) : Machine :=
  operations.foldl (fun machine operation => operation.after os aead machine) machine

/-- The config that an operation applies, if it applies one, passes a check. -/
def Operation.Applies (check : CoreRuntimeConfig → Prop) : Operation → Prop
  | .reapplyConfig _ config => check config
  | _ => True

/-- Every config applied along a run passes a check in the state it is applied to. -/
def Along (check : Machine → CoreRuntimeConfig → Prop) : Machine → List Operation → Prop
  | _, [] => True
  | machine, operation :: rest => operation.Applies (check machine) ∧ Along check (operation.after os aead machine) rest

variable {os aead}

theorem Operation.Applies.and {first second : CoreRuntimeConfig → Prop} {operation : Operation}
    (one : operation.Applies first) (two : operation.Applies second) :
    operation.Applies fun config => first config ∧ second config := by
  cases operation with
  | reapplyConfig now config => exact ⟨one, two⟩
  | _ => trivial

variable {check : Machine → CoreRuntimeConfig → Prop} {operations : List Operation} {machine : Machine}

theorem Along.and_forall {always : CoreRuntimeConfig → Prop} (along : Along os aead check machine operations)
    (all : ∀ operation ∈ operations, operation.Applies always) :
    Along os aead (fun machine config => check machine config ∧ always config) machine operations := by
  induction operations generalizing machine with
  | nil => exact trivial
  | cons operation rest ih =>
    obtain ⟨first, others⟩ := List.forall_mem_cons.mp all
    exact ⟨along.1.and first, ih along.2 others⟩

theorem along_true (machine : Machine) (operations : List Operation) :
    Along os aead (fun _ _ => True) machine operations := by
  induction operations generalizing machine with
  | nil => exact trivial
  | cons operation rest ih => exact ⟨by cases operation <;> trivial, ih _⟩

theorem run_invariant {invariant : Machine → Prop}
    (step : ∀ {machine} {operation : Operation}, invariant machine → operation.Applies (check machine) →
      invariant (operation.after os aead machine)) (start : invariant machine)
    (along : Along os aead check machine operations) : invariant (run os aead operations machine) := by
  induction operations generalizing machine with
  | nil => exact start
  | cons operation rest ih => exact ih (step start along.1) along.2

end Gatherlink.Engine
