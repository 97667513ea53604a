import Gatherlink.Engine.Drain
import Gatherlink.Engine.Forward

/-! The control-plane calls: binding an engine, reapplying a whole config or only the scheduler
primitives, and the switches Python flips at run time. -/

namespace Gatherlink.Engine
open Protocol Dataplane Lib.Lookup Lib.Exec

structure ReapplyOutcome where
  unchanged : Nat := 0
  updated : Nat := 0
  rebound : Nat := 0
  added : Nat := 0
  removed : Nat := 0
  deriving DecidableEq

def compileServiceSchedulers (services : List UdpServiceConfig) : HashMap ServiceId ServiceSchedulerConfig :=
  ofList (services.map fun service => (service.serviceId, service.scheduler))

def compileServiceWeightedSchedulers (services : List UdpServiceConfig) (paths : List CorePathConfig) :
    HashMap ServiceId WeightedRoundRobin :=
  ofList ((services.filter (·.scheduler.pathPolicy = .weightedRoundRobin)).map fun service =>
    (service.serviceId, .compileWithPathWeights paths service.scheduler.allowedPathIds service.scheduler.pathWeights))

def serviceWeightedSchedulersFromPrimitives (schedulers : HashMap ServiceId ServiceSchedulerConfig)
    (paths : List CorePathConfig) : HashMap ServiceId WeightedRoundRobin :=
  fun serviceId => (schedulers serviceId).bind fun scheduler =>
    if scheduler.pathPolicy = .weightedRoundRobin then
      some (.compileWithPathWeights paths scheduler.allowedPathIds scheduler.pathWeights)
    else none

section Bind

variable (os : Os) (now : Nat)

def bindServices : List UdpServiceConfig → EStateM UdpServiceError Net (List UserlandUdpService)
  | [] => pure []
  | config :: rest => do
      let service ← UserlandUdpService.bind os config
      let later ← bindServices rest
      pure (service :: later)

def CoreDataplane.bind (config : CoreRuntimeConfig) : EStateM UdpServiceError Net CoreDataplane := do
  let services ← bindServices os config.services
  let pathTransports ← PathTransportSet.bind os config.paths
  pure
    { services, pathTransports
      paths := config.paths
      transportSecurity := .fromConfig config.security
      scheduler := .compile now config.schedulerMode config.paths
      nextSequences := empty
      nextDatagramId := 1
      metrics := .new now config.paths
      remoteFragments := .default
      remoteDedupe := .default
      remoteReorder := empty
      reservedEvents := []
      learnedSources := empty
      learnedPathRemotes := empty
      disabledServices := empty
      serviceSchedulers := compileServiceSchedulers config.services
      serviceWeightedSchedulers := compileServiceWeightedSchedulers config.services config.paths
      serviceFlowlets := empty }

end Bind

section Reapply

variable (os : Os) (now : Nat)

/-- One service of the new config: its socket is kept when name and listener allow it. -/
def reapplyService (current : Option UserlandUdpService) (desired : UdpServiceConfig) (outcome : ReapplyOutcome) :
    EStateM UdpServiceError Net (UserlandUdpService × ReapplyOutcome) := do
  match current with
  | none => do
      let service ← UserlandUdpService.bind os desired
      pure (service, { outcome with added := outcome.added + 1 })
  | some current => do
      if current.config = desired then do
        let service ← current.cloneWithConfig os desired
        pure (service, { outcome with unchanged := outcome.unchanged + 1 })
      else do
        let preserved ← current.canPreserveSocketFor os desired
        if preserved then do
          let service ← current.cloneWithConfig os desired
          pure (service, { outcome with updated := outcome.updated + 1 })
        else do
          let service ← UserlandUdpService.bind os desired
          pure (service, { outcome with rebound := outcome.rebound + 1 })

def reapplyServices (current : List UserlandUdpService) :
    List UdpServiceConfig → ReapplyOutcome → EStateM UdpServiceError Net (List UserlandUdpService × ReapplyOutcome)
  | [], outcome => pure ([], outcome)
  | desired :: rest, outcome => do
      let (service, outcome) ← reapplyService os (current.find? (·.config.name == desired.name)) desired outcome
      let (later, outcome) ← reapplyServices current rest outcome
      pure (service :: later, outcome)

/-- The fields replaced before the path sockets are rebuilt; they stay replaced if that fails. -/
def CoreDataplane.installServices (engine : CoreDataplane) (config : CoreRuntimeConfig)
    (services : List UserlandUdpService) : CoreDataplane :=
  { engine with
    services
    serviceSchedulers := compileServiceSchedulers config.services
    serviceWeightedSchedulers := compileServiceWeightedSchedulers config.services config.paths
    disabledServices := retain (fun serviceId => services.any (·.config.serviceId == serviceId))
      engine.disabledServices
    paths := config.paths }

/-- The fields replaced once the new path sockets exist. Session keys start over. -/
def CoreDataplane.installPaths (engine : CoreDataplane) (config : CoreRuntimeConfig)
    (pathTransports : PathTransportSet) : CoreDataplane :=
  { engine with
    pathTransports
    transportSecurity := .fromConfig config.security
    learnedPathRemotes := retain (fun key => config.security.localReceiverIndexes.contains key.1 &&
      (config.paths.map (·.pathId)).contains key.2) engine.learnedPathRemotes
    scheduler := .compile now config.schedulerMode config.paths
    metrics := engine.metrics.reconcilePaths config.paths }

def reapplyConfig (config : CoreRuntimeConfig) : Run ReapplyOutcome := do
  let current ← reads (·.engine.services)
  let (services, outcome) ← onNet (reapplyServices os current config.services {})
  let removed := current.countP fun service => !config.services.any (·.name == service.config.name)
  modify fun machine => { machine with engine := machine.engine.installServices config services }
  let transports ← reads (·.engine.pathTransports)
  let rebuilt ← onNet (transports.rebindPreserving os config.paths)
  modify fun machine => { machine with engine := machine.engine.installPaths now config rebuilt }
  pure { outcome with removed }

def firstDuplicate : List PathId → List PathId → Option PathId
  | _, [] => none
  | seen, pathId :: rest => if seen.contains pathId then some pathId else firstDuplicate (pathId :: seen) rest

def reapplyScheduler (paths : List CorePathConfig) (mode : SchedulerMode) : Run ReapplyOutcome := do
  if paths.isEmpty then throw (.udpService .missingPath)
  else
    match firstDuplicate [] (paths.map (·.pathId)) with
    | some pathId => throw (.udpService (.duplicatePathId pathId))
    | none => do
        modify fun machine =>
          { machine with
            engine :=
              { machine.engine with
                paths
                scheduler := .compile now mode paths
                serviceWeightedSchedulers :=
                  serviceWeightedSchedulersFromPrimitives machine.engine.serviceSchedulers paths
                metrics := machine.engine.metrics.reconcilePaths paths } }
        let services ← reads (·.engine.services.length)
        pure { unchanged := services, updated := paths.length }

end Reapply

section Switches

def disableService (serviceId : ServiceId) (reason : String) : Run PUnit :=
  modify fun machine =>
    { machine with
      engine :=
        { machine.engine with disabledServices := insert machine.engine.disabledServices serviceId reason } }

def enableService (serviceId : ServiceId) : Run PUnit :=
  modify fun machine =>
    { machine with
      engine := { machine.engine with disabledServices := remove machine.engine.disabledServices serviceId } }

def setServiceScheduler (serviceId : ServiceId) (scheduler : ServiceSchedulerConfig) : Run PUnit :=
  modify fun machine =>
    let serviceSchedulers := insert machine.engine.serviceSchedulers serviceId scheduler
    { machine with
      engine :=
        { machine.engine with
          serviceSchedulers
          serviceWeightedSchedulers :=
            serviceWeightedSchedulersFromPrimitives serviceSchedulers machine.engine.paths } }

end Switches

end Gatherlink.Engine
