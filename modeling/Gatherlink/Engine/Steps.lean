import Gatherlink.Engine.Quiet

/-! What an operation is made of. A relation that admits the few steps which touch key material or
reassembly admits every operation, except a config reapply, which replaces that state. -/

namespace Gatherlink.Engine
open Protocol Crypto Dataplane Lib.BigEndian Lib.Lookup Lib.Exec

/-- The machine after a path socket has moved on. -/
def Machine.withSocket (machine : Machine) (pathId : PathId) (after : PathTransportSocket × Net) : Machine :=
  { machine with
    engine :=
      { machine.engine with
        pathTransports :=
          { machine.engine.pathTransports with
            sockets := insert machine.engine.pathTransports.sockets pathId after.1 } }
    net := after.2 }

/-- The steps that a frame can take behind authentication. -/
structure Delivers (R : Machine → Machine → Prop) : Prop where
  quiet : ∀ {before after}, Same Machine.steady before after → R before after
  pushes : ∀ {frame peerScope}, Moves R (pushFrameOrPayload frame peerScope)

structure Receives (aead : Aead) (R : Machine → Machine → Prop) : Prop extends Delivers R where
  opens : ∀ {packet}, Moves R (unprotectPacket aead packet)

/-- The steps that take a frame to a socket. -/
structure Ships (os : Os) (aead : Aead) (R : Machine → Machine → Prop) : Prop where
  seals : ∀ {frame peerScope}, Moves R (protectFrame aead frame peerScope)
  batches : ∀ {groups}, Moves R (reserveGroups groups >>= protectGroups os aead)
  wraps : ∀ {machine pathId socket after}, machine.engine.pathTransports.sockets pathId = some socket →
    SocketStep aead (socket, machine.net) after → R machine (machine.withSocket pathId after)

structure Admits (os : Os) (aead : Aead) (R : Machine → Machine → Prop) :
    Prop extends Receives aead R, Ships os aead R where
  reschedules : ∀ {now paths mode}, Moves R (reapplyScheduler now paths mode)

/-- The steps that planned frames take on their way to the sockets. -/
structure Sends (os : Os) (aead : Aead) (R : Machine → Machine → Prop) : Prop extends Ships os aead R where
  rests : ∀ {before after}, Same (fun machine : Machine => (machine.steady, machine.policy)) before after →
    R before after

variable {R : Machine → Machine → Prop}

theorem reschedules_of [IsPreorder Machine R]
    (quiet : ∀ {before after}, Same Machine.tracked before after → R before after) {now : Nat}
    {paths : List CorePathConfig} {mode : SchedulerMode} : Moves R (reapplyScheduler now paths mode) := by
  refine Moves.ite (fun _ => Moves.throw _) fun _ => ?_
  split
  · exact Moves.throw _
  · exact Moves.bind (Moves.modify fun _ => quiet rfl) fun _ => Moves.bind (Moves.reads _) fun _ => Moves.pure _

/-- A batch, for relations that do not look at the credits between reservation and sealing. -/
theorem batches_of {os : Os} {aead : Aead} [IsPreorder Machine R]
    (reserves : ∀ group, Moves R (reserveFrameProtection group))
    (records : ∀ machine entries, R machine { machine with net := machine.net.protect entries })
    (groups : List PreparedFrameGroup) : Moves R (reserveGroups groups >>= protectGroups os aead) := by
  have reserved : Moves R (reserveGroups groups) := by
    induction groups with
    | nil => exact Moves.pure _
    | cons group rest ih => exact Moves.bind (reserves group) fun _ => Moves.bind ih fun _ => Moves.pure _
  refine Moves.bind reserved fun protections => ?_
  induction protections with
  | nil => exact Moves.pure _
  | cons entry rest ih =>
    obtain ⟨group, protection⟩ := entry
    refine Moves.bind (Moves.bind (Moves.modify fun machine => records machine _) fun _ => ?_) fun _ =>
      Moves.bind ih fun _ => Moves.pure _
    split
    · exact Moves.throw _
    · exact Moves.pure _

namespace Delivers

variable {os : Os} {R : Machine → Machine → Prop} {now : Nat} {frame : Frame} {frameBytes : Nat}
  {peerScope : Option UInt32}

theorem still {ε α : Type} {program : EStateM ε Machine α} (delivers : Delivers R) (quiet : Quiet program) :
    Moves R program :=
  quiet.weaken fun _ _ same => delivers.quiet same

variable [IsPreorder Machine R]

theorem deliverFrame (delivers : Delivers R) : Moves R (deliverFrame os now frame frameBytes peerScope) := by
  unfold Engine.deliverFrame
  cases frame.kind with
  | data =>
    refine Moves.bind delivers.pushes fun complete => ?_
    cases complete with
    | none => exact Moves.pure _
    | some payload => exact delivers.still deliverPayload_quiet
  | batch =>
    refine Moves.bind (delivers.still flushRemoteEmitBatch_quiet) fun _ => ?_
    cases frame.batchPayloads with
    | error error => exact Moves.throw _
    | ok payloads =>
      exact Moves.ite (fun _ => delivers.still observeReservedBatch_quiet)
        fun _ => delivers.still emitRemoteBatchPayloadsSummary_quiet
  | control =>
    exact Moves.bind (delivers.still flushRemoteEmitBatch_quiet) fun _ => delivers.still observeReservedPayload_quiet

theorem deliverFrameDetailed (delivers : Delivers R) :
    Moves R (deliverFrameDetailed os now frame frameBytes peerScope) := by
  unfold Engine.deliverFrameDetailed
  cases frame.kind with
  | data =>
    refine Moves.bind delivers.pushes fun complete => ?_
    cases complete with
    | none => exact Moves.pure _
    | some payload =>
      exact Moves.ite (fun _ => Moves.bind (delivers.still observeReservedPayload_quiet) fun _ => Moves.pure _)
        fun _ => delivers.still deliverFirstSeen_quiet
  | batch =>
    simp only
    cases frame.batchPayloads with
    | error error => exact Moves.throw _
    | ok payloads => exact delivers.still deliverBatch_quiet
  | control => exact Moves.bind (delivers.still observeReservedPayload_quiet) fun _ => Moves.pure _

end Delivers

namespace Receives

variable {os : Os} {aead : Aead} {R : Machine → Machine → Prop} [IsPreorder Machine R]

variable {packets : List PathPacket} {fuel maxFrames drained : Nat} {moment : FlushMoment}

section
variable (receives : Receives aead R)
include receives

theorem receivePackets :
    Moves R (receivePackets os aead packets) := by
  refine Moves.forM fun packet _ => Moves.bind receives.opens fun result => ?_
  split
  · exact receives.toDelivers.still recordSecurityDrop_quiet
  · exact Moves.throw _
  · exact Moves.bind (receives.toDelivers.still learnPathRemote_quiet) fun _ => receives.toDelivers.deliverFrame

theorem drainUdpSocket {pathId : PathId} {socketId budget handled : Nat} :
    Moves R (drainUdpSocket os aead pathId socketId budget fuel handled) := by
  induction fuel generalizing handled with
  | zero => exact Moves.pure _
  | succ fuel ih =>
    refine Moves.ite (fun _ => ?_) fun _ => Moves.pure _
    exact Moves.bind (receives.toDelivers.still takeBatch_quiet) fun _ => Moves.ite (fun _ => Moves.pure _) fun _ =>
      Moves.bind receives.receivePackets fun _ => ih

theorem drainRound {pathCount start : Nat} {offsets : List Nat} {any : Bool} :
    Moves R (drainRound os aead maxFrames pathCount start offsets drained any) := by
  induction offsets generalizing drained any with
  | nil => exact Moves.pure _
  | cons offset rest ih =>
    refine Moves.ite (fun _ => Moves.pure _) fun _ => Moves.bind (Moves.reads _) fun socket => ?_
    cases socket with
    | none => exact ih
    | some socket =>
      refine Moves.bind receives.drainUdpSocket fun _ => Moves.ite (fun _ => ?_) fun _ => ih
      exact Moves.bind (Moves.modify fun _ => receives.quiet rfl) fun _ => ih

theorem drainAvailable :
    Moves R (drainAvailable os aead maxFrames fuel drained) := by
  induction fuel generalizing drained with
  | zero => exact Moves.pure _
  | succ fuel ih =>
    refine Moves.ite (fun _ => ?_) fun _ => Moves.pure _
    exact Moves.bind (Moves.reads _) fun _ => Moves.bind receives.drainRound fun _ =>
      Moves.ite (fun _ => ih) fun _ => Moves.pure _

theorem receiveAvailableFromPaths :
    Moves R (receiveAvailableFromPaths os aead packets) := by
  induction packets with
  | nil => exact Moves.pure _
  | cons packet rest ih =>
    refine Moves.bind (Moves.bind receives.opens fun result => ?_) fun _ => Moves.bind ih fun _ => Moves.pure _
    split
    · exact Moves.bind (receives.toDelivers.still recordSecurityDrop_quiet) fun _ => Moves.pure _
    · exact Moves.throw _
    · exact Moves.bind (receives.toDelivers.still learnPathRemote_quiet) fun _ =>
        receives.toDelivers.deliverFrameDetailed

theorem receiveAvailableFromPathsSummary :
    Moves R (receiveAvailableFromPathsSummary os aead maxFrames moment) :=
  Moves.bind (Moves.modify fun _ => receives.quiet rfl) fun _ =>
    Moves.bind receives.drainAvailable fun _ => receives.toDelivers.still finishReceive_quiet

theorem receiveListedSummary :
    Moves R (receiveListedSummary os aead packets moment) :=
  Moves.bind (Moves.modify fun _ => receives.quiet rfl) fun _ =>
    Moves.bind receives.receivePackets fun _ => receives.toDelivers.still finishReceive_quiet

end

end Receives

namespace Sends

variable {os : Os} {aead : Aead} {R : Machine → Machine → Prop} {now : Nat} {name : String} {peerScope : Option UInt32}
  {frame : Frame} {frames : List FramePlan} {pathId : PathId} {group : ProtectedFrameGroup}

variable {α : Type}

theorem still {ε : Type} {program : EStateM ε Machine α} (sends : Sends os aead R) (poised : Poised program) :
    Moves R program :=
  poised.weaken fun _ _ same => sends.rests same

variable [IsPreorder Machine R]

theorem onSocket (sends : Sends os aead R) {program : SocketM α}
    (step : Moves (SocketStep aead) program) : Moves R (onTransports (PathTransportSet.withSocket pathId program)) := by
  intro machine
  have stays : R machine machine := refl_of R machine
  unfold onTransports focus PathTransportSet.withSocket reads
  simp only [bind, EStateM.bind]
  cases found : machine.engine.pathTransports.sockets pathId with
  | none => exact stays
  | some socket =>
    have moved := step (socket, machine.net)
    unfold focus
    cases ran : program (socket, machine.net) with
    | ok value after =>
      simp only [ran] at moved ⊢
      exact sends.wraps found moved
    | error error after =>
      simp only [ran] at moved ⊢
      exact sends.wraps found moved

theorem trySendPathFrame (sends : Sends os aead R) {frameLen : Nat} {expectedFanout : Bool} :
    Moves R (trySendPathFrame os aead pathId frame peerScope frameLen expectedFanout) := by
  refine Moves.bind sends.seals fun packet => Moves.bind (Moves.reads _) fun learned =>
    Moves.bind (Moves.capture ?_) fun answer => ?_
  · cases learned with
    | some remote => exact sends.onSocket (PathTransportSocket.sendFrameTo_step os packet remote)
    | none => exact sends.onSocket (PathTransportSocket.sendFrame_step os packet)
  · split
    · exact Moves.pure _
    · exact Moves.bind (Moves.modify fun _ => sends.rests rfl) fun _ => Moves.pure _
    · exact Moves.throw _

theorem recordProtectedGroupSend_poised {sent : Nat} :
    Poised (recordProtectedGroupSend now name group sent) := by
  have counted (machine : Machine) (send : PreparedFrameSend) :
      Same (fun machine => (machine.steady, machine.policy)) machine
        (recordSentFrame now name group.pathId machine send) := rfl
  have failed (machine : Machine) (send : PreparedFrameSend) :
      Same (fun machine => (machine.steady, machine.policy)) machine
        (recordFailedFrame group.pathId machine send) := rfl
  exact Moves.modify fun machine => (foldl_same failed _ _).trans (foldl_same counted _ machine)

theorem sendGroup (sends : Sends os aead R) :
    Moves R (sendGroup os aead now name group) := by
  refine Moves.bind (Moves.capture (sends.onSocket (PathTransportSocket.sendFramesTo_step os _ _))) fun answer => ?_
  split
  · exact sends.still recordProtectedGroupSend_poised
  · exact sends.still recordProtectedGroupSend_poised
  · exact Moves.throw _

theorem transmitPlannedFramesSummary (sends : Sends os aead R) :
    Moves R (transmitPlannedFramesSummary os aead now name frames) := by
  refine Moves.bind (Moves.modify fun _ => sends.rests rfl) fun _ => Moves.bind (Moves.reads _) fun prepared => ?_
  cases prepared with
  | error error => exact Moves.throw _
  | ok groups =>
    have sent (sealedGroups : List ProtectedFrameGroup) :
        Moves R (sealedGroups.forM (Engine.sendGroup os aead now name)) := Moves.forM fun _ _ => sends.sendGroup
    simpa only [bind_assoc] using
      Moves.bind (sends.batches : Moves R (reserveGroups groups >>= protectGroups os aead))
        fun sealedGroups => Moves.bind (sent sealedGroups) fun _ => Moves.reads (·.summary)

theorem transmitPlannedFrames (sends : Sends os aead R) :
    Moves R (transmitPlannedFrames os aead now name frames) := by
  induction frames with
  | nil => exact Moves.pure _
  | cons plan rest ih =>
    exact Moves.bind checkPathMtu_moves fun _ => Moves.bind sends.trySendPathFrame fun _ =>
      Moves.bind (Moves.ite (fun _ => sends.still recordSentDatagrams_poised) fun _ => Moves.pure _) fun _ =>
        Moves.bind ih fun _ => Moves.pure _

end Sends

namespace Admits

variable {os : Os} {aead : Aead} {R : Machine → Machine → Prop} {now : Nat} {name : String} {serviceId : ServiceId}
  {peerScope : Option UInt32} {payload : Bytes} {plan : FramePlan} {frames : List FramePlan}

theorem sends (admits : Admits os aead R) : Sends os aead R :=
  ⟨admits.toShips, fun same => admits.quiet (congrArg Prod.fst same)⟩

variable [IsPreorder Machine R]

section Send

variable {pathId : PathId} {datagrams : List ReceivedDatagram}

variable (admits : Admits os aead R)
include admits

theorem forwardDatagrams :
    Moves R (forwardDatagrams os aead now name datagrams) :=
  Moves.bind (admits.toDelivers.still prepareForward_quiet) fun _ => Moves.bind (Moves.reads _) fun _ =>
    Moves.ite (fun _ => admits.sends.still loopFrames_poised) fun _ => admits.sends.transmitPlannedFrames

theorem forwardDatagramsSummary :
    Moves R (forwardDatagramsSummary os aead now name datagrams) :=
  Moves.bind (Moves.reads _) fun _ =>
    Moves.ite (fun _ => Moves.bind admits.forwardDatagrams fun _ => Moves.pure _) fun _ =>
      Moves.bind (admits.toDelivers.still prepareForward_quiet) fun _ => admits.sends.transmitPlannedFramesSummary

theorem sendControlFrame : Moves R (sendControlFrame os aead now plan peerScope) :=
  Moves.bind checkPathMtu_moves fun _ => Moves.bind admits.sends.trySendPathFrame fun _ =>
    Moves.ite (fun _ => Moves.bind (admits.sends.still updateMetrics_poised) fun _ =>
      Moves.pure _) fun _ => Moves.pure _

theorem sendControlFrames : Moves R (sendControlFrames os aead now peerScope frames) := by
  induction frames with
  | nil => exact Moves.pure _
  | cons plan rest ih => exact Moves.bind admits.sendControlFrame fun _ => Moves.bind ih fun _ => Moves.pure _

theorem sendCopies {sequence : SequenceNumber} {paths : List CorePathConfig} :
    Moves R (sendCopies os aead now serviceId sequence payload paths) := by
  induction paths with
  | nil => exact Moves.pure _
  | cons path rest ih =>
    exact Moves.bind liftExcept_moves fun _ => Moves.bind admits.sendControlFrame fun _ =>
      Moves.bind ih fun _ => Moves.pure _

theorem transmitServicePayload :
    Moves R (transmitServicePayload os aead now serviceId payload) := by
  refine Moves.bind (Moves.reads _) fun _ => Moves.ite (fun _ => ?_) fun _ => ?_
  · exact Moves.bind (Moves.reads _) fun _ => Moves.ite (fun _ => Moves.throw _) fun _ =>
      Moves.bind (admits.toDelivers.still (onEngine_quiet nextSequenceFor_quiet)) fun _ => admits.sendCopies
  · exact Moves.bind (admits.toDelivers.still planFrames_quiet) fun _ => admits.sendControlFrames

theorem transmitServicePayloadOnPath :
    Moves R (transmitServicePayloadOnPath os aead now serviceId pathId payload) := by
  refine Moves.bind (Moves.reads _) fun path => ?_
  cases path with
  | none => exact Moves.throw _
  | some path =>
    exact Moves.bind (admits.toDelivers.still (onEngine_quiet nextSequenceFor_quiet)) fun _ => admits.sendCopies

end Send

/-- Every operation but a config reapply is made of admitted steps. -/
theorem perform (admits : Admits os aead R) (operation : Operation)
    (reapply : ∀ now config, operation = .reapplyConfig now config → Moves R (Engine.reapplyConfig os now config)) :
    Moves R (operation.perform os aead) := by
  cases operation with
  | arrive socketId arrival => exact Moves.modify fun _ => admits.quiet rfl
  | forward now name datagrams => exact Moves.discard admits.forwardDatagramsSummary
  | forwardDetailed now name datagrams => exact Moves.discard admits.forwardDatagrams
  | transmit now serviceId payload => exact Moves.discard admits.transmitServicePayload
  | transmitOnPath now serviceId pathId payload => exact Moves.discard admits.transmitServicePayloadOnPath
  | transmitToPeer now serviceId payload peerScope =>
    exact Moves.discard (Moves.bind (admits.toDelivers.still planFrames_quiet) fun _ => admits.sendControlFrames)
  | receive maxFrames moment => exact Moves.discard admits.toReceives.receiveAvailableFromPathsSummary
  | receiveListed packets moment => exact Moves.discard admits.toReceives.receiveListedSummary
  | receiveDetailed packets => exact Moves.discard admits.toReceives.receiveAvailableFromPaths
  | reapplyConfig now config => exact Moves.discard (reapply now config rfl)
  | reapplyScheduler now paths mode => exact Moves.discard admits.reschedules
  | disableService serviceId reason => exact Moves.modify fun _ => admits.quiet rfl
  | enableService serviceId => exact Moves.modify fun _ => admits.quiet rfl
  | setServiceScheduler serviceId scheduler => exact Moves.modify fun _ => admits.quiet rfl

end Admits

end Gatherlink.Engine
