import Gatherlink.Dataplane.Shipping
import Gatherlink.Engine.Emission
import Gatherlink.Engine.DetailedReceive

/-! Both ways of sending planned frames do the same to the sessions, to the path sockets and to the network: one frame
after another, and grouped with one counter reservation per group and workers that seal parts of a group. -/

namespace Gatherlink.Dataplane
open Protocol Crypto Lib.BigEndian Lib.Lookup Lib.Exec

section Sends

variable {os : Os} {aead : Aead} {socket last : PathTransportSocket} {net : Net} {packets sent : List Bytes}
  {packet bytes : Bytes} {remote : SocketAddr} {pathId : PathId} {transports next : PathTransportSet}
  {handed : List CarriedPacket}

namespace PathTransportSocket

theorem sendFrameTo_reaches (takes : os.Sends) (done : socket.wrapped aead packet = some (bytes, last)) :
    Reaches (sendFrameTo os aead packet remote) (socket, net) fun _ after =>
      after.1 = last ∧ after.2.history.carried = net.history.carried ++ [⟨socket.pathId, remote, bytes⟩] := by
  refine Reaches.bind (wrapPacket_reaches done) fun value state wrapped => ?_
  obtain ⟨rfl, rfl, kept⟩ := wrapped
  have path : state.1.pathId = socket.pathId := by rw [wrapped_keeps done]
  refine reaches_after_reads (Reaches.focus ?_ fun ends => ⟨rfl, ends⟩)
  refine Reaches.bind (require_reaches fun calls => takes.sendTo calls _) fun count asked same => ?_
  refine reaches_after_modify (Reaches.pure ?_)
  rw [Net.carry, same, kept, path]

theorem sendFramesTo_reaches (takes : os.Sends) (nonempty : packets ≠ [])
    (done : socket.wrapAll aead packets = some (sent, last)) :
    Reaches (sendFramesTo os aead packets remote) (socket, net) fun count after =>
      count = packets.length ∧ after.1 = last ∧
        after.2.history.carried = net.history.carried ++ sent.map fun bytes => ⟨socket.pathId, remote, bytes⟩ := by
  obtain ⟨kept, length⟩ := wrapAll_keeps done
  have occupied : ¬packets.isEmpty = true := by simpa using nonempty
  rw [sendFramesTo, if_neg occupied]
  refine Reaches.bind (wrapPackets_reaches done) fun value state wrapped => ?_
  obtain ⟨rfl, rfl, carried⟩ := wrapped
  have path : state.1.pathId = socket.pathId := by rw [kept]
  have noted (net : Net) (items : List CarriedPacket) :
      (net.carry items).history.carried = net.history.carried ++ items :=
    rfl
  refine reaches_after_reads (Reaches.focus (Reaches.focus (sendLoop_reaches takes noted (Nat.le_refl _))
    fun ends => ends) fun ends => ⟨?_, rfl, ?_⟩)
  · rw [ends.1, List.length_map, length, Nat.zero_add]
  · rw [ends.2, path]
    exact congrArg (· ++ _) carried

end PathTransportSocket

namespace PathTransportSet

variable {α : Type}

theorem withSocket_reaches {program : SocketM α} {inner : α → PathTransportSocket × Net → Prop}
    (socketed : transports.sockets pathId = some socket) (inside : Reaches program (socket, net) inner) :
    Reaches (withSocket pathId program) (transports, net) fun value after => ∃ used, inner value (used, after.2) ∧
      after.1 = { transports with sockets := insert transports.sockets pathId used } := by
  refine reaches_after_reads ?_
  simp only [socketed]
  exact Reaches.focus inside fun ends => ⟨_, ends, rfl⟩

theorem handAll_single (done : transports.handAll aead pathId remote [packet] = some (next, handed)) :
    ∃ socket bytes last, transports.sockets pathId = some socket ∧ socket.wrapped aead packet = some (bytes, last) ∧
      next = { transports with sockets := insert transports.sockets pathId last } ∧
      handed = [⟨socket.pathId, remote, bytes⟩] := by
  obtain ⟨socket, socketed, more⟩ := Option.bind_eq_some_iff.mp done
  obtain ⟨⟨bytes, last⟩, wrapped, more⟩ := Option.bind_eq_some_iff.mp more
  obtain ⟨rfl, rfl⟩ := Prod.ext_iff.mp (Option.some.inj more)
  exact ⟨socket, bytes, last, socketed, wrapped, rfl, rfl⟩

theorem sendFrameTo_reaches (takes : os.Sends)
    (done : transports.handAll aead pathId remote [packet] = some (next, handed)) :
    Reaches (sendFrameTo os aead pathId packet remote) (transports, net) fun _ after =>
      after.1 = next ∧ after.2.history.carried = net.history.carried ++ handed := by
  obtain ⟨socket, bytes, last, socketed, wrapped, rfl, rfl⟩ := handAll_single done
  refine (withSocket_reaches socketed (PathTransportSocket.sendFrameTo_reaches takes wrapped)).mono fun ends => ?_
  obtain ⟨used, ⟨rfl, carried⟩, same⟩ := ends
  exact ⟨same, carried⟩

theorem sendFrame_reaches (takes : os.Sends) (own : (transports.sockets pathId).map (·.remote) = some (some remote))
    (done : transports.handAll aead pathId remote [packet] = some (next, handed)) :
    Reaches (sendFrame os aead pathId packet) (transports, net) fun _ after =>
      after.1 = next ∧ after.2.history.carried = net.history.carried ++ handed := by
  obtain ⟨socket, bytes, last, socketed, wrapped, rfl, rfl⟩ := handAll_single done
  rw [socketed, Option.map_some, Option.some.injEq] at own
  have sends : Reaches (PathTransportSocket.sendFrame os aead packet) (socket, net) fun _ after =>
      after.1 = last ∧ after.2.history.carried = net.history.carried ++ [⟨socket.pathId, remote, bytes⟩] := by
    refine reaches_after_reads ?_
    simp only [own]
    exact PathTransportSocket.sendFrameTo_reaches takes wrapped
  refine (withSocket_reaches socketed sends).mono fun ends => ?_
  obtain ⟨used, ⟨rfl, carried⟩, same⟩ := ends
  exact ⟨same, carried⟩

theorem sendFramesTo_reaches (takes : os.Sends) (nonempty : packets ≠ [])
    (done : transports.handAll aead pathId remote packets = some (next, handed)) :
    Reaches (sendFramesTo os aead pathId packets remote) (transports, net) fun count after =>
      count = packets.length ∧ after.1 = next ∧ after.2.history.carried = net.history.carried ++ handed := by
  obtain ⟨socket, socketed⟩ : ∃ socket, transports.sockets pathId = some socket := by
    cases packets with
    | nil => exact absurd rfl nonempty
    | cons packet rest =>
      obtain ⟨socket, socketed, -⟩ := Option.bind_eq_some_iff.mp done
      exact ⟨socket, socketed⟩
  obtain ⟨sent, last, wrapping, rfl, rfl⟩ := handAll_some socketed done
  refine (withSocket_reaches socketed (PathTransportSocket.sendFramesTo_reaches takes nonempty wrapping)).mono
    fun ends => ?_
  obtain ⟨used, ⟨count, rfl, carried⟩, same⟩ := ends
  exact ⟨count, same, carried⟩

theorem withSocket_stops {program : SocketM α} {error : UdpServiceError}
    (socketed : transports.sockets pathId = some socket) (inside : Stops program (socket, net) error) :
    Stops (withSocket pathId program) (transports, net) error := by
  refine stops_after_reads ?_
  simp only [socketed]
  exact Stops.focus (show Stops program ((fun state => (socket, state.2)) (transports, net)) error from inside)

theorem sendFrame_stops {chosen : SocketAddr} (own : (transports.sockets pathId).map (·.remote) = some (some remote))
    (failed : transports.handAll aead pathId chosen [packet] = none) :
    (∀ target, Stops (sendFrameTo os aead pathId packet target) (transports, net) .relayHopWrapFailed) ∧
      Stops (sendFrame os aead pathId packet) (transports, net) .relayHopWrapFailed := by
  obtain ⟨socket, socketed, remoted⟩ := Option.map_eq_some_iff.mp own
  have unwrapped : socket.wrapped aead packet = none := by
    rw [handAll, socketed, Option.bind_some, Option.bind_eq_none_iff] at failed
    cases done : socket.wrapped aead packet with
    | none => rfl
    | some first => cases failed first done
  have wraps (target : SocketAddr) :
      Stops (PathTransportSocket.sendFrameTo os aead packet target) (socket, net) .relayHopWrapFailed :=
    (PathTransportSocket.wrapPacket_stops unwrapped).seq
  refine ⟨fun target => withSocket_stops socketed (wraps target), withSocket_stops socketed (stops_after_reads ?_)⟩
  simp only [remoted]
  exact wraps remote

end PathTransportSet

end Sends

end Gatherlink.Dataplane

namespace Gatherlink.Engine
open Protocol Crypto Dataplane Lib.BigEndian Lib.Lookup Lib.Exec

def Machine.lane (machine : Machine) : SendLane :=
  ⟨machine.engine.transportSecurity, machine.engine.pathTransports, machine.net.history.carried⟩

/-- Where a planned frame goes: to where the peer was last heard on the path, or else to the path's own remote. -/
def CoreDataplane.routeOf (engine : CoreDataplane) (plan : FramePlan) : Option Shipment :=
  (((engine.transportSecurity.sessionFor plan.frame.serviceId plan.peerScope).bind fun key =>
      engine.learnedPathRemotes (key, plan.path.pathId)) <|> plan.path.transportRemote).map fun remote =>
    ⟨plan.path.pathId, remote, [⟨plan.peerScope, plan.frame⟩]⟩

/-- The path of a planned frame has a socket, and its remote is the path's. -/
def PathTransportSet.Attached (transports : PathTransportSet) (plan : FramePlan) : Prop :=
  ∃ remote, plan.path.transportRemote = some remote ∧
    (transports.sockets plan.path.pathId).map (·.remote) = some (some remote)

section Serial

variable {os : Os} {aead : Aead} {machine : Machine} {plan : FramePlan} {shipment : Shipment} {lane : SendLane}
  {now : Nat} {name : String} {frames : List FramePlan}

theorem protect_sessionFor {security : TransportSecurity} {serviceId : ServiceId} {sessionKey : Option UInt32}
    {frame : Frame} : (security.protectFrameForServiceOrSession aead serviceId sessionKey frame).2.sessionFor =
      security.sessionFor := by
  have same : (security.protectFrameForServiceOrSession aead serviceId sessionKey frame).2.sessionKeyForService =
      security.sessionKeyForService := by
    unfold TransportSecurity.protectFrameForServiceOrSession TransportSecurity.withSendKeys
    cases security with
    | none => rfl
    | static keys => rfl
    | staticSessions sessions serviceSessions defaultSession =>
      simp only
      split
      · rfl
      · split <;> rfl
  funext other peerScope
  rw [TransportSecurity.sessionFor, same, TransportSecurity.sessionFor]

/-- Learned remotes stay, and every session answers for the services it did. -/
structure KeepsRoutes (before after : Machine) : Prop where
  learned : after.engine.learnedPathRemotes = before.engine.learnedPathRemotes
  sessions : after.engine.transportSecurity.sessionFor = before.engine.transportSecurity.sessionFor

variable {after next : Machine} {security : TransportSecurity} {transports : PathTransportSet} {length : Nat}
  {fanout : Bool}

theorem KeepsRoutes.routeOf (keeps : KeepsRoutes machine after) :
    after.engine.routeOf = machine.engine.routeOf := by
  funext plan
  rw [CoreDataplane.routeOf, keeps.learned, keeps.sessions, CoreDataplane.routeOf]

theorem KeepsRoutes.trans {middle : Machine} (first : KeepsRoutes machine middle)
    (second : KeepsRoutes middle after) : KeepsRoutes machine after :=
  ⟨second.learned.trans first.learned, second.sessions.trans first.sessions⟩

theorem protectAll_single {next : TransportSecurity} {item : Outbound} {packets : List Bytes}
    (done : security.protectAll aead [item] = some (packets, next)) : ∃ packet, packets = [packet] ∧
      security.protectFrameForServiceOrSession aead item.frame.serviceId item.peerScope item.frame =
        (.ok packet, next) := by
  obtain ⟨packet, later, others, step, tail, rfl⟩ := TransportSecurity.protectAll_cons done
  obtain ⟨rfl, rfl⟩ := Prod.ext_iff.mp (Option.some.inj tail)
  exact ⟨packet, rfl, step⟩

theorem protectFrame_reaches {frame : Frame} {peerScope : Option UInt32} {packet : Bytes}
    (step : machine.engine.transportSecurity.protectFrameForServiceOrSession aead frame.serviceId peerScope frame =
      (.ok packet, security)) :
    Reaches (protectFrame aead frame peerScope) machine fun value next => value = packet ∧
      next.lane = { machine.lane with security } ∧
      next.engine.learnedPathRemotes = machine.engine.learnedPathRemotes := by
  refine Reaches.attempt (show _ = Except.ok packet from ?_) ?_
  · simp only [step]
    rfl
  · refine ⟨rfl, ?_, ?_⟩
    · simp only [step, Machine.lane]
      rfl
    · rfl

theorem onTransports_reaches {α : Type} {program : PathTransportSet.TransportM α} {good : α → Prop}
    {carried : List CarriedPacket}
    (inside : Reaches program (machine.engine.pathTransports, machine.net) fun value after =>
      good value ∧ after.1 = transports ∧ after.2.history.carried = carried) :
    Reaches (onTransports program) machine fun value next => good value ∧
      next.lane = ⟨machine.engine.transportSecurity, transports, carried⟩ ∧ KeepsRoutes machine next := by
  refine Reaches.focus inside fun ends => ⟨ends.1, ?_, rfl, rfl⟩
  simp only [Machine.lane, ends.2.1, ends.2.2]

theorem trySendPathFrame_reaches (takes : os.Sends)
    (attached : PathTransportSet.Attached machine.engine.pathTransports plan)
    (routed : machine.engine.routeOf plan = some shipment) (shipped : machine.lane.ship aead shipment = some lane) :
    Reaches (trySendPathFrame os aead plan.path.pathId plan.frame plan.peerScope length fanout) machine
      fun sent next => sent = true ∧ next.lane = lane ∧ KeepsRoutes machine next := by
  obtain ⟨remote, chosen, rfl⟩ := Option.map_eq_some_iff.mp routed
  obtain ⟨⟨packets, security⟩, sealing, handing⟩ := Option.bind_eq_some_iff.mp shipped
  obtain ⟨⟨transports, handed⟩, handed_over, rfl⟩ := Option.map_eq_some_iff.mp handing
  obtain ⟨packet, rfl, step⟩ := protectAll_single sealing
  have sessions : security.sessionFor = machine.engine.transportSecurity.sessionFor := by
    have kept := @protect_sessionFor aead machine.engine.transportSecurity plan.frame.serviceId
      plan.peerScope plan.frame
    have moved : machine.engine.transportSecurity.protectFrameForServiceOrSession aead
      plan.frame.serviceId plan.peerScope
        plan.frame = (.ok packet, security) := step
    rwa [moved] at kept
  refine Reaches.bind (protectFrame_reaches step) fun value middle ready => ?_
  obtain ⟨rfl, lane, learned⟩ := ready
  have moved : middle.engine.transportSecurity = security := congrArg SendLane.security lane
  have sockets : middle.engine.pathTransports = machine.engine.pathTransports := congrArg SendLane.transports lane
  have before : middle.net.history.carried = machine.net.history.carried := congrArg SendLane.carried lane
  have kept : KeepsRoutes machine middle := ⟨learned, by rw [moved, sessions]⟩
  have sends {send : PathTransportSet.TransportM Nat}
      (inside : Reaches send (machine.engine.pathTransports, middle.net) fun _ after =>
        after.1 = transports ∧ after.2.history.carried = middle.net.history.carried ++ handed) :
      Reaches (onTransports send) middle fun _ next =>
        True ∧ next.lane = ⟨security, transports, machine.net.history.carried ++ handed⟩ ∧ KeepsRoutes middle next := by
    rw [← moved, ← before]
    refine onTransports_reaches ?_
    rw [sockets]
    exact inside.mono fun ends => ⟨trivial, ends⟩
  have looked :
    ((plan.peerScope <|> middle.engine.transportSecurity.sessionKeyForService plan.frame.serviceId).bind fun key =>
      middle.engine.learnedPathRemotes (key, plan.path.pathId)) =
      (machine.engine.transportSecurity.sessionFor plan.frame.serviceId plan.peerScope).bind fun key =>
        machine.engine.learnedPathRemotes (key, plan.path.pathId) := by
    rw [← kept.sessions, ← learned]
    rfl
  refine reaches_after_reads (Reaches.bind (Reaches.capture (sends ?_)) fun answer next ends => ?_)
  · rw [looked]
    cases known : (machine.engine.transportSecurity.sessionFor plan.frame.serviceId plan.peerScope).bind fun key =>
        machine.engine.learnedPathRemotes (key, plan.path.pathId) with
    | some found =>
      rw [known] at chosen
      obtain rfl : found = remote := Option.some.inj chosen
      exact PathTransportSet.sendFrameTo_reaches takes handed_over
    | none =>
      rw [known] at chosen
      obtain ⟨own, same, socketed⟩ := attached
      obtain rfl : own = remote := Option.some.inj (same.symm.trans chosen)
      exact PathTransportSet.sendFrame_reaches takes socketed handed_over
  · obtain ⟨count, rfl, -, shipped, keeps⟩ := ends
    exact Reaches.pure ⟨rfl, shipped, kept.trans keeps⟩

theorem trySendPathFrame_ships {sent : Bool} (attached : PathTransportSet.Attached machine.engine.pathTransports plan)
    (routed : machine.engine.routeOf plan = some shipment)
    (ran : trySendPathFrame os aead plan.path.pathId plan.frame plan.peerScope length fanout machine = .ok sent next) :
    ∃ lane, machine.lane.ship aead shipment = some lane := by
  obtain ⟨remote, chosen, rfl⟩ := Option.map_eq_some_iff.mp routed
  obtain ⟨own, same, socketed⟩ := attached
  rw [SendLane.ship]
  rcases step : machine.engine.transportSecurity.protectFrameForServiceOrSession aead
    plan.frame.serviceId plan.peerScope
    plan.frame with ⟨failure | packet, security⟩
  · have stops : Stops (protectFrame aead plan.frame plan.peerScope) machine (.crypto failure) := by
      refine Stops.attempt ?_
      simp only [step]
      rfl
    exact absurd ran stops.seq.not_ok
  · have sealing : machine.lane.security.protectAll aead [⟨plan.peerScope, plan.frame⟩] =
        some ([packet], security) := by
      simp [Machine.lane, TransportSecurity.protectAll, step]
    rw [sealing, Option.bind_some]
    cases handing : machine.lane.transports.handAll aead plan.path.pathId remote [packet] with
    | some handed => exact ⟨_, rfl⟩
    | none =>
      have stops : Stops (trySendPathFrame os aead plan.path.pathId plan.frame plan.peerScope length fanout) machine
          (.udpService .relayHopWrapFailed) := by
        refine Reaches.stops (protectFrame_reaches step) fun value middle ready => stops_after_reads ?_
        obtain ⟨rfl, lane, -⟩ := ready
        have sockets : machine.engine.pathTransports = middle.engine.pathTransports :=
          (congrArg SendLane.transports lane).symm
        rw [sockets] at socketed
        rw [show machine.lane.transports = middle.engine.pathTransports from sockets] at handing
        obtain ⟨named, unnamed⟩ := @PathTransportSet.sendFrame_stops os aead middle.net value own plan.path.pathId
          middle.engine.pathTransports remote socketed handing
        cases (plan.peerScope <|> middle.engine.transportSecurity.sessionKeyForService plan.frame.serviceId).bind
            fun key => middle.engine.learnedPathRemotes (key, plan.path.pathId) with
        | some target =>
          refine Reaches.stops (Stops.capture (Stops.focus (named target))) fun answer reached failed => ?_
          rw [failed]
          exact Stops.throw
        | none =>
          refine Reaches.stops (Stops.capture (Stops.focus unnamed)) fun answer reached failed => ?_
          rw [failed]
          exact Stops.throw
      exact absurd ran stops.not_ok

theorem recordSentDatagrams_reaches {remote : SocketAddr} (own : plan.path.transportRemote = some remote)
    (datagrams : List PlannedDatagramMeta) :
    Reaches (recordSentDatagrams now name plan datagrams) machine fun _ next =>
      next.lane = machine.lane ∧ KeepsRoutes machine next := by
  induction datagrams generalizing machine with
  | nil => exact Reaches.pure ⟨rfl, rfl, rfl⟩
  | cons datagram rest ih =>
    refine reaches_after_reads ?_
    obtain ⟨target, chosen⟩ : ∃ target, (machine.engine.sendTargetForPath plan.path.pathId datagram.peerScope <|>
        plan.path.transportRemote) = some target := by
      rw [own]
      cases machine.engine.sendTargetForPath plan.path.pathId datagram.peerScope with
      | none => exact ⟨remote, rfl⟩
      | some learned => exact ⟨learned, rfl⟩
    simp only [chosen]
    refine reaches_after_modify (Reaches.bind ih fun outcomes next ends => Reaches.pure ?_)
    exact ⟨ends.1, ends.2.learned, ends.2.sessions⟩

theorem SendLane.ship_remote {next : SendLane} (shipped : lane.ship aead shipment = some next) (pathId : PathId) :
    (next.transports.sockets pathId).map (·.remote) = (lane.transports.sockets pathId).map (·.remote) := by
  obtain ⟨sealing, -, handing⟩ := Option.bind_eq_some_iff.mp shipped
  obtain ⟨handed, handed_over, rfl⟩ := Option.map_eq_some_iff.mp handing
  exact PathTransportSet.handAll_remote handed_over pathId

theorem attached_routeOf (engine : CoreDataplane)
    (attached : PathTransportSet.Attached transports plan) : ∃ shipment, engine.routeOf plan = some shipment := by
  obtain ⟨remote, own, -⟩ := attached
  rw [CoreDataplane.routeOf, own]
  cases (engine.transportSecurity.sessionFor plan.frame.serviceId plan.peerScope).bind fun key =>
      engine.learnedPathRemotes (key, plan.path.pathId) with
  | none => exact ⟨_, rfl⟩
  | some learned => exact ⟨_, rfl⟩

/-- A serial run that succeeds has shipped every frame. -/
theorem transmitPlannedFrames_ships {outcomes : List ForwardOutcome} (takes : os.Sends)
    (attached : ∀ plan ∈ frames, PathTransportSet.Attached machine.engine.pathTransports plan)
    (ran : transmitPlannedFrames os aead now name frames machine = .ok outcomes next) :
    (∀ plan ∈ frames, plan.frame.encodedV1Len ≤ plan.path.mtu) ∧
      machine.lane.shipAll aead (frames.filterMap machine.engine.routeOf) = some next.lane := by
  induction frames generalizing machine outcomes with
  | nil =>
    cases ran
    exact ⟨fun plan member => absurd member List.not_mem_nil, rfl⟩
  | cons plan rest ih =>
    have here := attached plan List.mem_cons_self
    obtain ⟨shipment, routed⟩ := attached_routeOf machine.engine here
    obtain ⟨_, same, checked, ran⟩ := bind_ok_split ran
    have short : plan.frame.encodedV1Len ≤ plan.path.mtu := by
      by_contra long
      rw [checkPathMtu, if_pos (Nat.lt_of_not_le long)] at checked
      cases checked
    rw [checkPathMtu, if_neg (Nat.not_lt.mpr short)] at checked
    obtain rfl : machine = same := by
      cases checked
      rfl
    obtain ⟨sent, middle, tried, ran⟩ := bind_ok_split ran
    obtain ⟨first, one⟩ := trySendPathFrame_ships here routed tried
    obtain ⟨rfl, moved, keeps⟩ := (trySendPathFrame_reaches takes here routed one).of_ran tried
    obtain ⟨remote, own, -⟩ := here
    obtain ⟨reported, after, recorded, ran⟩ := bind_ok_split ran
    obtain ⟨unmoved, kept⟩ := (recordSentDatagrams_reaches own plan.datagrams).of_ran recorded
    have lane : after.lane = first := unmoved.trans moved
    obtain ⟨later, last, others, ended⟩ := bind_ok_split ran
    obtain rfl : last = next := by
      cases ended
      rfl
    have transports : after.engine.pathTransports = first.transports := congrArg SendLane.transports lane
    have still : ∀ other ∈ rest, PathTransportSet.Attached after.engine.pathTransports other := by
      intro other member
      obtain ⟨remote, own, socketed⟩ := attached other (List.mem_cons_of_mem _ member)
      refine ⟨remote, own, ?_⟩
      rw [transports, SendLane.ship_remote one]
      exact socketed
    obtain ⟨fits, shipped⟩ := ih still others
    rw [lane, (keeps.trans kept).routeOf] at shipped
    refine ⟨List.forall_mem_cons.mpr ⟨short, fits⟩, ?_⟩
    rw [List.filterMap_cons_some routed, SendLane.shipAll, one, Option.bind_some]
    exact shipped

end Serial

section Grouped

variable {os : Os} {aead : Aead} {machine : Machine} {plan : FramePlan} {lane final : SendLane}
  {now : Nat} {name : String} {frames : List FramePlan} {engine : CoreDataplane}
  {groups : List PreparedFrameGroup} {single : PreparedFrameGroup}
  {sessionFor : ServiceId → Option UInt32 → Option UInt32}

def PreparedFrameGroup.shipment (group : PreparedFrameGroup) : Shipment :=
  ⟨group.pathId, group.remote, group.items.map fun item => ⟨item.peerScope, item.frame⟩⟩

/-- All frames of a group are for the session that the group reserves counters of. -/
structure PreparedFrameGroup.OneSession (sessionFor : ServiceId → Option UInt32 → Option UInt32)
    (group : PreparedFrameGroup) : Prop where
  nonempty : group.items ≠ []
  own : sessionFor group.serviceId group.sessionKey = group.sessionKey
  shared : ∀ item ∈ group.items, sessionFor item.frame.serviceId item.peerScope = group.sessionKey

variable {security : TransportSecurity} {packets : List Bytes} {leaving : List (PreparedFrameGroup × List Bytes)}
  {protection : ReservedFrameProtection}

theorem sessionFor_self {serviceId : ServiceId} {peerScope : Option UInt32} :
    security.sessionFor serviceId (security.sessionFor serviceId peerScope) =
      security.sessionFor serviceId peerScope := by
  unfold TransportSecurity.sessionFor
  cases peerScope with
  | some peer => rfl
  | none => cases security.sessionKeyForService serviceId <;> rfl

theorem prepareFrame_ok {shipment : Shipment} (fits : engine.transportSecurity.pathFrameLen plan.frame ≤ plan.path.mtu)
    (routed : engine.routeOf plan = some shipment) :
    ∃ single, engine.prepareFrame plan = .ok single ∧ single.shipment.singles = [shipment] ∧
      single.OneSession engine.transportSecurity.sessionFor := by
  obtain ⟨remote, chosen, rfl⟩ := Option.map_eq_some_iff.mp routed
  have short : ¬engine.transportSecurity.pathFrameLen plan.frame > plan.path.mtu := Nat.not_lt.mpr fits
  rw [TransportSecurity.sessionFor] at chosen
  simp only [CoreDataplane.prepareFrame, if_neg short, chosen]
  refine ⟨_, rfl, rfl, ⟨by simp, ?_, ?_⟩⟩
  · exact sessionFor_self
  · intro item member
    rw [List.mem_singleton.mp member]
    rfl

theorem appendGroup_routes (oneSession : ∀ group ∈ groups, group.OneSession sessionFor)
    (one : single.OneSession sessionFor) :
    (appendGroup groups single).flatMap (·.shipment.singles) =
        groups.flatMap (·.shipment.singles) ++ single.shipment.singles ∧
      ∀ group ∈ appendGroup groups single, group.OneSession sessionFor := by
  rcases List.eq_nil_or_concat' groups with rfl | ⟨init, last, rfl⟩
  · simpa [appendGroup] using one
  · have ends := oneSession last (by simp)
    simp only [appendGroup, List.getLast?_concat, List.dropLast_concat]
    split
    · rename_i same
      obtain ⟨path, remote, session⟩ := same
      constructor
      · simp [PreparedFrameGroup.shipment, Shipment.singles, path, remote]
      · intro group member
        rcases List.mem_append.mp member with earlier | joined
        · exact oneSession group (List.mem_append_left _ earlier)
        · obtain rfl := List.mem_singleton.mp joined
          refine ⟨by simp [ends.nonempty], ends.own, fun item inside => ?_⟩
          rcases List.mem_append.mp inside with old | new
          · exact ends.shared item old
          · exact (one.shared item new).trans session.symm
    · constructor
      · simp
      · intro group member
        rcases List.mem_append.mp member with earlier | added
        · exact oneSession group earlier
        · rwa [List.mem_singleton.mp added]

theorem prepareGroups_ok (fits : ∀ plan ∈ frames, plan.frame.encodedV1Len ≤ plan.path.mtu)
    (routed : ∀ plan ∈ frames, (engine.routeOf plan).isSome)
    (oneSession : ∀ group ∈ groups, group.OneSession engine.transportSecurity.sessionFor) :
    ∃ prepared, engine.prepareGroups groups frames = .ok prepared ∧
      prepared.flatMap (·.shipment.singles) =
        groups.flatMap (·.shipment.singles) ++ frames.filterMap engine.routeOf ∧
      ∀ group ∈ prepared, group.OneSession engine.transportSecurity.sessionFor := by
  induction frames generalizing groups with
  | nil => exact ⟨groups, rfl, by simp, oneSession⟩
  | cons plan rest ih =>
    obtain ⟨shipment, route⟩ := Option.isSome_iff_exists.mp (routed plan List.mem_cons_self)
    have short : engine.transportSecurity.pathFrameLen plan.frame ≤ plan.path.mtu :=
      (TransportSecurity.pathFrameLen_le _ _).trans (fits plan List.mem_cons_self)
    obtain ⟨single, made, alone, one⟩ := prepareFrame_ok short route
    obtain ⟨routes, sound⟩ := appendGroup_routes oneSession one
    obtain ⟨prepared, done, all, sessions⟩ := ih (fun other member => fits other (List.mem_cons_of_mem _ member))
      (fun other member => routed other (List.mem_cons_of_mem _ member)) sound
    refine ⟨prepared, ?_, ?_, sessions⟩
    · rw [CoreDataplane.prepareGroups, made]
      exact done
    · rw [all, routes, alone, List.filterMap_cons_some route, List.append_assoc, List.singleton_append]

/-- Groups leave one after another, each with the packets made of its frames. -/
inductive Leaves (aead : Aead) : SendLane → List (PreparedFrameGroup × List Bytes) → SendLane → Prop where
  | none (lane : SendLane) : Leaves aead lane [] lane
  | group {lane final : SendLane} {group : PreparedFrameGroup} {packets : List Bytes} {security : TransportSecurity}
      {transports : PathTransportSet} {handed : List CarriedPacket}
      {rest : List (PreparedFrameGroup × List Bytes)}
      (sealing : lane.security.protectAll aead group.shipment.items = some (packets, security))
      (handing : lane.transports.handAll aead group.pathId group.remote packets = some (transports, handed))
      (later : Leaves aead ⟨security, transports, lane.carried ++ handed⟩ rest final) :
      Leaves aead lane ((group, packets) :: rest) final

theorem leaves_of_shipAll (shipped : lane.shipAll aead (groups.map (·.shipment)) = some final) :
    ∃ leaving, leaving.map Prod.fst = groups ∧ Leaves aead lane leaving final := by
  induction groups generalizing lane with
  | nil =>
    obtain rfl := Option.some.inj shipped
    exact ⟨[], rfl, .none lane⟩
  | cons group rest ih =>
    obtain ⟨next, one, others⟩ := Option.bind_eq_some_iff.mp shipped
    obtain ⟨⟨packets, security⟩, sealing, more⟩ := Option.bind_eq_some_iff.mp one
    obtain ⟨⟨transports, handed⟩, handing, rfl⟩ := Option.map_eq_some_iff.mp more
    obtain ⟨leaving, same, later⟩ := ih others
    exact ⟨(group, packets) :: leaving, by rw [List.map_cons, same], .group sealing handing later⟩

theorem protectAll_sessionFor {next : TransportSecurity} {items : List Outbound}
    (done : security.protectAll aead items = some (packets, next)) : next.sessionFor = security.sessionFor := by
  induction items generalizing security packets with
  | nil =>
    obtain ⟨-, rfl⟩ := Prod.ext_iff.mp (Option.some.inj done)
    rfl
  | cons item rest ih =>
    obtain ⟨packet, later, others, step, tail, rfl⟩ := TransportSecurity.protectAll_cons done
    have kept := @protect_sessionFor aead security item.frame.serviceId item.peerScope item.frame
    rw [step] at kept
    exact (ih tail).trans kept

/-- The packets of a group are what its reservation makes of its frames. -/
def Reserved (aead : Aead) (entry : PreparedFrameGroup × ReservedFrameProtection)
    (leaving : PreparedFrameGroup × List Bytes) : Prop :=
  entry.1 = leaving.1 ∧ List.Forall₂ (fun (item : PreparedFramePlan × Nat) packet =>
    entry.2.protectFrame aead item.2 item.1.frame = .ok packet) leaving.1.items.zipIdx leaving.2

theorem reserveGroups_reaches (leaves : Leaves aead lane leaving final)
    (security : machine.engine.transportSecurity = lane.security)
    (oneSession : ∀ entry ∈ leaving, entry.1.OneSession lane.security.sessionFor) :
    Reaches (reserveGroups (leaving.map Prod.fst)) machine fun reserved next =>
      next.lane = { machine.lane with security := final.security } ∧ List.Forall₂ (Reserved aead) reserved leaving := by
  induction leaves generalizing machine with
  | none lane => exact Reaches.pure ⟨by rw [← security]; rfl, .nil⟩
  | @group lane final group packets later transports handed rest sealing handing _ ih =>
    have one := oneSession _ List.mem_cons_self
    obtain ⟨protection, reserved, seals⟩ := TransportSecurity.reserve_protects sealing
      (by simpa [PreparedFrameGroup.shipment] using one.nonempty) one.own
      (by simpa [PreparedFrameGroup.shipment] using one.shared)
    have kept : later.sessionFor = lane.security.sessionFor := protectAll_sessionFor sealing
    simp only [PreparedFrameGroup.shipment, List.length_map] at reserved
    simp only [PreparedFrameGroup.shipment, List.zipIdx_map, List.forall₂_map_left_iff] at seals
    have first : Reaches (reserveFrameProtection group) machine fun value next => value = protection ∧
        next = { machine with engine := { machine.engine with transportSecurity := later } } := by
      refine Reaches.attempt (show _ = Except.ok protection from ?_) ⟨rfl, ?_⟩
      · simp only [security, reserved]
        rfl
      · simp only [security, reserved]
    refine Reaches.bind first fun value middle ready => ?_
    obtain ⟨rfl, rfl⟩ := ready
    have tail := @ih { machine with engine := { machine.engine with transportSecurity := later } } rfl
      (fun entry member => by
        rw [kept]
        exact oneSession entry (List.mem_cons_of_mem _ member))
    refine Reaches.bind tail fun others next ends => Reaches.pure ⟨ends.1, .cons ⟨rfl, seals⟩ ends.2⟩

theorem protectItemChunk_all {items : List (PreparedFramePlan × Nat)}
    (seals : List.Forall₂ (fun (item : PreparedFramePlan × Nat) packet =>
      protection.protectFrame aead item.2 item.1.frame = .ok packet) items packets) :
    (protectItemChunk aead protection items).1.map (·.packet) = packets ∧
      (protectItemChunk aead protection items).2 = none := by
  induction seals with
  | nil => exact ⟨rfl, rfl⟩
  | cons one _ ih =>
    simp only [protectItemChunk, one]
    exact ⟨by rw [List.map_cons, ih.1], ih.2⟩

/-- However the workers share the frames, they make the packets in the order of the frames. -/
theorem chunks_seal {pieces : List (List (PreparedFramePlan × Nat))}
    (seals : List.Forall₂ (fun (item : PreparedFramePlan × Nat) packet =>
      protection.protectFrame aead item.2 item.1.frame = .ok packet) pieces.flatten packets) :
    ((pieces.map (protectItemChunk aead protection)).flatMap (·.1)).map (·.packet) = packets ∧
      (pieces.map (protectItemChunk aead protection)).findSome? (·.2) = none := by
  induction pieces generalizing packets with
  | nil =>
    cases seals
    exact ⟨rfl, rfl⟩
  | cons piece rest ih =>
    rw [List.flatten_cons] at seals
    have here := List.forall₂_take piece.length seals
    have more := List.forall₂_drop piece.length seals
    rw [List.take_left] at here
    rw [List.drop_left] at more
    obtain ⟨made, fine⟩ := protectItemChunk_all here
    obtain ⟨others, clean⟩ := ih more
    constructor
    · rw [List.map_cons, List.flatMap_cons, List.map_append, made, others, List.take_append_drop]
    · rw [List.map_cons, List.findSome?_cons, fine]
      exact clean

def SealedAs (ready : ProtectedFrameGroup) (leaving : PreparedFrameGroup × List Bytes) : Prop :=
  ready.pathId = leaving.1.pathId ∧ ready.remote = leaving.1.remote ∧ ready.items.map (·.packet) = leaving.2

theorem protectGroups_reaches {reserved : List (PreparedFrameGroup × ReservedFrameProtection)}
    (seals : List.Forall₂ (Reserved aead) reserved leaving) :
    Reaches (protectGroups os aead reserved) machine fun ready next =>
      next.lane = machine.lane ∧ List.Forall₂ SealedAs ready leaving := by
  induction seals generalizing machine with
  | nil => exact Reaches.pure ⟨rfl, .nil⟩
  | @cons entry target _ _ one _ ih =>
    obtain ⟨group, protection⟩ := entry
    obtain ⟨source, packets⟩ := target
    obtain ⟨same, items⟩ := one
    obtain rfl : group = source := same
    rw [← workerChunks_flatten os] at items
    obtain ⟨made, fine⟩ := chunks_seal items
    have first : Reaches (protectGroup os aead group protection) machine fun ready next =>
        next.lane = machine.lane ∧ SealedAs ready (group, packets) := by
      refine reaches_after_modify ?_
      simp only [fine]
      exact Reaches.pure ⟨rfl, rfl, rfl, made⟩
    refine Reaches.bind first fun ready middle here => ?_
    refine Reaches.bind (@ih middle) fun more next ends => Reaches.pure ⟨ends.1.trans here.1, .cons here.2 ends.2⟩

theorem recordProtectedGroupSend_lane (group : ProtectedFrameGroup) (sent : Nat) :
    Reaches (recordProtectedGroupSend now name group sent) machine fun _ next => next.lane = machine.lane := by
  have kept (record : Machine → PreparedFrameSend → Machine)
    (same : ∀ machine send, (record machine send).lane = machine.lane)
      (sends : List PreparedFrameSend) (machine : Machine) : (sends.foldl record machine).lane = machine.lane := by
    induction sends generalizing machine with
    | nil => rfl
    | cons send rest ih => rw [List.foldl_cons, ih, same]
  refine Reaches.modify ?_
  rw [kept (recordFailedFrame group.pathId) fun _ _ => rfl, kept (recordSentFrame now name group.pathId) fun _ _ => rfl]

theorem sendGroups_reach (takes : os.Sends) {ready : List ProtectedFrameGroup} (leaves : Leaves aead lane leaving final)
    (made : List.Forall₂ SealedAs ready leaving) (nonempty : ∀ entry ∈ leaving, entry.1.items ≠ [])
    (start : machine.lane = { lane with security := machine.engine.transportSecurity }) :
    Reaches (ready.forM (sendGroup os aead now name)) machine fun _ next =>
      next.lane = { final with security := machine.engine.transportSecurity } := by
  induction leaves generalizing machine ready with
  | none lane =>
    cases made
    exact Reaches.pure start
  | @group lane final group packets security transports handed rest sealing handing _ ih =>
    obtain ⟨entry, others, ⟨path, remote, items⟩, more, rfl⟩ := List.forall₂_cons_right_iff.mp made
    have occupied : packets ≠ [] := by
      have length := TransportSecurity.protectAll_length sealing
      intro empty
      rw [empty, PreparedFrameGroup.shipment, List.length_map] at length
      exact nonempty _ List.mem_cons_self (List.length_eq_zero_iff.mp length.symm)
    have transported : machine.engine.pathTransports = lane.transports := congrArg SendLane.transports start
    have carried : machine.net.history.carried = lane.carried := congrArg SendLane.carried start
    have sends : Reaches (onTransports (PathTransportSet.sendFramesTo os aead entry.pathId
        (entry.items.map (·.packet)) entry.remote)) machine fun _ next => True ∧
          next.lane = ⟨machine.engine.transportSecurity, transports, lane.carried ++ handed⟩ ∧
          KeepsRoutes machine next := by
      refine onTransports_reaches ?_
      rw [path, remote, items, transported, ← carried]
      exact (PathTransportSet.sendFramesTo_reaches takes occupied handing).mono fun ends => ⟨trivial, ends.2⟩
    have first : Reaches (sendGroup os aead now name entry) machine fun _ next =>
        next.lane = ⟨machine.engine.transportSecurity, transports, lane.carried ++ handed⟩ := by
      refine Reaches.bind sends.capture fun answer middle ends => ?_
      obtain ⟨count, rfl, -, moved, -⟩ := ends
      exact (recordProtectedGroupSend_lane entry count).mono fun same => same.trans moved
    refine Reaches.bind first fun _ middle moved => ?_
    have same : middle.engine.transportSecurity = machine.engine.transportSecurity := congrArg SendLane.security moved
    have tail := @ih middle others more (fun entry member => nonempty entry (List.mem_cons_of_mem _ member))
      (by rw [same]; exact moved)
    rwa [same] at tail

/-- Grouped, every frame goes where it is routed. -/
theorem transmitPlannedFramesSummary_reaches (takes : os.Sends)
    (fits : ∀ plan ∈ frames, plan.frame.encodedV1Len ≤ plan.path.mtu)
    (routed : ∀ plan ∈ frames, (machine.engine.routeOf plan).isSome)
    (shipped : machine.lane.shipAll aead (frames.filterMap machine.engine.routeOf) = some lane) :
    Reaches (transmitPlannedFramesSummary os aead now name frames) machine fun _ next => next.lane = lane := by
  obtain ⟨groups, prepared, routes, oneSession⟩ := @prepareGroups_ok frames machine.engine [] fits routed
    fun group member => absurd member List.not_mem_nil
  have grouped : machine.lane.shipAll aead (groups.map (·.shipment)) = some lane := by
    rw [← SendLane.shipAll_flatMap_singles, List.flatMap_map, routes]
    exact shipped
  obtain ⟨leaving, rfl, leaves⟩ := leaves_of_shipAll grouped
  have sound : ∀ entry ∈ leaving, entry.1.OneSession machine.engine.transportSecurity.sessionFor :=
    fun entry member => oneSession entry.1 (List.mem_map_of_mem member)
  refine reaches_after_modify (reaches_after_reads ?_)
  simp only [prepared]
  refine Reaches.bind (reserveGroups_reaches leaves rfl sound) fun reserved middle ends => ?_
  refine Reaches.bind (protectGroups_reaches ends.2) fun ready later made => ?_
  have security : later.engine.transportSecurity = lane.security :=
    congrArg SendLane.security (made.1.trans ends.1)
  refine Reaches.bind (sendGroups_reach takes leaves made.2 (fun entry member => (sound entry member).nonempty) ?_)
    fun _ next sent => Reaches.reads ?_
  · rw [security]
    exact made.1.trans ends.1
  · rw [sent, security]

/-- Whenever the serial transmit succeeds, the grouped one does too, with any number of workers: the same packets to the
same remotes in the same order, and the same counters in every session and relay hop. -/
theorem grouped_transmit_as_serial {workers : Os} {outcomes : List ForwardOutcome} {next : Machine}
    (takes : os.Sends) (workersTake : workers.Sends)
    (attached : ∀ plan ∈ frames, PathTransportSet.Attached machine.engine.pathTransports plan)
    (ran : transmitPlannedFrames os aead now name frames machine = .ok outcomes next) :
    ∃ summary after, transmitPlannedFramesSummary workers aead now name frames machine = .ok summary after ∧
      after.net.history.carried = next.net.history.carried ∧
      after.engine.pathTransports = next.engine.pathTransports ∧
      after.engine.transportSecurity = next.engine.transportSecurity := by
  obtain ⟨fits, shipped⟩ := transmitPlannedFrames_ships takes attached ran
  have routed : ∀ plan ∈ frames, (machine.engine.routeOf plan).isSome := by
    intro plan member
    obtain ⟨shipment, route⟩ := attached_routeOf machine.engine (attached plan member)
    rw [route]
    rfl
  obtain ⟨summary, after, done, lane⟩ :
      Reaches (transmitPlannedFramesSummary workers aead now name frames) machine fun _ after =>
        after.lane = next.lane :=
    transmitPlannedFramesSummary_reaches workersTake fits routed shipped
  exact ⟨summary, after, done, congrArg SendLane.carried lane, congrArg SendLane.transports lane,
    congrArg SendLane.security lane⟩

/-- A datagram of the service on its only path. -/
def appPlan (sequence : SequenceNumber) (payload : Bytes)
    (fits : decide (payload.length ≤ MAX_FRAME_PAYLOAD_LEN) = true) :
    FramePlan :=
  ⟨appFrame .data 300 sequence payload fits, heldPath 0, [⟨.v4 4 1, none, sequence, false, payload.length⟩], 1⟩

def appPlans : List FramePlan := [appPlan 1 [1] (Eq.refl true), appPlan 2 [2, 3] (Eq.refl true)]

theorem two_frames_in_one_group :
    ∃ outcomes next, transmitPlannedFrames .willing .transparent 0 "app" appPlans (heldMachine 0) = .ok outcomes next ∧
      ∃ summary after,
        transmitPlannedFramesSummary { Os.willing with availableParallelism := 4 } .transparent 0 "app" appPlans
          (heldMachine 0) = .ok summary after ∧
        after.net.history.carried = next.net.history.carried ∧
        after.engine.pathTransports = next.engine.pathTransports ∧
        after.engine.transportSecurity = next.engine.transportSecurity := by
  have succeeds :
      (outcome (transmitPlannedFrames .willing .transparent 0 "app" appPlans (heldMachine 0))).isOk = true := by
    decide
  obtain ⟨outcomes, next, ran, -⟩ := reaches_of_isOk succeeds
  have attached : ∀ plan ∈ appPlans, PathTransportSet.Attached (heldMachine 0).engine.pathTransports plan := by
    intro plan member
    rcases List.mem_pair.mp member with rfl | rfl <;> exact ⟨.v4 2 1, rfl, rfl⟩
  refine ⟨outcomes, next, ran, grouped_transmit_as_serial Os.willing_accepts.sends ?_ attached ran⟩
  exact ⟨Os.willing_accepts.sendTo, Os.willing_accepts.sendmmsg⟩

end Grouped

end Gatherlink.Engine
