import Gatherlink.Dataplane.Sockets

/-! What socket code can do to the ledgers: application and carrier sends leave them alone, and a
path socket only advances its relay counter, recording what it sealed. -/

namespace Gatherlink.Dataplane
open Crypto Lib.BigEndian Lib.Lookup Lib.Exec

/-- The parts of the history that keys and reassembly are accounted in. -/
def Net.ledgers (net : Net) : List (Key × Nat) × List (Key × Bytes) × List (Key × Option Bytes) × List Push :=
  (net.history.opened, net.history.protectedPackets, net.history.wrapped, net.history.pushed)

/-- The ledgers together with the packets handed to the path sockets. -/
def Net.records (net : Net) :
    (List (Key × Nat) × List (Key × Bytes) × List (Key × Option Bytes) × List Push) × List CarriedPacket :=
  (net.ledgers, net.history.carried)

section Calls

variable {ε α : Type} (os : Os) {R : Net → Net → Prop}
  (asked : ∀ net : Net, R net { net with calls := net.calls + 1 })

include asked

theorem ask_moves (answer : Nat → Except IoErrorKind α) :
    Moves R (ask answer : EStateM ε Net (Except IoErrorKind α)) :=
  Moves.modifyGet fun net => asked net

variable [IsPreorder Net R]

theorem require_moves (error : IoErrorKind → ε) (answer : Nat → Except IoErrorKind α) :
    Moves R (require error answer) := by
  refine Moves.bind (ask_moves asked answer) fun result => ?_
  cases result with
  | ok value => exact Moves.pure _
  | error kind => exact Moves.throw _

variable {items : List α}

theorem sendLoop_moves {note : Net → List α → Net} (fuel sent : Nat)
    (noted : ∀ net, ∀ sent ⊆ items, R net (note net sent)) : Moves R (sendLoop os note fuel sent items) := by
  induction fuel generalizing sent items with
  | zero => exact Moves.pure _
  | succ fuel ih =>
    cases items with
    | nil => exact Moves.pure _
    | cons first rest =>
      refine Moves.bind (ask_moves asked _) fun result => ?_
      cases result with
      | error kind => exact Moves.ite (fun _ => Moves.pure _) fun _ => Moves.throw _
      | ok accepted =>
        refine Moves.ite (fun _ => Moves.pure _) fun _ => ?_
        have batch : ((first :: rest).take RECV_BATCH_LIMIT).take
            (min accepted ((first :: rest).take RECV_BATCH_LIMIT).length) ⊆ first :: rest :=
          List.Subset.trans (List.take_subset ..) (List.take_subset ..)
        exact Moves.bind (Moves.modify fun net => noted net _ batch) fun _ =>
          ih _ fun net sent within => noted net sent (List.Subset.trans within (List.drop_subset ..))

theorem sendUdpMany_moves {note : Net → List α → Net}
    (noted : ∀ net, ∀ sent ⊆ items, R net (note net sent)) : Moves R (sendUdpMany os note items) :=
  sendLoop_moves os asked _ _ noted

end Calls

section Quiet

variable {ε α : Type} (os : Os)

theorem ask_quiet (answer : Nat → Except IoErrorKind α) :
    Moves (Same Net.records) (ask answer : EStateM ε Net (Except IoErrorKind α)) :=
  ask_moves (R := Same Net.records) (fun _ => rfl) answer

theorem require_quiet (error : IoErrorKind → ε) (answer : Nat → Except IoErrorKind α) :
    Moves (Same Net.records) (require error answer) :=
  require_moves (R := Same Net.records) (fun _ => rfl) error answer

theorem bindSocket_quiet (address : SocketAddr) : Moves (Same Net.records) (bindSocket os address) :=
  Moves.bind (require_quiet _ _) fun _ => Moves.modifyGet fun _ => rfl

namespace UserlandUdpService

theorem fromBoundSocket_quiet (config : UdpServiceConfig) (socket : UdpSocket) :
    Moves (Same Net.records) (fromBoundSocket os config socket) :=
  Moves.bind (require_quiet _ _) fun _ => Moves.bind (require_quiet _ _) fun _ => Moves.pure _

theorem bind_quiet (config : UdpServiceConfig) : Moves (Same Net.records) (UserlandUdpService.bind os config) := by
  unfold UserlandUdpService.bind
  cases config.listen with
  | none => exact Moves.throw _
  | some listen => exact Moves.bind (bindSocket_quiet os listen) fun socket => fromBoundSocket_quiet os config socket

theorem canPreserveSocketFor_quiet (service : UserlandUdpService) (config : UdpServiceConfig) :
    Moves (Same Net.records) (service.canPreserveSocketFor os config) :=
  Moves.ite (fun _ => Moves.pure _) fun _ => Moves.ite (fun _ => Moves.pure _) fun _ =>
    Moves.bind (require_quiet _ _) fun _ => Moves.pure _

theorem cloneWithConfig_quiet (service : UserlandUdpService) (config : UdpServiceConfig) :
    Moves (Same Net.records) (service.cloneWithConfig os config) := by
  refine Moves.bind (canPreserveSocketFor_quiet os service config) fun preserved => ?_
  refine Moves.ite (fun _ => ?_) fun _ => Moves.throw _
  exact Moves.bind (require_quiet _ _) fun _ => Moves.bind (fromBoundSocket_quiet os _ _) fun _ =>
    Moves.bind (require_quiet _ _) fun _ => Moves.pure _

theorem emitTo_quiet (emission : Emission) : Moves (Same Net.records) (emitTo os emission) :=
  Moves.bind (require_quiet _ _) fun _ => Moves.bind (Moves.modify fun _ => rfl) fun _ => Moves.pure _

theorem emitManyTo_quiet (emissions : List Emission) : Moves (Same Net.records) (emitManyTo os emissions) :=
  Moves.focus (sendUdpMany_moves (R := Same Net.records) os (fun _ => rfl) fun _ _ _ => rfl) fun _ _ same => same

theorem emitToFromPeerSource_quiet (peerScope : UInt32) (emission : Emission) :
    Moves (Same fun state : UserlandUdpService × Net => state.2.records)
      (emitToFromPeerSource os peerScope emission) := by
  refine Moves.bind (Moves.bind (Moves.reads _) fun bound => ?_) fun _ => ?_
  · refine Moves.ite (fun _ => Moves.pure _) fun _ => ?_
    refine Moves.bind (Moves.focus (S := Same Net.records) ?_ fun _ _ same => same) fun _ => Moves.modify fun _ => rfl
    exact Moves.bind (bindSocket_quiet os _) fun _ => Moves.bind (require_quiet _ _) fun _ =>
      Moves.bind (require_quiet _ _) fun _ => Moves.pure _
  · refine Moves.focus (S := Same Net.records) ?_ fun _ _ same => same
    exact Moves.bind (emitTo_quiet os emission) fun _ => Moves.bind (require_quiet _ _) fun _ => Moves.pure _

end UserlandUdpService

end Quiet

section Wraps

variable (aead : Aead)

/-- What a relay-hop state wraps on its way to a later state. -/
inductive Wraps (start : Option RelayHopSendState) : List (Key × Option Bytes) → Option RelayHopSendState → Prop
  | idle : Wraps start [] start
  | spent {entries : List (Key × Option Bytes)} {relay : RelayHopSendState} (frame : Bytes) :
      Wraps start entries (some relay) →
        Wraps start (entries ++ [(relay.sendKey, (relay.wrap aead frame).1.toOption)]) (some relay.advance)

variable {aead}

theorem Wraps.trans {start middle stop : Option RelayHopSendState} {first second : List (Key × Option Bytes)}
    (head : Wraps aead start first middle) (tail : Wraps aead middle second stop) :
    Wraps aead start (first ++ second) stop := by
  induction tail with
  | idle => rwa [List.append_nil]
  | spent frame _ ih =>
    rw [← List.append_assoc]
    exact ih.spent frame

/-- A path socket keeps everything but its relay counter, and the ledgers gain what it sealed. -/
def SocketStep (aead : Aead) (before after : PathTransportSocket × Net) : Prop :=
  ∃ entries, Wraps aead before.1.relaySend entries after.1.relaySend ∧
    after.1 = { before.1 with relaySend := after.1.relaySend } ∧
    after.2.ledgers = (before.2.wrap entries).ledgers

instance : IsPreorder (PathTransportSocket × Net) (SocketStep aead) where
  refl state := ⟨[], .idle, rfl, by simp [Net.ledgers, Net.wrap]⟩
  trans before middle after := by
    rintro ⟨first, head, same, ledgers⟩ ⟨second, tail, same', ledgers'⟩
    refine ⟨first ++ second, head.trans tail, ?_, ?_⟩
    · rw [same', same]
    · simp only [Net.ledgers, Net.wrap, Prod.mk.injEq] at ledgers ledgers' ⊢
      simp [ledgers, ledgers']

variable (os : Os)

theorem onNet_step {α : Type} {program : EStateM UdpServiceError Net α} (quiet : Moves (Same Net.ledgers) program) :
    Moves (SocketStep aead) (onNet program) := by
  refine Moves.focus quiet fun state net same => ⟨[], .idle, rfl, ?_⟩
  rw [show net.ledgers = state.2.ledgers from same]
  simp [Net.ledgers, Net.wrap]

namespace PathTransportSocket

theorem wrapPacket_step (frame : Bytes) : Moves (SocketStep aead) (wrapPacket aead frame) := by
  refine Moves.attempt fun state => ?_
  cases relayed : state.1.relaySend with
  | none => exact refl_of (SocketStep aead) state
  | some relay =>
    have start : Wraps aead state.1.relaySend [] (some relay) := relayed ▸ .idle
    exact ⟨_, start.spent frame, rfl, rfl⟩

theorem sendFrameTo_step (frame : Bytes) (remote : SocketAddr) :
    Moves (SocketStep aead) (sendFrameTo os aead frame remote) :=
  Moves.bind (wrapPacket_step frame) fun _ => Moves.bind (Moves.reads _) fun _ =>
    onNet_step (Moves.bind (require_moves (R := Same Net.ledgers) (fun _ => rfl) _ _) fun _ =>
      Moves.bind (Moves.modify fun _ => rfl) fun _ => Moves.pure _)

theorem sendFrame_step (frame : Bytes) : Moves (SocketStep aead) (sendFrame os aead frame) := by
  refine Moves.bind (Moves.reads _) fun socket => ?_
  cases socket.remote with
  | none => exact Moves.throw _
  | some remote => exact sendFrameTo_step os frame remote

theorem wrapPackets_step (frames : List Bytes) : Moves (SocketStep aead) (wrapPackets aead frames) := by
  induction frames with
  | nil => exact Moves.pure _
  | cons frame rest ih => exact Moves.bind (wrapPacket_step frame) fun _ => Moves.bind ih fun _ => Moves.pure _

theorem sendFramesTo_step (frames : List Bytes) (remote : SocketAddr) :
    Moves (SocketStep aead) (sendFramesTo os aead frames remote) :=
  Moves.ite (fun _ => Moves.pure _) fun _ => Moves.bind (wrapPackets_step frames) fun _ =>
    Moves.bind (Moves.reads _) fun _ =>
      onNet_step (Moves.focus (sendUdpMany_moves (R := Same Net.ledgers) os (fun _ => rfl) fun _ _ _ => rfl)
        fun _ _ same => same)

end PathTransportSocket

end Wraps

section Rebind

variable (os : Os)

/-- Every socket carries the metadata of a path that asks for one. -/
def AttachedFrom (paths : List CorePathConfig) (transports : PathTransportSet) : Prop :=
  ∀ ⦃pathId socket⦄, transports.sockets pathId = some socket → ∃ path ∈ paths, path.pathId = pathId ∧
    path.transportBind.isSome ∧ socket = .attach path socket.socket

variable {paths all : List CorePathConfig} {transports : PathTransportSet}

theorem AttachedFrom.add {path : CorePathConfig}
    {socket : PathTransportSocket} (attached : AttachedFrom paths transports) (listed : path ∈ paths)
    (bound : path.transportBind.isSome) (here : socket = .attach path socket.socket) :
    AttachedFrom paths (transports.add path.pathId socket) := by
  intro pathId other found
  simp only [PathTransportSet.add, insert_apply] at found
  split_ifs at found with same
  · rw [← Option.some.inj found]
    exact ⟨path, listed, same.symm, bound, here⟩
  · exact attached found

theorem bind_attaches (path : CorePathConfig) :
    Returns (fun socket => ∀ found, socket = some found →
      path.transportBind.isSome ∧ found = .attach path found.socket) (PathTransportSocket.bind os path) := by
  unfold PathTransportSocket.bind
  cases path.transportBind with
  | none =>
    rintro state value next ⟨⟩ found ⟨⟩
  | some address =>
    refine Returns.skip fun socket => Returns.skip fun _ => ?_
    rintro state value next ⟨⟩ found ⟨⟩
    exact ⟨rfl, rfl⟩

section
variable (paths : List CorePathConfig)

theorem bindFrom_attached (within : paths ⊆ all) (attached : AttachedFrom all transports) :
    Returns (AttachedFrom all) (PathTransportSet.bindFrom os transports paths) := by
  induction paths generalizing transports with
  | nil =>
    rintro state value next ⟨⟩
    exact attached
  | cons path rest ih =>
    obtain ⟨listed, others⟩ := List.cons_subset.mp within
    refine Returns.bind (bind_attaches os path) fun socket here => ?_
    cases socket with
    | none => exact ih others attached
    | some socket =>
      obtain ⟨bound, made⟩ := here socket rfl
      exact ih others (attached.add listed bound made)

theorem attachedFrom_empty : AttachedFrom paths PathTransportSet.empty := by
  intro pathId socket found
  cases found

theorem PathTransportSet.bind_attached :
    Returns (AttachedFrom paths) (PathTransportSet.bind os paths) :=
  bindFrom_attached os paths (List.Subset.refl _) (attachedFrom_empty paths)

end

theorem bindRequired_attaches (path : CorePathConfig) :
    Returns (fun socket => socket = .attach path socket.socket) (PathTransportSet.bindRequired os path) := by
  refine Returns.bind (bind_attaches os path) fun socket attached => ?_
  cases socket with
  | none => rintro state value next ⟨⟩
  | some socket =>
    rintro state value next ⟨⟩
    exact (attached socket rfl).2

section
variable (current : PathTransportSet)

theorem rebindPath_attaches (path : CorePathConfig) :
    Returns (fun socket => socket = .attach path socket.socket) (current.rebindPath os path) := by
  unfold PathTransportSet.rebindPath
  cases current.sockets path.pathId with
  | none => exact bindRequired_attaches os path
  | some socket =>
    refine Returns.skip fun preserved => ?_
    cases preserved with
    | false => exact bindRequired_attaches os path
    | true =>
      refine Returns.skip fun _ => ?_
      rintro state value next ⟨⟩
      rfl

theorem rebindFrom_attached (paths : List CorePathConfig)
    (within : paths ⊆ all) (attached : AttachedFrom all transports) :
    Returns (AttachedFrom all) (PathTransportSet.rebindFrom os current transports paths) := by
  induction paths generalizing transports with
  | nil =>
    rintro state value next ⟨⟩
    exact attached
  | cons path rest ih =>
    obtain ⟨listed, others⟩ := List.cons_subset.mp within
    rw [PathTransportSet.rebindFrom]
    by_cases unbound : path.transportBind.isNone
    · rw [if_pos unbound]
      exact ih others attached
    · rw [if_neg unbound]
      refine Returns.bind (rebindPath_attaches os current path) fun socket made => ih others ?_
      exact attached.add listed (by simpa [Option.isSome_iff_ne_none] using unbound) made

theorem rebindPreserving_attached (paths : List CorePathConfig) :
    Returns (AttachedFrom paths) (current.rebindPreserving os paths) := by
  refine Returns.bind (rebindFrom_attached os current paths (List.Subset.refl _) (attachedFrom_empty paths))
    fun rebuilt good => ?_
  rintro state value next ⟨⟩
  exact good

end

/-- Every socket belongs to a path that asks for one, and its relay counter is at its start. -/
def RebuiltFrom (paths : List CorePathConfig) (rebuilt : PathTransportSet) : Prop :=
  ∀ ⦃pathId socket⦄, rebuilt.sockets pathId = some socket → ∃ path ∈ paths, path.pathId = pathId ∧
    path.transportBind.isSome ∧ socket.relaySend = path.relaySend.map .fromConfig

theorem AttachedFrom.rebuilt (attached : AttachedFrom paths transports) : RebuiltFrom paths transports := by
  intro pathId socket found
  obtain ⟨path, listed, same, bound, here⟩ := attached found
  exact ⟨path, listed, same, bound, congrArg PathTransportSocket.relaySend here⟩

theorem PathTransportSocket.bind_quiet (path : CorePathConfig) :
    Moves (Same Net.records) (PathTransportSocket.bind os path) := by
  unfold PathTransportSocket.bind
  cases path.transportBind with
  | none => exact Moves.pure _
  | some address =>
    exact Moves.bind (bindSocket_quiet os _) fun _ => Moves.bind (require_quiet _ _) fun _ => Moves.pure _

theorem PathTransportSet.bind_quiet (paths : List CorePathConfig) :
    Moves (Same Net.records) (PathTransportSet.bind os paths) := by
  have all : ∀ (paths : List CorePathConfig) (transports : PathTransportSet),
      Moves (Same Net.records) (PathTransportSet.bindFrom os transports paths) := by
    intro paths
    induction paths with
    | nil => exact fun _ => Moves.pure _
    | cons path rest ih =>
      refine fun transports => Moves.bind (PathTransportSocket.bind_quiet os path) fun socket => ?_
      cases socket <;> exact ih _
  exact all paths _

theorem rebindPreserving_quiet (current : PathTransportSet) (paths : List CorePathConfig) :
    Moves (Same Net.records) (current.rebindPreserving os paths) := by
  have bound (path : CorePathConfig) : Moves (Same Net.records) (PathTransportSet.bindRequired os path) := by
    refine Moves.bind (PathTransportSocket.bind_quiet os path) fun socket => ?_
    cases socket with
    | none => exact Moves.throw _
    | some socket => exact Moves.pure _
  have path (path : CorePathConfig) : Moves (Same Net.records) (current.rebindPath os path) := by
    unfold PathTransportSet.rebindPath
    cases current.sockets path.pathId with
    | none => exact bound path
    | some socket =>
      refine Moves.bind (Moves.ite (fun _ => Moves.bind (require_quiet _ _) fun _ =>
        Moves.pure _) fun _ => Moves.pure _)
        fun preserved => Moves.ite (fun _ => ?_) fun _ => bound path
      exact Moves.bind (require_quiet _ _) fun _ => Moves.pure _
  have all : ∀ (paths : List CorePathConfig) (transports : PathTransportSet),
      Moves (Same Net.records) (PathTransportSet.rebindFrom os current transports paths) := by
    intro paths
    induction paths with
    | nil => exact fun _ => Moves.pure _
    | cons next rest ih =>
      exact fun transports => Moves.ite (fun _ => ih _) fun _ => Moves.bind (path next) fun _ => ih _
  exact Moves.bind (all paths _) fun _ => Moves.pure _

end Rebind

end Gatherlink.Dataplane
