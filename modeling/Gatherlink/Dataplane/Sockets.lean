import Gatherlink.Dataplane.Udp

/-! Path transport sockets: the optional relay-hop wrapper with its own counter, and the socket
set that a reapply rebuilds around preserved sockets. -/

namespace Gatherlink.Dataplane
open Protocol Crypto Lib.BigEndian Lib.Lookup Lib.Exec

def SMALL_PACKET_PATH_DRAIN_QUANTUM : Nat := 32
def LARGE_PACKET_PATH_DRAIN_QUANTUM : Nat := 16
def LARGE_PACKET_MTU_THRESHOLD : Nat := 1500

def drainQuantumForPath (path : CorePathConfig) : Nat :=
  if path.mtu > LARGE_PACKET_MTU_THRESHOLD then LARGE_PACKET_PATH_DRAIN_QUANTUM
  else SMALL_PACKET_PATH_DRAIN_QUANTUM

structure RelayHopSendState where
  relayReceiverIndex : UInt32
  sendKey : Key
  nextCounter : Nat
  counterFits : nextCounter < 2 ^ 64
  deriving DecidableEq

namespace RelayHopSendState

def fromConfig (config : RelayHopSendConfig) : RelayHopSendState where
  relayReceiverIndex := config.relayReceiverIndex
  sendKey := config.sendKey
  nextCounter := 0
  counterFits := first_counter_fits

/-- The counter after one more packet; it wraps around. -/
def advance (state : RelayHopSendState) : RelayHopSendState :=
  { state with
    nextCounter := (state.nextCounter + 1) % 2 ^ 64
    counterFits := Nat.mod_lt _ (by norm_num) }

def wrap (aead : Aead) (state : RelayHopSendState) (endpointPacket : Bytes) :
    Except CryptoError Bytes × RelayHopSendState :=
  (encryptFrameWithCounter aead state.relayReceiverIndex state.sendKey state.nextCounter endpointPacket,
    state.advance)

end RelayHopSendState

structure PathTransportSocket where
  pathId : PathId
  socket : UdpSocket
  remote : Option SocketAddr
  relaySend : Option RelayHopSendState
  drainQuantum : Nat
  deriving DecidableEq

/-- A path socket together with the network it acts on. -/
abbrev SocketM := EStateM UdpServiceError (PathTransportSocket × Net)

def onNet {α : Type} (program : EStateM UdpServiceError Net α) : SocketM α :=
  focus Prod.snd (fun state net => (state.1, net)) id program

namespace PathTransportSocket

variable (os : Os) (aead : Aead)

/-- The metadata a socket takes from its path, with a relay counter starting at zero. -/
def attach (path : CorePathConfig) (socket : UdpSocket) : PathTransportSocket where
  pathId := path.pathId
  socket := socket
  remote := path.transportRemote
  relaySend := path.relaySend.map .fromConfig
  drainQuantum := drainQuantumForPath path

def bind (path : CorePathConfig) : EStateM UdpServiceError Net (Option PathTransportSocket) := do
  match path.transportBind with
  | none => pure none
  | some address => do
      let socket ← bindSocket os address
      require .configureSocketFailed os.configure
      pure (some (attach path socket))

def canPreserveFor (current : PathTransportSocket) (path : CorePathConfig) : EStateM UdpServiceError Net Bool := do
  if current.pathId = path.pathId then do
    require .localAddrFailed os.localAddr
    pure (some current.socket.localAddr == path.transportBind)
  else pure false

def cloneWithPath (current : PathTransportSocket) (path : CorePathConfig) :
    EStateM UdpServiceError Net PathTransportSocket := do
  require .cloneFailed os.tryClone
  pure (attach path current.socket)

/-- One packet through the relay-hop wrapper, if the path has one. The counter is spent even when
sealing fails. -/
def wrapPacket (frame : Bytes) : SocketM Bytes :=
  attempt fun state =>
    match state.1.relaySend with
    | none => (.ok frame, state)
    | some relay =>
        let (result, next) := relay.wrap aead frame
        (result.mapError fun _ => .relayHopWrapFailed,
          ({ state.1 with relaySend := some next }, state.2.wrap [(relay.sendKey, result.toOption)]))

def sendFrameTo (frame : Bytes) (remote : SocketAddr) : SocketM Nat := do
  let packet ← wrapPacket aead frame
  let pathId ← reads (·.1.pathId)
  onNet do
    let sent ← require .sendFailed (os.sendTo · packet.length)
    modify (·.carry [⟨pathId, remote, packet⟩])
    pure sent

def sendFrame (frame : Bytes) : SocketM Nat := do
  let socket ← reads (·.1)
  match socket.remote with
  | none => throw (.missingPathRemote socket.pathId)
  | some remote => sendFrameTo os aead frame remote

/-- Wrap every packet first, stopping at the first failure. -/
def wrapPackets : List Bytes → SocketM (List Bytes)
  | [] => pure []
  | frame :: rest => do
      let packet ← wrapPacket aead frame
      let packets ← wrapPackets rest
      pure (packet :: packets)

def sendFramesTo (frames : List Bytes) (remote : SocketAddr) : SocketM Nat := do
  if frames.isEmpty then pure 0
  else do
    let packets ← wrapPackets aead frames
    let pathId ← reads (·.1.pathId)
    onNet (focus id (fun _ net => net) .sendFailed
      (sendUdpMany os Net.carry (packets.map fun packet => ⟨pathId, remote, packet⟩)))

end PathTransportSocket

/-- Bound path sockets by path id; `pathOrder` lists exactly the ids that have one. -/
structure PathTransportSet where
  sockets : HashMap PathId PathTransportSocket
  pathOrder : List PathId
  drainCursor : Nat

namespace PathTransportSet

variable (os : Os) (aead : Aead)

def empty : PathTransportSet := ⟨fun _ => none, [], 0⟩

def isEmpty (transports : PathTransportSet) : Bool := transports.pathOrder.isEmpty

def add (transports : PathTransportSet) (pathId : PathId) (socket : PathTransportSocket) : PathTransportSet :=
  { transports with
    sockets := insert transports.sockets pathId socket
    pathOrder := transports.pathOrder ++ [pathId] }

def bindFrom (transports : PathTransportSet) : List CorePathConfig → EStateM UdpServiceError Net PathTransportSet
  | [] => pure transports
  | path :: rest => do
      match ← PathTransportSocket.bind os path with
      | none => bindFrom transports rest
      | some socket => bindFrom (transports.add path.pathId socket) rest

def bind (paths : List CorePathConfig) : EStateM UdpServiceError Net PathTransportSet :=
  bindFrom os empty paths

def bindRequired (path : CorePathConfig) : EStateM UdpServiceError Net PathTransportSocket := do
  match ← PathTransportSocket.bind os path with
  | none => throw (.missingPathTransport path.pathId)
  | some socket => pure socket

/-- A live socket is duplicated when its id and address still match, and bound anew otherwise. -/
def rebindPath (current : PathTransportSet) (path : CorePathConfig) :
    EStateM UdpServiceError Net PathTransportSocket := do
  match current.sockets path.pathId with
  | none => bindRequired os path
  | some socket => do
      if ← socket.canPreserveFor os path then socket.cloneWithPath os path else bindRequired os path

def rebindFrom (current transports : PathTransportSet) :
    List CorePathConfig → EStateM UdpServiceError Net PathTransportSet
  | [] => pure transports
  | path :: rest =>
      if path.transportBind.isNone then rebindFrom current transports rest
      else do
        let socket ← current.rebindPath os path
        rebindFrom current (transports.add path.pathId socket) rest

def rebindPreserving (current : PathTransportSet) (paths : List CorePathConfig) :
    EStateM UdpServiceError Net PathTransportSet := do
  let rebuilt ← rebindFrom os current empty paths
  pure { rebuilt with
    drainCursor := if rebuilt.pathOrder.isEmpty then 0 else current.drainCursor % rebuilt.pathOrder.length }

/-- The socket set together with the network it acts on. -/
abbrev TransportM := EStateM UdpServiceError (PathTransportSet × Net)

/-- Run a program on one path's socket and put the socket back. -/
def withSocket {α : Type} (pathId : PathId) (program : SocketM α) : TransportM α := do
  let found ← reads (·.1.sockets pathId)
  match found with
  | none => throw (.missingPathTransport pathId)
  | some socket =>
      focus (fun state : PathTransportSet × Net => (socket, state.2))
        (fun state inner => ({ state.1 with sockets := insert state.1.sockets pathId inner.1 }, inner.2)) id program

def sendFrame (pathId : PathId) (frame : Bytes) : TransportM Nat :=
  withSocket pathId (PathTransportSocket.sendFrame os aead frame)

def sendFrameTo (pathId : PathId) (frame : Bytes) (remote : SocketAddr) : TransportM Nat :=
  withSocket pathId (PathTransportSocket.sendFrameTo os aead frame remote)

def sendFramesTo (pathId : PathId) (frames : List Bytes) (remote : SocketAddr) : TransportM Nat :=
  withSocket pathId (PathTransportSocket.sendFramesTo os aead frames remote)

end PathTransportSet

end Gatherlink.Dataplane
