import Gatherlink.Dataplane.Dedupe
import Gatherlink.Dataplane.Fragmentation
import Gatherlink.Lib.Exec
import Gatherlink.Lib.Lookup

/-! UDP sockets over an operating system that answers each system call as it likes, and the
app-facing services that use them. `History` records what the dataplane did; no modelled function
reads it. -/

namespace Gatherlink.Dataplane
open Protocol Crypto Lib.BigEndian Lib.Lookup Lib.Exec

/-- Answers to system calls, by the number of calls made before. -/
structure Os where
  bind : Nat → SocketAddr → Except IoErrorKind SocketAddr
  configure : Nat → Except IoErrorKind Unit
  localAddr : Nat → Except IoErrorKind Unit
  tryClone : Nat → Except IoErrorKind Unit
  sendTo : Nat → Nat → Except IoErrorKind Nat
  sendmmsg : Nat → Nat → Except IoErrorKind Nat
  recvmmsg : Nat → Except IoErrorKind Unit
  availableParallelism : Nat

/-- An operating system that grants every call in full, to run the model on. -/
def Os.willing : Os where
  bind _ address := .ok address
  configure _ := .ok ()
  localAddr _ := .ok ()
  tryClone _ := .ok ()
  sendTo _ length := .ok length
  sendmmsg _ count := .ok count
  recvmmsg _ := .ok ()
  availableParallelism := 1

/-- A duplicated socket shares its id, its address and its receive queue. -/
structure UdpSocket where
  id : Nat
  localAddr : SocketAddr
  deriving DecidableEq

/-- A datagram waiting in a receive queue, with the time at which it will be processed. -/
structure Arrival where
  source : SocketAddr
  bytes : Bytes
  now : Nat
  deriving DecidableEq

/-- One payload handed to an application socket, with the frame position it came from. -/
structure Emission where
  serviceId : ServiceId
  peerScope : Option UInt32
  sequence : SequenceNumber
  target : SocketAddr
  payload : Bytes
  deriving DecidableEq

structure CarriedPacket where
  pathId : PathId
  remote : SocketAddr
  bytes : Bytes
  deriving DecidableEq

/-- One frame given to reassembly, the session it came from with the key that opened it, and what reassembly answered.
-/
structure Push where
  peerScope : Option UInt32
  receiveKey : Option Key
  frame : Frame
  result : Except DataplaneError (Option Bytes)
  deriving DecidableEq

/-- `opened` and `protectedPackets` list the packets accepted and sealed under session keys, `wrapped`
those given to a relay-hop wrapper with what it sealed, each with its key; `pushed` and `observed`
list what reassembly and dedupe were asked and answered. -/
structure History where
  opened : List (Key × Nat) := []
  protectedPackets : List (Key × Bytes) := []
  wrapped : List (Key × Option Bytes) := []
  pushed : List Push := []
  observed : List (DedupeKey × DedupeObservation) := []
  emitted : List Emission := []
  carried : List CarriedPacket := []

structure Net where
  calls : Nat
  nextSocketId : Nat
  inbound : Nat → List Arrival
  history : History

def Net.blank : Net := ⟨0, 0, fun _ => [], {}⟩

namespace Net

variable (net : Net)

def emit (emissions : List Emission) : Net :=
  { net with history := { net.history with emitted := net.history.emitted ++ emissions } }

def carry (packets : List CarriedPacket) : Net :=
  { net with history := { net.history with carried := net.history.carried ++ packets } }

def wrap (packets : List (Key × Option Bytes)) : Net :=
  { net with history := { net.history with wrapped := net.history.wrapped ++ packets } }

def protect (packets : List (Key × Bytes)) : Net :=
  { net with history := { net.history with protectedPackets := net.history.protectedPackets ++ packets } }

def open' (packets : List (Key × Nat)) : Net :=
  { net with history := { net.history with opened := net.history.opened ++ packets } }

def push (pushes : List Push) : Net :=
  { net with history := { net.history with pushed := net.history.pushed ++ pushes } }

def observe (observations : List (DedupeKey × DedupeObservation)) : Net :=
  { net with history := { net.history with observed := net.history.observed ++ observations } }

end Net

section Calls

variable {ε α : Type}

def ask (answer : Nat → Except IoErrorKind α) : EStateM ε Net (Except IoErrorKind α) :=
  modifyGet fun net => (answer net.calls, { net with calls := net.calls + 1 })

def require (error : IoErrorKind → ε) (answer : Nat → Except IoErrorKind α) : EStateM ε Net α := do
  match ← ask answer with
  | .ok value => pure value
  | .error kind => throw (error kind)

def IoErrorKind.transient : IoErrorKind → Bool
  | .wouldBlock | .timedOut | .interrupted => true
  | .other => false

def RECV_BATCH_LIMIT : Nat := 64

/-- The `sendmmsg` loop: batches of at most 64, resumed behind the datagrams the kernel took. A
transient failure after some progress ends the loop; any other failure is reported, although
earlier batches have left. -/
def sendLoop (os : Os) (note : Net → List α → Net) : Nat → Nat → List α → EStateM IoErrorKind Net Nat
  | 0, sent, _ => pure sent
  | _ + 1, sent, [] => pure sent
  | fuel + 1, sent, first :: rest => do
      let batch := (first :: rest).take RECV_BATCH_LIMIT
      match ← ask (os.sendmmsg · batch.length) with
      | .error kind => if kind.transient ∧ sent > 0 then pure sent else throw kind
      | .ok accepted =>
          let count := min accepted batch.length
          if count = 0 then pure sent
          else do
            modify (note · (batch.take count))
            sendLoop os note fuel (sent + count) ((first :: rest).drop count)

def sendUdpMany (os : Os) (note : Net → List α → Net) (items : List α) : EStateM IoErrorKind Net Nat :=
  sendLoop os note items.length 0 items

def bindSocket (os : Os) (address : SocketAddr) : EStateM UdpServiceError Net UdpSocket := do
  let bound ← require .bindFailed (os.bind · address)
  modifyGet fun net => (⟨net.nextSocketId, bound⟩, { net with nextSocketId := net.nextSocketId + 1 })

end Calls

/-- The app-facing socket of one service, with its per-peer source sockets. -/
structure UserlandUdpService where
  config : UdpServiceConfig
  socket : UdpSocket
  peerSources : HashMap UInt32 UdpSocket

namespace UserlandUdpService

variable (os : Os)

def fromBoundSocket (config : UdpServiceConfig) (socket : UdpSocket) :
    EStateM UdpServiceError Net UserlandUdpService := do
  require .configureSocketFailed os.configure
  require .configureSocketFailed os.configure
  pure ⟨config, socket, empty⟩

def bind (config : UdpServiceConfig) : EStateM UdpServiceError Net UserlandUdpService := do
  match config.listen with
  | none => throw .missingListenAddress
  | some listen => do
      let socket ← bindSocket os listen
      fromBoundSocket os config socket

def canPreserveSocketFor (service : UserlandUdpService) (config : UdpServiceConfig) :
    EStateM UdpServiceError Net Bool := do
  if service.config.name ≠ config.name then pure false
  else if service.config.listen = config.listen then pure true
  else do
    require .localAddrFailed os.localAddr
    pure (some service.socket.localAddr == config.listen)

/-- Duplicating the peer sources succeeds for all of them or fails. -/
def cloneWithConfig (service : UserlandUdpService) (config : UdpServiceConfig) :
    EStateM UdpServiceError Net UserlandUdpService := do
  if ← service.canPreserveSocketFor os config then do
    require .cloneFailed os.tryClone
    let cloned ← fromBoundSocket os config service.socket
    require .cloneFailed os.tryClone
    pure { cloned with peerSources := service.peerSources }
  else throw (.incompatibleListenReapply config.name service.config.listen config.listen)

def emitTo (emission : Emission) : EStateM UdpServiceError Net Nat := do
  let sent ← require .sendFailed (os.sendTo · emission.payload.length)
  modify (·.emit [emission])
  pure sent

def emitManyTo (emissions : List Emission) : EStateM UdpServiceError Net Nat :=
  focus id (fun _ net => net) .sendFailed (sendUdpMany os Net.emit emissions)

def bindPeerSource (target : SocketAddr) : EStateM UdpServiceError Net UdpSocket := do
  let socket ← bindSocket os target.withPortZero
  require .configureSocketFailed os.configure
  require .configureSocketFailed os.configure
  pure socket

/-- The peer's source socket is created on first use. -/
def ensurePeerSource (peerScope : UInt32) (target : SocketAddr) :
    EStateM UdpServiceError (UserlandUdpService × Net) PUnit := do
  let bound ← reads fun state => (state.1.peerSources peerScope).isSome
  if bound then pure ⟨⟩
  else do
    let source ← focus Prod.snd (fun state net => (state.1, net)) id (bindPeerSource os target)
    modify fun state =>
      ({ state.1 with peerSources := insert state.1.peerSources peerScope source }, state.2)

/-- A failed send keeps the source socket. -/
def emitToFromPeerSource (peerScope : UInt32) (emission : Emission) :
    EStateM UdpServiceError (UserlandUdpService × Net) Nat := do
  ensurePeerSource os peerScope emission.target
  focus Prod.snd (fun state net => (state.1, net)) id do
    let sent ← emitTo os emission
    require .localAddrFailed os.localAddr
    pure sent

end UserlandUdpService

end Gatherlink.Dataplane
