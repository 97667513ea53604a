import Gatherlink.Dataplane.Config
import Gatherlink.Lib.Chunks
import Gatherlink.Lib.Lookup

/-! Cutting one planned datagram into fragment frames, and the reassembly map that joins them. -/

namespace Gatherlink.Dataplane
open Protocol Lib.BigEndian Lib.Lookup Lib.Chunks

structure PlannedDatagramMeta where
  source : SocketAddr
  peerScope : Option UInt32
  sequence : SequenceNumber
  expectedFanout : Bool
  payloadLen : Nat
  deriving DecidableEq

structure PlannedDatagram where
  payload : Bytes
  source : SocketAddr
  peerScope : Option UInt32
  sequence : SequenceNumber
  serviceId : ServiceId
  path : CorePathConfig
  fragment : Option UInt32
  expectedFanout : Bool
  deriving DecidableEq

def PlannedDatagram.toMeta (datagram : PlannedDatagram) : PlannedDatagramMeta :=
  ⟨datagram.source, datagram.peerScope, datagram.sequence, datagram.expectedFanout, datagram.payload.length⟩

structure FramePlan where
  frame : Frame
  path : CorePathConfig
  datagrams : List PlannedDatagramMeta
  fragmentCount : Nat
  deriving DecidableEq

def FramePlan.peerScope (plan : FramePlan) : Option UInt32 := plan.datagrams.findSome? (·.peerScope)

def FramePlan.expectedFanout (plan : FramePlan) : Bool := plan.datagrams.any (·.expectedFanout)

def protocolResult {α : Type} : Except ProtocolError α → Except DataplaneError α
  | .ok value => .ok value
  | .error error => .error (.protocol error)

def fragmentFrame (datagram : PlannedDatagram) (datagramId : UInt32) (fragmentCount : Nat)
    (index : Nat) (chunk : Bytes) : Except DataplaneError FramePlan := do
  let fragment ← protocolResult (FragmentInfo.new datagramId (UInt16.ofNat index)
    (UInt16.ofNat fragmentCount) datagram.payload.length)
  let frame ← protocolResult (Frame.newFragment datagram.serviceId datagram.path.pathId datagram.sequence
    fragment chunk)
  .ok ⟨frame, datagram.path, [datagram.toMeta], fragmentCount⟩

/-- The loop over the payload's chunks, from the chunk at `index` on. -/
def fragmentFrames (datagram : PlannedDatagram) (datagramId : UInt32) (fragmentCount : Nat) :
    Nat → List Bytes → Except DataplaneError (List FramePlan)
  | _, [] => .ok []
  | index, chunk :: rest => do
      let plan ← fragmentFrame datagram datagramId fragmentCount index chunk
      let plans ← fragmentFrames datagram datagramId fragmentCount (index + 1) rest
      .ok (plan :: plans)

def fragmentDatagram (datagram : PlannedDatagram) : Except DataplaneError (List FramePlan) :=
  let maxFragmentPayload := datagram.path.maxFragmentPayload
  if maxFragmentPayload = 0 then .error .noPathAvailable
  else
    let fragmentCount := (datagram.payload.length + maxFragmentPayload - 1) / maxFragmentPayload
    if fragmentCount > 65535 then .error (.tooManyFragments fragmentCount)
    else
      match datagram.fragment with
      | none => .error .invalidFragmentPlan
      | some datagramId =>
          fragmentFrames datagram datagramId fragmentCount 0 (chunks maxFragmentPayload datagram.payload)

/-- One partly received datagram. The counter always agrees with the filled slots. -/
structure FragmentBuffer where
  originalLen : Nat
  chunks : List (Option Bytes)
  received : Nat
  counted : received = chunks.countP (·.isSome)

private theorem countP_set_some {slots : List (Option Bytes)} {index : Nat} {payload : Bytes}
    (inside : index < slots.length) :
    (slots.set index (some payload)).countP (·.isSome) =
      if slots[index].isNone then slots.countP (·.isSome) + 1 else slots.countP (·.isSome) := by
  induction slots generalizing index with
  | nil => simp at inside
  | cons slot rest ih =>
    cases index with
    | zero => cases slot <;> simp
    | succ index =>
      have step := ih (by simpa using inside)
      simp only [List.set_cons_succ, List.countP_cons, List.getElem_cons_succ, step]
      split <;> omega

namespace FragmentBuffer

def new (fragment : FragmentInfo) : FragmentBuffer where
  originalLen := fragment.originalLen.toNat
  chunks := List.replicate fragment.fragmentCount.toNat none
  received := 0
  counted := by rw [List.countP_replicate]; rfl

/-- Fill one slot; a repeated index overwrites it. -/
def store (buffer : FragmentBuffer) (index : Nat) (payload : Bytes) (inside : index < buffer.chunks.length) :
    FragmentBuffer where
  originalLen := buffer.originalLen
  chunks := buffer.chunks.set index (some payload)
  received := if buffer.chunks[index].isNone then buffer.received + 1 else buffer.received
  counted := by rw [countP_set_some inside, buffer.counted]

def push (buffer : FragmentBuffer) (fragment : FragmentInfo) (payload : Bytes) :
    Except DataplaneError (Option Bytes) × FragmentBuffer :=
  let index := fragment.fragmentIndex.toNat
  if fragment.originalLen.toNat ≠ buffer.originalLen then (.error .invalidFragmentPlan, buffer)
  else if inside : index < buffer.chunks.length then
    let stored := buffer.store index payload inside
    if stored.received ≠ stored.chunks.length then (.ok none, stored)
    else
      match stored.chunks.mapM id with
      | none => (.error .invalidFragmentPlan, stored)
      | some pieces =>
          if pieces.flatten.length ≠ stored.originalLen then (.error .invalidFragmentPlan, stored)
          else (.ok (some pieces.flatten), stored)
  else (.error .invalidFragmentPlan, buffer)

end FragmentBuffer

structure FragmentReassembly where
  datagrams : HashMap UInt32 FragmentBuffer

namespace FragmentReassembly

def default : FragmentReassembly := ⟨empty⟩

/-- An unfragmented frame yields its payload at once; a fragment goes to the buffer of its
datagram id, which is dropped when it yields the payload and kept when it reports an error. -/
def pushFrameOrPayload (reassembly : FragmentReassembly) (frame : Frame) :
    Except DataplaneError (Option Bytes) × FragmentReassembly :=
  match frame.fragment with
  | none => (.ok (some frame.payload), reassembly)
  | some fragment =>
      let buffer := (reassembly.datagrams fragment.datagramId).getD (.new fragment)
      match buffer.push fragment frame.payload with
      | (.ok (some payload), _) => (.ok (some payload), ⟨remove reassembly.datagrams fragment.datagramId⟩)
      | (result, pushed) => (result, ⟨insert reassembly.datagrams fragment.datagramId pushed⟩)

end FragmentReassembly

end Gatherlink.Dataplane
