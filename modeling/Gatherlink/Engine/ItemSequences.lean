import Gatherlink.Engine.DetailedReceive

/-! The sequence numbers of the items of a batch frame. Four loops of the receive path give item `index`
the number `sequence + index`, where `sequence` is whatever the peer wrote into the frame. -/

namespace Gatherlink.Engine
open Protocol Dataplane Lib.BigEndian

/-- One item of a batch frame under the number computed for it. -/
structure BatchItem where
  sequence : SequenceNumber
  payload : Bytes
  deriving DecidableEq

/-- Every payload with the sum of the frame's number and its index, as 64-bit addition leaves it. -/
def batchItems (base : SequenceNumber) (payloads : List Bytes) : List BatchItem :=
  payloads.mapIdx fun index payload => ⟨base + UInt64.ofNat index, payload⟩

theorem batchItems_cons (base : SequenceNumber) (payload : Bytes) (rest : List Bytes) :
    batchItems base (payload :: rest) = ⟨base, payload⟩ :: batchItems (base + 1) rest := by
  have shift (index : Nat) : base + UInt64.ofNat (index + 1) = base + 1 + UInt64.ofNat index := by
    rw [UInt64.ofNat_add, UInt64.add_comm (UInt64.ofNat index), ← UInt64.add_assoc]
    rfl
  have first : base + UInt64.ofNat 0 = base := UInt64.add_zero base
  simp only [batchItems, List.mapIdx_cons, shift, first]

section Loops

variable (os : Os) (now : Nat) (frame : Frame) (frameBytes : Nat) (serviceId : ServiceId) (pathId : PathId)
  (peerScope : Option UInt32)

variable (base : SequenceNumber) (payloads : List Bytes)

theorem queueBatchPayloads_eq :
    queueBatchPayloads os now serviceId pathId peerScope base payloads =
      (batchItems base payloads).forM fun item =>
        queueFirstSeen os now pathId ⟨serviceId, peerScope, item.sequence⟩ item.payload := by
  induction payloads generalizing base with
  | nil => rfl
  | cons payload rest ih =>
    rw [batchItems_cons, queueBatchPayloads, ih]
    rfl

theorem observeReservedBatch_eq :
    observeReservedBatch now frame frameBytes peerScope base payloads =
      (batchItems base payloads).forM fun item => observeReservedPayload now
        ⟨frame.serviceId, frame.pathId, item.sequence, item.payload, frameBytes, peerScope⟩ := by
  induction payloads generalizing base with
  | nil => rfl
  | cons payload rest ih =>
    rw [batchItems_cons, observeReservedBatch, ih]
    rfl

/-- What dedupe leaves of one item. -/
def observeItem (item : BatchItem) : Run (List PendingRemoteEmit) := do
  let observation ← observeUserPayloadFirstSeen now ⟨serviceId, peerScope, item.sequence⟩ pathId item.payload.length
  pure (observation.map fun observation => ⟨item.payload, item.sequence, observation⟩).toList

theorem observeBatch_eq :
    observeBatch now serviceId pathId peerScope base payloads =
      List.flatten <$> (batchItems base payloads).mapM (observeItem now serviceId pathId peerScope) := by
  induction payloads generalizing base with
  | nil => rfl
  | cons payload rest ih =>
    rw [batchItems_cons, List.mapM_cons, observeBatch, ih]
    simp only [observeItem, map_eq_pure_bind, bind_assoc, pure_bind, List.flatten_cons]

/-- What the detailed call makes of one item. -/
def deliverItem (item : BatchItem) : Run (List RemoteDeliverOutcome) :=
  if isReservedServiceId frame.serviceId then do
    observeReservedPayload now ⟨frame.serviceId, frame.pathId, item.sequence, item.payload, frameBytes, peerScope⟩
    pure []
  else deliverFirstSeen os now frame.pathId ⟨frame.serviceId, peerScope, item.sequence⟩ item.payload

theorem deliverBatch_eq :
    deliverBatch os now frame frameBytes peerScope base payloads =
      List.flatten <$> (batchItems base payloads).mapM (deliverItem os now frame frameBytes peerScope) := by
  induction payloads generalizing base with
  | nil => rfl
  | cons payload rest ih =>
    rw [batchItems_cons, List.mapM_cons, deliverBatch, ih]
    simp only [deliverItem, map_eq_pure_bind, bind_assoc, pure_bind, List.flatten_cons]

end Loops

/-- The four loops of the receive path handle exactly these items of a batch frame. -/
structure HandledAs (frame : Frame) (payloads : List Bytes) (items : List BatchItem) : Prop where
  detailed : ∀ os now frameBytes peerScope, deliverBatch os now frame frameBytes peerScope frame.sequence payloads =
    List.flatten <$> items.mapM (deliverItem os now frame frameBytes peerScope)
  reserved : ∀ now frameBytes peerScope,
    observeReservedBatch now frame frameBytes peerScope frame.sequence payloads = items.forM fun item =>
      observeReservedPayload now ⟨frame.serviceId, frame.pathId, item.sequence, item.payload, frameBytes, peerScope⟩
  emitted : ∀ now peerScope, observeBatch now frame.serviceId frame.pathId peerScope frame.sequence payloads =
    List.flatten <$> items.mapM (observeItem now frame.serviceId frame.pathId peerScope)
  queued : ∀ os now peerScope,
    queueBatchPayloads os now frame.serviceId frame.pathId peerScope frame.sequence payloads = items.forM fun item =>
      queueFirstSeen os now frame.pathId ⟨frame.serviceId, peerScope, item.sequence⟩ item.payload

theorem handledAs_batchItems (frame : Frame) (payloads : List Bytes) :
    HandledAs frame payloads (batchItems frame.sequence payloads) where
  detailed os now frameBytes peerScope := deliverBatch_eq os now frame frameBytes peerScope _ _
  reserved now frameBytes peerScope := observeReservedBatch_eq now frame frameBytes peerScope _ _
  emitted now peerScope := observeBatch_eq now frame.serviceId frame.pathId peerScope _ _
  queued os now peerScope := queueBatchPayloads_eq os now frame.serviceId frame.pathId peerScope _ _

theorem batchItems_sequence {base : SequenceNumber} {payloads : List Bytes} {index : Nat}
    (inside : index < payloads.length) :
    ((batchItems base payloads)[index]?).map (·.sequence.toNat) = some ((base.toNat + index) % 2 ^ 64) := by
  have wrapped : (base + UInt64.ofNat index).toNat = (base.toNat + index) % 2 ^ 64 := by
    rw [UInt64.toNat_add, UInt64.toNat_ofNat', Nat.add_mod_mod]
  simp [batchItems, List.getElem?_eq_getElem inside, wrapped]

/-- Every loop of the receive path computes the numbers of a batch frame's items without overflow exactly when
the frame leaves room for all of them above its own number. -/
theorem item_sequences_exact_iff (frame : Frame) (payloads : List Bytes) :
    ∃ items, HandledAs frame payloads items ∧
      ((∀ index < payloads.length, (items[index]?).map (·.sequence.toNat) = some (frame.sequence.toNat + index)) ↔
        frame.sequence.toNat + payloads.length ≤ 2 ^ 64) := by
  refine ⟨_, handledAs_batchItems frame payloads, ?_⟩
  have narrow := frame.sequence.toNat_lt
  constructor
  · intro exact
    by_contra tight
    have inside : payloads.length - 1 < payloads.length := by omega
    have last := exact _ inside
    rw [batchItems_sequence inside, Option.some.injEq] at last
    have bound : (frame.sequence.toNat + (payloads.length - 1)) % 2 ^ 64 < 2 ^ 64 := Nat.mod_lt _ (by norm_num)
    omega
  · intro room index inside
    rw [batchItems_sequence inside, Nat.mod_eq_of_lt (by omega)]

/-- Two items of one byte each behind the given number. -/
def pairFrame (serviceId : ServiceId) (sequence : SequenceNumber) : Frame :=
  appFrame .batch serviceId sequence [0, 2, 0, 1, 7, 0, 1, 8] (Eq.refl true)

/-- A peer announces two items behind the largest number: the second one is received under number zero. -/
theorem item_sequences_wrap :
    let after := run .willing .transparent
      [.receiveListed [peerSends 0 (pairFrame 9 18446744073709551615)] ⟨0, []⟩] (heldMachine 0)
    Started .willing 0 (heldConfig 0) (heldMachine 0) ∧
      (pairFrame 9 18446744073709551615).batchPayloads = .ok [[7], [8]] ∧
      after.engine.reservedEvents.map (fun event => (event.sequence, event.payload)) =
        [(18446744073709551615, [7]), (0, [8])] := by
  refine ⟨⟨Net.blank, rfl, rfl⟩, by decide, by decide⟩

end Gatherlink.Engine
