import Gatherlink.Engine.ReplaySafety

/-! Packets that fail authentication, the receiver index or the replay check leave no trace but the
security-drop counters. Everything behind authentication is blind to those counters. -/

namespace Gatherlink.Dataplane
open Protocol Lib.Lookup

def CounterSnapshot.withoutDrops (row : CounterSnapshot) : CounterSnapshot :=
  { row with securityDropPackets := 0, securityDropBytes := 0 }

/-- The rows without their security-drop counters; an absent row counts as an empty one. -/
def rowsWithoutDrops (rows : HashMap PathId CounterSnapshot) : HashMap PathId CounterSnapshot :=
  fun pathId => some ((rows pathId).getD {}).withoutDrops

theorem rowsWithoutDrops_upsert (rows : HashMap PathId CounterSnapshot) (pathId : PathId)
    {change : CounterSnapshot → CounterSnapshot}
    (blind : ∀ row, (change row).withoutDrops = change row.withoutDrops) :
    rowsWithoutDrops (upsert rows pathId {} change) = upsert (rowsWithoutDrops rows) pathId {} change := by
  funext other
  simp only [rowsWithoutDrops, upsert, insert_apply]
  by_cases same : other = pathId
  · simp [same, blind]
  · simp [same]

namespace DataplaneMetrics

def withoutDrops (metrics : DataplaneMetrics) : DataplaneMetrics :=
  { metrics with paths := rowsWithoutDrops metrics.paths, securityDrops := {} }

variable (metrics : DataplaneMetrics) (now : Nat) (pathId : PathId)

theorem recordReceive_withoutDrops (sequence : SequenceNumber) (payloadLen : Nat) (peerScope : Option UInt32) :
    metrics.withoutDrops.recordReceive now pathId sequence payloadLen peerScope =
      ((metrics.recordReceive now pathId sequence payloadLen peerScope).1,
        (metrics.recordReceive now pathId sequence payloadLen peerScope).2.withoutDrops) := by
  have blind (nowUs : Nat) (observation : SequenceObservation) (row : CounterSnapshot) :
      (row.recordRx payloadLen nowUs observation).withoutDrops =
        row.withoutDrops.recordRx payloadLen nowUs observation := by
    unfold CounterSnapshot.recordRx
    split <;> rfl
  simp only [recordReceive, observeSequence, withoutDrops, elapsedUs, rowsWithoutDrops_upsert _ _ (blind _ _)]

theorem recordDuplicateReceive_withoutDrops (serviceName : Option String) (serviceId : ServiceId) (payloadLen : Nat)
    (expected : Bool) :
    metrics.withoutDrops.recordDuplicateReceive serviceName serviceId pathId payloadLen expected =
      (metrics.recordDuplicateReceive serviceName serviceId pathId payloadLen expected).withoutDrops := by
  have blind (row : CounterSnapshot) : (row.recordDuplicateRx payloadLen expected).withoutDrops =
      row.withoutDrops.recordDuplicateRx payloadLen expected := by
    cases expected <;> rfl
  simp only [recordDuplicateReceive, withoutDrops, rowsWithoutDrops_upsert _ _ blind]

theorem recordSecurityDrop_withoutDrops (packetBytes : Nat) :
    (metrics.recordSecurityDrop pathId packetBytes).withoutDrops = metrics.withoutDrops := by
  have same : rowsWithoutDrops (metrics.recordSecurityDrop pathId packetBytes).paths =
      rowsWithoutDrops metrics.paths := by
    funext other
    simp only [recordSecurityDrop, rowsWithoutDrops, upsert, insert_apply]
    by_cases here : other = pathId
    · simp [here, CounterSnapshot.withoutDrops]
    · simp [here]
  simp only [withoutDrops, same]
  rfl

end DataplaneMetrics

end Gatherlink.Dataplane

namespace Gatherlink.Engine
open Protocol Crypto Dataplane Lib.BigEndian Lib.Lookup Lib.Exec

def CoreDataplane.withoutDrops (engine : CoreDataplane) : CoreDataplane :=
  { engine with metrics := engine.metrics.withoutDrops }

/-- The machine without its security-drop counters. -/
def Machine.withoutDrops (machine : Machine) : Machine :=
  { machine with engine := machine.engine.withoutDrops }

/-- A program that neither reads nor writes the security-drop counters. -/
abbrev Blind {ε α : Type} (program : EStateM ε Machine α) : Prop := Commutes Machine.withoutDrops program

section Receive

variable {os : Os} {now : Nat} {pathId : PathId} {key : DedupeKey} {payload : Bytes} {payloads : List Bytes}
  {observation : SequenceObservation} {serviceId : ServiceId} {sequence : SequenceNumber}
  {peerScope : Option UInt32} {frame : Frame} {frameBytes : Nat} {α : Type}

theorem onNet_blind {program : EStateM UdpServiceError Net α} : Blind (onNet program) :=
  Commutes.focus (Commutes.unchanged _) (fun _ => rfl) fun _ _ => rfl

theorem onService_blind {index : Nat} {program : EStateM UdpServiceError (UserlandUdpService × Net) α} :
    Blind (onService index program) := by
  refine Commutes.bind (Commutes.reads fun _ => rfl) fun service => ?_
  cases service with
  | none => exact Commutes.throw _
  | some service => exact Commutes.focus (Commutes.unchanged _) (fun _ => rfl) fun _ _ => rfl

theorem findService_blind : Blind (findService serviceId) := by
  refine Commutes.bind (Commutes.reads fun _ => rfl) fun found => ?_
  cases found with
  | none => exact Commutes.throw _
  | some service => exact Commutes.pure _

theorem ensureServiceEnabled_blind : Blind (ensureServiceEnabled serviceId) := by
  refine Commutes.bind (Commutes.reads fun _ => rfl) fun disabled => ?_
  cases disabled with
  | none => exact Commutes.pure _
  | some reason => exact Commutes.throw _

theorem foldl_blind {β : Type} {change : Machine → β → Machine}
    (step : ∀ machine item, change machine.withoutDrops item = (change machine item).withoutDrops)
    (items : List β) (machine : Machine) :
    items.foldl change machine.withoutDrops = (items.foldl change machine).withoutDrops := by
  induction items generalizing machine with
  | nil => rfl
  | cons item rest ih => rw [List.foldl_cons, step, ih, List.foldl_cons]

theorem flushRemoteEmitBatch_blind : Blind (flushRemoteEmitBatch os now) := by
  refine Commutes.bind (Commutes.reads fun _ => rfl) fun pending => ?_
  cases pending.key with
  | none => exact Commutes.pure _
  | some key =>
    refine Commutes.ite (Commutes.modify fun _ => rfl) (Commutes.bind onNet_blind fun emitted => ?_)
    exact Commutes.modify fun machine => foldl_blind (fun _ _ => rfl) _ { machine with pending := {} }

theorem emitRemotePayloadSummary_blind : Blind (emitRemotePayloadSummary os now pathId key payload observation) := by
  refine Commutes.bind findService_blind fun found => Commutes.bind (Commutes.reads fun _ => rfl) fun target => ?_
  refine Commutes.bind ?_ fun emitted => Commutes.bind (Commutes.modify fun _ => rfl) fun _ => Commutes.pure _
  split
  · exact onService_blind
  · exact onNet_blind

theorem flushWhen_blind {due : PendingRemoteEmitBatch → Bool} : Blind (flushWhen os now due) :=
  Commutes.bind (Commutes.reads fun _ => rfl) fun _ => Commutes.ite flushRemoteEmitBatch_blind (Commutes.pure _)

theorem queueRemotePayloadSummary_blind : Blind (queueRemotePayloadSummary os now pathId key payload observation) := by
  refine Commutes.bind findService_blind fun found => Commutes.bind ensureServiceEnabled_blind fun _ =>
    Commutes.bind (Commutes.reads fun _ => rfl) fun target => Commutes.ite ?_ ?_
  · exact Commutes.bind emitRemotePayloadSummary_blind fun _ => Commutes.modify fun _ => rfl
  · exact Commutes.bind flushWhen_blind fun _ => Commutes.bind (Commutes.modify fun _ => rfl) fun _ => flushWhen_blind

theorem queueReady_blind {key : RemoteReorderKey} {ready : List RemoteReorderEntry} :
    Blind (queueReady os now key ready) :=
  Commutes.forM fun _ => queueRemotePayloadSummary_blind

theorem drainReorderReady_blind (engine : CoreDataplane) (hold : Nat) (key : RemoteReorderKey) :
    engine.withoutDrops.drainReorderReady now hold key =
      ((engine.drainReorderReady now hold key).1, (engine.drainReorderReady now hold key).2.withoutDrops) := by
  unfold CoreDataplane.drainReorderReady
  have same : engine.withoutDrops.remoteReorder = engine.remoteReorder := rfl
  rw [same]
  cases engine.remoteReorder key <;> rfl

theorem drainExpiredReorderReady_blind (engine : CoreDataplane) (key : RemoteReorderKey) :
    engine.withoutDrops.drainExpiredReorderReady now key =
      ((engine.drainExpiredReorderReady now key).1, (engine.drainExpiredReorderReady now key).2.withoutDrops) := by
  unfold CoreDataplane.drainExpiredReorderReady
  have same : engine.withoutDrops.remoteReorder = engine.remoteReorder := rfl
  rw [same]
  cases (engine.remoteReorder key).bind (·.entries.head?) with
  | none => rfl
  | some oldest =>
    simp only [drainReorderReady_blind]
    change (if now - oldest.receivedAt < engine.reorderHoldForPath oldest.pathId then _ else _) = _
    split <;> rfl

theorem holdForReorder_blind (engine : CoreDataplane) (hold : Nat) (key : RemoteReorderKey)
    (entry : RemoteReorderEntry) :
    engine.withoutDrops.holdForReorder now hold key entry =
      ((engine.holdForReorder now hold key entry).1, (engine.holdForReorder now hold key entry).2.withoutDrops) :=
  drainReorderReady_blind (engine.bufferEntry key entry) hold key

theorem onEngine_blind {program : EStateM DataplaneError CoreDataplane α}
    (blind : Commutes CoreDataplane.withoutDrops program) : Blind (onEngine program) :=
  Commutes.focus blind (fun _ => rfl) fun _ _ => rfl

theorem queueRemotePayloadWithReorder_blind :
    Blind (queueRemotePayloadWithReorder os now pathId key payload observation) := by
  refine Commutes.bind (Commutes.reads fun _ => rfl) fun hold => Commutes.bind (Commutes.reads fun _ => rfl) fun _ =>
    Commutes.ite queueRemotePayloadSummary_blind (Commutes.ite queueRemotePayloadSummary_blind ?_)
  exact Commutes.bind (onEngine_blind (Commutes.modifyGet fun engine => holdForReorder_blind engine hold _ _)) fun _ =>
    queueReady_blind

theorem observeUserPayload_blind (now : Nat) (key : DedupeKey) (pathId : PathId) (payloadLen : Nat)
    (engine : CoreDataplane) :
    engine.withoutDrops.observeUserPayloadFirstSeen now key pathId payloadLen =
      ((engine.observeUserPayloadFirstSeen now key pathId payloadLen).1,
        (engine.observeUserPayloadFirstSeen now key pathId payloadLen).2.withoutDrops) := by
  simp only [CoreDataplane.observeUserPayloadFirstSeen, CoreDataplane.withoutDrops,
    DataplaneMetrics.recordReceive_withoutDrops, DataplaneMetrics.recordDuplicateReceive_withoutDrops]
  rcases engine.remoteDedupe.observeInScope key with ⟨_ | _, window⟩ <;> rfl

theorem observeUserPayloadFirstSeen_blind {payloadLen : Nat} :
    Blind (observeUserPayloadFirstSeen now key pathId payloadLen) := by
  refine Commutes.modifyGet fun machine => ?_
  simp only [show machine.withoutDrops.engine = machine.engine.withoutDrops from rfl, observeUserPayload_blind]
  rfl

theorem queueFirstSeen_blind : Blind (queueFirstSeen os now pathId key payload) := by
  refine Commutes.bind observeUserPayloadFirstSeen_blind fun observation => ?_
  cases observation with
  | none => exact Commutes.pure _
  | some observation => exact queueRemotePayloadWithReorder_blind

theorem flushExpiredReorderBuffers_blind {keys : List RemoteReorderKey} :
    Blind (flushExpiredReorderBuffers os now keys) :=
  Commutes.forM fun key =>
    Commutes.bind (onEngine_blind (Commutes.modifyGet fun engine => drainExpiredReorderReady_blind engine key)) fun _ =>
      queueReady_blind

theorem observeBatch_blind : Blind (observeBatch now serviceId pathId peerScope sequence payloads) := by
  induction payloads generalizing sequence with
  | nil => exact Commutes.pure _
  | cons payload rest ih =>
    exact Commutes.bind observeUserPayloadFirstSeen_blind fun _ => Commutes.bind ih fun _ => Commutes.pure _

theorem tryEmitRemoteBatchWithoutReorder_blind :
    Blind (tryEmitRemoteBatchWithoutReorder os now serviceId pathId sequence payloads peerScope) := by
  refine Commutes.bind findService_blind fun found => Commutes.bind ensureServiceEnabled_blind fun _ =>
    Commutes.ite (Commutes.pure _) (Commutes.bind (Commutes.reads fun _ => rfl) fun target =>
      Commutes.bind observeBatch_blind fun items => Commutes.ite (Commutes.pure _) ?_)
  refine Commutes.bind onNet_blind fun emitted => Commutes.bind (Commutes.modify fun machine => ?_) fun _ =>
    Commutes.pure _
  exact foldl_blind (fun _ _ => rfl) _ machine

theorem queueBatchPayloads_blind :
    Blind (queueBatchPayloads os now serviceId pathId peerScope sequence payloads) := by
  induction payloads generalizing sequence with
  | nil => exact Commutes.pure _
  | cons payload rest ih => exact Commutes.bind queueFirstSeen_blind fun _ => ih

theorem emitRemoteBatchPayloadsSummary_blind :
    Blind (emitRemoteBatchPayloadsSummary os now serviceId pathId sequence payloads peerScope) :=
  Commutes.bind (Commutes.reads fun _ => rfl) fun _ =>
    Commutes.bind (Commutes.ite tryEmitRemoteBatchWithoutReorder_blind (Commutes.pure _)) fun _ =>
      Commutes.ite (Commutes.pure _) (Commutes.bind ensureServiceEnabled_blind fun _ => queueBatchPayloads_blind)

theorem observeReservedBatch_blind :
    Blind (observeReservedBatch now frame frameBytes peerScope sequence payloads) := by
  induction payloads generalizing sequence with
  | nil => exact Commutes.pure _
  | cons payload rest ih => exact Commutes.bind (Commutes.modify fun _ => rfl) fun _ => ih

theorem deliverPayload_blind : Blind (deliverPayload os now frame payload frameBytes peerScope) :=
  Commutes.ite (Commutes.bind flushRemoteEmitBatch_blind fun _ => Commutes.modify fun _ => rfl) queueFirstSeen_blind

theorem deliverFrame_blind : Blind (deliverFrame os now frame frameBytes peerScope) := by
  unfold deliverFrame
  cases frame.kind with
  | data =>
    refine Commutes.bind (Commutes.attempt fun _ => rfl) fun complete => ?_
    cases complete with
    | none => exact Commutes.pure _
    | some payload => exact deliverPayload_blind
  | batch =>
    refine Commutes.bind flushRemoteEmitBatch_blind fun _ => ?_
    cases frame.batchPayloads with
    | error error => exact Commutes.throw _
    | ok payloads => exact Commutes.ite observeReservedBatch_blind emitRemoteBatchPayloadsSummary_blind
  | control => exact Commutes.bind flushRemoteEmitBatch_blind fun _ => Commutes.modify fun _ => rfl

theorem learnPathRemote_blind {source : SocketAddr} : Blind (learnPathRemote peerScope pathId source) := by
  cases peerScope with
  | none => exact Commutes.pure _
  | some receiverIndex => exact Commutes.modify fun _ => rfl

theorem finishReceive_blind {moment : FlushMoment} : Blind (finishReceive os moment) :=
  Commutes.bind flushExpiredReorderBuffers_blind fun _ => Commutes.bind flushRemoteEmitBatch_blind fun _ =>
    Commutes.reads fun _ => rfl

end Receive

section Forged

variable (os : Os) (aead : Aead)

/-- The packets that pass authentication, the receiver index and the replay check, one by one. -/
def authentic : TransportSecurity → List PathPacket → List PathPacket
  | _, [] => []
  | security, packet :: rest =>
      match security.openPacket aead packet.bytes with
      | (.ok _, next) => packet :: authentic next rest
      | (.error _, next) => authentic next rest

variable {os aead} {machine : Machine}

variable {security : TransportSecurity} {rest : List PathPacket} {error : CryptoError}

theorem authentic_dropped {packet : PathPacket} (failed : (security.openPacket aead packet.bytes).1 = .error error) :
    authentic aead security (packet :: rest) = authentic aead security rest := by
  have dropped := Prod.ext (y := (_, _)) failed (security.openPacket_dropped aead packet.bytes failed).2
  simp only [authentic, dropped]

theorem authentic_opened {packet : PathPacket} {found : TransportSecurity.OpenedPacket}
    (opened : (security.openPacket aead packet.bytes).1 = .ok found) :
    authentic aead security (packet :: rest) =
      packet :: authentic aead (security.openPacket aead packet.bytes).2 rest := by
  have entered := Prod.ext (y := (_, _)) opened (rfl : _ = (security.openPacket aead packet.bytes).2)
  rw [authentic, entered]

theorem recordSecurityDrop_unseen (pathId : PathId) (packetBytes : Nat) (machine : Machine) :
    mapState Machine.withoutDrops (recordSecurityDrop pathId packetBytes machine) = .ok ⟨⟩ machine.withoutDrops := by
  change EStateM.Result.ok _ { machine with engine := { machine.engine with
    metrics := (machine.engine.metrics.recordSecurityDrop pathId packetBytes).withoutDrops } } = _
  rw [DataplaneMetrics.recordSecurityDrop_withoutDrops]
  rfl

theorem recordSecurityDrop_respects {pathId : PathId} {packetBytes : Nat} :
    Respects Machine.withoutDrops (recordSecurityDrop pathId packetBytes) := by
  intro state other alike
  rw [recordSecurityDrop_unseen, recordSecurityDrop_unseen, alike]

variable (os aead) (packet : PathPacket)

theorem processPacket_respects : Respects Machine.withoutDrops (processPacket os aead packet) := by
  have opens : Blind (unprotectPacket aead packet.bytes) := Commutes.modifyGet fun _ => rfl
  refine Respects.bind opens.respects fun result => ?_
  split
  · exact recordSecurityDrop_respects
  · exact (Commutes.throw _).respects
  · exact (Commutes.bind learnPathRemote_blind fun _ => deliverFrame_blind).respects

theorem opening_moves {kept : Machine → Machine → Prop} [IsPreorder Machine kept] (delivers : Delivers kept)
    (result : Except CryptoError UnprotectedFrame) :
    Moves kept (match result with
      | .error .silentDrop => recordSecurityDrop packet.pathId packet.bytes.length
      | .error error => throw (.crypto error)
      | .ok unprotected => do
          learnPathRemote unprotected.localReceiverIndex packet.pathId packet.source
          deliverFrame os packet.now unprotected.frame packet.bytes.length unprotected.localReceiverIndex :
      Run PUnit) := by
  split
  · exact delivers.still recordSecurityDrop_quiet
  · exact Moves.throw _
  · exact Moves.bind (delivers.still learnPathRemote_quiet) fun _ => delivers.deliverFrame

theorem processPacket_security (machine : Machine) :
    (finalState (processPacket os aead packet machine)).engine.transportSecurity =
      (machine.engine.transportSecurity.openPacket aead packet.bytes).2 := by
  have delivers : Delivers (Same fun machine => machine.engine.transportSecurity) :=
    ⟨fun same => tracked_security (tracked_of_steady same), Moves.attempt fun _ => rfl⟩
  rw [← TransportSecurity.unprotectPacketWithSession_security]
  exact opening_moves os packet delivers _ _

theorem processPacket_dropped (secure : machine.engine.transportSecurity ≠ .none)
    (failed : (machine.engine.transportSecurity.openPacket aead packet.bytes).1 = .error error) :
    processPacket os aead packet machine = recordSecurityDrop packet.pathId packet.bytes.length machine := by
  have untouched : unprotectPacket aead packet.bytes machine = .ok (.error .silentDrop) machine := by
    simp [unprotectPacket, openedBy, failed, Net.open', modifyGet, MonadStateOf.modifyGet, EStateM.modifyGet,
      TransportSecurity.unprotectPacketWithSession_dropped _ _ _ secure failed]
  exact bind_ok untouched

theorem receivePackets_authentic (packets : List PathPacket) {other : Machine}
    (secure : machine.engine.transportSecurity ≠ .none) (alike : machine.withoutDrops = other.withoutDrops) :
    mapState Machine.withoutDrops (receivePackets os aead packets machine) =
      mapState Machine.withoutDrops
        (receivePackets os aead (authentic aead machine.engine.transportSecurity packets) other) := by
  induction packets generalizing machine other with
  | nil => exact congrArg (EStateM.Result.ok _) alike
  | cons packet rest ih =>
    have security := processPacket_security os aead packet machine
    have secured := machine.engine.transportSecurity.openPacket_secure aead packet.bytes secure
    rw [receivePackets_cons]
    cases opened : (machine.engine.transportSecurity.openPacket aead packet.bytes).1 with
    | error error =>
      have kept := (machine.engine.transportSecurity.openPacket_dropped aead packet.bytes opened).2
      have counted := processPacket_dropped os aead packet secure opened
      have unseen := recordSecurityDrop_unseen packet.pathId packet.bytes.length machine
      rw [authentic_dropped opened]
      rw [← counted] at unseen
      cases ran : processPacket os aead packet machine with
      | error failure after =>
        rw [ran] at unseen
        cases unseen
      | ok done after =>
        rw [ran] at security unseen
        change after.engine.transportSecurity = _ at security
        rw [kept] at security
        rw [bind_ok ran, ih (security ▸ secure) ((EStateM.Result.ok.inj unseen).2.trans alike), security]
    | ok found =>
      rw [authentic_opened opened, receivePackets_cons]
      refine mapState_bind (processPacket_respects os aead packet alike) fun {_ middle _} ran same => ?_
      rw [ran] at security
      change middle.engine.transportSecurity = _ at security
      rw [← security]
      exact ih (security ▸ secured) same

/-- Deleting the packets that do not open changes neither the answer of a receive call nor the state it
leaves, up to the security-drop counters. -/
theorem forged_packets_leave_no_trace (moment : FlushMoment) (packets : List PathPacket)
    (secure : machine.engine.transportSecurity ≠ .none) :
    mapState Machine.withoutDrops (receiveListedSummary os aead packets moment machine) =
      mapState Machine.withoutDrops (receiveListedSummary os aead
        (authentic aead machine.engine.transportSecurity packets) moment machine) := by
  refine mapState_bind rfl fun begun same => ?_
  cases begun
  exact mapState_bind (receivePackets_authentic os aead packets secure same) fun _ alike =>
    finishReceive_blind.respects alike

end Forged

section Witness

/-- A forged packet, a genuine one and a replay of it: only the genuine one counts. -/
theorem forged_and_replayed_leave_no_trace : ∃ machine, Started .willing 0 pairedConfig machine ∧
    mapState Machine.withoutDrops (receiveListedSummary .willing .transparent
      [⟨1, .v4 9 9, [1, 2, 3], 0⟩, ⟨1, .v4 2 1, peerPacket 0, 1⟩, ⟨1, .v4 2 1, peerPacket 0, 2⟩] ⟨3, []⟩ machine) =
      mapState Machine.withoutDrops (receiveListedSummary .willing .transparent
        [⟨1, .v4 2 1, peerPacket 0, 1⟩] ⟨3, []⟩ machine) := by
  have started : Started .willing 0 pairedConfig ⟨_, _, {}, {}⟩ := ⟨Net.blank, rfl, rfl⟩
  refine ⟨_, started, ?_⟩
  rw [forged_packets_leave_no_trace .willing .transparent ⟨3, []⟩ _ (fun plain => TransportSecurity.noConfusion plain)]
  congr 1

end Witness

end Gatherlink.Engine
