import Gatherlink.Dataplane.SocketSteps
import Gatherlink.Dataplane.Security

/-! Frames on their way out, one after another: protected by a session and handed to a path socket. A reservation of
counters gives the same packets as protecting each frame in turn, and a batch for one socket is handed over like its
packets one by one. -/

namespace Gatherlink.Crypto
open Protocol Lib.BigEndian

namespace TransportKeys

variable {aead : Aead} {keys last : TransportKeys} {frames : List Frame} {packets : List Bytes}

def sealAll (aead : Aead) (keys : TransportKeys) : List Frame → Option (List Bytes × TransportKeys)
  | [] => some ([], keys)
  | frame :: rest =>
      match keys.encryptFrameWithPlaintext aead frame.encodedV2Len frame.encodeV2 with
      | (.error _, _) => none
      | (.ok packet, next) => (next.sealAll aead rest).map fun ending => (packet :: ending.1, ending.2)

theorem encryptFrameWithPlaintext_ok {next : TransportKeys} {length : Nat} {plaintext packet : Bytes}
    (done : keys.encryptFrameWithPlaintext aead length plaintext = (.ok packet, next)) :
    ∃ fits : keys.nextSendCounter + 1 < 2 ^ 64,
      next = { keys with nextSendCounter := keys.nextSendCounter + 1, counterFits := fits } ∧
      encryptFrameWithCipherWriter aead keys.remoteReceiverIndex keys.sendCipher keys.nextSendCounter length plaintext =
        .ok packet := by
  unfold encryptFrameWithPlaintext at done
  split at done
  · rename_i fits
    obtain ⟨output, rfl⟩ := Prod.ext_iff.mp done
    exact ⟨fits, rfl, output⟩
  · cases done

/-- The counters that the frames would take one by one are those that a reservation sets aside for them. -/
theorem sealAll_some {first start : Nat} (sealing : keys.sealAll aead frames = some (packets, last))
    (begins : first + start = keys.nextSendCounter) :
    (∃ fits : keys.nextSendCounter + frames.length < 2 ^ 64,
      last = { keys with nextSendCounter := keys.nextSendCounter + frames.length, counterFits := fits }) ∧
    List.Forall₂ (fun (entry : Frame × Nat) packet =>
      ReservedSendCounters.encryptFrameWithPlaintext aead ⟨keys.remoteReceiverIndex, keys.sendCipher, first⟩ entry.2
        entry.1.encodedV2Len entry.1.encodeV2 = .ok packet) (frames.zipIdx start) packets := by
  induction frames generalizing keys packets start with
  | nil =>
    obtain ⟨rfl, rfl⟩ := Prod.ext_iff.mp (Option.some.inj sealing)
    exact ⟨⟨keys.counterFits, rfl⟩, List.Forall₂.nil⟩
  | cons frame rest ih =>
    rw [sealAll] at sealing
    rcases step : keys.encryptFrameWithPlaintext aead frame.encodedV2Len frame.encodeV2 with ⟨_ | packet, next⟩
    · simp [step] at sealing
    simp only [step] at sealing
    obtain ⟨⟨later, ending⟩, tail, same⟩ := Option.map_eq_some_iff.mp sealing
    obtain ⟨rfl, rfl⟩ := Prod.ext_iff.mp same
    obtain ⟨fits, rfl, output⟩ := encryptFrameWithPlaintext_ok step
    have later : first + (start + 1) = keys.nextSendCounter + 1 := by omega
    obtain ⟨⟨room, ends⟩, others⟩ := ih tail later
    simp only [List.length_cons] at room ends ⊢
    refine ⟨⟨by omega, ?_⟩, ?_⟩
    · rw [ends]
      congr 1
      omega
    · rw [List.zipIdx_cons]
      refine List.Forall₂.cons ?_ others
      simp only [ReservedSendCounters.encryptFrameWithPlaintext, begins, if_pos keys.counterFits]
      exact output

end TransportKeys

end Gatherlink.Crypto

namespace Gatherlink.Dataplane
open Protocol Crypto Lib.BigEndian Lib.Lookup Lib.Exec

/-- A frame and the peer it is for, if it answers one. -/
structure Outbound where
  peerScope : Option UInt32
  frame : Frame

namespace TransportSecurity

variable {aead : Aead} {security next : TransportSecurity} {serviceId : ServiceId} {sessionKey : Option UInt32}
  {keys : TransportKeys} {items : List Outbound} {packets : List Bytes}

def protectAll (aead : Aead) (security : TransportSecurity) : List Outbound → Option (List Bytes × TransportSecurity)
  | [] => some ([], security)
  | item :: rest =>
      match security.protectFrameForServiceOrSession aead item.frame.serviceId item.peerScope item.frame with
      | (.error _, _) => .none
      | (.ok packet, next) => (next.protectAll aead rest).map fun ending => (packet :: ending.1, ending.2)

/-- An outbound service or session selects these keys, and `put` puts their successor back. -/
structure Selects (security : TransportSecurity) (serviceId : ServiceId) (sessionKey : Option UInt32)
    (keys : TransportKeys) (put : TransportKeys → TransportSecurity) : Prop where
  uses : ∀ {α : Type} (successor : TransportKeys) (plain : α) (use : TransportKeys →
    Except CryptoError α × TransportKeys),
    (put successor).withSendKeys serviceId sessionKey plain use = ((use successor).1, put (use successor).2)
  same : put keys = security

variable {put : TransportKeys → TransportSecurity}

theorem Selects.move (selects : security.Selects serviceId sessionKey keys put)
    (successor : TransportKeys) : (put successor).Selects serviceId sessionKey successor put :=
  ⟨selects.uses, rfl⟩

theorem Selects.withSendKeys_eq {α : Type} (selects : security.Selects serviceId sessionKey keys put) (plain : α)
    (use : TransportKeys → Except CryptoError α × TransportKeys) :
    security.withSendKeys serviceId sessionKey plain use = ((use keys).1, put (use keys).2) := by
  have uses := selects.uses keys plain use
  rwa [selects.same] at uses

/-- The session of a group: what the service asks for if no peer is named. -/
def sessionFor (security : TransportSecurity) (serviceId : ServiceId) (peerScope : Option UInt32) : Option UInt32 :=
  peerScope <|> security.sessionKeyForService serviceId

/-- Secure transport either knows keys for a session or refuses everything that asks for it. -/
theorem selects_or_refuses (security : TransportSecurity) (session : Option UInt32) :
    security = .none ∨
      (∃ keys put, ∀ serviceId sessionKey, security.sessionFor serviceId sessionKey = session →
        security.Selects serviceId sessionKey keys put) ∨
      ∀ {α : Type} (serviceId : ServiceId) (sessionKey : Option UInt32) (plain : α) use,
        security.sessionFor serviceId sessionKey = session →
          (security.withSendKeys serviceId sessionKey plain use).1 = .error .silentDrop := by
  cases security with
  | none => exact Or.inl rfl
  | static keys => exact Or.inr (Or.inl ⟨keys, .static, fun _ _ _ => ⟨fun _ _ _ => rfl, rfl⟩⟩)
  | staticSessions sessions serviceSessions defaultSession =>
    right
    have chosen (serviceId : ServiceId) (sessionKey : Option UInt32) :
        (staticSessions sessions serviceSessions defaultSession).sessionFor serviceId sessionKey =
          ((sessionKey <|> serviceSessions serviceId) <|> defaultSession) := by
      cases sessionKey <;> rfl
    cases found : session.bind sessions with
    | none =>
      right
      intro α serviceId sessionKey plain use asked
      rw [chosen] at asked
      simp only [withSendKeys, asked]
      cases session with
      | none => rfl
      | some index =>
        rw [Option.bind_some] at found
        simp only [found]
    | some keys =>
      left
      obtain ⟨index, rfl, held⟩ := Option.bind_eq_some_iff.mp found
      refine ⟨keys, fun successor =>
        .staticSessions (insert sessions index successor) serviceSessions defaultSession, ?_⟩
      intro serviceId sessionKey asked
      rw [chosen] at asked
      refine ⟨fun successor plain use => ?_, ?_⟩
      · simp only [withSendKeys, asked, insert_self]
        rw [Lib.Lookup.insert, Lib.Lookup.insert, Function.update_idem]
        rfl
      · rw [Lib.Lookup.insert, ← held, Function.update_eq_self]

theorem protectAll_append (first second : List Outbound) :
    security.protectAll aead (first ++ second) = (security.protectAll aead first).bind fun middle =>
      (middle.2.protectAll aead second).map fun later => (middle.1 ++ later.1, later.2) := by
  induction first generalizing security with
  | nil =>
    rw [List.nil_append, protectAll, Option.bind_some]
    simp
  | cons item rest ih =>
    rw [List.cons_append, protectAll, protectAll]
    rcases security.protectFrameForServiceOrSession aead item.frame.serviceId item.peerScope item.frame with
      ⟨_ | packet, next⟩
    · rfl
    · simp only [ih]
      cases next.protectAll aead rest with
      | none => rfl
      | some middle =>
        simp only [Option.bind_some, Option.map_some, Option.map_map]
        rfl

theorem protectAll_cons {item : Outbound} (done : security.protectAll aead (item :: items) = some (packets, next)) :
    ∃ packet later others,
      security.protectFrameForServiceOrSession aead item.frame.serviceId item.peerScope item.frame =
        (.ok packet, later) ∧ later.protectAll aead items = some (others, next) ∧ packets = packet :: others := by
  rw [protectAll] at done
  rcases step : security.protectFrameForServiceOrSession aead item.frame.serviceId item.peerScope item.frame with
    ⟨_ | packet, later⟩
  · simp [step] at done
  · simp only [step] at done
    obtain ⟨⟨others, ending⟩, tail, same⟩ := Option.map_eq_some_iff.mp done
    obtain ⟨rfl, rfl⟩ := Prod.ext_iff.mp same
    exact ⟨packet, later, others, rfl, tail, rfl⟩

theorem protectAll_length (done : security.protectAll aead items = some (packets, next)) :
    packets.length = items.length := by
  induction items generalizing security packets next with
  | nil =>
    obtain ⟨rfl, -⟩ := Prod.ext_iff.mp (Option.some.inj done)
    rfl
  | cons item rest ih =>
    obtain ⟨packet, later, others, -, tail, rfl⟩ := protectAll_cons done
    rw [List.length_cons, List.length_cons, ih tail]

theorem protectAll_plain (items : List Outbound) :
    protectAll aead .none items = some (items.map (·.frame.encodeV1), .none) := by
  induction items with
  | nil => rfl
  | cons item rest ih =>
    simp only [protectAll, protectFrameForServiceOrSession, withSendKeys, ih]
    rfl

theorem Selects.protectAll_eq
    (selects : ∀ item ∈ items, security.Selects item.frame.serviceId item.peerScope keys put)
    (same : put keys = security) :
    security.protectAll aead items =
      (keys.sealAll aead (items.map (·.frame))).map fun ending => (ending.1, put ending.2) := by
  induction items generalizing security keys with
  | nil => rw [protectAll, List.map_nil, TransportKeys.sealAll, Option.map_some, same]
  | cons item rest ih =>
    have here := selects item List.mem_cons_self
    rw [protectAll, protectFrameForServiceOrSession, here.withSendKeys_eq, List.map_cons, TransportKeys.sealAll]
    rcases keys.encryptFrameWithPlaintext aead item.frame.encodedV2Len item.frame.encodeV2 with ⟨_ | packet, later⟩
    · rfl
    · simp only
      rw [ih (fun other member => (selects other (List.mem_cons_of_mem _ member)).move later) rfl, Option.map_map,
        Option.map_map]
      rfl

/-- One reservation for a session gives the packets and the counters of protecting its frames one by one. -/
theorem reserve_protects {session : Option UInt32} (protecting : security.protectAll aead items = some (packets, next))
    (nonempty : items ≠ []) (own : security.sessionFor serviceId session = session)
    (shared : ∀ item ∈ items, security.sessionFor item.frame.serviceId item.peerScope = session) :
    ∃ protection, security.reserveFrameProtectionBatch serviceId session items.length = (.ok protection, next) ∧
      List.Forall₂ (fun (entry : Outbound × Nat) packet =>
        protection.protectFrame aead entry.2 entry.1.frame = .ok packet) items.zipIdx packets := by
  rcases security.selects_or_refuses session with rfl | ⟨keys, put, selects⟩ | refuses
  · rw [protectAll_plain] at protecting
    obtain ⟨rfl, rfl⟩ := Prod.ext_iff.mp (Option.some.inj protecting)
    have plain : items.map (·.frame.encodeV1) = items.zipIdx.map fun entry => entry.1.frame.encodeV1 := by
      have first := congrArg (List.map fun item : Outbound => item.frame.encodeV1) (List.zipIdx_map_fst 0 items)
      rw [List.map_map] at first
      exact first.symm
    refine ⟨.none, rfl, ?_⟩
    rw [plain, List.forall₂_map_right_iff]
    exact List.forall₂_same.mpr fun _ _ => rfl
  · have here := selects serviceId session own
    rw [Selects.protectAll_eq (fun item member => selects _ _ (shared item member)) here.same] at protecting
    obtain ⟨⟨later, last⟩, sealing, same⟩ := Option.map_eq_some_iff.mp protecting
    obtain ⟨rfl, rfl⟩ := Prod.ext_iff.mp same
    obtain ⟨⟨fits, rfl⟩, sealed⟩ := TransportKeys.sealAll_some sealing (Nat.add_zero keys.nextSendCounter)
    rw [List.length_map] at fits
    refine ⟨.secure ⟨keys.remoteReceiverIndex, keys.sendCipher, keys.nextSendCounter⟩, ?_, ?_⟩
    · rw [reserveFrameProtectionBatch, here.withSendKeys_eq]
      simp only [TransportKeys.reserveSendCounters, dif_pos fits, List.length_map]
      rfl
    · rw [List.zipIdx_map, List.forall₂_map_left_iff] at sealed
      exact sealed
  · cases items with
    | nil => exact absurd rfl nonempty
    | cons item rest =>
      have refused := refuses item.frame.serviceId item.peerScope item.frame.encodeV1
        (·.encryptFrameWithPlaintext aead item.frame.encodedV2Len item.frame.encodeV2)
        (shared item List.mem_cons_self)
      obtain ⟨packet, later, others, step, -⟩ := protectAll_cons protecting
      rw [protectFrameForServiceOrSession] at step
      rw [step] at refused
      cases refused

end TransportSecurity

section Sockets

variable {aead : Aead} {socket last : PathTransportSocket} {net : Net} {packets sent : List Bytes}
  {packet bytes : Bytes} {remote : SocketAddr}

namespace PathTransportSocket

/-- What a path socket makes of a packet, and the socket with its relay counter spent. -/
def wrapped (aead : Aead) (socket : PathTransportSocket) (packet : Bytes) : Option (Bytes × PathTransportSocket) :=
  match socket.relaySend with
  | none => some (packet, socket)
  | some relay =>
      (relay.wrap aead packet).1.toOption.map fun bytes => (bytes, { socket with relaySend := some relay.advance })

def wrapAll (aead : Aead) (socket : PathTransportSocket) : List Bytes → Option (List Bytes × PathTransportSocket)
  | [] => some ([], socket)
  | packet :: rest => (socket.wrapped aead packet).bind fun first =>
      (first.2.wrapAll aead rest).map fun ending => (first.1 :: ending.1, ending.2)

theorem wrapped_keeps (done : socket.wrapped aead packet = some (bytes, last)) :
    last = { socket with relaySend := last.relaySend } := by
  unfold wrapped at done
  split at done
  · obtain ⟨-, rfl⟩ := Prod.ext_iff.mp (Option.some.inj done)
    rfl
  · obtain ⟨output, -, same⟩ := Option.map_eq_some_iff.mp done
    obtain ⟨-, rfl⟩ := Prod.ext_iff.mp same
    rfl

theorem wrapAll_keeps (done : socket.wrapAll aead packets = some (sent, last)) :
    last = { socket with relaySend := last.relaySend } ∧ sent.length = packets.length := by
  induction packets generalizing socket sent with
  | nil =>
    obtain ⟨rfl, rfl⟩ := Prod.ext_iff.mp (Option.some.inj done)
    exact ⟨rfl, rfl⟩
  | cons packet rest ih =>
    obtain ⟨⟨bytes, middle⟩, first, more⟩ := Option.bind_eq_some_iff.mp done
    obtain ⟨⟨others, ending⟩, later, same⟩ := Option.map_eq_some_iff.mp more
    obtain ⟨rfl, rfl⟩ := Prod.ext_iff.mp same
    obtain ⟨kept, length⟩ := ih later
    refine ⟨?_, by rw [List.length_cons, List.length_cons, length]⟩
    rw [kept, wrapped_keeps first]

theorem wrapPacket_reaches (done : socket.wrapped aead packet = some (bytes, last)) :
    Reaches (wrapPacket aead packet) (socket, net) fun value next =>
      value = bytes ∧ next.1 = last ∧ next.2.history.carried = net.history.carried := by
  unfold wrapped at done
  cases relayed : socket.relaySend with
  | none =>
    rw [relayed] at done
    obtain ⟨rfl, rfl⟩ := Prod.ext_iff.mp (Option.some.inj done)
    refine Reaches.attempt (by rw [relayed]) ?_
    rw [relayed]
    exact ⟨rfl, rfl, rfl⟩
  | some relay =>
    rw [relayed] at done
    obtain ⟨output, ran, same⟩ := Option.map_eq_some_iff.mp done
    obtain ⟨rfl, rfl⟩ := Prod.ext_iff.mp same
    have ok : (relay.wrap aead packet).1 = .ok output := by
      cases result : (relay.wrap aead packet).1 with
      | error error => rw [result] at ran; cases ran
      | ok value => rw [result] at ran; rw [Option.some.inj ran]
    refine Reaches.attempt (by rw [relayed]; simp only [ok]; rfl) ?_
    rw [relayed]
    exact ⟨rfl, rfl, rfl⟩

theorem wrapPacket_stops (failed : socket.wrapped aead packet = none) :
    Stops (wrapPacket aead packet) (socket, net) .relayHopWrapFailed := by
  unfold wrapped at failed
  refine Stops.attempt ?_
  cases relayed : socket.relaySend with
  | none =>
    rw [relayed] at failed
    cases failed
  | some relay =>
    rw [relayed, Option.map_eq_none_iff] at failed
    cases result : (relay.wrap aead packet).1 with
    | ok output => rw [result] at failed; cases failed
    | error error =>
      simp only [result]
      rfl

theorem wrapPackets_reaches (done : socket.wrapAll aead packets = some (sent, last)) :
    Reaches (wrapPackets aead packets) (socket, net) fun value next =>
      value = sent ∧ next.1 = last ∧ next.2.history.carried = net.history.carried := by
  induction packets generalizing socket net sent with
  | nil =>
    obtain ⟨rfl, rfl⟩ := Prod.ext_iff.mp (Option.some.inj done)
    exact Reaches.pure ⟨rfl, rfl, rfl⟩
  | cons packet rest ih =>
    obtain ⟨⟨bytes, middle⟩, first, more⟩ := Option.bind_eq_some_iff.mp done
    obtain ⟨⟨others, ending⟩, later, same⟩ := Option.map_eq_some_iff.mp more
    obtain ⟨rfl, rfl⟩ := Prod.ext_iff.mp same
    refine Reaches.bind (wrapPacket_reaches first) fun value state here => ?_
    obtain ⟨rfl, moved, kept⟩ := here
    have tail : Reaches (wrapPackets aead rest) state fun value next =>
        value = others ∧ next.1 = ending ∧ next.2.history.carried = state.2.history.carried := by
      obtain ⟨stateSocket, stateNet⟩ := state
      obtain rfl : stateSocket = middle := moved
      exact ih later
    refine Reaches.bind tail fun packets final ends => Reaches.pure ?_
    exact ⟨by rw [ends.1], ends.2.1, ends.2.2.trans kept⟩

end PathTransportSocket

namespace PathTransportSet

variable {transports next : PathTransportSet} {pathId : PathId} {handed : List CarriedPacket}

/-- Hand packets for one remote to the socket of a path, one after another. -/
def handAll (aead : Aead) (pathId : PathId) (remote : SocketAddr) (transports : PathTransportSet) :
    List Bytes → Option (PathTransportSet × List CarriedPacket)
  | [] => some (transports, [])
  | packet :: rest => (transports.sockets pathId).bind fun socket => (socket.wrapped aead packet).bind fun first =>
      (handAll aead pathId remote { transports with sockets := insert transports.sockets pathId first.2 } rest).map
        fun later => (later.1, ⟨socket.pathId, remote, first.1⟩ :: later.2)

theorem handAll_some (socketed : transports.sockets pathId = some socket)
    (done : transports.handAll aead pathId remote packets = some (next, handed)) :
    ∃ sent last, socket.wrapAll aead packets = some (sent, last) ∧
      next = { transports with sockets := insert transports.sockets pathId last } ∧
      handed = sent.map fun bytes => ⟨socket.pathId, remote, bytes⟩ := by
  induction packets generalizing transports socket handed with
  | nil =>
    obtain ⟨rfl, rfl⟩ := Prod.ext_iff.mp (Option.some.inj done)
    refine ⟨[], socket, rfl, ?_, rfl⟩
    rw [Lib.Lookup.insert, ← socketed, Function.update_eq_self]
  | cons packet rest ih =>
    obtain ⟨found, here, more⟩ := Option.bind_eq_some_iff.mp done
    obtain rfl : socket = found := Option.some.inj (socketed.symm.trans here)
    obtain ⟨⟨bytes, middle⟩, wrapped, more⟩ := Option.bind_eq_some_iff.mp more
    obtain ⟨⟨ending, others⟩, later, same⟩ := Option.map_eq_some_iff.mp more
    obtain ⟨rfl, rfl⟩ := Prod.ext_iff.mp same
    obtain ⟨sent, last, wrapping, rfl, rfl⟩ := ih (insert_self ..) later
    have path : middle.pathId = socket.pathId := by
      rw [PathTransportSocket.wrapped_keeps wrapped]
    refine ⟨bytes :: sent, last, ?_, ?_, ?_⟩
    · rw [PathTransportSocket.wrapAll, wrapped, Option.bind_some, wrapping, Option.map_some]
    · simp [Lib.Lookup.insert]
    · simp [path]

theorem handAll_append (first second : List Bytes) :
    transports.handAll aead pathId remote (first ++ second) =
      (transports.handAll aead pathId remote first).bind fun middle =>
        (middle.1.handAll aead pathId remote second).map fun later => (later.1, middle.2 ++ later.2) := by
  induction first generalizing transports with
  | nil =>
    rw [List.nil_append, handAll, Option.bind_some]
    simp
  | cons packet rest ih =>
    rw [List.cons_append, handAll, handAll]
    cases transports.sockets pathId with
    | none => rfl
    | some socket =>
      simp only [Option.bind_some]
      cases socket.wrapped aead packet with
      | none => rfl
      | some wrapped =>
        simp only [Option.bind_some, ih]
        cases handAll aead pathId remote
          { transports with sockets := insert transports.sockets pathId wrapped.2 } rest with
        | none => rfl
        | some middle =>
          simp only [Option.bind_some, Option.map_some, Option.map_map]
          rfl

/-- The socket of every path stays what it was, but for its relay counter. -/
theorem handAll_remote (done : transports.handAll aead pathId remote packets = some (next, handed)) (other : PathId) :
    (next.sockets other).map (·.remote) = (transports.sockets other).map (·.remote) := by
  induction packets generalizing transports handed with
  | nil =>
    obtain ⟨rfl, -⟩ := Prod.ext_iff.mp (Option.some.inj done)
    rfl
  | cons packet rest ih =>
    obtain ⟨socket, here, more⟩ := Option.bind_eq_some_iff.mp done
    obtain ⟨⟨bytes, middle⟩, wrapped, more⟩ := Option.bind_eq_some_iff.mp more
    obtain ⟨⟨ending, others⟩, later, same⟩ := Option.map_eq_some_iff.mp more
    obtain ⟨rfl, rfl⟩ := Prod.ext_iff.mp same
    refine (ih later).trans ?_
    simp only
    by_cases target : other = pathId
    · subst target
      rw [insert_self, here, Option.map_some, Option.map_some, PathTransportSocket.wrapped_keeps wrapped]
    · rw [insert_of_ne _ _ target]

end PathTransportSet

end Sockets

/-- Frames for one remote of a path. -/
structure Shipment where
  pathId : PathId
  remote : SocketAddr
  items : List Outbound

def Shipment.singles (shipment : Shipment) : List Shipment :=
  shipment.items.map fun item => { shipment with items := [item] }

/-- What sending changes: the sessions, the path sockets, and the packets that have left. -/
structure SendLane where
  security : TransportSecurity
  transports : PathTransportSet
  carried : List CarriedPacket

namespace SendLane

variable {aead : Aead} {lane : SendLane}

/-- Protect the frames of a shipment and hand them to the path socket. -/
def ship (aead : Aead) (lane : SendLane) (shipment : Shipment) : Option SendLane :=
  (lane.security.protectAll aead shipment.items).bind fun sealing =>
    (lane.transports.handAll aead shipment.pathId shipment.remote sealing.1).map fun handing =>
      ⟨sealing.2, handing.1, lane.carried ++ handing.2⟩

def shipAll (aead : Aead) (lane : SendLane) : List Shipment → Option SendLane
  | [] => some lane
  | shipment :: rest => (lane.ship aead shipment).bind fun next => next.shipAll aead rest

/-- A shipment may be split: sessions and sockets do not look at each other. -/
theorem ship_append (pathId : PathId) (remote : SocketAddr) (first second : List Outbound) :
    lane.ship aead ⟨pathId, remote, first ++ second⟩ =
      (lane.ship aead ⟨pathId, remote, first⟩).bind fun next => next.ship aead ⟨pathId, remote, second⟩ := by
  simp only [ship, TransportSecurity.protectAll_append]
  cases lane.security.protectAll aead first with
  | none => rfl
  | some sealing =>
    simp only [Option.bind_some]
    cases handed : lane.transports.handAll aead pathId remote sealing.1 with
    | none =>
      cases sealing.2.protectAll aead second with
      | none => rfl
      | some later => simp [PathTransportSet.handAll_append, handed]
    | some handing =>
      simp only [Option.map_some, Option.bind_some]
      cases sealing.2.protectAll aead second with
      | none => rfl
      | some later =>
        simp only [Option.map_some, Option.bind_some, PathTransportSet.handAll_append, handed, Option.map_map]
        cases handing.1.handAll aead pathId remote later.1 with
        | none => rfl
        | some ending => simp

theorem shipAll_append (first second : List Shipment) :
    lane.shipAll aead (first ++ second) = (lane.shipAll aead first).bind (·.shipAll aead second) := by
  induction first generalizing lane with
  | nil => rfl
  | cons shipment rest ih =>
    rw [List.cons_append, shipAll, shipAll]
    cases lane.ship aead shipment with
    | none => rfl
    | some next => exact ih

theorem shipAll_singles (shipment : Shipment) : lane.shipAll aead shipment.singles = lane.ship aead shipment := by
  obtain ⟨pathId, remote, items⟩ := shipment
  induction items generalizing lane with
  | nil =>
    simp [Shipment.singles, shipAll, ship, TransportSecurity.protectAll, PathTransportSet.handAll]
  | cons item rest ih =>
    have split : (⟨pathId, remote, item :: rest⟩ : Shipment).singles =
        ⟨pathId, remote, [item]⟩ :: (⟨pathId, remote, rest⟩ : Shipment).singles := rfl
    have whole : lane.ship aead ⟨pathId, remote, item :: rest⟩ = (lane.ship aead ⟨pathId, remote, [item]⟩).bind
        fun next => next.ship aead ⟨pathId, remote, rest⟩ := ship_append pathId remote [item] rest
    rw [split, shipAll, whole]
    cases lane.ship aead ⟨pathId, remote, [item]⟩ with
    | none => rfl
    | some next => exact ih

theorem shipAll_flatMap_singles (shipments : List Shipment) :
    lane.shipAll aead (shipments.flatMap Shipment.singles) = lane.shipAll aead shipments := by
  induction shipments generalizing lane with
  | nil => rfl
  | cons shipment rest ih =>
    rw [List.flatMap_cons, shipAll_append, shipAll_singles, shipAll]
    cases lane.ship aead shipment with
    | none => rfl
    | some next => exact ih

end SendLane

end Gatherlink.Dataplane
