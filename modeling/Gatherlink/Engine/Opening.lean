import Gatherlink.Engine.Intake
import Gatherlink.Engine.NonInterference

/-! Receive calls as the frames behind their packets. What a call does after authentication depends on
the frames its packets open to; the packets that do not open leave only a counter behind. -/

namespace Gatherlink.Dataplane.TransportSecurity
open Protocol Crypto Lib.BigEndian

theorem unprotectPacketWithSession_error {aead : Aead} {security : TransportSecurity} {packet : Bytes}
    {error : CryptoError} (failed : (security.unprotectPacketWithSession aead packet).1 = .error error) :
    error = .silentDrop := by
  by_cases plain : security = .none
  · subst plain
    simp only [unprotectPacketWithSession] at failed
    cases decoded : (Frame.decodeV1 packet).toOption with
    | none =>
      rw [decoded] at failed
      exact (Except.error.inj failed).symm
    | some frame =>
      rw [decoded] at failed
      contradiction
  · rcases (unprotectPacketWithSession_cases aead security packet plain).2 failed with dropped | silent
    · exact (openPacket_dropped aead _ packet dropped).1
    · exact silent

variable {aead : Aead} {keys : TransportKeys} {counter : Nat} {frame : Frame} {packet : Bytes}

/-- A packet that was sealed for the session opens to its frame if the replay window takes its counter. -/
theorem unprotect_sealed (correct : aead.Correct) (fits : counter < 2 ^ 64)
    (sealing : encryptFrameWithCipherWriter aead keys.localReceiverIndex keys.receiveCipher counter frame.encodedV2Len
      frame.encodeV2 = .ok packet) (fresh : ¬keys.replayWindow.Blocks counter) :
    (TransportSecurity.static keys).unprotectPacketWithSession aead packet =
      (.ok ⟨frame, .none⟩, .static { keys with replayWindow := (keys.replayWindow.accept counter).2 }) := by
  have opened := decryptPacketWithCipher_sealed correct fits sealing
  have taken : (keys.replayWindow.accept counter).1 = true := by simpa [ReplayWindow.Blocks] using fresh
  have decrypted : keys.decryptPacket aead packet = (.ok ⟨keys.localReceiverIndex, counter, frame.encodeV2⟩,
      { keys with replayWindow := (keys.replayWindow.accept counter).2 }) := by
    simp [TransportKeys.decryptPacket, opened, taken]
  simp only [unprotectPacketWithSession, openPacket, openWith, decrypted, Frame.decodeV2Owned_encodeV2]

end Gatherlink.Dataplane.TransportSecurity

namespace Gatherlink.Engine
open Protocol Crypto Dataplane Lib.BigEndian Lib.Lookup Lib.Exec

def FrameArrival.deliver (os : Os) (arrival : FrameArrival) : Run PUnit :=
  deliverFrame os arrival.now arrival.frame arrival.bytes arrival.peerScope

/-- The frames that packets open to, in order, and the security state they leave. -/
def openPackets (aead : Aead) : TransportSecurity → List PathPacket → List FrameArrival × TransportSecurity
  | security, [] => ([], security)
  | security, packet :: rest =>
      match security.unprotectPacketWithSession aead packet.bytes with
      | (.ok opened, next) =>
          (⟨opened.frame, opened.localReceiverIndex, packet.bytes.length, packet.now⟩ :: (openPackets aead next rest).1,
            (openPackets aead next rest).2)
      | (.error _, next) => openPackets aead next rest

theorem openPackets_append (aead : Aead) (security : TransportSecurity) (first second : List PathPacket) :
    openPackets aead security (first ++ second) =
      ((openPackets aead security first).1 ++ (openPackets aead (openPackets aead security first).2 second).1,
        (openPackets aead (openPackets aead security first).2 second).2) := by
  induction first generalizing security with
  | nil => rfl
  | cons packet rest ih =>
    rw [List.cons_append, openPackets, openPackets]
    split <;> simp [ih]

/-- What a receive call works on behind authentication. -/
def Machine.inside (machine : Machine) : Footing × PendingRemoteEmitBatch × List Emission :=
  ({ machine.footing with security := .none, remotes := empty }, machine.pending, machine.net.history.emitted)

theorem fragments_of_inside {before after : Machine} (same : Same Machine.inside before after) :
    after.engine.remoteFragments = before.engine.remoteFragments :=
  congrArg (fun inside => inside.1.fragments) same

theorem tidy_of_inside {before after : Machine} (same : Same Machine.inside before after) (tidy : before.Tidy) :
    after.Tidy := by
  have ground : after.ground = before.ground := congrArg (fun inside => inside.1.ground) same
  exact tidy.same ground (congrArg (fun inside => inside.2.1) same)

section Packets

variable {os : Os} {aead : Aead} {machine : Machine} {packet : PathPacket}

private theorem processPacket_keys (os : Os) (aead : Aead) (packet : PathPacket) (machine : Machine) :
    (finalState (processPacket os aead packet machine)).engine.transportSecurity =
      (machine.engine.transportSecurity.unprotectPacketWithSession aead packet.bytes).2 := by
  rw [processPacket_security, TransportSecurity.unprotectPacketWithSession_security]

def learnRemote (remotes : HashMap (UInt32 × PathId) SocketAddr) (peerScope : Option UInt32) (pathId : PathId)
    (source : SocketAddr) : HashMap (UInt32 × PathId) SocketAddr :=
  match peerScope with
  | none => remotes
  | some index => insert remotes (index, pathId) source

variable {security : TransportSecurity} {error : CryptoError}

theorem packet_opened {opened : UnprotectedFrame} (os : Os)
    (opens : machine.engine.transportSecurity.unprotectPacketWithSession aead packet.bytes = (.ok opened, security)) :
    ∃ state, Same Machine.inside machine state ∧ state.session = (security,
        learnRemote machine.engine.learnedPathRemotes opened.localReceiverIndex packet.pathId packet.source) ∧
      processPacket os aead packet machine =
        deliverFrame os packet.now opened.frame packet.bytes.length opened.localReceiverIndex state ∧
      processReceivedPathFrame os aead packet machine =
        deliverFrameDetailed os packet.now opened.frame packet.bytes.length opened.localReceiverIndex state := by
  have unprotected : unprotectPacket aead packet.bytes machine = .ok (.ok opened)
      { machine with
        engine := { machine.engine with transportSecurity := security }
        net := machine.net.open' (openedBy aead machine.engine.transportSecurity packet.bytes) } := by
    simp only [unprotectPacket, modifyGet, MonadStateOf.modifyGet, EStateM.modifyGet, opens]
  rw [processPacket, processReceivedPathFrameSummary, processReceivedPathFrame,
    bind_ok unprotected, bind_ok unprotected]
  cases scope : opened.localReceiverIndex <;> simp only [scope] <;>
    refine ⟨_, ?_, ?_, bind_ok rfl, bind_ok rfl⟩ <;> rfl

theorem packet_refused (os : Os)
    (fails : machine.engine.transportSecurity.unprotectPacketWithSession aead packet.bytes = (.error error, security)) :
    ∃ state, Same Machine.inside machine state ∧ state.session = (security, machine.engine.learnedPathRemotes) ∧
      processPacket os aead packet machine = .ok ⟨⟩ state ∧
      processReceivedPathFrame os aead packet machine = .ok [] state := by
  obtain rfl : error = .silentDrop := TransportSecurity.unprotectPacketWithSession_error (congrArg Prod.fst fails)
  have refused : unprotectPacket aead packet.bytes machine = .ok (.error .silentDrop)
      { machine with
        engine := { machine.engine with transportSecurity := security }
        net := machine.net.open' (openedBy aead machine.engine.transportSecurity packet.bytes) } := by
    simp only [unprotectPacket, modifyGet, MonadStateOf.modifyGet, EStateM.modifyGet, fails]
  rw [processPacket, processReceivedPathFrameSummary, processReceivedPathFrame, bind_ok refused, bind_ok refused]
  refine ⟨_, ?_, ?_, rfl, rfl⟩ <;> rfl

theorem processPacket_opened {opened : UnprotectedFrame} {after : Machine → Prop}
    (opens : machine.engine.transportSecurity.unprotectPacketWithSession aead packet.bytes = (.ok opened, security))
    (delivers : ∀ state, Same Machine.inside machine state → Reaches (FrameArrival.deliver os
      ⟨opened.frame, opened.localReceiverIndex, packet.bytes.length, packet.now⟩) state fun _ => after) :
    Reaches (processPacket os aead packet) machine fun _ next =>
      after next ∧ next.engine.transportSecurity = security := by
  have keys := processPacket_keys os aead packet machine
  obtain ⟨state, same, -, ran, -⟩ := packet_opened os opens
  obtain ⟨value, next, done, ends⟩ := delivers state same
  rw [ran.trans done, opens] at keys
  exact ⟨value, next, ran.trans done, ends, keys⟩

theorem processPacket_refused
    (fails : machine.engine.transportSecurity.unprotectPacketWithSession aead packet.bytes = (.error error, security)) :
    Reaches (processPacket os aead packet) machine fun _ next =>
      Same Machine.inside machine next ∧ next.engine.transportSecurity = security := by
  obtain ⟨state, same, session, ran, -⟩ := packet_refused os fails
  exact ⟨_, state, ran, same, congrArg Prod.fst session⟩

theorem receivePackets_reaches (packets : List PathPacket) {seen : List FrameArrival}
    (invariant : List FrameArrival → Machine → Prop)
    (unmoved : ∀ {seen before after}, Same Machine.inside before after → invariant seen before → invariant seen after)
    (step : ∀ {seen arrival state}, arrival ∈ (openPackets aead machine.engine.transportSecurity packets).1 →
      invariant seen state → Reaches (arrival.deliver os) state fun _ after => invariant (seen ++ [arrival]) after)
    (start : invariant seen machine) :
    Reaches (receivePackets os aead packets) machine fun _ after =>
      invariant (seen ++ (openPackets aead machine.engine.transportSecurity packets).1) after ∧
      after.engine.transportSecurity = (openPackets aead machine.engine.transportSecurity packets).2 := by
  induction packets generalizing machine seen with
  | nil => exact Reaches.pure ⟨by simpa [openPackets] using start, rfl⟩
  | cons packet rest ih =>
    rcases opens : machine.engine.transportSecurity.unprotectPacketWithSession aead packet.bytes with
      ⟨error | opened, security⟩
    · simp only [openPackets, opens] at step ⊢
      refine Reaches.bind (processPacket_refused opens) fun _ next ends => ?_
      obtain ⟨same, rfl⟩ := ends
      exact ih step (unmoved same start)
    · simp only [openPackets, opens, List.mem_cons] at step ⊢
      refine Reaches.bind (processPacket_opened opens fun state same => step (.inl rfl) (unmoved same start))
        fun _ next ends => ?_
      obtain ⟨holds, rfl⟩ := ends
      refine (ih (fun member => step (.inr member)) holds).mono fun ends => ?_
      simpa using ends

def receiveCalls (os : Os) (aead : Aead) (calls : List (List PathPacket × FlushMoment)) : Run PUnit :=
  calls.forM fun call => discard (receiveListedSummary os aead call.1 call.2)

variable (calls : List (List PathPacket × FlushMoment))

def packetsOf : List PathPacket := calls.flatMap (·.1)

/-- A run of receive calls succeeds if every frame can be delivered in turn and every call can finish. -/
theorem receiveCalls_reaches (seen : List FrameArrival) (invariant : List FrameArrival → Machine → Prop)
    (unmoved : ∀ {seen before after}, Same Machine.inside before after → invariant seen before → invariant seen after)
    (step : ∀ {seen arrival state}, arrival ∈
      (openPackets aead machine.engine.transportSecurity (packetsOf calls)).1 → invariant seen state →
        Reaches (arrival.deliver os) state fun _ after => invariant (seen ++ [arrival]) after)
    (finish : ∀ {seen state moment}, invariant seen state → Reaches (finishReceive os moment) state fun _ after =>
      invariant seen after ∧ after.pending = {} ∧ after.engine.transportSecurity = state.engine.transportSecurity)
    (start : invariant seen machine) (settled : machine.pending = {}) :
    Reaches (receiveCalls os aead calls) machine fun _ after =>
      invariant (seen ++ (openPackets aead machine.engine.transportSecurity (packetsOf calls)).1) after ∧
      after.pending = {} := by
  induction calls generalizing machine seen with
  | nil => exact Reaches.pure ⟨by simpa [packetsOf, openPackets] using start, settled⟩
  | cons call rest ih =>
    have split : packetsOf (call :: rest) = call.1 ++ packetsOf rest := rfl
    simp only [split, openPackets_append, List.mem_append] at step ⊢
    have called : Reaches (receiveListedSummary os aead call.1 call.2) machine fun _ after =>
        invariant (seen ++ (openPackets aead machine.engine.transportSecurity call.1).1) after ∧ after.pending = {} ∧
        after.engine.transportSecurity = (openPackets aead machine.engine.transportSecurity call.1).2 := by
      refine reaches_after_modify (Reaches.bind (receivePackets_reaches call.1 invariant unmoved
        (fun member => step (.inl member)) (unmoved ?_ start)) fun _ received ends => ?_)
      · simp [Same, Machine.inside, Machine.footing, Machine.ground, settled]
      · refine (finish ends.1).mono fun finished => ?_
        exact ⟨finished.1, finished.2.1, finished.2.2.trans ends.2⟩
    refine Reaches.bind called.discard fun _ next ends => ?_
    obtain ⟨holds, empty, security⟩ := ends
    rw [← security] at step ⊢
    refine (ih _ (fun member => step (.inr member)) holds empty).mono fun ends => ?_
    simpa using ends

end Packets

section Sealed

variable {aead : Aead}

/-- Frames that are sealed under counters not used before can be opened in any order one likes. -/
theorem exists_packets (correct : aead.Correct)
    (seals : ∀ key nonce ad text, (aead.encryptInPlaceDetached key nonce ad text).isSome) {keys : TransportKeys}
    {accepted : Set Nat} {start : Nat} (tracks : keys.replayWindow.Tracks accepted)
    (below : ∀ counter ∈ accepted, counter < start) (frames : List Frame) (fits : start + frames.length ≤ 2 ^ 64) :
    ∃ packets, (openPackets aead (.static keys) packets).1.map (fun arrival => (arrival.peerScope, arrival.frame)) =
      frames.map fun frame => (none, frame) := by
  induction frames generalizing keys accepted start with
  | nil => exact ⟨[], rfl⟩
  | cons frame rest ih =>
    rw [List.length_cons] at fits
    obtain ⟨output, sealing⟩ := Option.isSome_iff_exists.mp (seals keys.receiveCipher (nonceFromCounter start)
      (associatedData (envelopeHeader keys.localReceiverIndex start)) frame.encodeV2)
    have packet : encryptFrameWithCipherWriter aead keys.localReceiverIndex keys.receiveCipher start frame.encodedV2Len
        frame.encodeV2 = .ok (envelopeHeader keys.localReceiverIndex start ++ output.1 ++ output.2) := by
      have length : (envelopeHeader keys.localReceiverIndex start ++ frame.encodeV2).length =
          ENCRYPTED_DATA_HEADER_LEN + frame.encodedV2Len := by
        rw [List.length_append, envelopeHeader_length, Frame.encodeV2_length]
      simp only [encryptFrameWithCipherWriter, if_neg (not_not.mpr length), sealing]
    have taken : (keys.replayWindow.accept start).1 = true := by
      refine (tracks.accepts_iff start).mpr ⟨fun member => absurd (below start member) (by omega), fun some => ?_⟩
      have top := below _ (tracks.top some)
      omega
    have opens := TransportSecurity.unprotect_sealed correct (by omega) packet (by simp [ReplayWindow.Blocks, taken])
    have next : ({ keys with replayWindow := (keys.replayWindow.accept start).2 } : TransportKeys).replayWindow.Tracks
        (Insert.insert start accepted) := tracks.accept taken
    have below' : ∀ counter ∈ Insert.insert start accepted, counter < start + 1 := by
      rintro counter (rfl | before)
      · omega
      · have := below counter before
        omega
    obtain ⟨packets, opened⟩ := ih next below' (by omega)
    refine ⟨⟨0, .v4 0 0, envelopeHeader keys.localReceiverIndex start ++ output.1 ++ output.2, 0⟩ :: packets, ?_⟩
    simp only [openPackets, opens, List.map_cons, opened]

end Sealed

end Gatherlink.Engine
