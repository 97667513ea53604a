import Gatherlink.Dataplane.Sockets

/-! The relay at the far end of a wrapped hop: it removes one envelope, checks compiled facts and
hands on what is inside. A packet that no earlier arrival has put out of reach passes its crypto. -/

namespace Gatherlink.Dataplane
open Crypto Lib.BigEndian

structure RelaySessionConfig where
  relayReceiverIndex : UInt32
  expiresAtUnixUs : Nat
  maxPacketSize : Option Nat
  maxPackets : Option Nat
  maxBytes : Option Nat
  deriving DecidableEq

structure RelaySessionCounters where
  forwardedPackets : Nat := 0
  forwardedBytes : Nat := 0
  droppedPackets : Nat := 0
  deriving DecidableEq

inductive RelayDropReason where
  | unknownReceiverIndex
  | expiredSession
  | packetTooLarge
  | limitExceeded
  | hopCryptoUnavailable
  | hopAuthFailed
  deriving DecidableEq

inductive RelayPacketDecision where
  | forward
  | drop (reason : RelayDropReason)
  deriving DecidableEq

structure RelaySessionExecutor where
  config : RelaySessionConfig
  counters : RelaySessionCounters
  hopKeys : Option TransportKeys

namespace RelaySessionExecutor

def new (config : RelaySessionConfig) : RelaySessionExecutor where
  config := config
  counters := {}
  hopKeys := none

def newWithHopKeys (config : RelaySessionConfig) (receiveKey : Key) : RelaySessionExecutor where
  config := config
  counters := {}
  hopKeys := some (.newWithReceiverIndexes config.relayReceiverIndex config.relayReceiverIndex
    (.replicate 32 0) receiveKey)

def checkPacket (executor : RelaySessionExecutor) (relayReceiverIndex : UInt32) (packetSize nowUnixUs : Nat) :
    RelayPacketDecision :=
  if relayReceiverIndex ≠ executor.config.relayReceiverIndex then .drop .unknownReceiverIndex
  else if nowUnixUs ≥ executor.config.expiresAtUnixUs then .drop .expiredSession
  else if executor.config.maxPacketSize.any (packetSize > ·) then .drop .packetTooLarge
  else if executor.config.maxPackets.any (executor.counters.forwardedPackets ≥ ·) ||
      executor.config.maxBytes.any (saturatingAdd executor.counters.forwardedBytes packetSize > ·) then
    .drop .limitExceeded
  else .forward

def recordDrop (executor : RelaySessionExecutor) : RelaySessionExecutor :=
  { executor with
    counters := { executor.counters with droppedPackets := saturatingAdd executor.counters.droppedPackets 1 } }

def authorizePacket (executor : RelaySessionExecutor) (relayReceiverIndex : UInt32) (packetSize nowUnixUs : Nat) :
    RelayPacketDecision × RelaySessionExecutor :=
  match executor.checkPacket relayReceiverIndex packetSize nowUnixUs with
  | .forward => (.forward,
      { executor with
        counters :=
          { executor.counters with
            forwardedPackets := saturatingAdd executor.counters.forwardedPackets 1
            forwardedBytes := saturatingAdd executor.counters.forwardedBytes packetSize } })
  | .drop reason => (.drop reason, executor.recordDrop)

variable (aead : Aead)

def unwrapAuthenticatedHopPacket (executor : RelaySessionExecutor) (packet : Bytes) (nowUnixUs : Nat) :
    Except RelayDropReason Bytes × RelaySessionExecutor :=
  match executor.hopKeys with
  | none => (.error .hopCryptoUnavailable, executor.recordDrop)
  | some hopKeys =>
      match hopKeys.decryptPacket aead packet with
      | (.error _, next) => (.error .hopAuthFailed, { executor with hopKeys := some next }.recordDrop)
      | (.ok decrypted, next) =>
          match { executor with hopKeys := some next }.authorizePacket decrypted.receiverIndex
              decrypted.plaintext.length nowUnixUs with
          | (.forward, executor) => (.ok decrypted.plaintext, executor)
          | (.drop reason, executor) => (.error reason, executor)

/-- The range of the inner packet, the buffer it lies in, and the relay afterwards. -/
def unwrapAuthenticatedHopPacketInPlace (executor : RelaySessionExecutor) (packet : Bytes) (nowUnixUs : Nat) :
    Except RelayDropReason ByteRange × Bytes × RelaySessionExecutor :=
  match executor.hopKeys with
  | none => (.error .hopCryptoUnavailable, packet, executor.recordDrop)
  | some hopKeys =>
      match hopKeys.decryptPacketInPlace aead packet with
      | (.error _, buffer, next) => (.error .hopAuthFailed, buffer, { executor with hopKeys := some next }.recordDrop)
      | (.ok decrypted, buffer, next) =>
          match { executor with hopKeys := some next }.authorizePacket decrypted.receiverIndex
              decrypted.plaintextRange.len nowUnixUs with
          | (.forward, executor) => (.ok decrypted.plaintextRange, buffer, executor)
          | (.drop reason, executor) => (.error reason, buffer, executor)

def receive (executor : RelaySessionExecutor) (arrivals : List (Bytes × Nat)) : RelaySessionExecutor :=
  arrivals.foldl (fun executor arrival =>
    (executor.unwrapAuthenticatedHopPacket aead arrival.1 arrival.2).2) executor

end RelaySessionExecutor

section Acceptance

def RelayPacketDecision.answer (decision : RelayPacketDecision) (inner : Bytes) : Except RelayDropReason Bytes :=
  match decision with
  | .forward => .ok inner
  | .drop reason => .error reason

/-- A packet sealed for one receiver index under one key. -/
def Sealed (aead : Aead) (key : Key) (receiverIndex : UInt32) (packet : Bytes) : Prop :=
  ∃ counter frame, counter < 2 ^ 64 ∧ encryptFrameWithCounter aead receiverIndex key counter frame = .ok packet

/-- A relay's hop crypto passes a packet: what was sealed in it is subject to compiled limits only. -/
def RelaySessionExecutor.Passes (aead : Aead) (executor : RelaySessionExecutor) (key : Key) (packet : Bytes)
    (now : Nat) : Prop :=
  ∃ counter frame, encryptFrameWithCounter aead executor.config.relayReceiverIndex key counter frame = .ok packet ∧
    (executor.unwrapAuthenticatedHopPacket aead packet now).1 =
      (executor.checkPacket executor.config.relayReceiverIndex frame.length now).answer frame

/-- The relay opens packets under `key` and has accepted exactly the counters in `accepted`. -/
def RelaySessionExecutor.Listens (executor : RelaySessionExecutor) (key : Key) (accepted : Set Nat) : Prop :=
  ∃ hopKeys, executor.hopKeys = some hopKeys ∧ hopKeys.receiveCipher = key ∧
    hopKeys.localReceiverIndex = executor.config.relayReceiverIndex ∧ hopKeys.replayWindow.Tracks accepted ∧
    hopKeys.replayWindow.windowBits = DEFAULT_REPLAY_WINDOW_BITS

namespace RelaySessionExecutor

variable (aead : Aead) {executor : RelaySessionExecutor} {key : Key} {accepted : Set Nat} {packet : Bytes}

theorem listens_new (config : RelaySessionConfig) (key : Key) : (newWithHopKeys config key).Listens key ∅ :=
  ⟨_, rfl, rfl, rfl, ReplayWindow.tracks_new _, ReplayWindow.default_windowBits⟩

theorem authorizePacket_same (executor : RelaySessionExecutor) (receiverIndex : UInt32) (packetSize now : Nat) :
    (executor.authorizePacket receiverIndex packetSize now).1 = executor.checkPacket receiverIndex packetSize now ∧
      (executor.authorizePacket receiverIndex packetSize now).2.hopKeys = executor.hopKeys ∧
      (executor.authorizePacket receiverIndex packetSize now).2.config = executor.config := by
  unfold authorizePacket
  split
  · rename_i passed
    exact ⟨passed.symm, rfl, rfl⟩
  · rename_i reason failed
    exact ⟨failed.symm, rfl, rfl⟩

theorem unwrap_eq {hopKeys : TransportKeys} (held : executor.hopKeys = some hopKeys) (packet : Bytes) (now : Nat) :
    (executor.unwrapAuthenticatedHopPacket aead packet now).1 =
        (match (hopKeys.decryptPacket aead packet).1 with
          | .ok decrypted =>
              (executor.checkPacket decrypted.receiverIndex decrypted.plaintext.length now).answer decrypted.plaintext
          | .error _ => .error .hopAuthFailed) ∧
      (executor.unwrapAuthenticatedHopPacket aead packet now).2.hopKeys = some (hopKeys.decryptPacket aead packet).2 ∧
      (executor.unwrapAuthenticatedHopPacket aead packet now).2.config = executor.config := by
  unfold unwrapAuthenticatedHopPacket
  simp only [held]
  rcases hopKeys.decryptPacket aead packet with ⟨failure | decrypted, next⟩
  · exact ⟨rfl, rfl, rfl⟩
  · obtain ⟨decided, keys, config⟩ := authorizePacket_same { executor with hopKeys := some next }
      decrypted.receiverIndex decrypted.plaintext.length now
    have checked : { executor with hopKeys := some next }.checkPacket decrypted.receiverIndex
      decrypted.plaintext.length now = executor.checkPacket decrypted.receiverIndex decrypted.plaintext.length now :=
        rfl
    rw [checked] at decided
    simp only [← decided]
    split
    · rename_i passed
      rw [passed] at keys config ⊢
      exact ⟨rfl, keys, config⟩
    · rename_i reason failed
      rw [failed] at keys config ⊢
      exact ⟨rfl, keys, config⟩

/-- A relay that can still tell a sealed packet apart hands on what is inside, limits permitting. -/
theorem Listens.accepts {aead : Aead} (correct : aead.Correct) (listens : executor.Listens key accepted) {counter : Nat}
    {frame : Bytes} (fits : counter < 2 ^ 64)
    (sealing : encryptFrameWithCounter aead executor.config.relayReceiverIndex key counter frame = .ok packet)
    (fresh : counter ∉ accepted) (near : ∀ other ∈ accepted, other < counter + DEFAULT_REPLAY_WINDOW_BITS) (now : Nat) :
    executor.Passes aead key packet now := by
  obtain ⟨hopKeys, held, cipher, addressed, tracks, bits⟩ := listens
  refine ⟨counter, frame, sealing, ?_⟩
  have opened := decryptPacketWithCipher_sealed correct fits sealing
  rw [(unwrap_eq aead held packet now).1]
  have open' : (hopKeys.replayWindow.accept counter).1 = true :=
    (tracks.accepts_iff counter).mpr ⟨fresh, fun some => bits ▸ near _ (tracks.top some)⟩
  obtain ⟨decrypted, authentic, -, -, decided⟩ | dropped := hopKeys.decryptPacket_cases aead packet
  · rw [cipher, opened] at authentic
    rw [decided, ← Except.ok.inj authentic]
  · rw [TransportKeys.decryptPacket, cipher, opened] at dropped
    simp [addressed, open'] at dropped

theorem Listens.receives (listens : executor.Listens key accepted) (packet : Bytes) (now : Nat) :
    ∃ later ⊆ insert (clearCounter packet) accepted,
      (executor.unwrapAuthenticatedHopPacket aead packet now).2.Listens key later := by
  obtain ⟨hopKeys, held, cipher, addressed, tracks, bits⟩ := listens
  obtain ⟨-, keys, config⟩ := unwrap_eq aead held packet now
  obtain ⟨decrypted, authentic, -, fresh, decided⟩ | dropped := hopKeys.decryptPacket_cases aead packet
  · rw [decided] at keys
    rw [decrypted_counter authentic] at fresh keys
    refine ⟨_, subset_rfl, _, keys, cipher, by rw [config]; exact addressed, tracks.accept ?_, by simpa using bits⟩
    simpa [ReplayWindow.Blocks] using fresh
  · rw [dropped] at keys
    exact ⟨accepted, Set.subset_insert .., hopKeys, keys, cipher, by rw [config]; exact addressed, tracks, bits⟩

theorem Listens.after (listens : executor.Listens key accepted) (arrivals : List (Bytes × Nat)) :
    ∃ later ⊆ accepted ∪ { counter | ∃ arrival ∈ arrivals, clearCounter arrival.1 = counter },
      (executor.receive aead arrivals).Listens key later := by
  induction arrivals generalizing executor accepted with
  | nil => exact ⟨accepted, Set.subset_union_left, listens⟩
  | cons arrival rest ih =>
    obtain ⟨middle, within, listening⟩ := listens.receives aead arrival.1 arrival.2
    obtain ⟨later, bound, done⟩ := ih listening
    refine ⟨later, fun counter member => ?_, done⟩
    rcases bound member with earlier | ⟨other, listed, same⟩
    · rcases within earlier with rfl | before
      · exact Or.inr ⟨arrival, List.mem_cons_self .., rfl⟩
      · exact Or.inl before
    · exact Or.inr ⟨other, List.mem_cons_of_mem _ listed, same⟩

theorem receive_config (executor : RelaySessionExecutor) (arrivals : List (Bytes × Nat)) :
    (executor.receive aead arrivals).config = executor.config := by
  induction arrivals generalizing executor with
  | nil => rfl
  | cons arrival rest ih =>
    refine (ih _).trans ?_
    cases held : executor.hopKeys with
    | none => simp [unwrapAuthenticatedHopPacket, held, recordDrop]
    | some hopKeys => exact (unwrap_eq aead held arrival.1 arrival.2).2.2

end RelaySessionExecutor

end Acceptance

end Gatherlink.Dataplane
