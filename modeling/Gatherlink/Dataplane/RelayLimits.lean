import Gatherlink.Dataplane.Relay

/-! A relay session over whole runs. Unwrapping a packet in its receive buffer is the same as unwrapping
a copy of it, and what a session hands on stays within the limits compiled for it. -/

namespace Gatherlink.Dataplane
open Crypto Lib.BigEndian

/-- The two ways a packet enters a relay session. -/
inductive HopUnwrap where
  | allocating
  | inPlace
  deriving DecidableEq

namespace RelaySessionExecutor

variable (aead : Aead)

/-- What one entry point answers, with the inner packet read out of the buffer where it was left there. -/
def handle (executor : RelaySessionExecutor) (entry : HopUnwrap) (packet : Bytes) (nowUnixUs : Nat) :
    Except RelayDropReason Bytes × RelaySessionExecutor :=
  match entry with
  | .allocating => executor.unwrapAuthenticatedHopPacket aead packet nowUnixUs
  | .inPlace =>
      let (answer, buffer, next) := executor.unwrapAuthenticatedHopPacketInPlace aead packet nowUnixUs
      (answer.map (·.slice buffer), next)

/-- The outcome of every arrival together with the session it leaves behind. -/
def history (entry : HopUnwrap) :
    RelaySessionExecutor → List (Bytes × Nat) → List (Except RelayDropReason Bytes × RelaySessionExecutor)
  | _, [] => []
  | executor, (packet, now) :: rest =>
      executor.handle aead entry packet now :: history entry (executor.handle aead entry packet now).2 rest

variable {aead}

theorem handle_inPlace (inPlace : aead.InPlace) (executor : RelaySessionExecutor) (packet : Bytes) (now : Nat) :
    executor.handle aead .inPlace packet now = executor.handle aead .allocating packet now := by
  unfold handle unwrapAuthenticatedHopPacketInPlace unwrapAuthenticatedHopPacket
  cases executor.hopKeys with
  | none => rfl
  | some hopKeys =>
    obtain ⟨copy, inside⟩ := hopKeys.decryptPacketInPlace_read inPlace packet
    simp only [copy]
    generalize hopKeys.decryptPacketInPlace aead packet = opened at inside ⊢
    obtain ⟨failure | decrypted, buffer, next⟩ := opened
    · rfl
    · simp only [Except.map, DecryptedPacketInPlace.read, ByteRange.slice_length (inside decrypted rfl)]
      rcases authorizePacket _ decrypted.receiverIndex decrypted.plaintextRange.len now with ⟨_ | reason, after⟩ <;> rfl

theorem handle_eq (inPlace : aead.InPlace) (executor : RelaySessionExecutor) (entry : HopUnwrap) (packet : Bytes)
    (now : Nat) :
    executor.handle aead entry packet now = executor.unwrapAuthenticatedHopPacket aead packet now := by
  cases entry with
  | allocating => rfl
  | inPlace => exact handle_inPlace inPlace executor packet now

theorem history_inPlace_eq (inPlace : aead.InPlace) (executor : RelaySessionExecutor) (arrivals : List (Bytes × Nat)) :
    executor.history aead .inPlace arrivals = executor.history aead .allocating arrivals := by
  induction arrivals generalizing executor with
  | nil => rfl
  | cons arrival rest ih => rw [history, history, handle_inPlace inPlace, ih]

/-- The equation at a session that opens a packet sealed under its key. -/
theorem history_inPlace_eq_sealed :
    let executor := newWithHopKeys ⟨7, 100, none, some 1, none⟩ (.replicate 32 5)
    let packet := envelopeHeader 7 0 ++ [1, 2, 3] ++ List.replicate 16 5
    executor.history Aead.transparent .inPlace [(packet, 10), (packet, 11)] =
        executor.history Aead.transparent .allocating [(packet, 10), (packet, 11)] ∧
      (executor.handle Aead.transparent .inPlace packet 10).1 = .ok [1, 2, 3] :=
  ⟨history_inPlace_eq Aead.transparent_inPlace _ _, by decide⟩

end RelaySessionExecutor

/-- The counters of a session are 64-bit, and so are its limits. -/
structure RelaySessionConfig.Fits (config : RelaySessionConfig) : Prop where
  packets : ∀ limit ∈ config.maxPackets, limit ≤ U64_MAX
  bytes : ∀ limit ∈ config.maxBytes, limit ≤ U64_MAX

structure RelayArrival where
  entry : HopUnwrap
  packet : Bytes
  now : Nat
  deriving DecidableEq

structure ForwardedPacket where
  packet : Bytes
  now : Nat
  inner : Bytes
  deriving DecidableEq

/-- A session together with what it has handed on so far. -/
structure RelayRun where
  executor : RelaySessionExecutor
  forwarded : List ForwardedPacket := []

namespace RelayRun

variable (aead : Aead)

def totalBytes (run : RelayRun) : Nat := (run.forwarded.map (·.inner.length)).sum

def step (run : RelayRun) (arrival : RelayArrival) : RelayRun :=
  let (answer, executor) := run.executor.handle aead arrival.entry arrival.packet arrival.now
  match answer with
  | .ok inner => ⟨executor, run.forwarded ++ [⟨arrival.packet, arrival.now, inner⟩]⟩
  | .error _ => ⟨executor, run.forwarded⟩

def after (run : RelayRun) (arrivals : List RelayArrival) : RelayRun := arrivals.foldl (step aead) run

end RelayRun

section Limits

variable {aead : Aead} {config : RelaySessionConfig} {presented : Nat} {run : RelayRun}

/-- What the counters and the replay window of a session know about the packets presented to it. -/
structure RelayRun.Accounts (config : RelaySessionConfig) (presented : Nat) (run : RelayRun) : Prop where
  compiled : run.executor.config = config
  packets : run.executor.counters.forwardedPackets = min run.forwarded.length U64_MAX
  bytes : run.executor.counters.forwardedBytes = min run.totalBytes U64_MAX
  counted : ∃ dropped, run.forwarded.length + dropped = presented ∧
    run.executor.counters.droppedPackets = min dropped U64_MAX
  known : ∀ hopKeys ∈ run.executor.hopKeys, ∃ accepted, hopKeys.replayWindow.Tracks accepted ∧
    ∀ sent ∈ run.forwarded, clearCounter sent.packet ∈ accepted

/-- The limits compiled for a session, over everything it has handed on. -/
structure RelayRun.Limited (config : RelaySessionConfig) (run : RelayRun) : Prop where
  packets : ∀ limit ∈ config.maxPackets, run.forwarded.length ≤ limit
  bytes : ∀ limit ∈ config.maxBytes, min run.totalBytes U64_MAX ≤ limit
  sizes : ∀ limit ∈ config.maxPacketSize, ∀ sent ∈ run.forwarded, sent.inner.length ≤ limit
  times : ∀ sent ∈ run.forwarded, sent.now < config.expiresAtUnixUs
  counters : (run.forwarded.map (clearCounter ·.packet)).Nodup

theorem RelaySessionExecutor.checkPacket_hopKeys (executor : RelaySessionExecutor) (keys : Option TransportKeys)
    (receiverIndex : UInt32) (packetSize now : Nat) :
    { executor with hopKeys := keys }.checkPacket receiverIndex packetSize now =
      executor.checkPacket receiverIndex packetSize now := rfl

theorem RelaySessionExecutor.checkPacket_forward {executor : RelaySessionExecutor} {receiverIndex : UInt32}
    {packetSize now : Nat} (passed : executor.checkPacket receiverIndex packetSize now = .forward) :
    now < executor.config.expiresAtUnixUs ∧ (∀ limit ∈ executor.config.maxPacketSize, packetSize ≤ limit) ∧
      (∀ limit ∈ executor.config.maxPackets, executor.counters.forwardedPackets < limit) ∧
      ∀ limit ∈ executor.config.maxBytes, saturatingAdd executor.counters.forwardedBytes packetSize ≤ limit := by
  unfold checkPacket at passed
  split_ifs at passed with other expired large exceeded
  simp only [Bool.or_eq_true, not_or, Option.any_eq_true, decide_eq_true_eq, not_exists, not_and, Nat.not_lt,
    Nat.not_le] at expired large exceeded
  exact ⟨expired, large, exceeded.1, exceeded.2⟩

/-- Every packet is handed on after authentication, a fresh counter and the compiled checks, or counted as dropped. -/
theorem RelaySessionExecutor.unwrap_cases (executor : RelaySessionExecutor) (packet : Bytes) (now : Nat) :
    (∃ hopKeys inner receiverIndex, executor.hopKeys = some hopKeys ∧
      ¬hopKeys.replayWindow.Blocks (clearCounter packet) ∧
      executor.checkPacket receiverIndex inner.length now = .forward ∧
      executor.unwrapAuthenticatedHopPacket aead packet now = (.ok inner,
        { executor with
          counters :=
            { executor.counters with
              forwardedPackets := saturatingAdd executor.counters.forwardedPackets 1
              forwardedBytes := saturatingAdd executor.counters.forwardedBytes inner.length }
          hopKeys := some { hopKeys with replayWindow := (hopKeys.replayWindow.accept (clearCounter packet)).2 } })) ∨
    ∃ reason keys, executor.unwrapAuthenticatedHopPacket aead packet now =
        (.error reason, { executor with hopKeys := keys }.recordDrop) ∧
      (keys = executor.hopKeys ∨ ∃ hopKeys, executor.hopKeys = some hopKeys ∧
        ¬hopKeys.replayWindow.Blocks (clearCounter packet) ∧
        keys = some { hopKeys with replayWindow := (hopKeys.replayWindow.accept (clearCounter packet)).2 }) := by
  cases held : executor.hopKeys with
  | none =>
    refine Or.inr ⟨.hopCryptoUnavailable, none, ?_, Or.inl rfl⟩
    simp only [unwrapAuthenticatedHopPacket, held]
    simp only [recordDrop, held]
  | some hopKeys =>
    simp only [unwrapAuthenticatedHopPacket, held]
    obtain ⟨decrypted, authentic, -, fresh, opened⟩ | dropped := hopKeys.decryptPacket_cases aead packet
    · rw [decrypted_counter authentic] at fresh opened
      simp only [opened, authorizePacket, checkPacket_hopKeys]
      cases checked : executor.checkPacket decrypted.receiverIndex decrypted.plaintext.length now with
      | forward => exact Or.inl ⟨hopKeys, decrypted.plaintext, decrypted.receiverIndex, rfl, fresh, checked, rfl⟩
      | drop reason => exact Or.inr ⟨reason, _, rfl, Or.inr ⟨hopKeys, rfl, fresh, rfl⟩⟩
    · simp only [dropped]
      exact Or.inr ⟨_, some hopKeys, rfl, Or.inl rfl⟩

namespace RelayRun

variable {arrival : RelayArrival} {executor : RelaySessionExecutor}

theorem step_ok (inPlace : aead.InPlace) {inner : Bytes}
    (answer : run.executor.unwrapAuthenticatedHopPacket aead arrival.packet arrival.now = (.ok inner, executor)) :
    run.step aead arrival = ⟨executor, run.forwarded ++ [⟨arrival.packet, arrival.now, inner⟩]⟩ := by
  simp only [step, RelaySessionExecutor.handle_eq inPlace, answer]

theorem step_error (inPlace : aead.InPlace) {reason : RelayDropReason}
    (answer : run.executor.unwrapAuthenticatedHopPacket aead arrival.packet arrival.now = (.error reason, executor)) :
    run.step aead arrival = ⟨executor, run.forwarded⟩ := by
  simp only [step, RelaySessionExecutor.handle_eq inPlace, answer]

theorem known_accept {hopKeys : TransportKeys} {forwarded : List ForwardedPacket} {packet : Bytes}
    (known : ∃ accepted, hopKeys.replayWindow.Tracks accepted ∧ ∀ sent ∈ forwarded, clearCounter sent.packet ∈ accepted)
    (fresh : ¬hopKeys.replayWindow.Blocks (clearCounter packet)) :
    (∀ sent ∈ forwarded, clearCounter sent.packet ≠ clearCounter packet) ∧
      ∃ accepted, (hopKeys.replayWindow.accept (clearCounter packet)).2.Tracks accepted ∧
        clearCounter packet ∈ accepted ∧ ∀ sent ∈ forwarded, clearCounter sent.packet ∈ accepted := by
  obtain ⟨accepted, tracks, seen⟩ := known
  rw [ReplayWindow.Blocks, Bool.not_eq_false] at fresh
  constructor
  · intro sent member same
    exact ((tracks.accepts_iff _).mp fresh).1 (same ▸ seen sent member)
  · exact ⟨_, tracks.accept fresh, Set.mem_insert .., fun sent member => Set.mem_insert_of_mem _ (seen sent member)⟩

theorem Accounts.step (inPlace : aead.InPlace) (accounts : run.Accounts config presented) (arrival : RelayArrival) :
    (run.step aead arrival).Accounts config (presented + 1) := by
  obtain ⟨dropped, total, drops⟩ := accounts.counted
  obtain ⟨hopKeys, inner, receiverIndex, held, fresh, -, answer⟩ | ⟨reason, keys, answer, trace⟩ :=
    run.executor.unwrap_cases arrival.packet arrival.now
  · obtain ⟨-, accepted, tracks, new, old⟩ := known_accept (accounts.known hopKeys held) fresh
    rw [step_ok inPlace answer]
    exact
      { compiled := accounts.compiled
        packets := by
          simp only [saturatingAdd, accounts.packets, List.length_append, List.length_singleton]
          omega
        bytes := by
          simp only [saturatingAdd, accounts.bytes, totalBytes, List.map_append, List.sum_append, List.map_cons,
            List.map_nil, List.sum_singleton]
          omega
        counted := ⟨dropped, by simp only [List.length_append, List.length_singleton]; omega, drops⟩
        known := by
          rintro later ⟨⟩
          refine ⟨accepted, tracks, fun sent member => ?_⟩
          rcases List.mem_append.mp member with earlier | last
          · exact old sent earlier
          · rw [List.mem_singleton.mp last]
            exact new }
  · rw [step_error inPlace answer]
    exact
      { compiled := accounts.compiled
        packets := accounts.packets
        bytes := accounts.bytes
        counted := by
          refine ⟨dropped + 1, congrArg (· + 1) total, ?_⟩
          simp only [RelaySessionExecutor.recordDrop, saturatingAdd, drops]
          omega
        known := by
          intro later member
          rcases trace with rfl | ⟨hopKeys, held, fresh, rfl⟩
          · exact accounts.known later member
          · obtain ⟨-, accepted, tracks, -, old⟩ := known_accept (accounts.known hopKeys held) fresh
            cases member
            exact ⟨accepted, tracks, old⟩ }

theorem Limited.step (inPlace : aead.InPlace) (accounts : run.Accounts config presented) (fits : config.Fits)
    (limited : run.Limited config) (arrival : RelayArrival) : (run.step aead arrival).Limited config := by
  obtain ⟨hopKeys, inner, receiverIndex, held, fresh, checked, answer⟩ | ⟨reason, keys, answer, -⟩ :=
    run.executor.unwrap_cases arrival.packet arrival.now
  · obtain ⟨early, small, packets, bytes⟩ := RelaySessionExecutor.checkPacket_forward checked
    rw [accounts.compiled] at early small packets bytes
    rw [accounts.packets] at packets
    rw [accounts.bytes] at bytes
    rw [step_ok inPlace answer]
    exact
      { packets := by
          intro limit configured
          have below := packets limit configured
          have wide := fits.packets limit configured
          rw [List.length_append, List.length_singleton]
          omega
        bytes := by
          intro limit configured
          have below := bytes limit configured
          simp only [saturatingAdd] at below
          simp only [totalBytes, List.map_append, List.sum_append, List.map_cons, List.map_nil, List.sum_singleton]
            at below ⊢
          omega
        sizes := by
          intro limit configured sent member
          rcases List.mem_append.mp member with earlier | last
          · exact limited.sizes limit configured sent earlier
          · rw [List.mem_singleton.mp last]
            exact small limit configured
        times := by
          intro sent member
          rcases List.mem_append.mp member with earlier | last
          · exact limited.times sent earlier
          · rw [List.mem_singleton.mp last]
            exact early
        counters := by
          rw [List.map_append, List.map_singleton, List.nodup_append]
          refine ⟨limited.counters, List.nodup_singleton _, ?_⟩
          intro earlier member other last
          obtain ⟨sent, listed, rfl⟩ := List.mem_map.mp member
          rw [List.mem_singleton.mp last]
          exact (known_accept (accounts.known hopKeys held) fresh).1 sent listed }
  · rw [step_error inPlace answer]
    exact { limited with }

theorem limited_after (inPlace : aead.InPlace) (fits : config.Fits) (accounts : run.Accounts config presented)
    (limited : run.Limited config) (arrivals : List RelayArrival) :
    (run.after aead arrivals).Accounts config (presented + arrivals.length) ∧
      (run.after aead arrivals).Limited config := by
  induction arrivals generalizing run presented with
  | nil => exact ⟨accounts, limited⟩
  | cons arrival rest ih =>
    have next := ih (accounts.step inPlace arrival) (limited.step inPlace accounts fits arrival)
    rw [List.length_cons, ← Nat.add_assoc, Nat.add_right_comm]
    exact next

theorem accounts_start (started : executor = .new config ∨ ∃ key, executor = .newWithHopKeys config key) :
    Accounts config 0 ⟨executor, []⟩ := by
  rcases started with rfl | ⟨key, rfl⟩
  · exact ⟨rfl, rfl, rfl, ⟨0, rfl, rfl⟩, fun _ impossible => by cases impossible⟩
  · refine ⟨rfl, rfl, rfl, ⟨0, rfl, rfl⟩, ?_⟩
    rintro hopKeys ⟨⟩
    exact ⟨∅, ReplayWindow.tracks_new _, by simp⟩

theorem limited_start (executor : RelaySessionExecutor) : Limited config ⟨executor, []⟩ := by
  constructor <;> simp [totalBytes]

/-- Whatever arrives and whenever, a session hands on no more packets and no more bytes than compiled, nothing
larger or later than allowed and no counter twice, and its counters add up to the packets presented. -/
theorem session_limits {executor : RelaySessionExecutor} (inPlace : aead.InPlace) (fits : config.Fits)
    (started : executor = .new config ∨ ∃ key, executor = .newWithHopKeys config key) (arrivals : List RelayArrival) :
    let run := after aead ⟨executor, []⟩ arrivals
    (∀ limit ∈ config.maxPackets, run.forwarded.length ≤ limit) ∧
      (∀ limit ∈ config.maxBytes, limit < U64_MAX ∨ run.totalBytes ≤ U64_MAX → run.totalBytes ≤ limit) ∧
      (∀ limit ∈ config.maxPacketSize, ∀ sent ∈ run.forwarded, sent.inner.length ≤ limit) ∧
      (∀ sent ∈ run.forwarded, sent.now < config.expiresAtUnixUs) ∧
      (run.forwarded.map (clearCounter ·.packet)).Nodup ∧
      (arrivals.length ≤ U64_MAX →
        run.executor.counters.forwardedPackets + run.executor.counters.droppedPackets = arrivals.length) := by
  intro run
  obtain ⟨accounts, limited⟩ := limited_after inPlace fits (accounts_start started) (limited_start executor) arrivals
  refine ⟨limited.packets, ?_, limited.sizes, limited.times, limited.counters, ?_⟩
  · intro limit configured below
    have bound : min run.totalBytes U64_MAX ≤ limit := limited.bytes limit configured
    omega
  · intro few
    obtain ⟨dropped, total, drops⟩ := accounts.counted
    rw [accounts.packets, drops]
    omega

def sessionOfTwo : RelaySessionConfig := ⟨7, 100, some 4, some 2, some 5⟩

def sealedForSession (counter : Nat) : Bytes := envelopeHeader 7 counter ++ [1, 2] ++ List.replicate 16 5

/-- Three packets and a replay of the first. -/
def sessionArrivals : List RelayArrival :=
  [⟨.inPlace, sealedForSession 0, 10⟩, ⟨.allocating, sealedForSession 0, 11⟩, ⟨.inPlace, sealedForSession 1, 12⟩,
    ⟨.inPlace, sealedForSession 2, 13⟩]

theorem session_limits_two :
    let run := after Aead.transparent ⟨.newWithHopKeys sessionOfTwo (.replicate 32 5), []⟩ sessionArrivals
    run.forwarded.length = 2 ∧
      run.executor.counters.forwardedPackets + run.executor.counters.droppedPackets = sessionArrivals.length :=
  ⟨by decide, (session_limits Aead.transparent_inPlace ⟨by decide, by decide⟩ (Or.inr ⟨.replicate 32 5, rfl⟩)
    sessionArrivals).2.2.2.2.2 (by decide)⟩

end RelayRun

end Limits

end Gatherlink.Dataplane
