import Gatherlink.Engine.FanoutDelivery

/-! Draining the path sockets through any handler, while packets keep arriving. The cursor moves behind the last socket
that was drained, so a socket with packets comes closer to it with every call that does not reach the socket. -/

namespace Gatherlink.Engine
open Protocol Crypto Dataplane Lib.Lookup Lib.Exec

section Definitions

variable (os : Os) (traffic : Nat → Nat → List Arrival) (handle : PathPacket → Run PUnit)

/-- The packets that arrive at the sockets before a system call, by the number of calls made before. -/
def meanwhile : Run PUnit :=
  modify fun machine =>
    { machine with
      net :=
        { machine.net with
          inbound := fun socketId => machine.net.inbound socketId ++ traffic machine.net.calls socketId } }

/-- The packets handed on, each with the id of its socket. -/
abbrev Handed := List (Nat × PathPacket)

def drainSocketWith (pathId : PathId) (socketId budget : Nat) : Nat → Handed → Run Handed
  | 0, handed => pure handed
  | fuel + 1, handed =>
      if handed.length < budget then do
        meanwhile traffic
        let batch ← takeBatch os socketId (min (budget - handed.length) RECV_BATCH_LIMIT)
        if batch.isEmpty then pure handed
        else do
          (batch.map (Arrival.onPath pathId)).forM handle
          drainSocketWith pathId socketId budget fuel
            (handed ++ batch.map fun arrival => (socketId, Arrival.onPath pathId arrival))
      else pure handed

def drainRoundWith (maxFrames pathCount start : Nat) : List Nat → Handed → Bool → Run (Handed × Bool)
  | [], handed, any => pure (handed, any)
  | offset :: rest, handed, any =>
      if handed.length ≥ maxFrames then pure (handed, any)
      else do
        let cursor := (start + offset) % pathCount
        let socket ← reads fun machine =>
          machine.engine.pathTransports.pathOrder[cursor]?.bind machine.engine.pathTransports.sockets
        match socket with
        | none => drainRoundWith maxFrames pathCount start rest handed any
        | some socket => do
            let share := (maxFrames - handed.length + pathCount - 1) / pathCount
            let budget := max (min share socket.drainQuantum) 1
            let taken ← drainSocketWith os traffic handle socket.pathId socket.socket.id budget budget []
            if taken.length > 0 then do
              modify fun machine =>
                { machine with
                  engine :=
                    { machine.engine with
                      pathTransports :=
                        { machine.engine.pathTransports with drainCursor := (cursor + 1) % pathCount } } }
              drainRoundWith maxFrames pathCount start rest (handed ++ taken) true
            else drainRoundWith maxFrames pathCount start rest handed any

/-- `drain_available` with any handler. -/
def drainAvailableWith (maxFrames : Nat) : Nat → Handed → Run Handed
  | 0, handed => pure handed
  | fuel + 1, handed =>
      if handed.length < maxFrames then do
        let (pathCount, start) ← reads fun machine =>
          (machine.engine.pathTransports.pathOrder.length, machine.engine.pathTransports.drainCursor)
        let (total, any) ← drainRoundWith os traffic handle maxFrames pathCount start
          (List.range pathCount) handed false
        if any then drainAvailableWith maxFrames fuel total else pure total
      else pure handed

end Definitions

section Instance

variable {os : Os} {aead : Aead}

theorem meanwhile_nothing : meanwhile (fun _ _ => []) = (pure ⟨⟩ : Run PUnit) := by
  funext machine
  simp only [meanwhile, List.append_nil]
  rfl

theorem drainUdpSocket_eq {pathId : PathId} {socketId budget fuel : Nat} {handed : Handed} :
    drainUdpSocket os aead pathId socketId budget fuel handed.length =
      List.length <$> drainSocketWith os (fun _ _ => []) (processPacket os aead) pathId socketId
        budget fuel handed := by
  induction fuel generalizing handed with
  | zero => simp [drainUdpSocket, drainSocketWith]
  | succ fuel ih =>
    rw [drainUdpSocket, drainSocketWith, meanwhile_nothing]
    split
    · simp only [pure_bind, map_bind]
      congr 1
      funext batch
      split
      · simp
      · simp [receivePackets, ← ih]
    · simp

theorem drainRound_eq {maxFrames pathCount start : Nat} {offsets : List Nat} {handed : Handed} {any : Bool} :
    drainRound os aead maxFrames pathCount start offsets handed.length any =
      (fun ended => (ended.1.length, ended.2)) <$> drainRoundWith os (fun _ _ => []) (processPacket os aead) maxFrames
        pathCount start offsets handed any := by
  induction offsets generalizing handed any with
  | nil => simp [drainRound, drainRoundWith]
  | cons offset rest ih =>
    rw [drainRound, drainRoundWith]
    split
    · simp
    · simp only [map_bind]
      congr 1
      funext socket
      cases socket with
      | none => exact ih
      | some socket =>
        have single (budget : Nat) : drainUdpSocket os aead socket.pathId socket.socket.id budget budget 0 =
            List.length <$> drainSocketWith os (fun _ _ => [])
              (processPacket os aead) socket.pathId socket.socket.id budget
              budget [] := @drainUdpSocket_eq os aead socket.pathId socket.socket.id budget budget []
        simp only [map_bind, single, bind_map_left]
        congr 1
        funext taken
        split
        · simp [← ih]
        · exact ih

/-- The engine drains with its own handler. -/
theorem drainAvailable_eq {maxFrames fuel : Nat} {handed : Handed} :
    drainAvailable os aead maxFrames fuel handed.length =
      (fun _ => ⟨⟩) <$> drainAvailableWith os (fun _ _ => []) (processPacket os aead) maxFrames fuel handed := by
  induction fuel generalizing handed with
  | zero => simp [drainAvailable, drainAvailableWith]
  | succ fuel ih =>
    rw [drainAvailable, drainAvailableWith]
    split
    · simp only [map_bind, drainRound_eq, bind_map_left]
      congr 1
      funext view
      congr 1
      funext ended
      split
      · exact ih
      · simp
    · simp

end Instance

section Sockets

variable {os : Os} {traffic : Nat → Nat → List Arrival} {handle : PathPacket → Run PUnit}

/-- A handler that succeeds. It cannot reach the sockets while they are drained. -/
def Handles (handle : PathPacket → Run PUnit) : Prop :=
  ∀ packet machine, ∃ next, handle packet machine = .ok ⟨⟩ next ∧
    next.engine.pathTransports = machine.engine.pathTransports ∧ next.net.inbound = machine.net.inbound

def Taken (socketId : Nat) (handed : Handed) : Prop := ∃ entry ∈ handed, entry.1 = socketId

/-- What draining keeps: the sockets, what has been handed on, and the packets of a socket until one of them is. -/
structure Drained (before : Machine) (handed : Handed) (after : Machine) (more : Handed) : Prop where
  order : after.engine.pathTransports.pathOrder = before.engine.pathTransports.pathOrder
  sockets : after.engine.pathTransports.sockets = before.engine.pathTransports.sockets
  grows : ∃ added, more = handed ++ added
  waiting : ∀ socketId, before.net.inbound socketId ≠ [] → after.net.inbound socketId ≠ [] ∨ Taken socketId more

variable {before middle after : Machine} {handed more most : Handed}

theorem Drained.refl : Drained before handed before handed :=
  ⟨rfl, rfl, ⟨[], (List.append_nil _).symm⟩, fun _ waiting => .inl waiting⟩

theorem Drained.taken (drained : Drained before handed after more) {socketId : Nat} (taken : Taken socketId handed) :
    Taken socketId more := by
  obtain ⟨added, rfl⟩ := drained.grows
  obtain ⟨entry, member, same⟩ := taken
  exact ⟨entry, List.mem_append_left _ member, same⟩

theorem Drained.trans (first : Drained before handed middle more) (second : Drained middle more after most) :
    Drained before handed after most := by
  refine ⟨second.order.trans first.order, second.sockets.trans first.sockets, ?_, fun socketId waiting => ?_⟩
  · obtain ⟨added, rfl⟩ := first.grows
    obtain ⟨later, rfl⟩ := second.grows
    exact ⟨added ++ later, List.append_assoc ..⟩
  · rcases first.waiting socketId waiting with still | taken
    · exact second.waiting socketId still
    · exact .inr (second.taken taken)

theorem Drained.behind (drained : Drained before [] after more) : Drained before handed after (handed ++ more) := by
  refine ⟨drained.order, drained.sockets, ⟨more, rfl⟩, fun socketId waiting => ?_⟩
  rcases drained.waiting socketId waiting with still | ⟨entry, member, same⟩
  · exact .inl still
  · exact .inr ⟨entry, List.mem_append_right _ member, same⟩

theorem handle_all (handles : Handles handle) (packets : List PathPacket) (machine : Machine) :
    ∃ next, packets.forM handle machine = .ok ⟨⟩ next ∧
      next.engine.pathTransports = machine.engine.pathTransports ∧ next.net.inbound = machine.net.inbound := by
  induction packets generalizing machine with
  | nil => exact ⟨machine, rfl, rfl, rfl⟩
  | cons packet rest ih =>
    obtain ⟨middle, first, transports, queues⟩ := handles packet machine
    obtain ⟨next, others, transports', queues'⟩ := ih middle
    refine ⟨next, ?_, transports'.trans transports, queues'.trans queues⟩
    change (handle packet >>= fun _ => rest.forM handle) machine = _
    rw [bind_ok first]
    exact others

theorem takeBatch_granted (granted : ∀ calls, os.recvmmsg calls = .ok ()) (socketId limit : Nat) (machine : Machine) :
    ∃ next, takeBatch os socketId limit machine = .ok ((machine.net.inbound socketId).take limit) next ∧
      next.engine = machine.engine ∧
      next.net.inbound =
        Function.update machine.net.inbound socketId ((machine.net.inbound socketId).drop limit) := by
  have asked : onNet (ask os.recvmmsg) machine =
      .ok (os.recvmmsg machine.net.calls)
        { machine with net := { machine.net with calls := machine.net.calls + 1 } } := rfl
  rw [takeBatch, bind_ok asked, granted]
  exact ⟨_, rfl, rfl, rfl⟩

theorem batch_drained {arrived taken : Machine} {socketId limit : Nat} {batch : List Arrival} {pathId : PathId}
    (queued : ∀ other, before.net.inbound other ≠ [] → arrived.net.inbound other ≠ [])
    (transports : taken.engine.pathTransports = before.engine.pathTransports)
    (queues : taken.net.inbound =
      Function.update arrived.net.inbound socketId ((arrived.net.inbound socketId).drop limit))
    (turn : before.net.inbound socketId ≠ [] → batch ≠ []) :
    Drained before handed taken (handed ++ batch.map fun arrival => (socketId, Arrival.onPath pathId arrival)) := by
  refine ⟨by rw [transports], by rw [transports], ⟨_, rfl⟩, fun other waiting => ?_⟩
  by_cases own : other = socketId
  · subst own
    obtain ⟨arrival, member⟩ := List.exists_mem_of_ne_nil _ (turn waiting)
    exact .inr ⟨_, List.mem_append_right _ (List.mem_map_of_mem member), rfl⟩
  · rw [queues, Function.update_of_ne own]
    exact .inl (queued other waiting)

theorem drainSocketWith_ok (granted : ∀ calls, os.recvmmsg calls = .ok ()) (handles : Handles handle) (pathId : PathId)
    (socketId budget fuel : Nat) (machine : Machine) (handed : Handed) :
    ∃ more next, drainSocketWith os traffic handle pathId socketId budget fuel handed machine = .ok more next ∧
      Drained machine handed next more ∧ more.length ≤ max budget handed.length ∧
      next.engine.pathTransports.drainCursor = machine.engine.pathTransports.drainCursor ∧
      (0 < fuel → handed.length < budget → machine.net.inbound socketId ≠ [] → Taken socketId more) := by
  induction fuel generalizing machine handed with
  | zero =>
    exact ⟨handed, machine, rfl, Drained.refl, le_max_right .., rfl, fun impossible => absurd impossible (by simp)⟩
  | succ fuel ih =>
    rw [drainSocketWith]
    by_cases room : handed.length < budget
    · obtain ⟨arrived, arrives, same, queued⟩ : ∃ arrived, meanwhile traffic machine = .ok ⟨⟩ arrived ∧
          arrived.engine = machine.engine ∧
          ∀ other, machine.net.inbound other ≠ [] → arrived.net.inbound other ≠ [] :=
        ⟨_, rfl, rfl, fun other waiting => List.append_ne_nil_of_left_ne_nil waiting _⟩
      obtain ⟨read, reads, unmoved, queues⟩ :=
        takeBatch_granted granted socketId (min (budget - handed.length) RECV_BATCH_LIMIT) arrived
      have positive : 0 < min (budget - handed.length) RECV_BATCH_LIMIT := by
        rw [RECV_BATCH_LIMIT]
        omega
      have turn : machine.net.inbound socketId ≠ [] →
          (arrived.net.inbound socketId).take (min (budget - handed.length) RECV_BATCH_LIMIT) ≠ [] := by
        intro waiting empty
        rcases List.take_eq_nil_iff.mp empty with none | none
        · omega
        · exact queued socketId waiting none
      have few : ((arrived.net.inbound socketId).take (min (budget - handed.length) RECV_BATCH_LIMIT)).length ≤
          budget - handed.length := (List.length_take_le _ _).trans (min_le_left ..)
      rw [if_pos room, bind_ok arrives, bind_ok reads]
      generalize (arrived.net.inbound socketId).take (min (budget - handed.length) RECV_BATCH_LIMIT) = batch at turn few
      cases batch with
      | nil =>
        have drained : Drained machine handed read handed := by
          simpa using @batch_drained machine handed arrived read socketId _ [] pathId queued
            (by rw [unmoved, same]) queues turn
        refine ⟨handed, read, rfl, drained, le_max_right .., by rw [unmoved, same], fun _ _ waiting => ?_⟩
        exact absurd rfl (turn waiting)
      | cons arrival rest =>
        obtain ⟨done, handling, transports, left⟩ :=
          handle_all handles ((arrival :: rest).map (Arrival.onPath pathId)) read
        have first : Drained machine handed done (handed ++ (arrival :: rest).map fun arrival =>
            (socketId, Arrival.onPath pathId arrival)) :=
          batch_drained queued (by rw [transports, unmoved, same]) (left.trans queues) turn
        obtain ⟨more, next, follows, second, within, cursor, -⟩ :=
          ih done (handed ++ (arrival :: rest).map fun arrival =>
          (socketId, Arrival.onPath pathId arrival))
        simp only [List.isEmpty_cons, Bool.false_eq_true, if_false]
        rw [bind_ok handling]
        refine ⟨more, next, follows, first.trans second, ?_, ?_, fun _ _ _ => second.taken ?_⟩
        · simp only [List.length_append, List.length_map] at within
          omega
        · rw [cursor, transports, unmoved, same]
        · exact ⟨(socketId, Arrival.onPath pathId arrival), by simp, rfl⟩
    · rw [if_neg room]
      exact ⟨handed, machine, rfl, Drained.refl, le_max_right .., rfl, fun _ less => absurd less room⟩

end Sockets

section Rounds

variable {os : Os} {traffic : Nat → Nat → List Arrival} {handle : PathPacket → Run PUnit} {maxFrames start : Nat}
  {offsets : List Nat} {handed : Handed} {any : Bool} {machine : Machine}

/-- The socket at a place in the drain order. -/
def Machine.socketAt (machine : Machine) (position : Nat) : Option PathTransportSocket :=
  machine.engine.pathTransports.pathOrder[position]?.bind machine.engine.pathTransports.sockets

theorem share_le {remaining count : Nat} (some : 0 < remaining) (paths : 0 < count) :
    (remaining + count - 1) / count ≤ remaining := by
  rw [Nat.div_le_iff_le_mul_add_pred paths]
  have grows : remaining ≤ count * remaining := Nat.le_mul_of_pos_left _ paths
  omega

section
variable (granted : ∀ calls, os.recvmmsg calls = .ok ()) (handles : Handles handle)
include granted handles

variable {count : Nat}

/-- One place of a round. The cursor moves behind the socket if something was handed on, which is the case if the
socket has a packet. -/
theorem drainRoundWith_step (paths : 0 < count) (room : handed.length < maxFrames) (offset : Nat) :
    ∃ more any' next, drainRoundWith os traffic handle maxFrames count start (offset :: offsets) handed any machine =
        drainRoundWith os traffic handle maxFrames count start offsets more any' next ∧
      Drained machine handed next more ∧ more.length ≤ maxFrames ∧
      (more = handed ∧ next.engine.pathTransports.drainCursor = machine.engine.pathTransports.drainCursor ∨
        next.engine.pathTransports.drainCursor = (start + (offset + 1)) % count) ∧
      ∀ socket, machine.socketAt ((start + offset) % count) = some socket →
        machine.net.inbound socket.socket.id ≠ [] → Taken socket.socket.id more := by
  rw [drainRoundWith, if_neg (Nat.not_le.mpr room)]
  simp only
  rw [bind_reads, ← Machine.socketAt]
  cases machine.socketAt ((start + offset) % count) with
  | none =>
    refine ⟨handed, any, machine, rfl, Drained.refl, room.le, .inl ⟨rfl, rfl⟩, ?_⟩
    intro socket impossible
    cases impossible
  | some socket =>
    have budgeted : max (min ((maxFrames - handed.length + count - 1) / count) socket.drainQuantum) 1 ≤
        maxFrames - handed.length := by
      have share := share_le (show 0 < maxFrames - handed.length by omega) paths
      omega
    have positive : 0 < max (min ((maxFrames - handed.length + count - 1) / count) socket.drainQuantum) 1 :=
      Nat.lt_of_lt_of_le Nat.one_pos (le_max_right ..)
    simp only
    generalize max (min ((maxFrames - handed.length + count - 1) / count) socket.drainQuantum) 1 =
      budget at budgeted positive ⊢
    obtain ⟨taken, next, drains, drained, few, cursor, turn⟩ :=
      @drainSocketWith_ok os traffic handle granted handles socket.pathId socket.socket.id budget budget machine []
    have more : Drained machine handed next (handed ++ taken) := drained.behind
    rw [bind_ok drains]
    by_cases some : taken.length > 0
    · rw [if_pos some]
      refine ⟨handed ++ taken, true, _, rfl, ⟨more.order, more.sockets, more.grows, more.waiting⟩, ?_, .inr ?_, ?_⟩
      · rw [List.length_append]
        rw [List.length_nil, Nat.max_zero] at few
        omega
      · exact Nat.mod_add_mod ..
      · rintro _ ⟨⟩ waiting
        obtain ⟨entry, member, same⟩ := turn positive positive waiting
        exact ⟨entry, List.mem_append_right _ member, same⟩
    · obtain rfl : taken = [] := List.length_eq_zero_iff.mp (by omega)
      rw [List.append_nil] at more
      rw [if_neg some]
      refine ⟨handed, any, next, rfl, more, room.le, .inl ⟨rfl, cursor⟩, ?_⟩
      rintro _ ⟨⟩ waiting
      obtain ⟨entry, member, -⟩ := turn positive positive waiting
      exact absurd member List.not_mem_nil

theorem drainRoundWith_ok (paths : 0 < count) (within : handed.length ≤ maxFrames) :
    ∃ more any' next, drainRoundWith os traffic handle maxFrames count start offsets handed any machine =
        .ok (more, any') next ∧ Drained machine handed next more ∧ more.length ≤ maxFrames := by
  induction offsets generalizing machine handed any with
  | nil => exact ⟨handed, any, machine, rfl, Drained.refl, within⟩
  | cons offset rest ih =>
    by_cases room : handed.length < maxFrames
    · obtain ⟨more, any', middle, same, first, within, -⟩ := drainRoundWith_step granted handles paths room offset
      obtain ⟨most, ended, next, ran, second, within⟩ := ih within
      exact ⟨most, ended, next, same.trans ran, first.trans second, within⟩
    · rw [drainRoundWith, if_pos (Nat.not_lt.mp room)]
      exact ⟨handed, any, machine, rfl, Drained.refl, within⟩

/-- A round that has not come to the socket at a place by its end, although the socket has a packet, ended because the
budget was spent, with the cursor between its start and that place. -/
theorem drainRoundWith_reaches (budget : 0 < maxFrames) {socket : PathTransportSocket} {place : Nat}
    (length offset : Nat) (ahead : offset ≤ place) (below : place < offset + length)
    (found : machine.socketAt ((start + place) % count) = some socket)
    (waiting : machine.net.inbound socket.socket.id ≠ []) (within : handed.length ≤ maxFrames)
    (behind : handed = [] ∨ ∃ passed, 0 < passed ∧ passed ≤ offset ∧
      machine.engine.pathTransports.drainCursor = (start + passed) % count)
    (paths : 0 < count) :
    ∃ more any' next, drainRoundWith os traffic handle maxFrames count start
      (List.range' offset length) handed any machine =
        .ok (more, any') next ∧ (Taken socket.socket.id more ∨ maxFrames ≤ more.length ∧
          ∃ passed, 0 < passed ∧ passed ≤ place ∧
            next.engine.pathTransports.drainCursor = (start + passed) % count) := by
  induction length generalizing offset machine handed any with
  | zero => omega
  | succ length ih =>
    rw [List.range'_succ]
    by_cases room : handed.length < maxFrames
    · obtain ⟨more, any', middle, same, drained, within, cursor, turn⟩ :=
        @drainRoundWith_step os traffic handle maxFrames start (List.range' (offset + 1) length)
          handed any machine granted
          handles count paths room offset
      rw [same]
      have rest (taken : Taken socket.socket.id more) :
        ∃ most any'' next, drainRoundWith os traffic handle maxFrames count
          start (List.range' (offset + 1) length) more any' middle = .ok (most, any'') next ∧
          Taken socket.socket.id most := by
        obtain ⟨most, any'', next, ran, later, -⟩ := drainRoundWith_ok granted handles paths within
        exact ⟨most, any'', next, ran, later.taken taken⟩
      rcases Nat.eq_or_lt_of_le ahead with here | later
      · subst here
        obtain ⟨most, any'', next, ran, taken⟩ := rest (turn socket found waiting)
        exact ⟨most, any'', next, ran, .inl taken⟩
      · rcases drained.waiting _ waiting with still | taken
        · have found' : middle.socketAt ((start + place) % count) = some socket := by
            rw [Machine.socketAt, drained.order, drained.sockets]
            exact found
          refine ih (offset + 1) later (by omega) found' still within ?_
          rcases cursor with ⟨unchanged, cursor⟩ | cursor
          · rw [unchanged, cursor]
            refine behind.imp_right ?_
            rintro ⟨passed, positive, early, cursor⟩
            exact ⟨passed, positive, Nat.le_succ_of_le early, cursor⟩
          · exact .inr ⟨offset + 1, Nat.succ_pos _, le_rfl, cursor⟩
        · obtain ⟨most, any'', next, ran, taken⟩ := rest taken
          exact ⟨most, any'', next, ran, .inl taken⟩
    · rw [drainRoundWith, if_pos (Nat.not_lt.mp room)]
      refine ⟨handed, any, machine, rfl, .inr ⟨Nat.not_lt.mp room, ?_⟩⟩
      rcases behind with rfl | ⟨passed, positive, early, cursor⟩
      · exact absurd budget room
      · exact ⟨passed, positive, early.trans ahead, cursor⟩

end

end Rounds

section Calls

variable {os : Os} {handle : PathPacket → Run PUnit} {traffic : Nat → Nat → List Arrival} {machine : Machine}
  {maxFrames : Nat}

/-- The engine after a call, and the packets that the call handed on. -/
def afterDrain (os : Os) (traffic : Nat → Nat → List Arrival) (handle : PathPacket → Run PUnit) (maxFrames : Nat)
    (machine : Machine) : Machine :=
  finalState (drainAvailableWith os traffic handle maxFrames maxFrames [] machine)

def handedBy (os : Os) (traffic : Nat → Nat → List Arrival) (handle : PathPacket → Run PUnit) (maxFrames : Nat)
    (machine : Machine) : Handed :=
  (outcome (drainAvailableWith os traffic handle maxFrames maxFrames [] machine)).toOption.getD []

theorem drainAvailableWith_round {fuel : Nat} {handed more : Handed} {any : Bool} {next : Machine}
    (room : handed.length < maxFrames)
    (ran : drainRoundWith os traffic handle maxFrames machine.engine.pathTransports.pathOrder.length
      machine.engine.pathTransports.drainCursor (List.range machine.engine.pathTransports.pathOrder.length) handed false
      machine = .ok (more, any) next) :
    drainAvailableWith os traffic handle maxFrames (fuel + 1) handed machine =
      (if any then drainAvailableWith os traffic handle maxFrames fuel more else pure more) next := by
  rw [drainAvailableWith, if_pos room, bind_reads]
  exact bind_ok ran

theorem drainAvailableWith_full {fuel : Nat} {handed : Handed} (full : maxFrames ≤ handed.length) :
    drainAvailableWith os traffic handle maxFrames fuel handed machine = .ok handed machine := by
  cases fuel with
  | zero => rfl
  | succ fuel =>
    rw [drainAvailableWith, if_neg (Nat.not_lt.mpr full)]
    rfl

theorem drainAvailableWith_ok (granted : ∀ calls, os.recvmmsg calls = .ok ()) (handles : Handles handle) (fuel : Nat)
    {handed : Handed} (within : handed.length ≤ maxFrames) :
    ∃ more next, drainAvailableWith os traffic handle maxFrames fuel handed machine = .ok more next ∧
      Drained machine handed next more ∧ more.length ≤ maxFrames := by
  induction fuel generalizing machine handed with
  | zero => exact ⟨handed, machine, rfl, Drained.refl, within⟩
  | succ fuel ih =>
    by_cases room : handed.length < maxFrames
    · obtain ⟨more, any, middle, ran, first, within⟩ : ∃ more any next,
          drainRoundWith os traffic handle maxFrames machine.engine.pathTransports.pathOrder.length
            machine.engine.pathTransports.drainCursor (List.range machine.engine.pathTransports.pathOrder.length) handed
            false machine = .ok (more, any) next ∧ Drained machine handed next more ∧ more.length ≤ maxFrames := by
        rcases Nat.eq_zero_or_pos machine.engine.pathTransports.pathOrder.length with none | paths
        · rw [none]
          exact ⟨handed, false, machine, rfl, Drained.refl, within⟩
        · exact drainRoundWith_ok granted handles paths within
      rw [drainAvailableWith_round room ran]
      cases any with
      | false => exact ⟨more, middle, rfl, first, within⟩
      | true =>
        obtain ⟨most, next, ran, second, within⟩ := ih within
        exact ⟨most, next, ran, first.trans second, within⟩
    · exact ⟨handed, machine, drainAvailableWith_full (Nat.not_lt.mp room), Drained.refl, within⟩

/-- A socket with a packet is drained, or the cursor comes closer to it. -/
theorem drain_approaches (granted : ∀ calls, os.recvmmsg calls = .ok ()) (handles : Handles handle)
    (budget : 0 < maxFrames)
    {socket : PathTransportSocket} {distance : Nat} (near : distance < machine.engine.pathTransports.pathOrder.length)
    (found : machine.socketAt ((machine.engine.pathTransports.drainCursor + distance) %
      machine.engine.pathTransports.pathOrder.length) = some socket)
    (waiting : machine.net.inbound socket.socket.id ≠ []) :
    Taken socket.socket.id (handedBy os traffic handle maxFrames machine) ∨
      ∃ closer < distance, ((afterDrain os traffic handle maxFrames machine).engine.pathTransports.drainCursor +
        closer) %
        machine.engine.pathTransports.pathOrder.length = (machine.engine.pathTransports.drainCursor + distance) %
          machine.engine.pathTransports.pathOrder.length := by
  have paths : 0 < machine.engine.pathTransports.pathOrder.length := Nat.zero_lt_of_lt near
  obtain ⟨more, any, next, ran, reached⟩ := @drainRoundWith_reaches os traffic handle maxFrames
    machine.engine.pathTransports.drainCursor [] false machine granted handles _ budget socket distance _ 0
    (Nat.zero_le _) (by rwa [Nat.zero_add]) found waiting (Nat.zero_le _) (.inl rfl) paths
  rw [← List.range_eq_range'] at ran
  obtain ⟨fuel, rfl⟩ := Nat.exists_eq_succ_of_ne_zero budget.ne'
  have begins : drainAvailableWith os traffic handle (fuel + 1) (fuel + 1) [] machine = _ :=
    drainAvailableWith_round budget ran
  rw [handedBy, afterDrain, begins]
  rcases reached with taken | ⟨full, passed, positive, early, cursor⟩
  · left
    cases any with
    | false => exact taken
    | true =>
      obtain ⟨_, _, _, again, -, within⟩ := @drainRoundWith_ok os traffic handle (fuel + 1)
        machine.engine.pathTransports.drainCursor (List.range machine.engine.pathTransports.pathOrder.length)
          [] false machine
        granted handles _ paths (Nat.zero_le _)
      rw [ran] at again
      cases again
      obtain ⟨most, last, follows, drained, -⟩ :=
        @drainAvailableWith_ok os handle traffic next (fuel + 1) granted handles
        fuel more within
      rw [if_pos rfl, follows]
      exact drained.taken taken
  · right
    have ended : (if any then drainAvailableWith os traffic handle
      (fuel + 1) fuel more else pure more : Run Handed) next =
        .ok more next := by
      cases any with
      | false => rfl
      | true => exact drainAvailableWith_full full
    rw [ended]
    refine ⟨distance - passed, by omega, ?_⟩
    change (next.engine.pathTransports.drainCursor + (distance - passed)) % _ = _
    rw [cursor, Nat.mod_add_mod]
    congr 1
    omega

theorem exists_distance {count place : Nat} (inside : place < count) (cursor : Nat) :
    ∃ distance < count, (cursor + distance) % count = place := by
  have positive : 0 < count := Nat.zero_lt_of_lt inside
  have below : cursor % count < count := Nat.mod_lt _ positive
  refine ⟨(place + (count - cursor % count)) % count, Nat.mod_lt _ positive, ?_⟩
  calc (cursor + (place + (count - cursor % count)) % count) % count
    _ = (cursor + (place + (count - cursor % count))) % count := Nat.add_mod_mod ..
    _ = (cursor % count + (place + (count - cursor % count))) % count := (Nat.mod_add_mod ..).symm
    _ = (place + count) % count := by congr 1; omega
    _ = place := by rw [Nat.add_mod_right, Nat.mod_eq_of_lt inside]

end Calls

section Histories

variable {os : Os} {handle : Nat → PathPacket → Run PUnit} {traffic : Nat → Nat → Nat → List Arrival}
  {calls : Nat → Machine} {budget : Nat → Nat}

/-- Calls in a row. Between them anything may happen that leaves the bound sockets and the cursor alone, and while they
run packets arrive as they please. -/
structure DrainCalls (os : Os) (handle : Nat → PathPacket → Run PUnit) (traffic : Nat → Nat → Nat → List Arrival)
    (calls : Nat → Machine) (budget : Nat → Nat) : Prop where
  granted : ∀ calls, os.recvmmsg calls = .ok ()
  handles : ∀ call, Handles (handle call)
  budgets : ∀ call, 1 ≤ budget call
  next : ∀ call, (calls (call + 1)).engine.pathTransports =
    (afterDrain os (traffic call) (handle call) (budget call) (calls call)).engine.pathTransports

theorem DrainCalls.bound (history : DrainCalls os handle traffic calls budget) (call : Nat) :
    (calls call).engine.pathTransports.pathOrder = (calls 0).engine.pathTransports.pathOrder ∧
      (calls call).engine.pathTransports.sockets = (calls 0).engine.pathTransports.sockets := by
  induction call with
  | zero => exact ⟨rfl, rfl⟩
  | succ call ih =>
    obtain ⟨more, next, ran, drained, -⟩ :=
      @drainAvailableWith_ok os (handle call) (traffic call) (calls call) (budget call)
      history.granted (history.handles call) (budget call) [] (Nat.zero_le _)
    have after : afterDrain os (traffic call) (handle call) (budget call) (calls call) = next := by
      rw [afterDrain, ran]; rfl
    rw [history.next, after]
    exact ⟨drained.order.trans ih.1, drained.sockets.trans ih.2⟩

/-- A socket that stays nonempty is drained before the cursor is past it. -/
theorem DrainCalls.drained_within (history : DrainCalls os handle traffic calls budget) {place : Nat}
    {socket : PathTransportSocket} (found : (calls 0).socketAt place = some socket) (distance first : Nat)
    (near : distance < (calls 0).engine.pathTransports.pathOrder.length)
    (ahead : ((calls first).engine.pathTransports.drainCursor + distance) %
      (calls 0).engine.pathTransports.pathOrder.length = place)
    (waiting : ∀ call, first ≤ call → call ≤ first + distance → (calls call).net.inbound socket.socket.id ≠ []) :
    ∃ call, first ≤ call ∧ call ≤ first + distance ∧
      Taken socket.socket.id (handedBy os (traffic call) (handle call) (budget call) (calls call)) := by
  induction distance using Nat.strong_induction_on generalizing first with
  | h distance ih =>
    obtain ⟨order, sockets⟩ := history.bound first
    have here : (calls first).socketAt (((calls first).engine.pathTransports.drainCursor + distance) %
        (calls first).engine.pathTransports.pathOrder.length) = some socket := by
      rw [order, ahead, Machine.socketAt, order, sockets]
      exact found
    rcases drain_approaches history.granted (history.handles first) (history.budgets first) (by rwa [order]) here
      (waiting first le_rfl (Nat.le_add_right ..)) with taken | ⟨closer, less, same⟩
    · exact ⟨first, le_rfl, Nat.le_add_right .., taken⟩
    · rw [order, ahead, ← history.next] at same
      obtain ⟨call, from', until', taken⟩ := ih closer less (first + 1) (less.trans near) same fun call early late =>
        waiting call (by omega) (by omega)
      exact ⟨call, by omega, by omega, taken⟩

/-- No call hands on more than its budget, and a socket that stays nonempty for as many calls as there are sockets is
drained in one of them. -/
theorem sockets_drained_fairly (history : DrainCalls os handle traffic calls budget) :
    (∀ call, (handedBy os (traffic call) (handle call) (budget call) (calls call)).length ≤ budget call) ∧
    ∀ place socket, (calls 0).socketAt place = some socket → ∀ first,
      (∀ call, first ≤ call → call < first + (calls 0).engine.pathTransports.pathOrder.length →
        (calls call).net.inbound socket.socket.id ≠ []) →
      ∃ call, first ≤ call ∧ call < first + (calls 0).engine.pathTransports.pathOrder.length ∧
        Taken socket.socket.id (handedBy os (traffic call) (handle call) (budget call) (calls call)) := by
  refine ⟨fun call => ?_, fun place socket found first waiting => ?_⟩
  · obtain ⟨more, next, ran, -, within⟩ :=
      @drainAvailableWith_ok os (handle call) (traffic call) (calls call) (budget call)
      history.granted (history.handles call) (budget call) [] (Nat.zero_le _)
    rw [handedBy, ran]
    exact within
  · have inside : place < (calls 0).engine.pathTransports.pathOrder.length := by
      obtain ⟨pathId, listed, -⟩ := Option.bind_eq_some_iff.mp found
      exact (List.getElem?_eq_some_iff.mp listed).1
    obtain ⟨distance, near, ahead⟩ := exists_distance inside (calls first).engine.pathTransports.drainCursor
    obtain ⟨call, early, late, taken⟩ := history.drained_within found distance first near ahead
      fun call early late => waiting call early (by omega)
    exact ⟨call, early, by omega, taken⟩

def refilled (machine : Machine) : Machine :=
  { machine with net := { machine.net with inbound := fun _ => [⟨.v4 2 1, [], 0⟩] } }

/-- Calls with a budget of one packet, on two sockets that never run dry. -/
def busyCalls : Nat → Machine
  | 0 => refilled twinMachine
  | call + 1 => refilled (afterDrain .willing (fun _ _ => []) (fun _ => pure ⟨⟩) 1 (busyCalls call))

theorem busy_sockets_alternate : ∃ socket, (busyCalls 0).socketAt 1 = some socket ∧ ∃ call, 0 ≤ call ∧ call < 0 + 2 ∧
    Taken socket.socket.id (handedBy .willing (fun _ _ => []) (fun _ => pure ⟨⟩) 1 (busyCalls call)) := by
  have history : DrainCalls .willing (fun _ _ => pure ⟨⟩) (fun _ _ _ => []) busyCalls (fun _ => 1) :=
    ⟨fun _ => rfl, fun _ _ machine => ⟨machine, rfl, rfl, rfl⟩, fun _ => le_rfl, fun _ => rfl⟩
  have waiting (call socketId : Nat) : (busyCalls call).net.inbound socketId ≠ [] := by
    cases call <;> exact List.cons_ne_nil _ _
  obtain ⟨socket, found⟩ : ∃ socket, (busyCalls 0).socketAt 1 = some socket := ⟨_, rfl⟩
  exact ⟨socket, found, (sockets_drained_fairly history).2 1 socket found 0 fun call _ _ => waiting call _⟩

end Histories

end Gatherlink.Engine
