import Gatherlink.Engine.BurstFanout
import Gatherlink.Engine.GroupedSend

/-! Which paths a service with a fanout gets. Planning picks the paths that can carry a payload among all of them and
leaves out those the service may not use afterwards; a payload that Python injects is copied without the second step
and is never cut into fragments. -/

namespace Gatherlink.Engine
open Protocol Crypto Dataplane Lib.BigEndian Lib.Lookup Lib.Exec

section Availability

variable {engine : CoreDataplane} {serviceId : ServiceId} {payloadLen now : Nat} {source : SocketAddr}

def carriesWhole (payloadLen : Nat) (path : CorePathConfig) : Bool :=
  path.enabled && decide (payloadLen ≤ path.maxDataPayload)

/-- The paths that can carry a payload: whole, or in fragments if no path carries it whole. -/
def carriers (paths : List CorePathConfig) (payloadLen : Nat) : List CorePathConfig :=
  if paths.any (carriesWhole payloadLen) then paths.filter (carriesWhole payloadLen)
  else paths.filter (·.acceptsFragmentedPacket)

theorem filterMap_positions {α : Type} (values : List α) (good : α → Bool) :
    ((values.zipIdx.filter fun entry => good entry.1).map (·.2)).filterMap (values[·]?) = values.filter good := by
  rw [List.filterMap_map]
  calc (values.zipIdx.filter fun entry => good entry.1).filterMap ((values[·]?) ∘ fun entry => entry.2)
      = (values.zipIdx.filter fun entry => good entry.1).filterMap (some ∘ Prod.fst) := by
        refine List.filterMap_congr fun entry member => ?_
        exact List.mem_zipIdx_iff_getElem?.mp (List.mem_filter.mp member).1
    _ = (values.zipIdx.filter (good ∘ Prod.fst)).map Prod.fst := by rw [List.filterMap_eq_map]; rfl
    _ = values.filter good := by rw [← List.filter_map, List.zipIdx_map_fst]

theorem selectPathIndices_carriers (paths : List CorePathConfig) (payloadLen : Nat) :
    (selectPathIndices paths payloadLen).filterMap (paths[·]?) = carriers paths payloadLen := by
  have whole := filterMap_positions paths (carriesWhole payloadLen)
  have choice : selectPathIndices paths payloadLen =
      if !((paths.zipIdx.filter fun entry => carriesWhole payloadLen entry.1).map (·.2)).isEmpty then
        (paths.zipIdx.filter fun entry => carriesWhole payloadLen entry.1).map (·.2)
      else (paths.zipIdx.filter fun entry => entry.1.acceptsFragmentedPacket).map (·.2) := rfl
  rw [choice, carriers]
  by_cases any : paths.any (carriesWhole payloadLen) = true
  · have found : ((paths.zipIdx.filter fun entry => carriesWhole payloadLen entry.1).map (·.2)).isEmpty = false := by
      obtain ⟨path, member, carries⟩ := List.any_eq_true.mp any
      by_contra empty
      rw [Bool.not_eq_false, List.isEmpty_iff] at empty
      rw [empty, List.filterMap_nil] at whole
      exact absurd (List.mem_filter.mpr ⟨member, carries⟩) (whole ▸ List.not_mem_nil)
    rw [if_pos any, found, Bool.not_false, if_pos rfl, whole]
  · have none : ((paths.zipIdx.filter fun entry => carriesWhole payloadLen entry.1).map (·.2)).isEmpty = true := by
      rw [List.isEmpty_iff, List.map_eq_nil_iff, List.filter_eq_nil_iff]
      intro entry member carries
      exact any (List.any_eq_true.mpr ⟨entry.1, List.fst_mem_of_mem_zipIdx member, carries⟩)
    rw [if_neg any, none, Bool.not_true, if_neg Bool.false_ne_true, filterMap_positions]

/-- The first paths of a fanout; a fanout of 0 is all of them. -/
def firstOf (fanout : UInt16) (paths : List CorePathConfig) : List CorePathConfig :=
  if fanout > 0 then paths.take fanout.toNat else paths

theorem firstOf_eq_nil {fanout : UInt16} {paths : List CorePathConfig} : firstOf fanout paths = [] ↔ paths = [] := by
  rw [firstOf]
  split
  · rename_i positive
    have nonzero : fanout.toNat ≠ 0 := Nat.pos_iff_ne_zero.mp (UInt16.lt_iff_toNat_lt.mp positive)
    simp [nonzero]
  · rfl

theorem copyPaths_eq : engine.copyPaths serviceId payloadLen =
    firstOf ((engine.serviceScheduler serviceId).effectiveFanout payloadLen) ((carriers engine.paths payloadLen).filter
      fun path => (engine.serviceScheduler serviceId).allowsPathId path.pathId) := by
  rw [CoreDataplane.copyPaths, CoreDataplane.fanoutPaths, selectPathIndices_carriers]
  rfl

/-- The fanout finds no path although an allowed one can carry the payload exactly if some path carries it whole, no
allowed path does, and an allowed path takes fragments. -/
theorem fanout_available_iff (fanned : (engine.serviceScheduler serviceId).effectiveFanout payloadLen ≠ 1) :
    (outcome (selectServicePaths now serviceId payloadLen source engine) = .error .noPathAvailable →
      ∀ path ∈ engine.paths, (engine.serviceScheduler serviceId).allowsPathId path.pathId = true →
        carriesWhole payloadLen path = false ∧ path.acceptsFragmentedPacket = false) ↔
    ((∃ path ∈ engine.paths, carriesWhole payloadLen path = true) →
      (∃ path ∈ engine.paths, (engine.serviceScheduler serviceId).allowsPathId path.pathId = true ∧
        carriesWhole payloadLen path = true) ∨
      ∀ path ∈ engine.paths, (engine.serviceScheduler serviceId).allowsPathId path.pathId = true →
        path.acceptsFragmentedPacket = false) := by
  have fails : outcome (selectServicePaths now serviceId payloadLen source engine) = .error .noPathAvailable ↔
      ∀ path ∈ carriers engine.paths payloadLen,
        ¬(engine.serviceScheduler serviceId).allowsPathId path.pathId = true := by
    have nothing : engine.copyPaths serviceId payloadLen = [] ↔ ((carriers engine.paths payloadLen).filter
        fun path => (engine.serviceScheduler serviceId).allowsPathId path.pathId) = [] := by
      rw [copyPaths_eq, firstOf_eq_nil]
    rw [← List.filter_eq_nil_iff, ← nothing, selectServicePaths_fanned fanned]
    split
    · rename_i empty
      exact iff_of_true rfl empty
    · rename_i found
      exact iff_of_false nofun found
  rw [fails, carriers]
  by_cases whole : engine.paths.any (carriesWhole payloadLen) = true
  · have some : ∃ path ∈ engine.paths, carriesWhole payloadLen path = true := List.any_eq_true.mp whole
    rw [if_pos whole]
    constructor
    · intro complete _
      by_cases carried : ∃ path ∈ engine.paths, (engine.serviceScheduler serviceId).allowsPathId path.pathId = true ∧
          carriesWhole payloadLen path = true
      · exact Or.inl carried
      · refine Or.inr fun path member allows => (complete ?_ path member allows).2
        intro other listed permitted
        obtain ⟨present, carries⟩ := List.mem_filter.mp listed
        exact carried ⟨other, present, permitted, carries⟩
    · intro covered refused path member allows
      have barred (other : CorePathConfig) (present : other ∈ engine.paths)
          (permitted : (engine.serviceScheduler serviceId).allowsPathId other.pathId = true) :
          carriesWhole payloadLen other = false := by
        by_contra carries
        exact refused other (List.mem_filter.mpr ⟨present, by simpa using carries⟩) permitted
      rcases covered some with ⟨other, present, permitted, carries⟩ | unfragmented
      · rw [barred other present permitted] at carries
        cases carries
      · exact ⟨barred path member allows, unfragmented path member allows⟩
  · rw [if_neg whole]
    have none (path : CorePathConfig) (member : path ∈ engine.paths) : carriesWhole payloadLen path = false := by
      by_contra carries
      exact whole (List.any_eq_true.mpr ⟨path, member, by simpa using carries⟩)
    refine iff_of_true (fun refused path member allows => ⟨none path member, ?_⟩) fun ⟨path, member, carries⟩ => ?_
    · by_contra fragments
      exact refused path (List.mem_filter.mpr ⟨member, by simpa using fragments⟩) allows
    · rw [none path member] at carries
      cases carries

/-- A service that may use only the narrow one of two paths. -/
def narrowedMachine : Machine :=
  run .willing .transparent
    [.setServiceScheduler 300 { ServiceSchedulerConfig.normal with fanout := 0, allowedPathIds := [1] }] unevenMachine

theorem short_payload_finds_path : carriesWhole 5 narrowPath = true ∧
    (outcome (selectServicePaths 0 300 5 (.v4 4 1) narrowedMachine.engine) = .error .noPathAvailable →
      ∀ path ∈ narrowedMachine.engine.paths,
        (narrowedMachine.engine.serviceScheduler 300).allowsPathId path.pathId = true →
        carriesWhole 5 path = false ∧ path.acceptsFragmentedPacket = false) :=
  ⟨by decide, (fanout_available_iff (by decide)).mpr fun _ => Or.inl ⟨narrowPath, by decide⟩⟩

/-- The wide path would carry the payload whole, so the narrow one is not asked to fragment it. -/
theorem disallowed_path_hides_fragments :
    Started .willing 0 (twinConfig narrowPath widerPath (by decide)) unevenMachine ∧
    outcome (selectServicePaths 0 300 widerPath.maxDataPayload (.v4 4 1) narrowedMachine.engine) =
      .error .noPathAvailable ∧
    narrowPath ∈ narrowedMachine.engine.paths ∧
    (narrowedMachine.engine.serviceScheduler 300).allowsPathId narrowPath.pathId = true ∧
    narrowPath.acceptsFragmentedPacket = true :=
  ⟨⟨Net.blank, rfl, rfl⟩, by decide, by decide, by decide, by decide⟩

end Availability

section Injection

variable {os : Os} {aead : Aead} {now : Nat} {serviceId : ServiceId} {payload : Bytes} {machine : Machine}
  {sequence : SequenceNumber} {paths : List CorePathConfig} {path : CorePathConfig} {lane : SendLane}

def copyPlan (serviceId : ServiceId) (sequence : SequenceNumber) (payload : Bytes)
    (small : payload.length ≤ MAX_FRAME_PAYLOAD_LEN) (path : CorePathConfig) : FramePlan :=
  ⟨⟨.data, serviceId, path.pathId, sequence, none, payload, small⟩, path,
    [⟨injectedSource, none, sequence, false, payload.length⟩], 1⟩

variable (small : payload.length ≤ MAX_FRAME_PAYLOAD_LEN)

theorem directFrame_ok :
    directFrame serviceId path sequence payload = .ok (copyPlan serviceId sequence payload small path) := by
  have built : Frame.data serviceId path.pathId sequence payload =
      .ok ⟨.data, serviceId, path.pathId, sequence, none, payload, small⟩ := dif_neg (Nat.not_lt.mpr small)
  rw [directFrame, built]
  rfl

theorem copyPlan_length :
    (copyPlan serviceId sequence payload small path).frame.encodedV1Len = V1_HEADER_LEN + payload.length := rfl

theorem sendControlFrame_reaches {plan : FramePlan} {datagram : PlannedDatagramMeta} (takes : os.Sends)
    (single : plan.datagrams = [datagram]) (fits : plan.frame.encodedV1Len ≤ plan.path.mtu) {shipment : Shipment}
    (attached : PathTransportSet.Attached machine.engine.pathTransports plan)
    (routed : machine.engine.routeOf plan = some shipment) (shipped : machine.lane.ship aead shipment = some lane) :
    Reaches (sendControlFrame os aead now plan plan.peerScope) machine fun plans next =>
      plans.map (·.pathId) = [plan.path.pathId] ∧ next.lane = lane ∧ KeepsRoutes machine next := by
  have checked : Reaches (checkPathMtu plan) machine fun _ next => next = machine := by
    rw [checkPathMtu, if_neg (Nat.not_lt.mpr fits)]
    exact Reaches.pure rfl
  refine Reaches.bind checked fun _ reached same => ?_
  subst same
  refine Reaches.bind (trySendPathFrame_reaches takes attached routed shipped) fun sent middle ends => ?_
  obtain ⟨rfl, moved, kept⟩ := ends
  refine reaches_after_modify (Reaches.pure ⟨?_, moved, kept.learned, kept.sessions⟩)
  rw [single]
  rfl

theorem sendCopies_reaches (takes : os.Sends) (small : payload.length ≤ MAX_FRAME_PAYLOAD_LEN)
    (fits : ∀ path ∈ paths, V1_HEADER_LEN + payload.length ≤ path.mtu)
    (attached : ∀ plan ∈ paths.map (copyPlan serviceId sequence payload small),
      PathTransportSet.Attached machine.engine.pathTransports plan)
    (shipped : machine.lane.shipAll aead ((paths.map (copyPlan serviceId sequence payload small)).filterMap
      machine.engine.routeOf) = some lane) :
    Reaches (sendCopies os aead now serviceId sequence payload paths) machine fun plans _ =>
      plans.map (·.pathId) = paths.map (·.pathId) := by
  induction paths generalizing machine with
  | nil => exact Reaches.pure rfl
  | cons path rest ih =>
    obtain ⟨short, others⟩ := List.forall_mem_cons.mp fits
    rw [List.map_cons] at attached shipped
    obtain ⟨here, later⟩ := List.forall_mem_cons.mp attached
    obtain ⟨shipment, routed⟩ := attached_routeOf machine.engine here
    rw [List.filterMap_cons_some routed, SendLane.shipAll] at shipped
    obtain ⟨first, one, remaining⟩ := Option.bind_eq_some_iff.mp shipped
    have framed : Reaches (liftExcept (directFrame serviceId path sequence payload)) machine fun plan next =>
        plan = copyPlan serviceId sequence payload small path ∧ next = machine := by
      rw [directFrame_ok small]
      exact Reaches.pure ⟨rfl, rfl⟩
    refine Reaches.bind framed fun plan reached same => ?_
    obtain ⟨rfl, rfl⟩ := same
    refine Reaches.bind (sendControlFrame_reaches takes rfl short here routed one) fun plans middle ends => ?_
    obtain ⟨sent, moved, kept⟩ := ends
    have transports : middle.engine.pathTransports = first.transports := congrArg SendLane.transports moved
    have still : ∀ other ∈ rest.map (copyPlan serviceId sequence payload small),
        PathTransportSet.Attached middle.engine.pathTransports other := by
      intro other member
      obtain ⟨remote, own, socketed⟩ := later other member
      refine ⟨remote, own, ?_⟩
      rw [transports, SendLane.ship_remote one]
      exact socketed
    rw [← moved, ← kept.routeOf] at remaining
    refine Reaches.bind (ih others still remaining) fun copies _ same => Reaches.pure ?_
    rw [List.map_append, sent, same]
    rfl

/-- The paths that an injected payload is copied to. -/
def CoreDataplane.injectedPaths (engine : CoreDataplane) (serviceId : ServiceId) (payloadLen : Nat) :
    List CorePathConfig :=
  firstOf ((engine.serviceScheduler serviceId).effectiveFanout payloadLen) (carriers engine.paths payloadLen)

/-- The frames of the copies, with the next sequence number. -/
def CoreDataplane.injectedCopies (engine : CoreDataplane) (serviceId : ServiceId) (payload : Bytes) : List FramePlan :=
  (engine.injectedPaths serviceId payload.length).filterMap fun path =>
    (directFrame serviceId path ((engine.nextSequences none).getD 1) payload).toOption

variable {engine : CoreDataplane} {payloadLen : Nat}

theorem injectedCopies_eq :
    engine.injectedCopies serviceId payload = (engine.injectedPaths serviceId payload.length).map
      (copyPlan serviceId ((engine.nextSequences none).getD 1) payload small) := by
  rw [CoreDataplane.injectedCopies, ← List.filterMap_eq_map]
  refine List.filterMap_congr fun path _ => ?_
  rw [directFrame_ok small]
  rfl

theorem transmitServicePayload_copies
    (fanned : (machine.engine.serviceScheduler serviceId).effectiveFanout payload.length ≠ 1) :
    transmitServicePayload os aead now serviceId payload machine =
      (if (machine.engine.injectedPaths serviceId payload.length).isEmpty then throw .noPathAvailable
      else do
        let sequence ← onEngine (nextSequenceFor none)
        sendCopies os aead now serviceId sequence payload (machine.engine.injectedPaths serviceId payload.length) :
          Run (List ControlTransmitPlan)) machine := by
  have listed : (reads fun machine => (selectPathIndices machine.engine.paths payload.length).filterMap
      fun index => machine.engine.paths[index]? : Run (List CorePathConfig)) machine =
      .ok (carriers machine.engine.paths payload.length) machine := by
    rw [← selectPathIndices_carriers]
    rfl
  rw [transmitServicePayload, bind_reads, if_pos fanned, transmitServicePayloadFanout, bind_ok listed]
  rfl

theorem firstOf_filter {fanout : UInt16} {allowed : PathId → Bool} :
    (firstOf fanout paths).map (·.pathId) =
    (firstOf fanout (paths.filter fun path => allowed path.pathId)).map (·.pathId) ↔
      ∀ path ∈ firstOf fanout paths, allowed path.pathId = true := by
  constructor
  · intro same path member
    have listed : path.pathId ∈ (firstOf fanout (paths.filter fun path => allowed path.pathId)).map (·.pathId) := by
      rw [← same]
      exact List.mem_map_of_mem member
    obtain ⟨other, first, equal⟩ := List.mem_map.mp listed
    have among : other ∈ paths.filter fun path => allowed path.pathId := by
      rw [firstOf] at first
      split at first
      · exact List.mem_of_mem_take first
      · exact first
    rw [← equal]
    exact (List.mem_filter.mp among).2
  · intro all
    rw [firstOf] at all ⊢
    rw [firstOf]
    split at all
    · rename_i positive
      rw [if_pos positive, if_pos positive]
      have front : paths.filter (fun path => allowed path.pathId) = paths.take fanout.toNat ++
          (paths.drop fanout.toNat).filter fun path => allowed path.pathId := by
        conv_lhs => rw [← List.take_append_drop fanout.toNat paths]
        rw [List.filter_append, List.filter_eq_self.mpr all]
      have rest : ((paths.drop fanout.toNat).filter fun path => allowed path.pathId).take
          (fanout.toNat - (paths.take fanout.toNat).length) = [] := by
        rcases Nat.le_total fanout.toNat paths.length with enough | few
        · rw [List.length_take, Nat.min_eq_left enough, Nat.sub_self, List.take_zero]
        · rw [List.drop_eq_nil_of_le few, List.filter_nil, List.take_nil]
      rw [front, List.take_append, rest, List.append_nil, List.take_take, Nat.min_self]
    · rename_i zero
      rw [if_neg zero, if_neg zero, List.filter_eq_self.mpr all]

theorem carriers_whole (whole : ∃ path ∈ paths, carriesWhole payloadLen path = true)
    (member : path ∈ carriers paths payloadLen) : carriesWhole payloadLen path = true := by
  rw [carriers, if_pos (List.any_eq_true.mpr whole)] at member
  exact (List.mem_filter.mp member).2

theorem carriers_fragmented (none : ¬∃ path ∈ paths, carriesWhole payloadLen path = true)
    (member : path ∈ carriers paths payloadLen) : path.maxDataPayload < payloadLen := by
  rw [carriers, if_neg fun any => none (List.any_eq_true.mp any)] at member
  obtain ⟨present, fragments⟩ := List.mem_filter.mp member
  have enabled : path.enabled = true := (Bool.and_eq_true_iff.mp fragments).1
  by_contra fits
  exact none ⟨path, present, by rw [carriesWhole, enabled, Bool.true_and]; exact decide_eq_true (Nat.not_lt.mp fits)⟩

theorem mem_injectedPaths
    (member : path ∈ engine.injectedPaths serviceId payloadLen) : path ∈ carriers engine.paths payloadLen := by
  rw [CoreDataplane.injectedPaths, firstOf] at member
  split at member
  · exact List.mem_of_mem_take member
  · exact member

theorem transmitServicePayload_refuses
    (fanned : (machine.engine.serviceScheduler serviceId).effectiveFanout payload.length ≠ 1)
    (small : payload.length ≤ MAX_FRAME_PAYLOAD_LEN)
    (none : ¬∃ path ∈ machine.engine.paths, carriesWhole payload.length path = true) (plans : List ControlTransmitPlan)
    (next : Machine) : transmitServicePayload os aead now serviceId payload machine ≠ .ok plans next := by
  rw [transmitServicePayload_copies fanned]
  cases chosen : machine.engine.injectedPaths serviceId payload.length with
  | nil => exact nofun
  | cons path rest =>
    intro ran
    obtain ⟨sequence, numbered, -, ran⟩ := bind_ok_split ran
    obtain ⟨plan, framed, built, ran⟩ := bind_ok_split ran
    rw [directFrame_ok small] at built
    obtain ⟨rfl, rfl⟩ : copyPlan serviceId sequence payload small path = plan ∧ numbered = framed := by
      cases built
      exact ⟨rfl, rfl⟩
    obtain ⟨copies, sent, ran, -⟩ := bind_ok_split ran
    obtain ⟨_, checked, long, -⟩ := bind_ok_split ran
    have listed : path ∈ machine.engine.injectedPaths serviceId payload.length := chosen ▸ List.mem_cons_self
    have exceeds := carriers_fragmented none (mem_injectedPaths listed)
    have exceeding : (copyPlan serviceId sequence payload small path).frame.encodedV1Len >
        (copyPlan serviceId sequence payload small path).path.mtu := by
      rw [CorePathConfig.maxDataPayload] at exceeds
      rw [copyPlan_length]
      change path.mtu < V1_HEADER_LEN + payload.length
      omega
    rw [checkPathMtu, if_pos exceeding] at long
    cases long

/-- A payload that is copied nowhere is not planned. -/
theorem planFrames_refuses (fanned : (machine.engine.serviceScheduler serviceId).effectiveFanout payload.length ≠ 1)
    (nowhere : machine.engine.copyPaths serviceId payload.length = []) (frames : List FramePlan) (after : Machine) :
    planFrames serviceId [⟨payload, injectedSource, none, now⟩] machine ≠ .ok frames after := by
  obtain ⟨copies, scheduler⟩ := copyPaths_same (numbered_same machine.engine none) payload.length
  rw [← scheduler] at fanned
  have refused := @selectServicePaths_fanned serviceId _ _ injectedSource now fanned
  rw [copies, if_pos nowhere] at refused
  cases selected : selectServicePaths now serviceId payload.length injectedSource (machine.engine.numbered none) with
  | ok paths next =>
    rw [selected] at refused
    cases refused
  | error error next =>
    have failed : planDatagrams serviceId [⟨payload, injectedSource, none, now⟩] machine.engine =
        .error error next := by
      rw [planDatagrams_single, map_eq_pure_bind]
      exact bind_error ((bind_ok rfl).trans (bind_error (bind_error selected)))
    have stopped : planFrames serviceId [⟨payload, injectedSource, none, now⟩] machine =
        .error error { machine with engine := next } := bind_error (focus_error failed)
    rw [stopped]
    exact nofun

/-- The paths that the copies of an injected payload left on, none if it was refused. -/
def sentPaths (result : Except DataplaneError (List ControlTransmitPlan)) : List PathId :=
  (result.toOption.getD []).map (·.pathId)

/-- An injected payload leaves on the planned paths, and can be sent if it can be planned, exactly if some path
carries it whole and the first such paths are ones that the service may use, or no path carries it whole and none that
the service may use takes fragments. -/
theorem injected_as_planned_iff
    (fanned : (machine.engine.serviceScheduler serviceId).effectiveFanout payload.length ≠ 1)
    (small : payload.length ≤ 65535) (takes : os.Sends)
    (attached : ∀ plan ∈ machine.engine.injectedCopies serviceId payload,
      PathTransportSet.Attached machine.engine.pathTransports plan)
    (ships : ∃ lane, machine.lane.shipAll aead ((machine.engine.injectedCopies serviceId payload).filterMap
      machine.engine.routeOf) = some lane) :
    (sentPaths (outcome (transmitServicePayload os aead now serviceId payload machine)) =
        (plannedPaths (outcome (planDatagrams serviceId [⟨payload, injectedSource, none, now⟩] machine.engine))).map
          (·.pathId) ∧
      ((∃ frames after, planFrames serviceId [⟨payload, injectedSource, none, now⟩] machine = .ok frames after) →
        ∃ plans next, transmitServicePayload os aead now serviceId payload machine = .ok plans next)) ↔
    (∃ path ∈ machine.engine.paths, carriesWhole payload.length path = true) ∧
        (∀ path ∈ firstOf ((machine.engine.serviceScheduler serviceId).effectiveFanout payload.length)
            (carriers machine.engine.paths payload.length),
          (machine.engine.serviceScheduler serviceId).allowsPathId path.pathId = true) ∨
      (¬∃ path ∈ machine.engine.paths, carriesWhole payload.length path = true) ∧
        ∀ path ∈ machine.engine.paths, path.acceptsFragmentedPacket = true →
          ¬(machine.engine.serviceScheduler serviceId).allowsPathId path.pathId = true := by
  have alone : plannedPaths (outcome (planDatagrams serviceId [⟨payload, injectedSource, none, now⟩] machine.engine)) =
      machine.engine.copyPaths serviceId payload.length := alone_paths rfl fanned
  rw [alone]
  by_cases whole : ∃ path ∈ machine.engine.paths, carriesWhole payload.length path = true
  · obtain ⟨lane, shipped⟩ := ships
    have sends : Reaches (transmitServicePayload os aead now serviceId payload) machine fun plans _ =>
        plans.map (·.pathId) = (machine.engine.injectedPaths serviceId payload.length).map (·.pathId) := by
      have some : (machine.engine.injectedPaths serviceId payload.length).isEmpty = false := by
        obtain ⟨path, present, carries⟩ := whole
        rw [← Bool.not_eq_true, List.isEmpty_iff, CoreDataplane.injectedPaths, firstOf_eq_nil, carriers,
          if_pos (List.any_eq_true.mpr ⟨path, present, carries⟩)]
        exact List.ne_nil_of_mem (List.mem_filter.mpr ⟨present, carries⟩)
      rw [Reaches, transmitServicePayload_copies fanned, some, if_neg Bool.false_ne_true]
      rw [injectedCopies_eq small] at attached shipped
      have numbers : Reaches (onEngine (nextSequenceFor none)) machine fun sequence next =>
          sequence = (machine.engine.nextSequences none).getD 1 ∧
            next = { machine with engine := machine.engine.numbered none } := ⟨_, _, rfl, rfl, rfl⟩
      refine Reaches.bind numbers fun sequence numbered ends => ?_
      obtain ⟨rfl, rfl⟩ := ends
      refine sendCopies_reaches takes small (fun path member => ?_) attached shipped
      have carries := carriers_whole whole (mem_injectedPaths member)
      have fits : payload.length ≤ path.maxDataPayload := of_decide_eq_true (Bool.and_eq_true_iff.mp carries).2
      have large := path.mtuLarge
      rw [CorePathConfig.maxDataPayload] at fits
      omega
    obtain ⟨plans, next, ran, sent⟩ := sends
    rw [and_iff_left fun _ => ⟨plans, next, ran⟩, ← firstOf_filter, ← copyPaths_eq, ran]
    change plans.map (·.pathId) = _ ↔ _
    rw [sent, CoreDataplane.injectedPaths]
    simp only [whole, true_and, not_true_eq_false, false_and, or_false]
  · have nothing : sentPaths (outcome (transmitServicePayload os aead now serviceId payload machine)) = [] := by
      cases ran : transmitServicePayload os aead now serviceId payload machine with
      | ok plans next => exact absurd ran (transmitServicePayload_refuses fanned small whole plans next)
      | error error next => rfl
    have nowhere : machine.engine.copyPaths serviceId payload.length = [] ↔
        ∀ path ∈ machine.engine.paths, path.acceptsFragmentedPacket = true →
          ¬(machine.engine.serviceScheduler serviceId).allowsPathId path.pathId = true := by
      rw [copyPaths_eq, firstOf_eq_nil, List.filter_eq_nil_iff, carriers, if_neg fun any =>
        whole (List.any_eq_true.mp any)]
      simp only [List.mem_filter, and_imp]
    rw [nothing, eq_comm, List.map_eq_nil_iff]
    simp only [whole, false_and, false_or, not_false_eq_true, true_and, ← nowhere]
    refine and_iff_left_of_imp fun empty => ?_
    rintro ⟨frames, after, planned⟩
    exact absurd planned (planFrames_refuses fanned empty frames after)

/-- Five bytes over both paths of a service that may use both. -/
theorem injected_as_planned_twin :
    (∃ frames after, planFrames 300 [⟨.replicate 5 1, injectedSource, none, 0⟩] twinMachine = .ok frames after) ∧
      sentPaths (outcome (transmitServicePayload .willing .transparent 0 300 (.replicate 5 1) twinMachine)) =
        [1, 2] := by
  have attached : ∀ plan ∈ twinMachine.engine.injectedCopies 300 (.replicate 5 1),
      PathTransportSet.Attached twinMachine.engine.pathTransports plan := by
    intro plan member
    rcases List.mem_pair.mp member with rfl | rfl <;> exact ⟨.v4 2 1, rfl, rfl⟩
  have ships : (twinMachine.lane.shipAll .transparent
    ((twinMachine.engine.injectedCopies 300 (.replicate 5 1)).filterMap
      twinMachine.engine.routeOf)).isSome = true := by decide
  have planned : (outcome (planFrames 300 [⟨.replicate 5 1, injectedSource, none, 0⟩] twinMachine)).isOk = true := by
    decide +kernel
  obtain ⟨frames, after, planned, -⟩ := reaches_of_isOk planned
  refine ⟨⟨frames, after, planned⟩, ?_⟩
  have fanned : (twinMachine.engine.serviceScheduler 300).effectiveFanout
      (List.replicate 5 (1 : UInt8)).length ≠ 1 := by
    decide
  obtain ⟨same, -⟩ := (@injected_as_planned_iff _ _ 0 _ _ _ fanned (by decide) Os.willing_accepts.sends attached
    (Option.isSome_iff_exists.mp ships)).mpr (Or.inl ⟨⟨narrowPath, by decide⟩, by decide⟩)
  exact same.trans (by decide)

/-- Injected, a short payload leaves on a path that the service may not use, and a long one is refused; planned, the
first stays on its path and the second is cut into fragments. -/
theorem injected_bypasses_policy :
    ((outcome (transmitServicePayload .willing .transparent 0 300 (.replicate 5 1) narrowedMachine)).toOption.map
      fun plans => plans.map (·.pathId)) = some [1, 2] ∧
    (plannedPaths (outcome (planDatagrams 300 [⟨.replicate 5 1, injectedSource, none, 0⟩] narrowedMachine.engine))).map
      (·.pathId) = [1] ∧
    outcome (transmitServicePayload .willing .transparent 0 300 (.replicate 14 1) narrowedMachine) =
      .error (.frameExceedsPathMtu 1 28 26) ∧
    (outcome (planFrames 300 [⟨.replicate 14 1, injectedSource, none, 0⟩] narrowedMachine)).isOk = true :=
  ⟨by decide +kernel, by decide +kernel, by decide +kernel, by decide +kernel⟩

end Injection

end Gatherlink.Engine
