import Gatherlink.Engine.Fanout
import Gatherlink.Engine.Forward
import Gatherlink.Engine.Reapply

/-! Planned frames fit the paths they are planned for. Every selector leaves a datagram that its path
carries whole or one that is to be fragmented, and the coalescer counts the bytes of a batch. -/

namespace Gatherlink.Dataplane
open Protocol Lib.BigEndian Lib.Chunks Lib.Exec

/-- Errors other than that of a frame which is too long for its path. -/
def DataplaneError.NotTooLong (error : DataplaneError) : Prop :=
  ∀ pathId frameLen mtu, error ≠ .frameExceedsPathMtu pathId frameLen mtu

def FramePlan.Fits (plan : FramePlan) : Prop := plan.frame.encodedV1Len ≤ plan.path.mtu

variable {error : DataplaneError} {payload : Bytes}

theorem protocolResult_error {α : Type} {result : Except ProtocolError α}
    (failed : protocolResult result = .error error) : error.NotTooLong := by
  cases result with
  | ok value => cases failed
  | error failure =>
    cases failed
    intro pathId frameLen mtu
    simp

theorem frame_new_ok {kind : FrameKind} {serviceId : ServiceId} {pathId : PathId} {sequence : SequenceNumber}
    {fragment : Option FragmentInfo} {frame : Frame}
    (made : Frame.new kind serviceId pathId sequence fragment payload = .ok frame) :
    frame.fragment = fragment ∧ frame.payload = payload := by
  unfold Frame.new at made
  split at made
  · contradiction
  · rw [← Except.ok.inj made]
    exact ⟨rfl, rfl⟩

section Fragments

variable {datagram : PlannedDatagram}

variable {id : UInt32} {count index : Nat} {error : DataplaneError}

/-- A fragment has its header, its metadata and a chunk of at most the path's fragment payload. -/
theorem fragmentDatagram_fits {plans : List FramePlan} (identified : datagram.fragment = some id)
    (made : fragmentDatagram datagram = .ok plans) : ∀ plan ∈ plans, plan.Fits := by
  intro plan member
  obtain ⟨index, here⟩ := List.mem_iff_getElem?.mp member
  obtain ⟨shape, fragment, carried, carries⟩ := (fragmentDatagram_ok identified made).2 index plan here
  have short := chunks_piece_length carries.payload
  have room := datagram.path.mtuLarge
  simp only [FramePlan.Fits, Frame.encodedV1Len, Frame.metadataLen, carried, Option.isSome_some, if_true, shape.path]
  unfold CorePathConfig.maxFragmentPayload at short
  omega

theorem fragmentFrame_error {chunk : Bytes}
    (failed : fragmentFrame datagram id count index chunk = .error error) : error.NotTooLong := by
  obtain info | ⟨fragment, -, failed⟩ := except_bind_error failed
  · exact protocolResult_error info
  · obtain built | ⟨frame, -, failed⟩ := except_bind_error failed
    · exact protocolResult_error built
    · cases failed

theorem fragmentFrames_error {pieces : List Bytes}
    (failed : fragmentFrames datagram id count index pieces = .error error) : error.NotTooLong := by
  induction pieces generalizing index with
  | nil => cases failed
  | cons chunk rest ih =>
    obtain here | ⟨plan, -, failed⟩ := except_bind_error failed
    · exact fragmentFrame_error here
    · obtain later | ⟨plans, -, failed⟩ := except_bind_error failed
      · exact ih later
      · cases failed

theorem fragmentDatagram_error (failed : fragmentDatagram datagram = .error error) :
    error.NotTooLong := by
  unfold fragmentDatagram at failed
  simp only at failed
  split_ifs at failed
  · cases failed
    nofun
  · cases failed
    nofun
  · split at failed
    · cases failed
      nofun
    · exact fragmentFrames_error failed

end Fragments

theorem FragmentBuffer.push_error {buffer : FragmentBuffer} {fragment : FragmentInfo}
    (failed : (buffer.push fragment payload).1 = .error error) :
    error = .invalidFragmentPlan := by
  unfold FragmentBuffer.push at failed
  simp only at failed
  split_ifs at failed
  · exact (Except.error.inj failed).symm
  · split at failed
    · exact (Except.error.inj failed).symm
    · split_ifs at failed
      exact (Except.error.inj failed).symm
  · exact (Except.error.inj failed).symm

end Gatherlink.Dataplane

namespace Gatherlink.Engine
open Protocol Crypto Dataplane Lib.BigEndian Lib.Exec Lib.Chunks

section Coalescing

variable {serviceId : ServiceId}

/-- A datagram that is not to be fragmented goes to a path that carries it whole. -/
def Carryable (planned : PlannedDatagram) : Prop :=
  planned.fragment = none → planned.payload.length ≤ planned.path.maxDataPayload

variable {burst : Bool} {run : BurstRun} {first : PlannedDatagram} {mates planned : List PlannedDatagram}
  {error : DataplaneError}

theorem planDatagram_carryable {datagram : ReceivedDatagram} :
    Returns (fun planned => ∀ copy ∈ planned.1, Carryable copy) (planDatagram serviceId burst run datagram) := by
  intro engine planned after ran copy member
  obtain ⟨sequence, fragment, paths, copies, -, whole⟩ := planDatagram_copies ran
  rw [copies] at member
  obtain ⟨path, selected, rfl⟩ := List.mem_map.mp member
  exact (whole path selected).mp

theorem planFrom_carryable {datagrams : List ReceivedDatagram} :
    Returns (fun planned => ∀ copy ∈ planned, Carryable copy) (planFrom serviceId burst run datagrams) := by
  induction datagrams generalizing run with
  | nil => exact Returns.pure (by simp)
  | cons datagram rest ih =>
    refine Returns.bind planDatagram_carryable fun planned first => Returns.bind ih fun later others => Returns.pure ?_
    intro copy member
    rcases List.mem_append.mp member with here | there
    · exact first copy here
    · exact others copy there

/-- The length of a batch frame with the given datagrams behind its first one. -/
def batchLength (batchLen : Nat) (mates : List PlannedDatagram) : Nat :=
  batchLen + (mates.map fun mate => 2 + mate.payload.length).sum

/-- The coalescer's running length is the length of the frame, so no mate takes it past the MTU. -/
theorem takeBatchMates_fits (first : PlannedDatagram) (batchLen : Nat) (planned : List PlannedDatagram) :
    (takeBatchMates first batchLen planned).1 ≠ [] →
      batchLength batchLen (takeBatchMates first batchLen planned).1 ≤ first.path.mtu := by
  induction planned generalizing batchLen with
  | nil => simp [takeBatchMates]
  | cons candidate rest ih =>
    rw [takeBatchMates]
    split_ifs with refused
    · simp
    · intro _
      simp only [not_or, Nat.not_lt] at refused
      have later := ih (batchLen + (2 + candidate.payload.length))
      simp only [batchLength, List.map_cons, List.sum_cons] at later ⊢
      by_cases alone : (takeBatchMates first (batchLen + (2 + candidate.payload.length)) rest).1 = []
      · simp only [alone, List.map_nil, List.sum_nil]
        omega
      · have bound := later alone
        omega

theorem encodeBatchPayload_length {payloads : List Bytes} {encoded : Bytes}
    (made : encodeBatchPayload payloads = .ok encoded) :
    encoded.length = 2 + (payloads.map fun payload => 2 + payload.length).sum := by
  unfold encodeBatchPayload at made
  split_ifs at made
  cases checked : checkBatchItems 2 payloads with
  | error failure => simp [checked, bind, Except.bind] at made
  | ok _ =>
    simp only [checked, bind, Except.bind, Except.ok.injEq] at made
    rw [← made, List.length_append, toBe_length, encodedItems_length]

theorem coalescedFrame_fits {plan : FramePlan} (whole : first.payload.length ≤ first.path.maxDataPayload)
    (counted : mates ≠ [] → batchLength (openedBatchLen first) mates ≤ first.path.mtu)
    (made : coalescedFrame serviceId first mates = .ok plan) : plan.Fits := by
  obtain ⟨frame, built, made⟩ := except_bind_ok made
  rw [← Except.ok.inj made]
  have framed := protocolResult_ok built
  have room := first.path.mtuLarge
  by_cases alone : mates = []
  · subst alone
    obtain ⟨plain, payload⟩ := frame_new_ok framed
    simp only [FramePlan.Fits, Frame.encodedV1Len, Frame.metadataLen, plain, Option.isSome_none, Bool.false_eq_true,
      if_false, payload]
    unfold CorePathConfig.maxDataPayload at whole
    omega
  · rw [if_neg (by simpa using alone)] at framed
    obtain ⟨encoded, batched, framed⟩ := except_bind_ok framed
    obtain ⟨plain, payload⟩ := frame_new_ok framed
    have length := encodeBatchPayload_length batched
    have bound := counted alone
    simp only [FramePlan.Fits, Frame.encodedV1Len, Frame.metadataLen, plain, Option.isSome_none, Bool.false_eq_true,
      if_false, payload, length, List.map_cons, List.sum_cons, List.map_map, Function.comp_def]
    unfold batchLength openedBatchLen at bound
    omega

theorem coalescedFrame_error (failed : coalescedFrame serviceId first mates = .error error) : error.NotTooLong := by
  obtain built | ⟨frame, -, failed⟩ := except_bind_error failed
  · exact protocolResult_error built
  · cases failed

theorem coalescePlannedFrames_fits {frames : List FramePlan}
    (carryable : ∀ copy ∈ planned, Carryable copy) (framed : coalescePlannedFrames serviceId planned = .ok frames) :
    ∀ plan ∈ frames, plan.Fits := by
  induction planned using coalescePlannedFrames.induct generalizing frames with
  | case1 =>
    rw [coalescePlannedFrames] at framed
    rw [← Except.ok.inj framed]
    simp
  | case2 first rest identified ih =>
    rw [coalescePlannedFrames, if_pos identified] at framed
    obtain ⟨fragments, cut, framed⟩ := except_bind_ok framed
    obtain ⟨later, others, framed⟩ := except_bind_ok framed
    obtain ⟨id, fragment⟩ := Option.isSome_iff_exists.mp identified
    rw [← Except.ok.inj framed]
    intro plan member
    rcases List.mem_append.mp member with here | there
    · exact fragmentDatagram_fits fragment cut plan here
    · exact ih (fun copy listed => carryable copy (by simp [listed])) others plan there
  | case3 first rest plain batch =>
    rename_i ih
    rw [coalescePlannedFrames, if_neg plain] at framed
    obtain ⟨plan, made, framed⟩ := except_bind_ok framed
    obtain ⟨later, others, framed⟩ := except_bind_ok framed
    have left : ∀ copy ∈ (takeBatchMates first (openedBatchLen first) rest).2, copy ∈ rest := by
      intro copy member
      rw [← takeBatchMates_append first (openedBatchLen first) rest]
      exact List.mem_append_right _ member
    have whole : first.payload.length ≤ first.path.maxDataPayload :=
      carryable first (by simp) (by simpa using plain)
    rw [← Except.ok.inj framed]
    intro other member
    rcases List.mem_cons.mp member with rfl | there
    · exact coalescedFrame_fits whole (takeBatchMates_fits first _ rest) made
    · exact ih (fun copy listed => carryable copy (by simp [left copy listed])) others other there

theorem coalescePlannedFrames_error
    (failed : coalescePlannedFrames serviceId planned = .error error) : error.NotTooLong := by
  induction planned using coalescePlannedFrames.induct with
  | case1 =>
    rw [coalescePlannedFrames] at failed
    cases failed
  | case2 first rest identified ih =>
    rw [coalescePlannedFrames, if_pos identified] at failed
    obtain cut | ⟨fragments, -, failed⟩ := except_bind_error failed
    · exact fragmentDatagram_error cut
    · obtain others | ⟨later, -, failed⟩ := except_bind_error failed
      · exact ih others
      · cases failed
  | case3 first rest plain batch =>
    rename_i ih
    rw [coalescePlannedFrames, if_neg plain] at failed
    obtain made | ⟨plan, -, failed⟩ := except_bind_error failed
    · exact coalescedFrame_error made
    · obtain others | ⟨later, -, failed⟩ := except_bind_error failed
      · exact ih others
      · cases failed

end Coalescing

section Forwarding

variable {os : Os} {aead : Aead} {now payloadLen : Nat} {serviceId : ServiceId} {name : String}
  {datagrams : List ReceivedDatagram} {plan : FramePlan} {frames : List FramePlan}

/-- The program never reports that a frame is too long for its path. -/
abbrev NeverTooLong {σ α : Type} (program : EStateM DataplaneError σ α) : Prop :=
  Fails DataplaneError.NotTooLong program

theorem noPath_notTooLong : DataplaneError.NotTooLong .noPathAvailable := nofun

theorem requirePath_never {path : Option CorePathConfig} : NeverTooLong (requirePath path) := by
  cases path with
  | none => exact Fails.throw noPath_notTooLong
  | some path => exact Fails.pure _

theorem pathAt_never {index : Option Nat} : NeverTooLong (pathAt index) := by
  refine Fails.seq (Fails.reads _) fun path => ?_
  cases path with
  | none => exact Fails.throw noPath_notTooLong
  | some path => exact Fails.pure _

variable {allowed : CorePathConfig → Bool} {scheduler : ServiceSchedulerConfig} {source : SocketAddr} {burst : Bool}
  {run : BurstRun} {α : Type} {error : DataplaneError}

theorem selectScheduledPath_never :
    NeverTooLong (selectScheduledPath now payloadLen allowed) :=
  Fails.seq (Fails.modifyGet _) fun _ => pathAt_never

theorem selectWeightedServicePathWhere_never :
    NeverTooLong (selectWeightedServicePathWhere serviceId payloadLen scheduler allowed) :=
  Fails.seq (Fails.modifyGet _) fun _ => pathAt_never

theorem selectServiceFlowletPath_never :
    NeverTooLong (selectServiceFlowletPath now serviceId source payloadLen scheduler) := by
  have selected : NeverTooLong (selectPathForService now serviceId payloadLen scheduler) := by
    unfold selectPathForService
    split
    · exact Fails.ite (fun _ => selectScheduledPath_never) fun _ => selectScheduledPath_never
    · exact Fails.seq (Fails.reads _) fun _ => requirePath_never
    · exact selectWeightedServicePathWhere_never
  refine Fails.seq (Fails.reads _) fun warm => ?_
  cases warm with
  | some found => exact Fails.seq (Fails.modify _) fun _ => Fails.pure _
  | none =>
    exact Fails.seq selected fun path => Fails.ite (fun _ => Fails.seq (Fails.modify _) fun _ => Fails.pure _)
      fun _ => Fails.pure _

theorem selectServicePaths_never :
    NeverTooLong (selectServicePaths now serviceId payloadLen source) :=
  Fails.seq (Fails.reads _) fun _ => Fails.ite
    (fun _ => Fails.seq selectServiceFlowletPath_never fun _ => Fails.pure _)
    fun _ => Fails.seq (Fails.reads _) fun _ => Fails.ite (fun _ => Fails.throw noPath_notTooLong) fun _ => Fails.pure _

theorem selectPeerScopedPaths_never {peerScope : UInt32} :
    NeverTooLong (selectPeerScopedPaths serviceId peerScope payloadLen) := by
  refine Fails.seq (Fails.reads _) fun scheduler => Fails.seq (Fails.reads _) fun _ => Fails.seq (Fails.reads _)
    fun _ => Fails.ite (fun _ => Fails.throw noPath_notTooLong) fun _ => Fails.seq ?_ fun _ => Fails.pure _
  split
  · exact selectWeightedServicePathWhere_never
  · exact requirePath_never
  · exact requirePath_never

theorem planDatagram_never {datagram : ReceivedDatagram} :
    NeverTooLong (planDatagram serviceId burst run datagram) := by
  have selected : NeverTooLong (selectDatagramPaths serviceId burst run datagram) := by
    unfold selectDatagramPaths
    split
    · exact Fails.seq selectPeerScopedPaths_never fun _ => Fails.pure _
    · refine Fails.ite (fun _ => Fails.seq (Fails.reads _) fun reusable => ?_) fun _ =>
        Fails.seq selectServicePaths_never fun _ => Fails.pure _
      cases reusable with
      | some path => exact Fails.pure _
      | none => exact Fails.seq selectServicePaths_never fun _ => Fails.pure _
  exact Fails.seq (Fails.modifyGet _) fun _ => Fails.seq selected fun _ =>
    Fails.seq (Fails.ite (fun _ => Fails.modifyGet _) fun _ => Fails.pure _) fun _ => Fails.pure _

theorem planFrom_never : NeverTooLong (planFrom serviceId burst run datagrams) := by
  induction datagrams generalizing run with
  | nil => exact Fails.pure _
  | cons datagram rest ih =>
    exact Fails.seq planDatagram_never fun _ => Fails.seq ih fun _ => Fails.pure _

theorem planFrames_fits : Returns (fun frames => ∀ plan ∈ frames, plan.Fits) (planFrames serviceId datagrams) := by
  refine Returns.bind (Returns.focus planFrom_carryable) fun planned carryable => ?_
  intro machine frames after ran
  cases framed : coalescePlannedFrames serviceId planned with
  | error failure =>
    rw [framed] at ran
    cases ran
  | ok made =>
    rw [framed] at ran
    cases ran
    exact coalescePlannedFrames_fits carryable framed

theorem liftExcept_never {result : Except DataplaneError α}
    (known : ∀ {error}, result = .error error → error.NotTooLong) : NeverTooLong (liftExcept result) := by
  cases result with
  | ok value => exact Fails.pure _
  | error error => exact Fails.throw (known rfl)

theorem planFrames_never : NeverTooLong (planFrames serviceId datagrams) :=
  Fails.seq (Fails.focus planFrom_never fun known => known) fun _ =>
    liftExcept_never fun failed => coalescePlannedFrames_error failed

theorem ensureServiceEnabled_never : NeverTooLong (ensureServiceEnabled serviceId) := by
  refine Fails.seq (Fails.reads _) fun disabled => ?_
  cases disabled with
  | some reason => exact Fails.throw nofun
  | none => exact Fails.pure _

theorem prepareForward_never : NeverTooLong (prepareForward name datagrams) := by
  refine Fails.seq (Fails.reads _) fun found => ?_
  cases found with
  | none => exact Fails.throw nofun
  | some service =>
    exact Fails.seq ensureServiceEnabled_never fun _ => Fails.seq (Fails.modify _) fun _ =>
      Fails.seq planFrames_never fun _ => Fails.pure _

theorem prepareForward_fits :
    Returns (fun prepared => ∀ plan ∈ prepared.2, plan.Fits) (prepareForward name datagrams) := by
  refine Returns.skip fun found => ?_
  cases found with
  | none => exact Returns.throw
  | some service =>
    exact Returns.skip fun _ => Returns.skip fun _ =>
      Returns.bind planFrames_fits fun _ fits => Returns.pure fits

theorem prepareGroups_error {engine : CoreDataplane} {groups : List PreparedFrameGroup}
    (fits : ∀ plan ∈ frames, plan.Fits) (failed : engine.prepareGroups groups frames = .error error) :
    error.NotTooLong := by
  induction frames generalizing groups with
  | nil => cases failed
  | cons plan rest ih =>
    obtain first | ⟨single, -, failed⟩ := except_bind_error failed
    · have short : ¬engine.transportSecurity.pathFrameLen plan.frame > plan.path.mtu :=
        Nat.not_lt.mpr ((TransportSecurity.pathFrameLen_le _ _).trans (fits plan (by simp)))
      simp only [CoreDataplane.prepareFrame, if_neg short] at first
      split at first <;> cases first
      exact noPath_notTooLong
    · exact ih (fun other member => fits other (by simp [member])) failed

theorem checkPathMtu_never (fits : plan.Fits) : NeverTooLong (checkPathMtu plan) :=
  Fails.ite (fun long => absurd fits (Nat.not_le.mpr long)) fun _ => Fails.pure _

theorem udpService_notTooLong {error : UdpServiceError} : DataplaneError.NotTooLong (.udpService error) := nofun

theorem onNet_never {program : EStateM UdpServiceError Net α} : NeverTooLong (onNet program) := by
  have anything : Fails (fun _ => True) program := fun _ _ _ _ => trivial
  exact Fails.focus anything fun _ => udpService_notTooLong

theorem cryptoResult_notTooLong {result : Except CryptoError α}
    (failed : cryptoResult result = .error error) : error.NotTooLong := by
  cases result with
  | ok value => cases failed
  | error failure =>
    cases failed
    nofun

theorem transmitPlannedFramesSummary_never (fits : ∀ plan ∈ frames, plan.Fits) :
    NeverTooLong (transmitPlannedFramesSummary os aead now name frames) := by
  have reserve {groups : List PreparedFrameGroup} : NeverTooLong (reserveGroups groups) := by
    induction groups with
    | nil => exact Fails.pure _
    | cons group rest ih =>
      exact Fails.seq (Fails.attempt fun _ _ failed => cryptoResult_notTooLong failed) fun _ =>
        Fails.seq ih fun _ => Fails.pure _
  have protect {reserved : List (PreparedFrameGroup × ReservedFrameProtection)} :
      NeverTooLong (protectGroups os aead reserved) := by
    induction reserved with
    | nil => exact Fails.pure _
    | cons entry rest ih =>
      refine Fails.seq (Fails.seq (Fails.modify _) fun _ => ?_) fun _ => Fails.seq ih fun _ => Fails.pure _
      split
      · exact Fails.throw nofun
      · exact Fails.pure _
  have send {group : ProtectedFrameGroup} : NeverTooLong (sendGroup os aead now name group) := by
    refine Fails.seq (Fails.capture _) fun answer => ?_
    split
    · exact Fails.modify _
    · exact Fails.modify _
    · exact Fails.throw udpService_notTooLong
  have prepared : Returns (fun prepared => ∀ {error}, prepared = .error error → error.NotTooLong)
      (reads (·.engine.prepareGroups [] frames) : Run (Except DataplaneError (List PreparedFrameGroup))) :=
    Returns.reads fun _ _ failed => prepareGroups_error fits failed
  refine Fails.seq (Fails.modify _) fun _ => Fails.bind (Fails.reads _) prepared fun found known => ?_
  cases found with
  | error error => exact Fails.throw (known rfl)
  | ok groups =>
    exact Fails.seq reserve fun _ => Fails.seq protect fun _ => Fails.seq (Fails.forM fun _ _ => send) fun _ =>
      Fails.reads _

theorem transmitPlannedFrames_never (fits : ∀ plan ∈ frames, plan.Fits) :
    NeverTooLong (transmitPlannedFrames os aead now name frames) := by
  have send {pathId : PathId} {frame : Frame} {peerScope : Option UInt32} {frameLen : Nat} {expectedFanout : Bool} :
      NeverTooLong (trySendPathFrame os aead pathId frame peerScope frameLen expectedFanout) := by
    refine Fails.seq (Fails.attempt fun _ _ failed => cryptoResult_notTooLong failed) fun _ =>
      Fails.seq (Fails.reads _) fun _ => Fails.seq (Fails.capture _) fun answer => ?_
    split
    · exact Fails.pure _
    · exact Fails.seq (Fails.modify _) fun _ => Fails.pure _
    · exact Fails.throw udpService_notTooLong
  have record {plan : FramePlan} {sent : List PlannedDatagramMeta} :
      NeverTooLong (recordSentDatagrams now name plan sent) := by
    induction sent with
    | nil => exact Fails.pure _
    | cons datagram rest ih =>
      refine Fails.seq (Fails.reads _) fun target => ?_
      cases target with
      | none => exact Fails.throw noPath_notTooLong
      | some target => exact Fails.seq (Fails.modify _) fun _ => Fails.seq ih fun _ => Fails.pure _
  induction frames with
  | nil => exact Fails.pure _
  | cons plan rest ih =>
    exact Fails.seq (checkPathMtu_never (fits plan (by simp))) fun _ => Fails.seq send fun _ =>
      Fails.seq (Fails.ite (fun _ => record) fun _ => Fails.pure _) fun _ =>
        Fails.seq (ih fun other member => fits other (by simp [member])) fun _ => Fails.pure _

theorem pushFrameOrPayload_notTooLong {reassembly : FragmentReassembly} {frame : Frame}
    (failed : (reassembly.pushFrameOrPayload frame).1 = .error error) : error.NotTooLong := by
  cases carried : frame.fragment with
  | none =>
    unfold FragmentReassembly.pushFrameOrPayload at failed
    rw [carried] at failed
    cases failed
  | some fragment =>
    rw [FragmentReassembly.pushFrameOrPayload_result carried] at failed
    obtain rfl : error = .invalidFragmentPlan := FragmentBuffer.push_error failed
    nofun

theorem loopFrames_never {service : UserlandUdpService} {fragments : FragmentReassembly}
    (fits : ∀ plan ∈ frames, plan.Fits) : NeverTooLong (loopFrames os now service fragments frames) := by
  have emit {plan : FramePlan} {datagram : PlannedDatagramMeta} {payload : Bytes} {a b c : Nat} :
      NeverTooLong (emitLocally os now service plan datagram payload a b c) :=
    Fails.seq onNet_never fun _ => Fails.seq (Fails.modify _) fun _ => Fails.pure _
  have emitBatch {plan : FramePlan} {count : Nat} {items : List (PlannedDatagramMeta × Bytes)} :
      NeverTooLong (emitBatchLocally os now service plan count items) := by
    induction items with
    | nil => exact Fails.pure _
    | cons item rest ih => exact Fails.seq emit fun _ => Fails.seq ih fun _ => Fails.pure _
  have loop {plan : FramePlan} {fragments : FragmentReassembly} (fits : plan.Fits) :
      NeverTooLong (loopFrame os now service plan fragments) := by
    refine Fails.seq (checkPathMtu_never fits) fun _ =>
      Fails.seq (liftExcept_never fun failed => protocolResult_error failed) fun decoded => ?_
    split
    · split
      · rename_i pushed
        exact Fails.throw (pushFrameOrPayload_notTooLong (congrArg Prod.fst pushed))
      · exact Fails.pure _
      · exact Fails.seq emit fun _ => Fails.pure _
      · exact Fails.pure _
    · exact Fails.seq (liftExcept_never fun failed => protocolResult_error failed) fun _ =>
        Fails.ite (fun _ => Fails.throw nofun) fun _ => Fails.seq emitBatch fun _ => Fails.pure _
    · exact Fails.throw nofun
  induction frames generalizing fragments with
  | nil => exact Fails.pure _
  | cons plan rest ih =>
    exact Fails.seq (loop (fits plan (by simp))) fun _ =>
      Fails.seq (ih fun other member => fits other (by simp [member])) fun _ => Fails.pure _

theorem forwardDatagrams_never : NeverTooLong (forwardDatagrams os aead now name datagrams) :=
  Fails.bind prepareForward_never prepareForward_fits fun _ fits => Fails.seq (Fails.reads _) fun _ =>
    Fails.ite (fun _ => loopFrames_never fits) fun _ => transmitPlannedFrames_never fits

theorem forwardDatagramsSummary_never : NeverTooLong (forwardDatagramsSummary os aead now name datagrams) :=
  Fails.seq (Fails.reads _) fun _ => Fails.ite
    (fun _ => Fails.seq forwardDatagrams_never fun _ => Fails.pure _)
    fun _ => Fails.bind prepareForward_never prepareForward_fits fun _ fits => transmitPlannedFramesSummary_never fits

/-- Every planned frame is at most as long as the MTU of its path, and so forwarding never reports one that is not. -/
theorem planned_frames_fit_mtu (serviceId : ServiceId) (datagrams : List ReceivedDatagram) :
    (∀ engine planned after frames, planDatagrams serviceId datagrams engine = .ok planned after →
      coalescePlannedFrames serviceId planned = .ok frames → ∀ plan ∈ frames,
        plan.frame.encodeV1.length ≤ plan.path.mtu) ∧
    ∀ os aead now name machine error after,
      (forwardDatagrams os aead now name datagrams machine = .error error after ∨
        forwardDatagramsSummary os aead now name datagrams machine = .error error after) →
      ∀ pathId frameLen mtu, error ≠ .frameExceedsPathMtu pathId frameLen mtu := by
  refine ⟨?_, ?_⟩
  · intro engine planned after frames ran framed plan member
    rw [Frame.encodeV1_length]
    exact coalescePlannedFrames_fits (planFrom_carryable ran) framed plan member
  · rintro os aead now name machine error after (ran | ran)
    · exact forwardDatagrams_never ran
    · exact forwardDatagramsSummary_never ran

end Forwarding

section Witness

/-- One path that carries 20 bytes whole, and a service to forward from. -/
def narrowConfig : CoreRuntimeConfig :=
  .ofService (.fixed 300 "app" (.v4 3 2) (.v4 3 1) .normal (Eq.refl false)) (Eq.refl false)
    (.direct 1 34 (.v4 1 1) (.v4 2 1) (Eq.refl true)) (.static 1 2 (.replicate 32 5) (.replicate 32 6))

def narrowMachine : Machine := (startedMachine narrowConfig).get rfl

/-- Two short datagrams that share a frame, and a long one that is cut. -/
def mixedDatagrams : List ReceivedDatagram :=
  [⟨.replicate 6 1, .v4 4 1, none, 0⟩, ⟨.replicate 7 2, .v4 4 1, none, 0⟩, ⟨.replicate 25 3, .v4 4 1, none, 0⟩]

/-- They are planned onto the one path, the long one under the first datagram id. -/
def mixedPlanned : List PlannedDatagram :=
  (mixedDatagrams.zip [(1, none), (2, none), (3, some 1)]).flatMap fun (datagram, sequence, fragment) =>
    copiesFor 300 datagram sequence fragment narrowConfig.paths

theorem mixed_frames_fit_mtu : Started .willing 0 narrowConfig narrowMachine ∧ ∃ after frames,
    planDatagrams 300 mixedDatagrams narrowMachine.engine = .ok mixedPlanned after ∧
    coalescePlannedFrames 300 mixedPlanned = .ok frames ∧ frames.length = 4 ∧
    ∀ plan ∈ frames, plan.frame.encodeV1.length ≤ plan.path.mtu := by
  have planned : outcome (planDatagrams 300 mixedDatagrams narrowMachine.engine) = .ok mixedPlanned := by
    decide +kernel
  have framed : (coalescePlannedFrames 300 mixedPlanned).map List.length = .ok 4 := by decide +kernel
  cases ran : planDatagrams 300 mixedDatagrams narrowMachine.engine with
  | error error after =>
    rw [ran] at planned
    cases planned
  | ok found after =>
    rw [ran] at planned
    cases made : coalescePlannedFrames 300 mixedPlanned with
    | error error =>
      rw [made] at framed
      cases framed
    | ok frames =>
      rw [made] at framed
      obtain rfl : found = mixedPlanned := Except.ok.inj planned
      exact ⟨⟨Net.blank, rfl, rfl⟩, after, frames, rfl, rfl, Except.ok.inj framed,
        (planned_frames_fit_mtu 300 mixedDatagrams).1 _ _ _ _ ran made⟩

end Witness

end Gatherlink.Engine
