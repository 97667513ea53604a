import Gatherlink.Dataplane.Fragmentation

/-! What fragmentation produces and what the reassembly map does with it. A buffer that has been
fed pieces of one datagram is determined by the set of indexes it has seen, so the order and the
multiplicity of arrivals do not matter until the set is complete. -/

namespace Gatherlink.Dataplane
open Protocol Lib.BigEndian Lib.Lookup Lib.Chunks

/-- `frame` carries the piece at `index` of the datagram `id` that was cut into `pieces`. -/
structure CarriesPiece (id : UInt32) (pieces : List Bytes) (index : Nat) (fragment : FragmentInfo)
    (payload : Bytes) : Prop where
  datagramId : fragment.datagramId = id
  fragmentIndex : fragment.fragmentIndex.toNat = index
  fragmentCount : fragment.fragmentCount.toNat = pieces.length
  originalLen : fragment.originalLen.toNat = pieces.flatten.length
  payload : pieces[index]? = some payload

section Cut

theorem protocolResult_ok {α : Type} {result : Except ProtocolError α} {value : α}
    (done : protocolResult result = .ok value) : result = .ok value := by
  cases result with
  | error error => simp [protocolResult] at done
  | ok other => rw [← Except.ok.inj done]

variable {fragment : FragmentInfo} {frame : Frame}

variable {id : UInt32}

theorem fragmentInfo_new_ok {index count : UInt16} {length : Nat}
    (made : FragmentInfo.new id index count length = .ok fragment) :
    fragment.datagramId = id ∧ fragment.fragmentIndex = index ∧ fragment.fragmentCount = count ∧
      fragment.originalLen.toNat = length := by
  unfold FragmentInfo.new at made
  split at made
  · contradiction
  · rename_i valid
    rw [← Except.ok.inj made]
    exact ⟨rfl, rfl, rfl, by simp; omega⟩

/-- The fields of a frame built for one fragment, apart from the metadata. -/
structure FragmentOf (datagram : PlannedDatagram) (plan : FramePlan) (chunk : Bytes) : Prop where
  kind : plan.frame.kind = .data
  serviceId : plan.frame.serviceId = datagram.serviceId
  pathId : plan.frame.pathId = datagram.path.pathId
  sequence : plan.frame.sequence = datagram.sequence
  payload : plan.frame.payload = chunk
  path : plan.path = datagram.path
  datagrams : plan.datagrams = [datagram.toMeta]

variable {datagram : PlannedDatagram} {plans : List FramePlan}

theorem fragmentFrame_ok {count index : Nat} {chunk : Bytes} {plan : FramePlan}
    (made : fragmentFrame datagram id count index chunk = .ok plan) :
    FragmentOf datagram plan chunk ∧ ∃ fragment, plan.frame.fragment = some fragment ∧
      fragment.datagramId = id ∧ fragment.fragmentIndex = UInt16.ofNat index ∧
      fragment.fragmentCount = UInt16.ofNat count ∧ fragment.originalLen.toNat = datagram.payload.length := by
  unfold fragmentFrame at made
  cases info : protocolResult (FragmentInfo.new id (UInt16.ofNat index) (UInt16.ofNat count)
      datagram.payload.length) with
  | error error => simp [info, bind, Except.bind] at made
  | ok fragment =>
    cases built : protocolResult (Frame.newFragment datagram.serviceId datagram.path.pathId datagram.sequence
        fragment chunk) with
    | error error => simp [info, built, bind, Except.bind] at made
    | ok frame =>
      simp only [info, built, bind, Except.bind, Except.ok.injEq] at made
      have fields := fragmentInfo_new_ok (protocolResult_ok info)
      have shape := protocolResult_ok built
      unfold Frame.newFragment Frame.new at shape
      split at shape
      · contradiction
      · rw [← made, ← Except.ok.inj shape]
        exact ⟨⟨rfl, rfl, rfl, rfl, rfl, rfl, rfl⟩, fragment, rfl, fields⟩

theorem fragmentFrames_ok {count start : Nat} {pieces : List Bytes}
    (made : fragmentFrames datagram id count start pieces = .ok plans) :
    plans.length = pieces.length ∧ ∀ (index : Nat) (plan : FramePlan), plans[index]? = some plan →
      ∃ chunk, pieces[index]? = some chunk ∧
        fragmentFrame datagram id count (start + index) chunk = .ok plan := by
  induction pieces generalizing start plans with
  | nil =>
    rw [fragmentFrames] at made
    rw [← Except.ok.inj made]
    simp
  | cons chunk rest ih =>
    rw [fragmentFrames] at made
    cases first : fragmentFrame datagram id count start chunk with
    | error error => simp [first, bind, Except.bind] at made
    | ok plan =>
      cases others : fragmentFrames datagram id count (start + 1) rest with
      | error error => simp [first, others, bind, Except.bind] at made
      | ok tail =>
        simp only [first, others, bind, Except.bind, Except.ok.injEq] at made
        obtain ⟨length, found⟩ := ih others
        rw [← made]
        refine ⟨by simp [length], ?_⟩
        intro index other present
        cases index with
        | zero =>
          simp only [List.getElem?_cons_zero, Option.some.injEq] at present
          exact ⟨chunk, rfl, by rw [← present]; exact first⟩
        | succ index =>
          obtain ⟨piece, position, built⟩ := found index other (by simpa using present)
          exact ⟨piece, by simpa using position, by rw [← built]; congr 1; omega⟩

theorem fragmentDatagram_ok (identified : datagram.fragment = some id) (made : fragmentDatagram datagram = .ok plans) :
        plans.length = (chunks datagram.path.maxFragmentPayload datagram.payload).length ∧
      ∀ (index : Nat) (plan : FramePlan), plans[index]? = some plan →
        FragmentOf datagram plan plan.frame.payload ∧ ∃ fragment, plan.frame.fragment = some fragment ∧
          CarriesPiece id (chunks datagram.path.maxFragmentPayload datagram.payload) index fragment
            plan.frame.payload := by
  have positive := datagram.path.maxFragmentPayload_pos
  unfold fragmentDatagram at made
  simp only [Nat.ne_of_gt positive, if_false, identified] at made
  split at made
  · contradiction
  · rename_i few
    obtain ⟨length, found⟩ := fragmentFrames_ok made
    refine ⟨length, ?_⟩
    intro index plan present
    obtain ⟨chunk, position, built⟩ := found index plan present
    obtain ⟨shape, fragment, carried, datagramId, fragmentIndex, fragmentCount, originalLen⟩ :=
      fragmentFrame_ok built
    have inside := (List.getElem?_eq_some_iff.mp position).1
    rw [chunks_length] at inside
    have same := shape.payload
    refine ⟨same ▸ shape, fragment, carried, datagramId, ?_, ?_, ?_, same ▸ position⟩
    · rw [fragmentIndex, Nat.zero_add, UInt16.toNat_ofNat_of_lt' (by simp [UInt16.size]; omega)]
    · rw [fragmentCount, chunks_length, UInt16.toNat_ofNat_of_lt' (by simp [UInt16.size]; omega)]
    · rw [originalLen, flatten_chunks positive]

end Cut

section Buffer

/-- The buffer has been fed exactly the pieces at `indexes`. -/
structure FragmentBuffer.Holds (buffer : FragmentBuffer) (pieces : List Bytes) (indexes : Finset Nat) : Prop where
  chunks : buffer.chunks = arrived pieces indexes
  originalLen : buffer.originalLen = pieces.flatten.length

variable {pieces : List Bytes} {index : Nat} {payload : Bytes} {buffer : FragmentBuffer} {indexes : Finset Nat}

theorem FragmentBuffer.new_holds {id : UInt32} (carries : CarriesPiece id pieces index fragment payload) :
    (FragmentBuffer.new fragment).Holds pieces ∅ where
  chunks := by rw [arrived_empty, ← carries.fragmentCount]; rfl
  originalLen := carries.originalLen

private theorem mapM_map_some {α : Type} (values : List α) : (values.map some).mapM id = some values := by
  induction values with
  | nil => rfl
  | cons value rest ih => simp [List.mapM_cons, ih]

/-- The one step lemma of a buffer: the piece is stored, and when no index is missing any more, the
pieces come out if their lengths add up. -/
theorem FragmentBuffer.push_arrived (holds : buffer.chunks = arrived pieces indexes)
    (agrees : fragment.originalLen.toNat = buffer.originalLen) (position : fragment.fragmentIndex.toNat = index)
    (piece : pieces[index]? = some payload) :
    ∃ stored : FragmentBuffer, stored.chunks = arrived pieces (insert index indexes) ∧
      stored.originalLen = buffer.originalLen ∧
      buffer.push fragment payload =
        (if ∀ i < pieces.length, i ∈ insert index indexes then
            if pieces.flatten.length = buffer.originalLen then .ok (some pieces.flatten)
            else .error .invalidFragmentPlan
          else .ok none, stored) := by
  obtain ⟨inPieces, same⟩ := List.getElem?_eq_some_iff.mp piece
  have inside : fragment.fragmentIndex.toNat < buffer.chunks.length := by
    rw [position, holds, arrived_length]
    exact inPieces
  have slots : (buffer.store _ payload inside).chunks = arrived pieces (insert index indexes) := by
    simp only [FragmentBuffer.store, position, holds, ← same]
    exact arrived_insert pieces indexes index inPieces
  refine ⟨buffer.store _ payload inside, slots, rfl, ?_⟩
  have complete : (buffer.store _ payload inside).received = (buffer.store _ payload inside).chunks.length ↔
      ∀ i < pieces.length, i ∈ insert index indexes := by
    rw [← arrived_all, ← slots, (buffer.store _ payload inside).counted, List.countP_eq_length, List.all_eq_true]
  unfold FragmentBuffer.push
  simp only [if_neg (not_not.mpr agrees), dif_pos inside]
  by_cases full : ∀ i < pieces.length, i ∈ insert index indexes
  · rw [if_neg (not_not.mpr (complete.mpr full)), if_pos full, slots, arrived_full pieces _ full, mapM_map_some]
    by_cases total : pieces.flatten.length = buffer.originalLen
    · have fits : ¬pieces.flatten.length ≠ (buffer.store _ payload inside).originalLen := not_not.mpr total
      simp only [if_neg fits, if_pos total]
    · have differs : pieces.flatten.length ≠ (buffer.store _ payload inside).originalLen := total
      simp only [if_pos differs, if_neg total]
  · rw [if_pos (fun same => full (complete.mp same)), if_neg full]

theorem FragmentBuffer.push_piece {id : UInt32} (holds : buffer.Holds pieces indexes)
    (carries : CarriesPiece id pieces index fragment payload) :
    ∃ stored : FragmentBuffer, stored.Holds pieces (insert index indexes) ∧
      buffer.push fragment payload =
        (.ok (if ∀ i < pieces.length, i ∈ insert index indexes then some pieces.flatten else none), stored) := by
  obtain ⟨stored, chunks, originalLen, pushed⟩ := FragmentBuffer.push_arrived holds.chunks
    (carries.originalLen.trans holds.originalLen.symm) carries.fragmentIndex carries.payload
  refine ⟨stored, ⟨chunks, originalLen.trans holds.originalLen⟩, pushed.trans ?_⟩
  rw [if_pos holds.originalLen.symm]
  split <;> rfl

end Buffer

section Map

def reassemblyId (frame : Frame) : Option UInt32 := frame.fragment.map (·.datagramId)

/-- The map entry of a datagram whose pieces at `indexes` have been pushed and nothing else. -/
def PendingEntry (entry : Option FragmentBuffer) (pieces : List Bytes) (indexes : Finset Nat) : Prop :=
  (entry = none ∧ indexes = ∅) ∨ ∃ buffer, entry = some buffer ∧ buffer.Holds pieces indexes

namespace FragmentReassembly

variable {reassembly : FragmentReassembly}

variable {id : UInt32}

theorem pushFrameOrPayload_other (foreign : reassemblyId frame ≠ some id) :
    (reassembly.pushFrameOrPayload frame).2.datagrams id = reassembly.datagrams id := by
  unfold pushFrameOrPayload reassemblyId at *
  cases carried : frame.fragment with
  | none => rfl
  | some fragment =>
    have different : id ≠ fragment.datagramId := by
      intro same
      simp [carried, same] at foreign
    simp only
    split
    · exact remove_of_ne _ different
    · exact insert_of_ne _ _ different

theorem pushFrameOrPayload_result (carried : frame.fragment = some fragment) :
    (reassembly.pushFrameOrPayload frame).1 =
      (((reassembly.datagrams fragment.datagramId).getD (.new fragment)).push fragment frame.payload).1 := by
  unfold pushFrameOrPayload
  simp only [carried]
  split <;> rename_i pushed <;> rw [pushed]

theorem pushFrameOrPayload_piece {pieces : List Bytes} {indexes : Finset Nat} {index : Nat}
    (pending : PendingEntry (reassembly.datagrams id) pieces indexes) (carried : frame.fragment = some fragment)
    (carries : CarriesPiece id pieces index fragment frame.payload) :
    if ∀ i < pieces.length, i ∈ insert index indexes then
      (reassembly.pushFrameOrPayload frame).1 = .ok (some pieces.flatten) ∧
        (reassembly.pushFrameOrPayload frame).2.datagrams id = none
    else
      (reassembly.pushFrameOrPayload frame).1 = .ok none ∧
        PendingEntry ((reassembly.pushFrameOrPayload frame).2.datagrams id) pieces (insert index indexes) := by
  have holds : ((reassembly.datagrams id).getD (.new fragment)).Holds pieces indexes := by
    rcases pending with ⟨absent, rfl⟩ | ⟨buffer, present, holds⟩
    · rw [absent]
      exact FragmentBuffer.new_holds carries
    · rw [present]
      exact holds
  obtain ⟨stored, next, pushed⟩ := FragmentBuffer.push_piece holds carries
  have same := carries.datagramId
  unfold pushFrameOrPayload
  simp only [carried, same, pushed]
  split_ifs with full
  · exact ⟨rfl, remove_self ..⟩
  · refine ⟨rfl, Or.inr ⟨stored, insert_self .., next⟩⟩

/-- Push a run of frames, keeping the results of the frames selected by `mine`. -/
def resultsWhere (mine : Frame → Bool) (reassembly : FragmentReassembly) :
    List Frame → List (Except DataplaneError (Option Bytes))
  | [] => []
  | frame :: rest =>
      let (result, next) := reassembly.pushFrameOrPayload frame
      if mine frame then result :: resultsWhere mine next rest else resultsWhere mine next rest

def pushAll (reassembly : FragmentReassembly) (frames : List Frame) : FragmentReassembly :=
  frames.foldl (fun current frame => (current.pushFrameOrPayload frame).2) reassembly

theorem resultsWhere_append (mine : Frame → Bool) (reassembly : FragmentReassembly) (first second : List Frame) :
    resultsWhere mine reassembly (first ++ second) =
      resultsWhere mine reassembly first ++ resultsWhere mine (reassembly.pushAll first) second := by
  induction first generalizing reassembly with
  | nil => rfl
  | cons frame rest ih =>
    simp only [List.cons_append, resultsWhere, pushAll, List.foldl_cons, ih]
    split <;> rfl

theorem pushAll_foreign (frames : List Frame) (reassembly : FragmentReassembly)
    (foreign : ∀ frame ∈ frames, reassemblyId frame ≠ some id) :
    (reassembly.pushAll frames).datagrams id = reassembly.datagrams id := by
  induction frames generalizing reassembly with
  | nil => rfl
  | cons frame rest ih =>
    have tail := ih (reassembly.pushFrameOrPayload frame).2 (fun other member => foreign other (by simp [member]))
    exact tail.trans (pushFrameOrPayload_other (foreign frame (by simp)))

theorem resultsWhere_foreign (frames : List Frame) (reassembly : FragmentReassembly)
    (foreign : ∀ frame ∈ frames, reassemblyId frame ≠ some id) :
    reassembly.resultsWhere (fun frame => reassemblyId frame == some id) frames = [] := by
  induction frames generalizing reassembly with
  | nil => rfl
  | cons frame rest ih =>
    simp only [resultsWhere, beq_iff_eq, foreign frame List.mem_cons_self, if_false]
    exact ih _ (fun other member => foreign other (List.mem_cons_of_mem _ member))

end FragmentReassembly

end Map

section Exact

variable {datagram : PlannedDatagram} {id : UInt32} {plans : List FramePlan}

variable {index : Nat}

private theorem piece_at (identified : datagram.fragment = some id) (cut : fragmentDatagram datagram = .ok plans)
    (position : plans[index]?.map (·.frame) = some frame) :
    ∃ fragment : FragmentInfo, frame.fragment = some fragment ∧
      CarriesPiece id (chunks datagram.path.maxFragmentPayload datagram.payload) index fragment frame.payload := by
  obtain ⟨plan, there, rfl⟩ := Option.map_eq_some_iff.mp position
  exact ((fragmentDatagram_ok identified cut).2 index plan there).2

private theorem position_of (member : frame ∈ plans.map (·.frame)) :
    ∃ index : Nat, plans[index]?.map (·.frame) = some frame := by
  obtain ⟨index, position⟩ := List.mem_iff_getElem?.mp member
  exact ⟨index, by rw [← position, List.getElem?_map]⟩

private theorem position_unique (identified : datagram.fragment = some id)
    (cut : fragmentDatagram datagram = .ok plans) {other : Nat} (here : plans[index]?.map (·.frame) = some frame)
    (there : plans[other]?.map (·.frame) = some frame) :
    index = other := by
  obtain ⟨fragment, carried, carries⟩ := piece_at identified cut here
  obtain ⟨fragment', carried', carries'⟩ := piece_at identified cut there
  have same : fragment = fragment' := Option.some.inj (carried.symm.trans carried')
  rw [← carries.fragmentIndex, same, carries'.fragmentIndex]

/-- While the piece at `gap` is outstanding, fragments of the datagram return nothing and only add
to the set of indexes seen; frames of other ids do not touch the entry. -/
private theorem outstanding_run (identified : datagram.fragment = some id)
    (cut : fragmentDatagram datagram = .ok plans) {gap : Nat} (frames : List Frame)
    (reassembly : FragmentReassembly) (indexes : Finset Nat)
    (pending : PendingEntry (reassembly.datagrams id)
      (chunks datagram.path.maxFragmentPayload datagram.payload) indexes)
    (unseen : gap ∉ indexes)
    (inside : gap < (chunks datagram.path.maxFragmentPayload datagram.payload).length)
    (arrivals : ∀ frame ∈ frames, frame ∈ plans.map (·.frame) ∨ reassemblyId frame ≠ some id)
    (absent : ∀ frame ∈ frames, plans[gap]?.map (·.frame) ≠ some frame) :
    reassembly.resultsWhere (fun frame => reassemblyId frame == some id) frames =
        (frames.filter fun frame => reassemblyId frame == some id).map (fun _ => .ok none) ∧
      ∃ seen : Finset Nat, indexes ⊆ seen ∧ gap ∉ seen ∧
        (∀ frame ∈ frames, ∀ index, plans[index]?.map (·.frame) = some frame → index ∈ seen) ∧
        PendingEntry ((reassembly.pushAll frames).datagrams id)
          (chunks datagram.path.maxFragmentPayload datagram.payload) seen := by
  induction frames generalizing reassembly indexes with
  | nil => exact ⟨rfl, indexes, Finset.Subset.refl _, unseen, by simp, pending⟩
  | cons frame rest ih =>
    have restArrivals := fun other (member : other ∈ rest) => arrivals other (List.mem_cons_of_mem _ member)
    have restAbsent := fun other (member : other ∈ rest) => absent other (List.mem_cons_of_mem _ member)
    rcases arrivals frame List.mem_cons_self with own | foreign
    · obtain ⟨index, position⟩ := position_of own
      obtain ⟨fragment, carried, carries⟩ := piece_at identified cut position
      have mine : reassemblyId frame = some id := by simp [reassemblyId, carried, carries.datagramId]
      have elsewhere : gap ≠ index := by
        rintro rfl
        exact absent frame List.mem_cons_self position
      have step := FragmentReassembly.pushFrameOrPayload_piece pending carried carries
      rw [if_neg (fun full => by simpa [unseen, elsewhere] using full gap inside)] at step
      obtain ⟨results, seen, grows, gapLeft, covers, final⟩ := ih _ (insert index indexes) step.2
        (by simp [unseen, elsewhere]) restArrivals restAbsent
      refine ⟨?_, seen, (Finset.subset_insert ..).trans grows, gapLeft, ?_, final⟩
      · simp [FragmentReassembly.resultsWhere, mine, step.1, results]
      · intro other member place there
        rcases List.mem_cons.mp member with rfl | tail
        · rw [position_unique identified cut there position]
          exact grows (Finset.mem_insert_self ..)
        · exact covers other tail place there
    · have step : (reassembly.pushFrameOrPayload frame).2.datagrams id = reassembly.datagrams id :=
        FragmentReassembly.pushFrameOrPayload_other foreign
      have untouched : PendingEntry ((reassembly.pushFrameOrPayload frame).2.datagrams id)
          (chunks datagram.path.maxFragmentPayload datagram.payload) indexes := by
        rw [step]
        exact pending
      obtain ⟨results, seen, grows, gapLeft, covers, final⟩ := ih _ indexes untouched unseen restArrivals restAbsent
      refine ⟨?_, seen, grows, gapLeft, ?_, final⟩
      · simp [FragmentReassembly.resultsWhere, foreign, results]
      · intro other member index position
        rcases List.mem_cons.mp member with rfl | tail
        · obtain ⟨fragment, carried, carries⟩ := piece_at identified cut position
          exact absurd (by simp [reassemblyId, carried, carries.datagramId]) foreign
        · exact covers other tail index position

/-- Whatever the arrival order, the duplicates before completion and the foreign traffic in
between, the payload comes out once, at the arrival that fills the last gap, and leaves no entry. -/
theorem reassembly_returns_payload_once (identified : datagram.fragment = some id)
    (cut : fragmentDatagram datagram = .ok plans) (reassembly : FragmentReassembly)
    (fresh : reassembly.datagrams id = none) (before after : List Frame) (last : Frame)
    (arrivals : ∀ frame ∈ before, frame ∈ plans.map (·.frame) ∨ reassemblyId frame ≠ some id)
    (later : ∀ frame ∈ after, reassemblyId frame ≠ some id)
    (completing : last ∈ plans.map (·.frame)) (missing : last ∉ before)
    (others : ∀ frame ∈ plans.map (·.frame), frame = last ∨ frame ∈ before) :
    reassembly.resultsWhere (fun frame => reassemblyId frame == some id) (before ++ last :: after) =
        (before.filter fun frame => reassemblyId frame == some id).map (fun _ => .ok none) ++
          [.ok (some datagram.payload)] ∧
      (reassembly.pushAll (before ++ last :: after)).datagrams id = none := by
  obtain ⟨gap, position⟩ := position_of completing
  obtain ⟨fragment, carried, carries⟩ := piece_at identified cut position
  have inside := (List.getElem?_eq_some_iff.mp carries.payload).1
  have positive := datagram.path.maxFragmentPayload_pos
  obtain ⟨results, seen, -, -, covers, pending⟩ := outstanding_run identified cut before reassembly ∅
    (Or.inl ⟨fresh, rfl⟩) (Finset.notMem_empty gap) inside arrivals (by
      intro frame member same
      exact missing (Option.some.inj (position.symm.trans same) ▸ member))
  have full : ∀ i < (chunks datagram.path.maxFragmentPayload datagram.payload).length, i ∈ insert gap seen := by
    intro index bound
    rw [← (fragmentDatagram_ok identified cut).1] at bound
    have there : plans[index]? = some plans[index] := List.getElem?_eq_getElem bound
    rcases others plans[index].frame (List.mem_map_of_mem (List.getElem_mem bound)) with same | earlier
    · have here : plans[index]?.map (·.frame) = some last := by rw [there, ← same]; rfl
      rw [position_unique identified cut here position]
      exact Finset.mem_insert_self ..
    · exact Finset.mem_insert_of_mem (covers _ earlier index (by rw [there]; rfl))
  have step := FragmentReassembly.pushFrameOrPayload_piece pending carried carries
  rw [if_pos full, flatten_chunks positive] at step
  have mine : reassemblyId last = some id := by simp [reassemblyId, carried, carries.datagramId]
  refine ⟨?_, ?_⟩
  · rw [FragmentReassembly.resultsWhere_append, results]
    simp [FragmentReassembly.resultsWhere, mine, step.1,
      FragmentReassembly.resultsWhere_foreign after _ later]
  · have split : reassembly.pushAll (before ++ last :: after) =
        ((reassembly.pushAll before).pushFrameOrPayload last).2.pushAll after := by
      simp [FragmentReassembly.pushAll]
    rw [split, FragmentReassembly.pushAll_foreign after _ later, step.2]

/-- Three bytes over a path that leaves room for two. -/
def shortDatagram : PlannedDatagram :=
  ⟨[1, 2, 3], .v4 1 1, none, 5, 300,
    ⟨1, 26, none, none, none, true, .active, 1, {}, by decide, CorePathConfig.weight_one, CorePathConfig.lossless⟩,
    some 9, false⟩

def shortFirst : FramePlan :=
  ⟨⟨.data, 300, 1, 5, some ⟨9, 0, 2, 3, by decide⟩, [1, 2], by decide⟩, shortDatagram.path, [shortDatagram.toMeta], 2⟩

def shortSecond : FramePlan :=
  ⟨⟨.data, 300, 1, 5, some ⟨9, 1, 2, 3, by decide⟩, [3], by decide⟩, shortDatagram.path, [shortDatagram.toMeta], 2⟩

theorem short_reassembly_once : fragmentDatagram shortDatagram = .ok [shortFirst, shortSecond] ∧
    FragmentReassembly.default.resultsWhere (fun frame => reassemblyId frame == some 9)
      [shortSecond.frame, shortSecond.frame, shortFirst.frame] = [.ok none, .ok none, .ok (some [1, 2, 3])] := by
  have cut : fragmentDatagram shortDatagram = .ok [shortFirst, shortSecond] := by decide
  have once := reassembly_returns_payload_once rfl cut FragmentReassembly.default rfl
    [shortSecond.frame, shortSecond.frame] [] shortFirst.frame (by decide) (by decide)
    (by decide) (by decide) (by decide)
  exact ⟨cut, once.1⟩

end Exact

end Gatherlink.Dataplane
