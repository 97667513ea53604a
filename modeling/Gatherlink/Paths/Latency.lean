import Mathlib.Algebra.Order.BigOperators.Group.List
import Mathlib.Algebra.Order.Ring.Int
import Mathlib.Data.List.Sort

/-! The latency of one path: the rolling windows of both directions and the status row that is reported. Times are
in microseconds; the monotonic clock also stands for the time of day in the row. -/

namespace Gatherlink.Paths

def PATH_LATENCY_MEAN_WINDOW_US : Int := 30000000
def PATH_LATENCY_PERCENTILE : Nat := 95
def PATH_LATENCY_MAX_ACCEPTED_US : Int := 10000000

section Tracker

structure DirectionStats where
  currentUs : Int
  meanUs : Int
  jitterUs : Int
  p95Us : Int
  deriving DecidableEq

def meanAbsoluteJitterUs (samples : List Int) (meanUs : Int) : Int :=
  if samples.isEmpty then 0 else (samples.map fun sample => |sample - meanUs|).sum / samples.length

def nearestRankPercentile (samples : List Int) (percentile : Nat) : Int :=
  let ordered := samples.insertionSort (· ≤ ·)
  let rank := max 1 (min ordered.length ((ordered.length * percentile + 99) / 100))
  ordered.getD (rank - 1) 0

def pruneDirection (samples : List (Int × Int)) (now : Int) : List (Int × Int) :=
  samples.dropWhile fun sample => PATH_LATENCY_MEAN_WINDOW_US < now - sample.1

def observeDirection (samples : List (Int × Int)) (oneWayUs now : Int) : List (Int × Int) × DirectionStats :=
  let samples := pruneDirection (samples ++ [(now, oneWayUs)]) now
  let observed := samples.map Prod.snd
  let meanUs := observed.sum / max observed.length 1
  (samples, ⟨oneWayUs, meanUs, meanAbsoluteJitterUs observed meanUs,
    nearestRankPercentile observed PATH_LATENCY_PERCENTILE⟩)

structure LatencyRow where
  tx : Option DirectionStats := none
  rx : Option DirectionStats := none
  source : String
  confidence : String
  clockErrorUs : Option Int
  rttUs : Option Int
  updatedAt : Int
  latestProbe : Option (String × String) := none
  rejectionReason : Option String := none
  rejectionRttUs : Option Int := none
  rejectionClockErrorUs : Option Int := none
  rejectionUpdatedAt : Option Int := none
  deriving DecidableEq

structure PathLatency where
  tx : List (Int × Int) := []
  rx : List (Int × Int) := []
  row : Option LatencyRow := none

structure LatencyObservation where
  txOneWayUs : Option Int := none
  rxOneWayUs : Option Int := none
  source : String := "clock-synced-one-way"
  confidence : String := "warming"
  rttUs : Option Int := none
  clockErrorUs : Option Int := none

def latencyRejectionReason (sample : LatencyObservation) : Option String :=
  let oneWay := [sample.txOneWayUs, sample.rxOneWayUs].reduceOption
  if (oneWay ++ [sample.rttUs, sample.clockErrorUs].reduceOption).any (· < 0) then some "negative-sample"
  else if oneWay.any (PATH_LATENCY_MAX_ACCEPTED_US < ·) then some "unreasonable-sample"
  else sample.rttUs.bind fun rttUs =>
    let errorBudgetUs := max (sample.clockErrorUs.getD 0) 2000
    if oneWay.any (rttUs + errorBudgetUs < ·) then some "impossible-rtt"
    else if oneWay.length = 2 ∧ rttUs + errorBudgetUs * 2 < oneWay.sum then some "impossible-rtt"
    else none

namespace PathLatency

variable (path : PathLatency) (now : Int)

/-- No caller passes a label of its own. -/
def reject (reason : String) (rttUs clockErrorUs : Option Int) : PathLatency :=
  let tx := pruneDirection path.tx now
  let rx := pruneDirection path.rx now
  let source := "rejected"
  let confidence := "rejected"
  let stale (row : LatencyRow) : LatencyRow :=
    { row with source, confidence, rejectionReason := some reason, clockErrorUs, rttUs, updatedAt := now }
  { tx, rx
    row := match path.row with
      | none => stale { source, confidence, clockErrorUs, rttUs, updatedAt := now }
      | some row =>
        if (tx ≠ [] ∨ rx ≠ []) ∧ row.source ≠ "rejected" then
          some { row with
            rejectionReason := some reason
            rejectionRttUs := rttUs
            rejectionClockErrorUs := clockErrorUs
            rejectionUpdatedAt := some now }
        else stale row }

/-- The label of an accepted sample: a probe does not replace that of real data. -/
def preserveStrongerLatencyProvenance (existing : Option LatencyRow) (source confidence : String) :
    String × String × Option (String × String) :=
  match existing with
  | none => (source, confidence, none)
  | some row =>
    if row.source = "data-traffic-one-way" ∧ row.confidence = "good" ∧ source ≠ "data-traffic-one-way" then
      ("data-traffic-one-way", "good", some (source, confidence))
    else (source, confidence, row.latestProbe)

def observeDirectional (sample : LatencyObservation) : PathLatency :=
  if sample.txOneWayUs = none ∧ sample.rxOneWayUs = none then path
  else match latencyRejectionReason sample with
  | some reason => path.reject now reason sample.rttUs sample.clockErrorUs
  | none =>
    let tx := sample.txOneWayUs.map (observeDirection path.tx · now)
    let rx := sample.rxOneWayUs.map (observeDirection path.rx · now)
    let (source, confidence, latestProbe) :=
      preserveStrongerLatencyProvenance path.row sample.source sample.confidence
    let existing := path.row.getD { source, confidence, clockErrorUs := none, rttUs := none, updatedAt := now }
    { tx := (tx.map Prod.fst).getD path.tx
      rx := (rx.map Prod.fst).getD path.rx
      row := some { existing with
        tx := (tx.map Prod.snd).or existing.tx
        rx := (rx.map Prod.snd).or existing.rx
        source, confidence, latestProbe
        clockErrorUs := sample.clockErrorUs
        rttUs := sample.rttUs
        updatedAt := now } }

end PathLatency

end Tracker

section Provenance

/-- A call of the tracker and its time. -/
inductive LatencyEvent where
  | observe (now : Int) (sample : LatencyObservation)
  | reject (now : Int) (reason : String) (rttUs clockErrorUs : Option Int)

def LatencyEvent.apply (path : PathLatency) : LatencyEvent → PathLatency
  | .observe now sample => path.observeDirectional now sample
  | .reject now reason rttUs clockErrorUs => path.reject now reason rttUs clockErrorUs

/-- The state after a history, newest event first. -/
def latencyAfter (history : List LatencyEvent) : PathLatency :=
  history.foldr (fun event path => event.apply path) {}

def LatencyObservation.Accepted (sample : LatencyObservation) : Prop :=
  ¬(sample.txOneWayUs = none ∧ sample.rxOneWayUs = none) ∧ latencyRejectionReason sample = none

/-- The event is an accepted sample of real data traffic. -/
def LatencyEvent.IsData (event : LatencyEvent) (now : Int) : Prop :=
  ∃ sample, event = .observe now sample ∧ sample.Accepted ∧ sample.source = "data-traffic-one-way"

/-- A sample of real data was accepted within the window that ends at `now`. -/
def DataWithin (history : List LatencyEvent) (now : Int) : Prop :=
  ∃ event ∈ history, ∃ time, event.IsData time ∧ time ≤ now ∧ now - time ≤ PATH_LATENCY_MEAN_WINDOW_US

def LatencyRow.Trusted (row : LatencyRow) : Prop :=
  row.source = "data-traffic-one-way" ∧ row.confidence = "good"

theorem DataWithin.cons {history : List LatencyEvent} {now : Int} (event : LatencyEvent)
    (fresh : DataWithin history now) : DataWithin (event :: history) now := by
  obtain ⟨other, member, found⟩ := fresh
  exact ⟨other, .tail event member, found⟩

variable {path : PathLatency} {row : LatencyRow}

/-- A rejection keeps the label and the time of the row, or takes the label away. -/
theorem PathLatency.reject_trusted {now : Int} {reason : String} {rttUs clockErrorUs : Option Int}
    (has : (path.reject now reason rttUs clockErrorUs).row = some row) (trusted : row.Trusted) :
    ∃ before, path.row = some before ∧ before.Trusted ∧ before.updatedAt = row.updatedAt := by
  unfold reject at has
  cases held : path.row with
  | none =>
    simp only [held, Option.some.injEq] at has
    rw [← has] at trusted
    exact absurd trusted.1 (by simp)
  | some before =>
    simp only [held] at has
    split_ifs at has
    · obtain rfl := Option.some.inj has
      exact ⟨before, rfl, trusted, rfl⟩
    · obtain rfl := Option.some.inj has
      exact absurd trusted.1 (by simp)

/-- An accepted sample leaves the label of real data only if it is one, or if the row has that label already. -/
theorem PathLatency.accepted_trusted {now : Int} {sample : LatencyObservation} (accepted : sample.Accepted)
    (has : (path.observeDirectional now sample).row = some row) (trusted : row.Trusted) :
    row.updatedAt = now ∧ (sample.source = "data-traffic-one-way" ∨
      ∃ before, path.row = some before ∧ before.Trusted) := by
  simp only [observeDirectional, if_neg accepted.1, accepted.2, Option.some.injEq] at has
  obtain rfl := has
  refine ⟨rfl, ?_⟩
  obtain ⟨source, -⟩ := trusted
  cases held : path.row with
  | none => exact .inl (by simpa [held, preserveStrongerLatencyProvenance] using source)
  | some before =>
    by_cases kept : before.source = "data-traffic-one-way" ∧ before.confidence = "good"
    · exact .inr ⟨before, rfl, kept⟩
    · refine .inl ?_
      rw [held, preserveStrongerLatencyProvenance, if_neg fun both => kept ⟨both.1, both.2.1⟩] at source
      exact source

/-- The label of real data rests on a sample that is still in the window, if every probe that is accepted while the row
has that label comes while such a sample is. -/
theorem provenance_fresh (history : List LatencyEvent)
    (timely : ∀ now sample before, LatencyEvent.observe now sample :: before <:+ history → sample.Accepted →
      (∃ row, (latencyAfter before).row = some row ∧ row.Trusted) → DataWithin (.observe now sample :: before) now)
    (row : LatencyRow) (has : (latencyAfter history).row = some row) (trusted : row.Trusted) :
    DataWithin history row.updatedAt := by
  induction history generalizing row with
  | nil => cases has
  | cons event before ih =>
    have earlier := ih fun now sample rest suffix => timely now sample rest (suffix.trans (List.suffix_cons _ _))
    have rejected (now reason rttUs clockErrorUs)
        (same : ((latencyAfter before).reject now reason rttUs clockErrorUs).row = some row) :
        DataWithin (event :: before) row.updatedAt := by
      obtain ⟨old, held, label, updated⟩ := PathLatency.reject_trusted same trusted
      exact updated ▸ (earlier old held label).cons event
    cases event with
    | reject now reason rttUs clockErrorUs => exact rejected now reason rttUs clockErrorUs has
    | observe now sample =>
      change ((latencyAfter before).observeDirectional now sample).row = some row at has
      by_cases accepted : sample.Accepted
      · obtain ⟨updated, data | ⟨old, held, label⟩⟩ := PathLatency.accepted_trusted accepted has trusted
        · exact ⟨_, .head _, now, ⟨sample, rfl, accepted, data⟩, updated ▸ le_rfl,
            by simp [updated, PATH_LATENCY_MEAN_WINDOW_US]⟩
        · exact updated ▸ timely now sample before (List.suffix_refl _) accepted ⟨old, held, label⟩
      · unfold PathLatency.observeDirectional at has
        split at has
        · exact (earlier row has trusted).cons _
        · split at has
          · exact rejected _ _ _ _ has
          · exact absurd ⟨‹_›, ‹_›⟩ accepted

/-- A sample of real data at 0, and then a probe. -/
def probedAt (now : Int) : List LatencyEvent :=
  [.observe now { txOneWayUs := some 1 },
    .observe 0 { txOneWayUs := some 1, source := "data-traffic-one-way", confidence := "good" }]

theorem provenance_fresh_of_probe : ∃ row, (latencyAfter (probedAt 30000000)).row = some row ∧ row.Trusted ∧
    DataWithin (probedAt 30000000) row.updatedAt := by
  refine ⟨_, rfl, ⟨rfl, rfl⟩, provenance_fresh _ ?_ _ rfl ⟨rfl, rfl⟩⟩
  rintro now sample before suffix _ ⟨row, held, -⟩
  rcases List.suffix_cons_iff.mp suffix with same | rest
  · cases same
    exact ⟨_, .tail _ (.head _), 0, ⟨_, rfl, ⟨by simp, by decide⟩, rfl⟩, by decide, by decide⟩
  · obtain rfl : before = [] := by simpa using rest.length_le
    cases held

/-- A probe after 31 s keeps the label, though no sample of real data is left in the window. -/
theorem probe_keeps_stale_label : ∃ row, (latencyAfter (probedAt 31000000)).row = some row ∧ row.Trusted ∧
    ¬DataWithin (probedAt 31000000) row.updatedAt := by
  refine ⟨_, rfl, ⟨rfl, rfl⟩, ?_⟩
  rintro ⟨event, member, time, ⟨sample, rfl, -, data⟩, -, within⟩
  rcases List.mem_pair.mp member with same | same <;> cases same
  · exact absurd data (by decide)
  · exact absurd within (by decide)

end Provenance

section Direction

def directionalLatencyFromClockOffset (originUs receiveUs transmitUs destinationUs offsetUs : Int) : Int × Int :=
  (receiveUs - (originUs + offsetUs), destinationUs - (transmitUs - offsetUs))

/-- What a clock exchange tells the tracker. -/
def clockObservation (originUs receiveUs transmitUs destinationUs offsetUs : Int) (confidence : String)
    (rttUs clockErrorUs : Option Int) : LatencyObservation :=
  let (tx, rx) := directionalLatencyFromClockOffset originUs receiveUs transmitUs destinationUs offsetUs
  { txOneWayUs := some tx, rxOneWayUs := some rx, confidence, rttUs, clockErrorUs }

def sharedClockUs (localUs : Int) (localClockOffsetUs : Option Int) : Int := localUs + localClockOffsetUs.getD 0

/-- What `_promote_match` tells the tracker: the packet was sent by the peer at `peerTxUs` and received here at
`localRxUs`, both on the shared clock. -/
def matchObservation (localRxUs peerTxUs : Int) (localClockOffsetUs : Option Int) (localClockIsAuthoritative : Bool)
    (rttUs clockErrorUs : Option Int) : LatencyObservation where
  txOneWayUs := some (localRxUs - peerTxUs)
  source := "data-traffic-one-way"
  confidence := if localClockOffsetUs.isSome || localClockIsAuthoritative then "good" else "warming"
  rttUs
  clockErrorUs

def PathLatency.txCurrentUs (path : PathLatency) : Option Int := path.row.bind fun row => row.tx.map (·.currentUs)
def PathLatency.rxCurrentUs (path : PathLatency) : Option Int := path.row.bind fun row => row.rx.map (·.currentUs)

variable {sample : LatencyObservation}

theorem PathLatency.accepted_tx (path : PathLatency) (now : Int) {tx : Int} (accepted : sample.Accepted)
    (measured : sample.txOneWayUs = some tx) :
    (path.observeDirectional now sample).txCurrentUs = some tx := by
  simp [observeDirectional, accepted.2, measured, txCurrentUs, observeDirection]

theorem PathLatency.accepted_rx (path : PathLatency) (now : Int) {rx : Int} (accepted : sample.Accepted)
    (measured : sample.rxOneWayUs = some rx) :
    (path.observeDirectional now sample).rxCurrentUs = some rx := by
  simp [observeDirectional, accepted.2, measured, rxCurrentUs, observeDirection]

theorem PathLatency.rx_unmeasured (path : PathLatency) (now : Int) (accepted : sample.Accepted)
    (unmeasured : sample.rxOneWayUs = none) :
    (path.observeDirectional now sample).rxCurrentUs = path.rxCurrentUs := by
  simp only [observeDirectional, if_neg accepted.1, accepted.2, rxCurrentUs]
  rw [unmeasured]
  cases path.row <;> rfl

/-- With the true offset, an accepted clock exchange reports both delays of the path in their directions. A matched
packet of the peer reports the delay towards this node as the one towards the peer, which is right only if both are
equal, and leaves the delay towards this node as it was. -/
theorem latency_direction_iff (path : PathLatency) (now outUs inUs offsetUs originUs transmitUs : Int)
    (localClockOffsetUs rttUs clockErrorUs : Option Int) (confidence : String) (authoritative : Bool)
    {observedUs peerTxUs : Int} (arrived : sharedClockUs observedUs localClockOffsetUs = peerTxUs + inUs) :
    let exchanged := clockObservation originUs (originUs + offsetUs + outUs) transmitUs (transmitUs - offsetUs + inUs)
      offsetUs confidence rttUs clockErrorUs
    let matched := matchObservation (sharedClockUs observedUs localClockOffsetUs) peerTxUs localClockOffsetUs
      authoritative rttUs clockErrorUs
    (exchanged.Accepted → (path.observeDirectional now exchanged).txCurrentUs = some outUs ∧
      (path.observeDirectional now exchanged).rxCurrentUs = some inUs) ∧
    (matched.Accepted → ((path.observeDirectional now matched).txCurrentUs = some outUs ↔ inUs = outUs) ∧
      (path.observeDirectional now matched).rxCurrentUs = path.rxCurrentUs) := by
  refine ⟨fun accepted => ⟨?_, ?_⟩, fun accepted => ⟨?_, path.rx_unmeasured now accepted rfl⟩⟩
  · refine path.accepted_tx now accepted (congrArg some ?_)
    exact add_sub_cancel_left _ _
  · refine path.accepted_rx now accepted (congrArg some ?_)
    exact add_sub_cancel_left _ _
  · have measured : sharedClockUs observedUs localClockOffsetUs - peerTxUs = inUs := by rw [arrived]; omega
    rw [path.accepted_tx now accepted (congrArg some measured), Option.some.injEq]

theorem latency_direction_iff_equal :
    (({} : PathLatency).observeDirectional 0 (matchObservation (sharedClockUs 7000 (some 0)) 5000 (some 0) false none
      none)).txCurrentUs = some 2000 ↔ (2000 : Int) = 2000 :=
  ((latency_direction_iff {} 0 2000 2000 0 0 0 (some 0) none none "good" false (by decide)).2
    ⟨by simp [matchObservation], by decide⟩).1

/-- 1 ms to the peer and 3 ms from it: the matched packet reports 3 ms to the peer. -/
theorem match_reports_wrong_direction :
    sharedClockUs 8000 (some 0) = 5000 + 3000 ∧
    (({} : PathLatency).observeDirectional 0 (matchObservation (sharedClockUs 8000 (some 0)) 5000 (some 0) false none
      none)).txCurrentUs = some 3000 := by
  decide

end Direction

end Gatherlink.Paths
