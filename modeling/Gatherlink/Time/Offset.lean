import Mathlib.Algebra.Order.Ring.Abs
import Mathlib.Data.List.TakeWhile
import Gatherlink.Paths.Latency

/-! The estimate of a peer's clock offset from four-timestamp exchanges. Times are in microseconds. An exchange is a
request with its answer; the map of pending requests is not modelled. -/

namespace Gatherlink.Time

def DEFAULT_CLOCK_SYNC_MEAN_WINDOW_US : Int := 30000000
def CLOCK_SYNC_GOOD_MIN_SAMPLES : Nat := 3
def CLOCK_SYNC_MAX_OFFSET_JUMP_US : Int := 250000
def CLOCK_SYNC_ERROR_FLOOR_US : Int := 1000
def CLOCK_SYNC_MIN_DELAY_MARGIN_US : Int := 2000
def CLOCK_SYNC_MIN_DELAY_MARGIN_NUMERATOR : Int := 5
def CLOCK_SYNC_MIN_DELAY_MARGIN_DENOMINATOR : Int := 4
def CLOCK_SYNC_MIN_WEIGHT_JITTER_US : Int := 1000

structure ClockSyncSample where
  observedAt : Int
  pathName : String
  offsetUs : Int
  rttUs : Int
  deriving DecidableEq

section Estimator

variable (samples : List ClockSyncSample)

def meanAbsoluteOffsetJitterUs (samples : List Int) (medianUs : Int) : Int :=
  Paths.meanAbsoluteJitterUs samples medianUs

/-- `int(median(..))`, which cuts the mean of the two middle values towards zero. -/
def medianUs (values : List Int) : Int :=
  let ordered := values.insertionSort (· ≤ ·)
  let middle := ordered.length / 2
  if ordered.length % 2 = 1 then ordered.getD middle 0
  else (ordered.getD (middle - 1) 0 + ordered.getD middle 0).tdiv 2

def samplesOf (pathName : String) : List ClockSyncSample := samples.filter (·.pathName = pathName)

def minRttUs : Int := (samples.map (·.rttUs)).min?.getD 0

def lowDelaySamples : List ClockSyncSample :=
  let selected := samples.filter fun sample =>
    let base := minRttUs (samplesOf samples sample.pathName)
    sample.rttUs ≤ max (base + CLOCK_SYNC_MIN_DELAY_MARGIN_US)
      (base * CLOCK_SYNC_MIN_DELAY_MARGIN_NUMERATOR / CLOCK_SYNC_MIN_DELAY_MARGIN_DENOMINATOR)
  if selected.isEmpty then samples else selected

def sampleWeight (sample : ClockSyncSample) : Int :=
  let pathOffsets := (samplesOf samples sample.pathName).map (·.offsetUs)
  let pathJitterUs := max CLOCK_SYNC_MIN_WEIGHT_JITTER_US
    (meanAbsoluteOffsetJitterUs pathOffsets (medianUs pathOffsets))
  max 1 (minRttUs samples * 1000000 / max sample.rttUs 1 / pathJitterUs)

/-- The first offset at which the weights so far reach the midpoint. -/
def offsetAtWeight (midpoint : Int) : Int → List (Int × Int) → Option Int
  | _, [] => none
  | cumulative, (offsetUs, weight) :: rest =>
    if midpoint ≤ cumulative + weight then some offsetUs else offsetAtWeight midpoint (cumulative + weight) rest

def weightedMedianOffsetUs : Int :=
  let weighted := (samples.map fun sample => (sample.offsetUs, sampleWeight samples sample)).insertionSort
    fun one two => one.1 < two.1 ∨ one.1 = two.1 ∧ one.2 ≤ two.2
  let midpoint := max 1 ((weighted.map Prod.snd).sum / 2)
  ((offsetAtWeight midpoint 0 weighted).or (weighted.getLast?.map Prod.fst)).getD 0

def pathOffsetSpreadUs : Int :=
  let medians := (samples.map (·.pathName)).dedup.map fun pathName =>
    medianUs ((samplesOf samples pathName).map (·.offsetUs))
  if medians.length < 2 then 0 else medians.max?.getD 0 - medians.min?.getD 0

structure SampleSummary where
  offsetUs : Int
  errorBudgetUs : Int
  deriving DecidableEq

def sampleSummary : SampleSummary :=
  if samples.isEmpty then ⟨0, 0⟩
  else
    let low := lowDelaySamples samples
    let offsetUs := weightedMedianOffsetUs low
    let offsetJitterUs := meanAbsoluteOffsetJitterUs (low.map (·.offsetUs)) offsetUs
    { offsetUs
      errorBudgetUs := max CLOCK_SYNC_ERROR_FLOOR_US
        (max (minRttUs low / 2) (max offsetJitterUs (pathOffsetSpreadUs low / 2))) }

def isOffsetJumpSuspect (offsetUs rttUs now : Int) : Bool :=
  let recent := samples.filter fun sample => now - sample.observedAt ≤ DEFAULT_CLOCK_SYNC_MEAN_WINDOW_US
  if recent.length < CLOCK_SYNC_GOOD_MIN_SAMPLES then false
  else max CLOCK_SYNC_MAX_OFFSET_JUMP_US (max (minRttUs recent * 4) (rttUs * 4)) <
    |offsetUs - medianUs (recent.map (·.offsetUs))|

end Estimator

/-- An answered request: three timestamps of the exchange, the local time of the answer and the time at which it is
folded in. -/
structure ClockExchange where
  pathName : String
  originUs : Int
  receiveUs : Int
  transmitUs : Int
  destinationUs : Int
  now : Int

/-- One response of `observe_control_frame`: the samples that are kept, and the estimate if one is reported. -/
def observeExchange (samples : List ClockSyncSample) (exchange : ClockExchange) :
    List ClockSyncSample × Option SampleSummary :=
  let localElapsedUs := exchange.destinationUs - exchange.originUs
  let peerElapsedUs := exchange.transmitUs - exchange.receiveUs
  let rttUs := localElapsedUs - peerElapsedUs
  if localElapsedUs < 0 ∨ peerElapsedUs < 0 ∨ rttUs < 0 then (samples, none)
  else
    let offsetUs :=
      ((exchange.receiveUs - exchange.originUs) + (exchange.transmitUs - exchange.destinationUs)) / 2
    if isOffsetJumpSuspect samples offsetUs rttUs exchange.now then (samples, none)
    else
      let observed : ClockSyncSample := ⟨exchange.now, exchange.pathName, offsetUs, rttUs⟩
      let kept := (samples ++ [observed]).dropWhile fun sample =>
        DEFAULT_CLOCK_SYNC_MEAN_WINDOW_US < exchange.now - sample.observedAt
      (kept, some (sampleSummary kept))

/-- Every estimate that a history of exchanges reports. -/
def reportedSummaries : List ClockSyncSample → List ClockExchange → List SampleSummary
  | _, [] => []
  | samples, exchange :: rest =>
    let (kept, reported) := observeExchange samples exchange
    reported.toList ++ reportedSummaries kept rest

/-- The delays of one exchange, with the time for which the peer held the request. -/
structure ExchangeDelays where
  pathName : String
  originUs : Int
  forwardUs : Nat
  heldUs : Nat
  returnUs : Nat
  now : Int

/-- The timestamps of an exchange with a peer whose clock is ahead by `trueOffsetUs`. -/
def ExchangeDelays.exchange (trueOffsetUs : Int) (delays : ExchangeDelays) : ClockExchange :=
  let receiveUs := delays.originUs + delays.forwardUs + trueOffsetUs
  { delays with
    receiveUs
    transmitUs := receiveUs + delays.heldUs
    destinationUs := delays.originUs + delays.forwardUs + delays.heldUs + delays.returnUs }

section Soundness

variable {samples : List ClockSyncSample} {trueOffsetUs : Int} {history : List ExchangeDelays}

/-- The weight of the offsets with a property. -/
def weightWhere (holds : Int → Bool) (weighted : List (Int × Int)) : Int :=
  (weighted.map fun entry => if holds entry.1 then entry.2 else 0).sum

variable {weighted : List (Int × Int)}

theorem weightWhere_cons (holds : Int → Bool) (entry : Int × Int) : weightWhere holds (entry :: weighted) =
    (if holds entry.1 then entry.2 else 0) + weightWhere holds weighted := rfl

theorem weightWhere_nothing : weightWhere (fun _ => false) weighted = 0 := by simp [weightWhere]

theorem weightWhere_split (holds : Int → Bool) :
    weightWhere holds weighted + weightWhere (!holds ·) weighted = (weighted.map Prod.snd).sum := by
  induction weighted with
  | nil => rfl
  | cons entry rest ih =>
    rw [weightWhere_cons, weightWhere_cons, List.map_cons, List.sum_cons, ← ih]
    by_cases holding : holds entry.1 = true
    · simp only [holding, if_true, Bool.not_true, Bool.false_eq_true, if_false]
      omega
    · simp only [holding, if_true, Bool.not_false, Bool.false_eq_true, if_false]
      omega

theorem weightWhere_mono {one two : Int → Bool} (weighs : ∀ entry ∈ weighted, 0 ≤ entry.2)
    (implies : ∀ entry ∈ weighted, one entry.1 = true → two entry.1 = true) :
    weightWhere one weighted ≤ weightWhere two weighted := by
  refine List.sum_le_sum fun entry member => ?_
  have positive := weighs entry member
  have holding := implies entry member
  split_ifs <;> first | omega | simp_all

theorem offsetAtWeight_mem {midpoint offsetUs : Int} :
    ∀ {weighted : List (Int × Int)} {cumulative : Int},
      offsetAtWeight midpoint cumulative weighted = some offsetUs → offsetUs ∈ weighted.map Prod.fst
  | (first, weight) :: rest, cumulative, found => by
    rw [offsetAtWeight] at found
    split at found
    · cases found
      exact List.mem_cons_self
    · exact List.mem_cons_of_mem _ (offsetAtWeight_mem found)

/-- The offset at the midpoint: what is not above it reaches the midpoint, and what is below it does not. -/
theorem offsetAtWeight_divides {midpoint cumulative : Int} (sorted : weighted.Pairwise (·.1 ≤ ·.1))
    (weighs : ∀ entry ∈ weighted, 0 ≤ entry.2) (below : cumulative < midpoint)
    (enough : midpoint ≤ cumulative + (weighted.map Prod.snd).sum) :
    ∃ offsetUs, offsetAtWeight midpoint cumulative weighted = some offsetUs ∧
      midpoint ≤ cumulative + weightWhere (· ≤ offsetUs) weighted ∧
      cumulative + weightWhere (· < offsetUs) weighted < midpoint := by
  induction weighted generalizing cumulative with
  | nil =>
    rw [List.map_nil, List.sum_nil] at enough
    omega
  | cons entry rest ih =>
    obtain ⟨least, sorted⟩ := List.pairwise_cons.mp sorted
    obtain ⟨positive, others⟩ := List.forall_mem_cons.mp weighs
    rw [List.map_cons, List.sum_cons] at enough
    simp only [offsetAtWeight, weightWhere_cons]
    split
    · refine ⟨entry.1, rfl, ?_, ?_⟩
      · have more : weightWhere (fun _ => false) rest ≤ weightWhere (· ≤ entry.1) rest := weightWhere_mono others nofun
        rw [weightWhere_nothing] at more
        simp only [Int.le_refl, decide_true, if_true]
        omega
      · have none : weightWhere (· < entry.1) rest ≤ weightWhere (fun _ => false) rest :=
          weightWhere_mono others fun other member => by simpa using least other member
        rw [weightWhere_nothing] at none
        simp only [Int.lt_irrefl, decide_false, Bool.false_eq_true, if_false]
        omega
    · obtain ⟨offsetUs, found, reached, under⟩ := @ih (cumulative + entry.2) sorted others (by omega) (by omega)
      obtain ⟨other, member, rfl⟩ := List.mem_map.mp (offsetAtWeight_mem found)
      refine ⟨other.1, found, ?_, ?_⟩
      · simp only [decide_eq_true (least other member), if_true]
        omega
      · split <;> omega

theorem sampleWeight_pos (sample : ClockSyncSample) : 1 ≤ sampleWeight samples sample := le_max_left ..

/-- Where the offsets outside a range weigh less than the midpoint, the weighted median is inside. -/
theorem weightedMedianOffsetUs_between {low high : Int}
    (outweighed : (samples.map fun sample =>
        if sample.offsetUs < low ∨ high < sample.offsetUs then sampleWeight samples sample else 0).sum <
      max 1 ((samples.map (sampleWeight samples)).sum / 2)) (some : samples ≠ []) :
    low ≤ weightedMedianOffsetUs samples ∧ weightedMedianOffsetUs samples ≤ high := by
  unfold weightedMedianOffsetUs
  extract_lets weighted midpoint
  have perm : weighted.Perm (samples.map fun sample => (sample.offsetUs, sampleWeight samples sample)) :=
    List.perm_insertionSort _ _
  have weighs : ∀ entry ∈ weighted, 1 ≤ entry.2 := by
    intro entry member
    obtain ⟨sample, -, rfl⟩ := List.mem_map.mp (perm.mem_iff.mp member)
    exact sampleWeight_pos sample
  have total : (weighted.map Prod.snd).sum = (samples.map (sampleWeight samples)).sum := by
    rw [(perm.map Prod.snd).sum_eq, List.map_map]
    rfl
  have outside : weightWhere (fun offsetUs => offsetUs < low ∨ high < offsetUs) weighted < midpoint := by
    rw [weightWhere, (perm.map _).sum_eq, List.map_map]
    simpa [midpoint, total, Function.comp_def] using outweighed
  have positive : 1 ≤ (weighted.map Prod.snd).sum := by
    obtain ⟨sample, rest, rfl⟩ := List.exists_cons_of_ne_nil some
    have others : 0 ≤ (rest.map (sampleWeight (sample :: rest))).sum := by
      refine List.sum_nonneg ?_
      simp only [List.forall_mem_map]
      exact fun other _ => Int.le_trans (by decide) (sampleWeight_pos other)
    have first := @sampleWeight_pos (sample :: rest) sample
    rw [total, List.map_cons, List.sum_cons]
    omega
  have sorted : weighted.Pairwise (·.1 ≤ ·.1) := by
    let before : Int × Int → Int × Int → Prop := fun one two => one.1 < two.1 ∨ one.1 = two.1 ∧ one.2 ≤ two.2
    have : IsTrans (Int × Int) before := ⟨fun _ _ _ _ _ => by grind⟩
    have : Std.Total before := ⟨fun _ _ => by grind⟩
    exact (List.pairwise_insertionSort before _).imp fun ordered => by grind
  have nonneg := fun entry member => Int.le_trans (by decide : (0 : Int) ≤ 1) (weighs entry member)
  obtain ⟨offsetUs, found, reached, under⟩ := @offsetAtWeight_divides weighted midpoint 0 sorted nonneg
    (by omega) (by omega)
  have above := @weightWhere_split weighted (· < offsetUs)
  rw [found, Option.some_or, Option.getD_some]
  constructor
  · by_contra small
    have few : weightWhere (· ≤ offsetUs) weighted ≤
        weightWhere (fun offsetUs => offsetUs < low ∨ high < offsetUs) weighted :=
      weightWhere_mono nonneg fun entry _ lower => by
        rw [decide_eq_true_iff] at lower ⊢
        omega
    omega
  · by_contra large
    have few : weightWhere (fun other => !decide (other < offsetUs)) weighted ≤
        weightWhere (fun offsetUs => offsetUs < low ∨ high < offsetUs) weighted :=
      weightWhere_mono nonneg fun entry _ upper => by
        rw [Bool.not_eq_true', decide_eq_false_iff_not] at upper
        rw [decide_eq_true_iff]
        omega
    omega

theorem lowDelaySamples_subset : lowDelaySamples samples ⊆ samples := by
  intro sample low
  simp only [lowDelaySamples] at low
  split at low
  · exact low
  · exact List.mem_of_mem_filter low

theorem lowDelaySamples_ne_nil (some : samples ≠ []) : lowDelaySamples samples ≠ [] := by
  simp only [lowDelaySamples]
  split
  · exact some
  · simp_all

/-- The sample that an exchange gives: off by half of its asymmetry. -/
def ExchangeDelays.sample (trueOffsetUs : Int) (delays : ExchangeDelays) : ClockSyncSample :=
  ⟨delays.now, delays.pathName, trueOffsetUs + ((delays.forwardUs : Int) - delays.returnUs) / 2,
    delays.forwardUs + delays.returnUs⟩

/-- The sample comes from an exchange that is more asymmetric than the fastest round trip of the samples is long and the
error floor allows. -/
def lopsided (samples : List ClockSyncSample) (trueOffsetUs : Int) (history : List ExchangeDelays)
    (sample : ClockSyncSample) : Bool :=
  history.any fun delays => delays.sample trueOffsetUs = sample ∧
    2 * max CLOCK_SYNC_ERROR_FLOOR_US (minRttUs samples / 2) < |(delays.forwardUs : Int) - delays.returnUs|

/-- The lopsided ones among the samples do not reach the midpoint of the weighted median. -/
def Outweighed (trueOffsetUs : Int) (history : List ExchangeDelays) (samples : List ClockSyncSample) : Prop :=
  (samples.map fun sample =>
      if lopsided samples trueOffsetUs history sample then sampleWeight samples sample else 0).sum <
    max 1 ((samples.map (sampleWeight samples)).sum / 2)

theorem weightedMedianOffsetUs_sound (outweighed : Outweighed trueOffsetUs history samples) (some : samples ≠ [])
    (measured : ∀ sample ∈ samples, ∃ delays ∈ history, delays.sample trueOffsetUs = sample) :
    |weightedMedianOffsetUs samples - trueOffsetUs| ≤ max CLOCK_SYNC_ERROR_FLOOR_US (minRttUs samples / 2) := by
  unfold Outweighed lopsided at outweighed
  generalize max CLOCK_SYNC_ERROR_FLOOR_US (minRttUs samples / 2) = reach at outweighed ⊢
  have inside := @weightedMedianOffsetUs_between samples (trueOffsetUs - reach) (trueOffsetUs + reach)
    (lt_of_le_of_lt (List.sum_le_sum fun sample member => ?_) outweighed) some
  · rw [abs_le]
    omega
  have weighs := @sampleWeight_pos samples sample
  by_cases outside : sample.offsetUs < trueOffsetUs - reach ∨ trueOffsetUs + reach < sample.offsetUs
  · obtain ⟨delays, heard, rfl⟩ := measured sample member
    have far : 2 * reach < |(delays.forwardUs : Int) - delays.returnUs| := by
      rw [lt_abs]
      dsimp only [ExchangeDelays.sample] at outside
      omega
    rw [if_pos outside, if_pos (List.any_eq_true.mpr ⟨delays, heard, decide_eq_true ⟨rfl, far⟩⟩)]
  · rw [if_neg outside]
    split <;> omega

theorem sampleSummary_sound (outweighed : Outweighed trueOffsetUs history (lowDelaySamples samples))
    (some : samples ≠ []) (measured : ∀ sample ∈ samples, ∃ delays ∈ history, delays.sample trueOffsetUs = sample) :
    |(sampleSummary samples).offsetUs - trueOffsetUs| ≤ (sampleSummary samples).errorBudgetUs := by
  have sound := weightedMedianOffsetUs_sound outweighed (lowDelaySamples_ne_nil some) fun sample member =>
    measured sample (lowDelaySamples_subset member)
  rw [sampleSummary, if_neg (by simpa using some)]
  exact le_trans sound (max_le_max_left _ (le_max_left ..))

/-- The windows of samples that the reported estimates come from. -/
def reportedWindows : List ClockSyncSample → List ClockExchange → List (List ClockSyncSample)
  | _, [] => []
  | samples, exchange :: rest =>
    let (kept, reported) := observeExchange samples exchange
    (reported.toList.map fun _ => kept) ++ reportedWindows kept rest

theorem observeExchange_measured {delays : ExchangeDelays} (heard : delays ∈ history)
    (measured : ∀ sample ∈ samples, ∃ delays ∈ history, delays.sample trueOffsetUs = sample)
    {kept : List ClockSyncSample} {reported : Option SampleSummary}
    (observed : observeExchange samples (delays.exchange trueOffsetUs) = (kept, reported)) :
    (∀ sample ∈ kept, ∃ delays ∈ history, delays.sample trueOffsetUs = sample) ∧
      ∀ summary ∈ reported, kept ≠ [] ∧ summary = sampleSummary kept := by
  simp only [observeExchange] at observed
  split at observed
  · cases observed
    exact ⟨measured, by simp⟩
  split at observed
  · cases observed
    exact ⟨measured, by simp⟩
  cases observed
  refine ⟨fun sample kept => ?_, ?_⟩
  · rcases List.mem_append.mp (List.dropWhile_suffix _ |>.subset kept) with old | new
    · exact measured sample old
    · rw [List.mem_singleton.mp new]
      refine ⟨delays, heard, ?_⟩
      simp only [ExchangeDelays.sample, ExchangeDelays.exchange, ClockSyncSample.mk.injEq, true_and]
      omega
  · rintro summary ⟨⟩
    refine ⟨fun empty => ?_, rfl⟩
    -- the sample just taken is never out of the window
    have dropped := List.dropWhile_eq_nil_iff.mp empty _ (List.mem_append_right _ List.mem_cons_self)
    simp [DEFAULT_CLOCK_SYNC_MEAN_WINDOW_US] at dropped

/-- Every offset that is reported is within its error budget of the true offset, however the exchanges interleave over
the paths, as long as the lopsided samples of each window are outweighed. -/
theorem reported_offset_within_budget
    (outweighed : ∀ window ∈ reportedWindows [] (history.map (·.exchange trueOffsetUs)),
      Outweighed trueOffsetUs history (lowDelaySamples window)) :
    ∀ summary ∈ reportedSummaries [] (history.map (·.exchange trueOffsetUs)),
      |summary.offsetUs - trueOffsetUs| ≤ summary.errorBudgetUs := by
  suffices run : ∀ {rest : List ExchangeDelays} {samples : List ClockSyncSample}, rest ⊆ history →
      (∀ sample ∈ samples, ∃ delays ∈ history, delays.sample trueOffsetUs = sample) →
      (∀ window ∈ reportedWindows samples (rest.map (·.exchange trueOffsetUs)),
        Outweighed trueOffsetUs history (lowDelaySamples window)) →
      ∀ summary ∈ reportedSummaries samples (rest.map (·.exchange trueOffsetUs)),
        |summary.offsetUs - trueOffsetUs| ≤ summary.errorBudgetUs from run (List.Subset.refl _) (by simp) outweighed
  intro rest
  induction rest with
  | nil => simp [reportedSummaries]
  | cons delays rest ih =>
    intro samples heard measured outweighed summary reported
    obtain ⟨keptMeasured, reportedKept⟩ := observeExchange_measured (heard List.mem_cons_self) measured rfl
    rcases List.mem_append.mp reported with now | later
    · obtain ⟨some, rfl⟩ := reportedKept summary (by simpa using now)
      refine sampleSummary_sound (outweighed _ (List.mem_append_left _ ?_)) some keptMeasured
      exact List.mem_map.mpr ⟨_, now, rfl⟩
    · refine ih (fun _ within => heard (List.mem_cons_of_mem _ within)) keptMeasured
        (fun window member => ?_) summary later
      exact outweighed window (List.mem_append_right _ member)

/-- Two paths: one exchange is held up in a queue on its way back, and two take most of their delay on one way. -/
def mixedDelays : List ExchangeDelays :=
  [⟨"wan", 0, 6000, 10, 6500, 12510⟩, ⟨"lte", 0, 23000, 0, 9000, 32000⟩, ⟨"wan", 1000000, 6100, 0, 60000, 1066100⟩,
    ⟨"lte", 1000000, 24000, 5, 9000, 1033005⟩, ⟨"wan", 2000000, 6400, 0, 6200, 2012600⟩]

theorem mixedDelays_within_budget :
    (reportedSummaries [] (mixedDelays.map (·.exchange 42))).getLast? = some ⟨142, 6250⟩ ∧
      ∀ summary ∈ reportedSummaries [] (mixedDelays.map (·.exchange 42)),
        |summary.offsetUs - 42| ≤ summary.errorBudgetUs := by
  refine ⟨by decide +kernel, reported_offset_within_budget ?_⟩
  unfold Outweighed
  decide +kernel

/-- An exchange that takes all its delay on the way back. -/
def oneSidedDelays (originUs : Int) (returnUs : Nat) : ExchangeDelays :=
  ⟨"wan", originUs, 0, 0, returnUs, originUs + returnUs⟩

/-- The budget is half of the last, fastest round trip, while the offset is that of the slower two. -/
theorem budget_misses_true_offset :
    (reportedSummaries [] ([oneSidedDelays 2000000 12500, oneSidedDelays 4000000 12500,
      oneSidedDelays 6000000 10000].map (·.exchange 0))).getLast? = some ⟨-6250, 5000⟩ := by
  decide

end Soundness
end Gatherlink.Time
