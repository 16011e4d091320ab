/-
The network characteristics that the client is told.

A result carries the last accepted bandwidth, the minimum and the average of the
round trips.  Whether any bandwidth has been accepted is tested by a comparison
of an unsigned number with zero, so the first response already sends a result: the
last one counts as sent at time zero of the clock.
-/

import KRdp.NetworkDetection.Statistics

namespace KRdp

namespace NetworkDetection

open MachineInt

/-- The least round trip of the window. -/
def shortestRoundTrip (d : Private) : Int := ((roundTrips d).min?).getD 0

/-- The result tells what was measured. -/
structure TellsMeasured (minimum average : Time) (accepted : Option UInt32)
    (result : NetworkCharacteristicsResult) : Prop where
  bandwidth : accepted = some result.bandwidth ∧ 0 < result.bandwidth
  baseRtt : (result.baseRTT.toNat : Int) = minimum.tdiv millisecond
  averageRtt : (result.averageRTT.toNat : Int) = average.tdiv millisecond
  ordered : result.baseRTT ≤ result.averageRTT

/-- Every result that the call sends tells what was measured; `minimum` is what is
taken as the current minimum. -/
def SendsMeasured (minimum : Private → Time) (observed : Observed)
    (call : Callback UInt16) : Prop :=
  ∀ sequence result,
    .networkCharacteristicsResult sequence result ∈
        newOutputs observed.detection (callback observed call).detection →
      TellsMeasured (minimum (callback observed call).detection)
        (callback observed call).detection.averageRtt (callback observed call).accepted result

/-! ### Conditions on the inputs -/

/-- Before a positive bandwidth has been accepted, a response with a positive round
trip that finds a measurement in the window comes within the first interval of the
clock. -/
def EarlyBeforeBandwidth (observed : Observed) : Callback UInt16 → Prop
  | .rttMeasureResponse sequence received now =>
      ∀ sentAt, observed.detection.rttRequests.lookup sequence.toUInt32 = some sentAt →
        0 < received - sentAt → observed.accepted = none →
          (now - received ≤ rttAverageInterval ∨
            ∃ measurement ∈ observed.detection.rttMeasurements,
              now - measurement.measurementTime ≤ rttAverageInterval) →
          now < networkResultInterval
  | .update _ _ => True
  | .bandwidthMeasureResults _ _ => True
  | .startBandwidthMeasure => True
  | .stopBandwidthMeasure => True

/-- A response with a positive round trip, or a positive bandwidth that is waited
for, comes an interval after the last result, with these measurements in the window. -/
def Due (d : Private) : Callback UInt16 → List RttMeasurement → Prop
  | .rttMeasureResponse sequence received now, measurements =>
      ∃ sentAt, d.rttRequests.lookup sequence.toUInt32 = some sentAt ∧ 0 < received - sentAt ∧
        networkResultInterval ≤ now - d.lastNetworkResult ∧
        recentMeasurements now (d.rttMeasurements ++
          [{ measurementTime := received, roundTripTime := received - sentAt }]) = measurements
  | .bandwidthMeasureResults netCharBandwidth now, measurements =>
      d.state = .pendingResults ∧ 0 < netCharBandwidth ∧
        networkResultInterval ≤ now - d.lastNetworkResult ∧
        (∃ number, number ≠ 0 ∧ number ∉ d.rttRequests) ∧
        recentMeasurements now d.rttMeasurements = measurements
  | .update _ _, _ => False
  | .startBandwidthMeasure, _ => False
  | .stopBandwidthMeasure, _ => False

/-- The round trips add up to less than 2^32 milliseconds for each of them. -/
def AverageFits (observed : Observed) (call : Callback UInt16) : Prop :=
  ∀ measurements, Due observed.detection call measurements → measurements ≠ [] →
    (measurements.map RttMeasurement.roundTripTime).sum <
      2 ^ 32 * millisecond * measurements.length

/-- One of the round trips is below a millisecond. -/
def SomeShort (observed : Observed) (call : Callback UInt16) : Prop :=
  ∀ measurements, Due observed.detection call measurements → measurements ≠ [] →
    ∃ measurement ∈ measurements, measurement.roundTripTime < millisecond

/-! ### Values of a result -/

theorem minimumOf_eq_zero {measurements : List RttMeasurement}
    (positive : ∀ measurement ∈ measurements, 0 < measurement.roundTripTime) :
    minimumOf measurements = 0 := by
  unfold minimumOf maximumDuration
  induction measurements with
  | nil => rfl
  | cons measurement rest ih =>
      have first := positive measurement List.mem_cons_self
      rw [List.foldl_cons, min_eq_left first.le]
      exact ih fun other member => positive other (List.mem_cons_of_mem measurement member)

theorem averageOf_lt_iff {measurements : List RttMeasurement} (nonempty : measurements ≠ [])
    (bound : Int) :
    averageOf measurements < bound ↔
      (measurements.map RttMeasurement.roundTripTime).sum < bound * measurements.length := by
  have some : (0 : Int) < measurements.length :=
    Int.natCast_pos.mpr (List.length_pos_iff.mpr nonempty)
  exact Int.ediv_lt_iff_lt_mul some

theorem averageOf_nonneg {measurements : List RttMeasurement}
    (positive : ∀ measurement ∈ measurements, 0 < measurement.roundTripTime) :
    0 ≤ averageOf measurements := by
  apply Int.ediv_nonneg
  · apply List.sum_nonneg
    intro value member
    obtain ⟨measurement, listed, rfl⟩ := List.mem_map.mp member
    exact (positive measurement listed).le
  · exact Int.natCast_nonneg _

theorem tdiv_millisecond_lt_iff {duration : Time} (nonneg : 0 ≤ duration) (bound : Int) :
    duration.tdiv millisecond < bound ↔ duration < bound * millisecond := by
  rw [Int.tdiv_eq_ediv_of_nonneg nonneg]
  exact Int.ediv_lt_iff_lt_mul (by decide)

theorem toMilliseconds_eq_iff {duration : Time} (nonneg : 0 ≤ duration) :
    ((toMilliseconds duration).toNat : Int) = duration.tdiv millisecond ↔
      duration < 2 ^ 32 * millisecond := by
  have whole : 0 ≤ duration.tdiv millisecond := Int.tdiv_nonneg nonneg (by decide)
  rw [← tdiv_millisecond_lt_iff nonneg, toMilliseconds, toNat_ofInt]
  constructor
  · intro same
    omega
  · intro small
    exact Int.emod_eq_of_lt whole small

theorem shortestRoundTrip_spec {d : Private} (nonempty : d.rttMeasurements ≠ []) :
    shortestRoundTrip d ∈ roundTrips d ∧
      ∀ roundTrip ∈ roundTrips d, shortestRoundTrip d ≤ roundTrip := by
  have some : roundTrips d ≠ [] := by simpa [roundTrips] using nonempty
  obtain ⟨least, isLeast⟩ := Option.ne_none_iff_exists'.mp (mt List.min?_eq_none_iff.mp some)
  rw [shortestRoundTrip, isLeast, Option.getD_some]
  exact List.min?_eq_some_iff.mp isLeast

/-- The least round trip is below a bound if and only if some round trip is. -/
theorem shortestRoundTrip_lt_iff {d : Private} (nonempty : d.rttMeasurements ≠ [])
    (bound : Int) :
    shortestRoundTrip d < bound ↔
      ∃ measurement ∈ d.rttMeasurements, measurement.roundTripTime < bound := by
  obtain ⟨member, least⟩ := shortestRoundTrip_spec nonempty
  constructor
  · intro short
    obtain ⟨measurement, listed, same⟩ := List.mem_map.mp member
    exact ⟨measurement, listed, same.trans_lt short⟩
  · rintro ⟨measurement, listed, short⟩
    exact (least _ (List.mem_map_of_mem listed)).trans_lt short

/-! ### One call -/

/-- The call comes to send a result over these measurements. -/
def SendsOver (observed : Observed) (call : Callback UInt16) (measurements : List RttMeasurement) :
    Prop :=
  ∃ ready now, averaging observed.detection call = some (ready, now) ∧ ReportDue now ready ∧
    recentMeasurements now ready.rttMeasurements = measurements ∧ measurements ≠ []

/-- The bandwidth is the one that was accepted last, and all round trips are
positive. -/
structure Accepting (observed : Observed) : Prop where
  bandwidth : observed.detection.lastBandwithMeasurement = observed.accepted.getD 0
  nonzero : ∀ bandwidth, observed.accepted = some bandwidth → 0 < bandwidth
  positive : ∀ measurement ∈ observed.detection.rttMeasurements, 0 < measurement.roundTripTime

section Call

variable {observed : Observed} {call : Callback UInt16} {ready : Private} {now : Time}

theorem Accepting.averaged (accepting : Accepting observed)
    (averages : Averages observed.detection call ready now) :
    ready.lastBandwithMeasurement = (acceptedAfter observed call).getD 0 ∧
      (∀ bandwidth, acceptedAfter observed call = some bandwidth → 0 < bandwidth) ∧
      ∀ measurement ∈ recentMeasurements now ready.rttMeasurements,
        0 < measurement.roundTripTime := by
  refine ⟨?_, ?_, ?_⟩
  · cases averages with
    | response lookup positive => exact accepting.bandwidth
    | results pending positive => simp [acceptedAfter, pending, positive]
  · cases averages with
    | response lookup positive => exact accepting.nonzero
    | results pending positive =>
        intro bandwidth accepted
        simp only [acceptedAfter, pending, bne_self_eq_false, positive, decide_false,
          Bool.or_self, Bool.false_eq_true, if_false, Option.some.injEq] at accepted
        rw [← accepted]
        exact UInt32.not_le.mp positive
  · intro measurement member
    have kept := (mem_recentMeasurements.mp member).1
    rw [averages.ready_eq.1] at kept
    rcases List.mem_append.mp kept with earlier | new
    · exact accepting.positive measurement earlier
    · exact newMeasurements_positive measurement new

theorem acceptedAfter_of_idle (none : averaging observed.detection call = none) :
    acceptedAfter observed call = observed.accepted := by
  cases call with
  | bandwidthMeasureResults netCharBandwidth later =>
      rw [acceptedAfter]
      split
      · rfl
      · rename_i due
        rw [averaging, if_neg due] at none
        cases none
  | update _ _ => rfl
  | rttMeasureResponse _ _ _ => rfl
  | startBandwidthMeasure => rfl
  | stopBandwidthMeasure => rfl

theorem afterAverage_bandwidth (now : Time) (d : Private) :
    (afterAverage now d).lastBandwithMeasurement = d.lastBandwithMeasurement := by
  by_cases empty : recentMeasurements now d.rttMeasurements = []
  · rw [afterAverage_of_empty empty]
  · obtain ⟨_, averaged, _⟩ := afterAverage_spec empty
    exact averaged.bandwidth

theorem Accepting.step (accepting : Accepting observed) (call : Callback UInt16) :
    Accepting (callback observed call) := by
  rcases idle_or_averages observed.detection call with
    ⟨none, _, emitted, idle⟩ | ⟨ready, now, averages⟩
  · have accepted := acceptedAfter_of_idle none
    refine ⟨?_, ?_, ?_⟩
    · exact idle.bandwidth.trans (accepting.bandwidth.trans (by rw [callback, accepted]))
    · rw [callback, accepted]
      exact accepting.nonzero
    · rw [callback, idle.rttMeasurements]
      exact accepting.positive
  · obtain ⟨bandwidth, nonzero, positive⟩ := accepting.averaged averages
    refine ⟨?_, nonzero, ?_⟩
    · rw [callback_detection averages, afterAverage_bandwidth]
      exact bandwidth
    · rw [callback_detection averages, afterAverage_rttMeasurements]
      exact positive

/-- The results that a call sends. -/
theorem mem_newOutputs_iff {result : NetworkCharacteristicsResult} :
    (∃ sequence, .networkCharacteristicsResult sequence result ∈
        newOutputs observed.detection (callback observed call).detection) ↔
      ∃ ready now, averaging observed.detection call = some (ready, now) ∧
        recentMeasurements now ready.rttMeasurements ≠ [] ∧ ReportDue now ready ∧
          result = resultOf now ready := by
  rcases idle_or_averages observed.detection call with
    ⟨none, _, emitted, idle⟩ | ⟨ready, now, averages⟩
  · rw [callback, newOutputs_append idle.outputs, none]
    constructor
    · rintro ⟨sequence, member⟩
      exact absurd rfl ((idle.silent _ member).2 sequence result)
    · rintro ⟨ready, now, impossible, _⟩
      cases impossible
  · rw [callback, averages.averaging]
    constructor
    · rintro ⟨sequence, member⟩
      by_cases empty : recentMeasurements now ready.rttMeasurements = []
      · rw [averages.newOutputs_of_empty empty] at member
        cases member
      · obtain ⟨reported, _, outputs, due, results⟩ := averages.newOutputs_spec empty
        rw [outputs] at member
        rcases List.mem_cons.mp member with changed | sent
        · cases changed
        · obtain ⟨_, same⟩ := results _ sent
          refine ⟨ready, now, rfl, empty, due.mp (List.ne_nil_of_mem sent), ?_⟩
          exact (Output.networkCharacteristicsResult.inj same).2
    · rintro ⟨_, _, same, nonempty, due, rfl⟩
      cases same
      obtain ⟨reported, _, outputs, dueIff, results⟩ := averages.newOutputs_spec nonempty
      obtain ⟨output, sent⟩ := List.exists_mem_of_ne_nil reported (dueIff.mpr due)
      obtain ⟨sequence, rfl⟩ := results output sent
      rw [outputs]
      exact ⟨sequence, List.mem_cons_of_mem _ sent⟩

theorem Accepting.tellsMeasured_iff (accepting : Accepting observed)
    (taken : averaging observed.detection call = some (ready, now))
    (nonempty : recentMeasurements now ready.rttMeasurements ≠ []) (minimum : Private → Time) :
    TellsMeasured (minimum (callback observed call).detection)
        (callback observed call).detection.averageRtt (callback observed call).accepted
        (resultOf now ready) ↔
      ((acceptedAfter observed call).isSome = true ∧
          averageOf (recentMeasurements now ready.rttMeasurements) < 2 ^ 32 * millisecond) ∧
        (minimum (callback observed call).detection).tdiv millisecond = 0 := by
  have averages := averages_of_averaging taken
  obtain ⟨bandwidth, nonzero, positive⟩ := accepting.averaged averages
  obtain ⟨_, _, averaged⟩ := averages.of_measured nonempty
  have base : (resultOf now ready).baseRTT = 0 := by
    have zero : toMilliseconds 0 = 0 := by decide
    rw [← zero, ← minimumOf_eq_zero positive]
    rfl
  have average := toMilliseconds_eq_iff (averageOf_nonneg positive)
  constructor
  · intro tells
    refine ⟨⟨?_, ?_⟩, ?_⟩
    · exact Option.isSome_iff_exists.mpr ⟨_, tells.bandwidth.1⟩
    · have told := tells.averageRtt
      rw [averaged.averageRtt] at told
      exact average.mp told
    · rw [← tells.baseRtt, base]
      rfl
  · rintro ⟨⟨accepted, fits⟩, zero⟩
    obtain ⟨value, accepted⟩ := Option.isSome_iff_exists.mp accepted
    have valueEq : (resultOf now ready).bandwidth = value := by
      rw [resultOf, bandwidth, accepted, Option.getD_some]
    refine ⟨⟨?_, ?_⟩, ?_, ?_, ?_⟩
    · rw [valueEq]
      exact accepted
    · rw [valueEq]
      exact nonzero value accepted
    · rw [base, zero]
      rfl
    · rw [averaged.averageRtt]
      exact average.mpr fits
    · rw [base]
      exact UInt32.zero_le

/-- A call is as it should be exactly when a bandwidth was accepted, the average
fits, and the minimum is below a millisecond. -/
theorem Accepting.sendsMeasured_iff (accepting : Accepting observed) (minimum : Private → Time) :
    SendsMeasured minimum observed call ↔
      ∀ measurements, SendsOver observed call measurements →
        ((acceptedAfter observed call).isSome = true ∧
            averageOf measurements < 2 ^ 32 * millisecond) ∧
          (minimum (callback observed call).detection).tdiv millisecond = 0 := by
  constructor
  · intro measured measurements sends
    obtain ⟨ready, now, taken, due, rfl, nonempty⟩ := sends
    obtain ⟨sequence, sent⟩ := mem_newOutputs_iff.mpr ⟨ready, now, taken, nonempty, due, rfl⟩
    exact (accepting.tellsMeasured_iff taken nonempty minimum).mp (measured sequence _ sent)
  · intro conditions sequence result sent
    obtain ⟨ready, now, taken, nonempty, due, rfl⟩ := mem_newOutputs_iff.mp ⟨sequence, sent⟩
    exact (accepting.tellsMeasured_iff taken nonempty minimum).mpr
      (conditions _ ⟨ready, now, taken, due, rfl, nonempty⟩)

/-- Until a bandwidth has been accepted no result has been sent. -/
structure Unreported (observed : Observed) : Prop where
  accepting : Accepting observed
  nonzero : 0 ∉ observed.detection.rttRequests
  first : observed.accepted = none → observed.detection.lastNetworkResult = 0

theorem reportDue_iff (now : Time) (d : Private) :
    ReportDue now d ↔
      networkResultInterval ≤ now - d.lastNetworkResult ∧
        ∃ number, number ≠ 0 ∧ number ∉ d.rttRequests := by
  rw [ReportDue, nextSequenceNumber_isSome_iff]
  simp only [isFree_iff]
  rfl

/-- The request of a response is taken out before, so its number is left. -/
theorem sendsOver_iff (absent : 0 ∉ observed.detection.rttRequests)
    (measurements : List RttMeasurement) :
    SendsOver observed call measurements ↔
      Due observed.detection call measurements ∧ measurements ≠ [] := by
  constructor
  · rintro ⟨ready, now, taken, due, window, nonempty⟩
    refine ⟨?_, nonempty⟩
    obtain ⟨interval, left⟩ := (reportDue_iff now ready).mp due
    cases averages_of_averaging taken with
    | response lookup positive => exact ⟨_, lookup, not_le.mp positive, interval, window⟩
    | results pending positive => exact ⟨pending, UInt32.not_le.mp positive, interval, left, window⟩
  · rintro ⟨due, nonempty⟩
    cases call with
    | rttMeasureResponse sequence received now =>
        obtain ⟨sentAt, lookup, positive, interval, window⟩ := due
        have key : sequence.toUInt32 ≠ 0 := by
          intro zero
          rw [zero] at lookup
          exact absent (AList.lookup_isSome.mp (by rw [lookup]; rfl))
        refine ⟨_, now, (Averages.response lookup (not_le.mpr positive)).averaging, ?_, window,
          nonempty⟩
        exact (reportDue_iff _ _).mpr
          ⟨interval, sequence.toUInt32, key, fun present => (AList.mem_erase.mp present).1 rfl⟩
    | bandwidthMeasureResults netCharBandwidth now =>
        obtain ⟨pending, positive, interval, left, window⟩ := due
        exact ⟨_, now, (Averages.results pending (UInt32.not_le.mpr positive)).averaging,
          (reportDue_iff _ _).mpr ⟨interval, left⟩, window, nonempty⟩
    | update _ _ => cases due
    | startBandwidthMeasure => cases due
    | stopBandwidthMeasure => cases due

/-- A response finds something in the window. -/
theorem recent_response_ne_nil_iff {received sentAt : Time} (d : Private) :
    recentMeasurements now (d.rttMeasurements ++
        [{ measurementTime := received, roundTripTime := received - sentAt }]) ≠ [] ↔
      now - received ≤ rttAverageInterval ∨
        ∃ measurement ∈ d.rttMeasurements,
          now - measurement.measurementTime ≤ rttAverageInterval := by
  constructor
  · intro nonempty
    obtain ⟨measurement, member⟩ := List.exists_mem_of_ne_nil _ nonempty
    obtain ⟨kept, young⟩ := mem_recentMeasurements.mp member
    rcases List.mem_append.mp kept with earlier | new
    · exact .inr ⟨measurement, earlier, young⟩
    · rw [List.mem_singleton.mp new] at young
      exact .inl young
  · rintro (young | ⟨measurement, earlier, young⟩)
    · exact List.ne_nil_of_mem (mem_recentMeasurements.mpr
        ⟨List.mem_append_right _ (List.mem_singleton_self _), young⟩)
    · exact List.ne_nil_of_mem
        (mem_recentMeasurements.mpr ⟨List.mem_append_left _ earlier, young⟩)

/-- A result without a bandwidth is one over a window that is found too late. -/
theorem Unreported.accepted_iff (unreported : Unreported observed) :
    (∀ measurements, SendsOver observed call measurements →
        (acceptedAfter observed call).isSome = true) ↔
      EarlyBeforeBandwidth observed call := by
  simp only [sendsOver_iff unreported.nonzero]
  cases call with
  | rttMeasureResponse sequence received now =>
      constructor
      · intro accepted sentAt lookup positive none found
        by_contra late
        have interval : networkResultInterval ≤ now - observed.detection.lastNetworkResult := by
          rw [unreported.first none, sub_zero]
          exact not_lt.mp late
        have some := accepted _ ⟨⟨sentAt, lookup, positive, interval, rfl⟩,
          (recent_response_ne_nil_iff observed.detection).mpr found⟩
        rw [acceptedAfter, none] at some
        cases some
      · rintro early measurements ⟨⟨sentAt, lookup, positive, interval, rfl⟩, nonempty⟩
        cases none : observed.accepted with
        | some value => rw [acceptedAfter, none, Option.isSome_some]
        | none =>
            have soon := early sentAt lookup positive none
              ((recent_response_ne_nil_iff observed.detection).mp nonempty)
            rw [unreported.first none, sub_zero] at interval
            exact absurd soon (not_lt.mpr interval)
  | bandwidthMeasureResults netCharBandwidth now =>
      refine iff_of_true ?_ trivial
      rintro measurements ⟨⟨pending, positive, _⟩, _⟩
      simp [acceptedAfter, pending, UInt32.not_le.mpr positive]
  | update _ _ => exact iff_of_true (fun _ due => due.1.elim) trivial
  | startBandwidthMeasure => exact iff_of_true (fun _ due => due.1.elim) trivial
  | stopBandwidthMeasure => exact iff_of_true (fun _ due => due.1.elim) trivial

theorem Averages.nonzero (averages : Averages observed.detection call ready now)
    (absent : 0 ∉ observed.detection.rttRequests) : 0 ∉ ready.rttRequests := by
  cases averages with
  | response lookup positive => exact fun present => absent (AList.mem_erase.mp present).2
  | results pending positive => exact absent

/-- Within the first interval the averages are taken without a result. -/
theorem afterAverage_lastNetworkResult {d : Private}
    (quiet : recentMeasurements now d.rttMeasurements ≠ [] →
      now - d.lastNetworkResult < networkResultInterval) :
    (afterAverage now d).lastNetworkResult = d.lastNetworkResult := by
  by_cases empty : recentMeasurements now d.rttMeasurements = []
  · rw [afterAverage_of_empty empty]
  · rw [afterAverage, updateAverageRtt_of_measured empty, if_pos (quiet empty)]
    rfl

theorem Unreported.step (unreported : Unreported observed)
    (early : EarlyBeforeBandwidth observed call) : Unreported (callback observed call) := by
  refine ⟨unreported.accepting.step call, ?_, ?_⟩
  · rcases idle_or_averages observed.detection call with ⟨_, _, _, idle⟩ | ⟨ready, now, averages⟩
    · exact idle.nonzero unreported.nonzero
    · rw [callback_detection averages, (afterAverage_counts now ready).1]
      exact averages.nonzero unreported.nonzero
  · intro none
    change acceptedAfter observed call = Option.none at none
    rcases idle_or_averages observed.detection call with
      ⟨notTaken, _, _, idle⟩ | ⟨ready, now, averages⟩
    · rw [acceptedAfter_of_idle notTaken] at none
      exact idle.lastNetworkResult.trans (unreported.first none)
    · rw [callback_detection averages]
      cases averages with
      | results pending positive =>
          simp [acceptedAfter, pending, positive] at none
      | response lookup positive =>
          have first := unreported.first none
          rw [afterAverage_lastNetworkResult]
          · exact first
          · intro found
            have same : now - observed.detection.lastNetworkResult = now := by
              rw [first, sub_zero]
            exact same.trans_lt (early _ lookup (not_le.mp positive) none
              ((recent_response_ne_nil_iff observed.detection).mp found))

theorem Unreported.averageFits_iff (unreported : Unreported observed) :
    (∀ measurements, SendsOver observed call measurements →
        averageOf measurements < 2 ^ 32 * millisecond) ↔
      AverageFits observed call := by
  simp only [sendsOver_iff unreported.nonzero, and_imp, AverageFits]
  apply forall₃_congr
  intro measurements _ nonempty
  exact averageOf_lt_iff nonempty _

theorem Unreported.sendsMeasured_minimumRtt (unreported : Unreported observed) :
    SendsMeasured Private.minimumRtt observed call ↔
      EarlyBeforeBandwidth observed call ∧ AverageFits observed call := by
  rw [unreported.accepting.sendsMeasured_iff, ← unreported.accepted_iff,
    ← unreported.averageFits_iff, ← forall₂_and]
  apply forall₂_congr
  rintro measurements ⟨ready, now, taken, _, rfl, nonempty⟩
  have averages := averages_of_averaging taken
  obtain ⟨_, _, averaged⟩ := averages.of_measured nonempty
  apply and_iff_left
  rw [averaged.minimumRtt, minimumOf_eq_zero (unreported.accepting.averaged averages).2.2]
  rfl

theorem Unreported.sendsMeasured_shortest (unreported : Unreported observed) :
    SendsMeasured shortestRoundTrip observed call ↔
      EarlyBeforeBandwidth observed call ∧ AverageFits observed call ∧ SomeShort observed call := by
  have short : SomeShort observed call ↔ ∀ measurements, SendsOver observed call measurements →
      ∃ measurement ∈ measurements, measurement.roundTripTime < millisecond := by
    simp only [sendsOver_iff unreported.nonzero, and_imp, SomeShort]
  rw [unreported.accepting.sendsMeasured_iff, ← unreported.accepted_iff,
    ← unreported.averageFits_iff, short, ← and_assoc, ← forall₂_and, ← forall₂_and]
  apply forall₂_congr
  rintro measurements ⟨ready, now, taken, _, rfl, nonempty⟩
  have averages := averages_of_averaging taken
  obtain ⟨_, _, averaged⟩ := averages.of_measured nonempty
  have kept := averaged.rttMeasurements
  have some : (callback observed call).detection.rttMeasurements ≠ [] := by rwa [kept]
  apply and_congr_right
  intro _
  rw [← kept, ← shortestRoundTrip_lt_iff some]
  have nonneg : 0 ≤ shortestRoundTrip (callback observed call).detection := by
    obtain ⟨measurement, listed, same⟩ := List.mem_map.mp (shortestRoundTrip_spec some).1
    rw [← same]
    exact ((unreported.accepting.step call).positive measurement listed).le
  have whole := Int.tdiv_nonneg nonneg (by decide : (0 : Int) ≤ millisecond)
  have below := tdiv_millisecond_lt_iff nonneg 1
  rw [one_mul] at below
  rw [← below]
  omega

end Call

/-- Results only tell what was measured exactly when responses that come before an
accepted bandwidth come within the first second of the clock, and the average fits
when a result is due.  If the least round trip is taken for the current minimum, in
place of the value that the detection answers with, one of the round trips has to be
below a millisecond as well. -/
theorem characteristics_measured_iff (calls : List (Callback UInt16)) :
    (StepRun.Along callback (SendsMeasured Private.minimumRtt) {} calls ↔
        StepRun.Along callback
          (fun observed call => EarlyBeforeBandwidth observed call ∧ AverageFits observed call)
          {} calls) ∧
      (StepRun.Along callback (SendsMeasured shortestRoundTrip) {} calls ↔
        StepRun.Along callback
          (fun observed call => EarlyBeforeBandwidth observed call ∧ AverageFits observed call ∧
            SomeShort observed call)
          {} calls) := by
  have unguarded : StepRun.Along callback (fun _ _ => True) {} calls :=
    StepRun.along_of_forall (fun _ _ => trivial) _ calls
  have initial : Unreported {} := ⟨⟨rfl, by simp, by simp⟩, AList.notMem_empty _, fun _ => rfl⟩
  constructor
  · apply StepRun.along_iff_along Unreported initial unguarded
    · intro observed call unreported _ met
      exact unreported.step met.1
    · intro observed call unreported _
      exact unreported.sendsMeasured_minimumRtt
  · apply StepRun.along_iff_along Unreported initial unguarded
    · intro observed call unreported _ met
      exact unreported.step met.1
    · intro observed call unreported _
      exact unreported.sendsMeasured_shortest

/-- The first response is followed by a result without any bandwidth. -/
theorem characteristics_measured_fails :
    let calls : List (Callback UInt16) :=
      [.update .streaming (1000 * millisecond),
        .rttMeasureResponse 1 (1005 * millisecond) (1005 * millisecond)]
    .networkCharacteristicsResult 2 { baseRTT := 0, averageRTT := 5, bandwidth := 0 } ∈
        (StepRun.run callback {} calls).detection.outputs ∧
      ∀ minimum, ¬∀ calls, StepRun.Along callback (SendsMeasured minimum) {} calls := by
  intro calls
  have sent : .networkCharacteristicsResult 2 { baseRTT := 0, averageRTT := 5, bandwidth := 0 } ∈
      newOutputs (StepRun.run callback {} (calls.take 1)).detection
        (StepRun.run callback {} calls).detection := by
    decide +kernel
  refine ⟨List.mem_of_mem_drop sent, ?_⟩
  intro minimum measured
  have tells := (measured calls).2.1 2 _ sent
  exact absurd tells.bandwidth.2 (by decide)

end NetworkDetection

end KRdp
