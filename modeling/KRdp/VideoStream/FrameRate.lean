/-
The frame rate that the stream asks for.

Each time the round trip is measured the stream records the frame rate that it
and the delay of the client allow.  Once in a period the estimates are averaged,
and half of the average, at least 1, is the new requested rate.  The product of
round trip and delay is an unbounded integer here; below 2^32 ms it fits 64 bits.
The sum of the estimates wraps.
-/

import KRdp.Library.MachineInt
import KRdp.Library.Run
import KRdp.Library.SampleWindow
import KRdp.NetworkDetection.Detection
import KRdp.VideoStream.Stream
import Mathlib.Data.Rat.Floor
import Mathlib.Tactic.Linarith

namespace KRdp

namespace VideoStream

open MachineInt
open NetworkDetection (Time millisecond)

def frameRateEstimateAveragePeriod : Time := 1000 * millisecond

structure FrameRateEstimate where
  timeStamp : Time
  estimate : Int32
  deriving DecidableEq, Repr

/-- The part of the private data that the frame rate depends on; `changes` logs
what `requestedFrameRateChanged` reports. -/
structure FrameRateControl where
  maximumFrameRate : Int32 := 120
  requestedFrameRate : Int32 := 60
  frameRateEstimates : List FrameRateEstimate := []
  lastFrameRateEstimation : Time := 0
  frameDelay : Int32 := 0
  changes : List Int32 := []
  deriving DecidableEq, Repr

/-! ### The estimates -/

def estimateDivisor (averageRtt : Time) (frameDelay : Int32) : Int :=
  max (averageRtt.tdiv millisecond) 1 * (max frameDelay 1).toInt

def frameRateEstimate (averageRtt : Time) (control : FrameRateControl) : Int32 :=
  min (Int32.ofInt (Int.tdiv 1000 (estimateDivisor averageRtt control.frameDelay)))
    control.maximumFrameRate

def appendEstimate (averageRtt now : Time) (control : FrameRateControl) : FrameRateControl :=
  { control with
    frameRateEstimates := control.frameRateEstimates ++
      [{ timeStamp := now, estimate := frameRateEstimate averageRtt control }] }

/-- The age is the clock reading of the estimate less the current one. -/
def keptEstimates (now : Time) (estimates : List FrameRateEstimate) : List FrameRateEstimate :=
  estimates.filter fun estimate =>
    !(estimate.timeStamp - now > frameRateEstimateAveragePeriod)

def sumEstimates (estimates : List FrameRateEstimate) : Int32 :=
  estimates.foldl (fun acc estimate => acc + estimate.estimate) 0

def averageEstimate (estimates : List FrameRateEstimate) : Int :=
  (sumEstimates estimates).toInt.tdiv estimates.length

/-! ### The requested rate -/

def targetFrameRateSaturation : Rat := 1 / 2

def targetFrameRate (average : Int) : Rat := max 1 (average * targetFrameRateSaturation)

/-- The conversion to an integer drops the fraction. -/
def truncate (frameRate : Rat) : Int := frameRate.num.tdiv frameRate.den

def requestFrameRate (frameRate : Rat) (control : FrameRateControl) : FrameRateControl :=
  if frameRate ≠ control.requestedFrameRate.toInt then
    { control with
      requestedFrameRate := Int32.ofInt (truncate frameRate)
      changes := control.changes ++ [Int32.ofInt (truncate frameRate)] }
  else control

def purgeEstimates (now : Time) (control : FrameRateControl) : FrameRateControl :=
  { control with
    lastFrameRateEstimation := now
    frameRateEstimates := keptEstimates now control.frameRateEstimates }

/-- What follows when a period has passed since the last time. -/
def recomputeFrameRate (now : Time) (control : FrameRateControl) : FrameRateControl :=
  let purged := purgeEstimates now control
  requestFrameRate (targetFrameRate (averageEstimate purged.frameRateEstimates)) purged

/-- A call at this time does not return early. -/
def Recomputes (now : Time) (control : FrameRateControl) : Prop :=
  frameRateEstimateAveragePeriod ≤ now - control.lastFrameRateEstimation

instance (now : Time) (control : FrameRateControl) : Decidable (Recomputes now control) :=
  inferInstanceAs (Decidable (_ ≤ _))

def updateRequestedFrameRate (averageRtt now : Time) (control : FrameRateControl) :
    FrameRateControl :=
  let appended := appendEstimate averageRtt now control
  if now - appended.lastFrameRateEstimation < frameRateEstimateAveragePeriod then appended
  else recomputeFrameRate now appended

/-! ### Halving the average -/

theorem targetFrameRate_eq (average : Int) :
    targetFrameRate average = ((max 2 average : Int) : Rat) / 2 := by
  unfold targetFrameRate targetFrameRateSaturation
  rcases le_total 2 average with high | low
  · have highRat : (2 : Rat) ≤ average := by exact_mod_cast high
    rw [max_eq_right high, max_eq_right (by linarith)]
    ring
  · have lowRat : (average : Rat) ≤ 2 := by exact_mod_cast low
    rw [max_eq_left low, max_eq_left (by linarith)]
    norm_num

theorem truncate_targetFrameRate (average : Int) :
    truncate (targetFrameRate average) = max 2 average / 2 := by
  have floor := Rat.floor_intCast_div_natCast (max 2 average) 2
  have nonneg : 0 ≤ (targetFrameRate average).num := by
    rw [Rat.num_nonneg]
    exact le_trans zero_le_one (le_max_left 1 _)
  rw [truncate, Int.tdiv_eq_ediv_of_nonneg nonneg, ← Rat.floor_def', targetFrameRate_eq]
  exact_mod_cast floor

/-- The target is an integer only where the average is even or at most 2. -/
theorem targetFrameRate_eq_iff (average rate : Int) :
    targetFrameRate average = rate ↔ max 2 average = 2 * rate := by
  rw [targetFrameRate_eq, div_eq_iff (by norm_num)]
  constructor
  · intro same
    have sameInt : max 2 average = rate * 2 := by exact_mod_cast same
    omega
  · intro same
    rw [same, Int.cast_mul, mul_comm]
    rfl

/-! ### The wrapped sum -/

def estimateValues (estimates : List FrameRateEstimate) : List Int :=
  estimates.map fun estimate => estimate.estimate.toInt

private theorem foldl_toInt (estimates : List FrameRateEstimate) (start : Int32) :
    (estimates.foldl (fun acc estimate => acc + estimate.estimate) start).toInt =
      (start.toInt + (estimateValues estimates).sum).bmod (2 ^ 32) := by
  induction estimates generalizing start with
  | nil =>
      rw [estimateValues, List.foldl_nil, List.map_nil, List.sum_nil, Int.add_zero]
      exact (bmod_eq_of_fits (fitsInt32_toInt start)).symm
  | cons estimate rest ih =>
      rw [List.foldl_cons, ih, Int32.toInt_add, Int.bmod_add_bmod]
      simp only [estimateValues, List.map_cons, List.sum_cons, Int.add_assoc]

theorem sumEstimates_toInt (estimates : List FrameRateEstimate) :
    (sumEstimates estimates).toInt = (estimateValues estimates).sum.bmod (2 ^ 32) := by
  rw [sumEstimates, foldl_toInt, Int32.toInt_zero, Int.zero_add]

/-- Wrapping a sum that is not negative can only make it smaller. -/
theorem sumEstimates_cases {estimates : List FrameRateEstimate}
    (nonneg : 0 ≤ (estimateValues estimates).sum) :
    (sumEstimates estimates).toInt = (estimateValues estimates).sum ∧
        (estimateValues estimates).sum < 2 ^ 31 ∨
      (sumEstimates estimates).toInt + 2 ^ 32 ≤ (estimateValues estimates).sum ∧
        2 ^ 31 ≤ (estimateValues estimates).sum := by
  have bounds := (sumEstimates estimates).toInt_lt
  rw [sumEstimates_toInt] at bounds ⊢
  generalize (estimateValues estimates).sum = sum at *
  rw [Int.bmod_def] at bounds ⊢
  split at bounds <;> omega

theorem tdiv_nonpos {sum count : Int} (low : sum ≤ 0) (nonneg : 0 ≤ count) :
    sum.tdiv count ≤ 0 := by
  have opposite := Int.tdiv_nonneg (neg_nonneg.mpr low) nonneg
  rw [Int.neg_tdiv] at opposite
  exact neg_nonneg.mp opposite

/-- The average of the wrapped sum leads to the same rate as the mean unless the
sum wraps and the mean is more than 3. -/
theorem half_wrapped_eq_iff {sum wrapped count : Int} (positive : 0 < count) (nonneg : 0 ≤ sum)
    (cases : wrapped = sum ∧ sum < 2 ^ 31 ∨ wrapped + 2 ^ 32 ≤ sum ∧ 2 ^ 31 ≤ sum)
    (small : wrapped < 2 ^ 31) :
    max 2 (wrapped.tdiv count) / 2 = max 2 (sum / count) / 2 ↔
      sum < 2 ^ 31 ∨ sum / count ≤ 3 := by
  rcases cases with ⟨rfl, inside⟩ | ⟨less, outside⟩
  · rw [Int.tdiv_eq_ediv_of_nonneg nonneg]
    exact iff_of_true rfl (.inl inside)
  · have average : wrapped.tdiv count ≤ max 0 (wrapped / count) := by
      rcases le_total 0 wrapped with high | low
      · rw [Int.tdiv_eq_ediv_of_nonneg high]
        exact le_max_right 0 _
      · exact le_max_of_le_left (tdiv_nonpos low positive.le)
    have order : wrapped / count ≤ sum / count := Int.ediv_le_ediv positive (by omega)
    constructor
    · intro same
      right
      by_contra large
      have below := Int.ediv_mul_le wrapped (ne_of_gt positive)
      have many : 4 * count ≤ wrapped :=
        le_trans (mul_le_mul_of_nonneg_right (by omega) positive.le) below
      have gap : sum < wrapped + 2 * count :=
        calc
          sum < (sum / count + 1) * count := Int.lt_ediv_add_one_mul_self sum positive
          _ ≤ (wrapped / count + 2) * count :=
            mul_le_mul_of_nonneg_right (by omega) positive.le
          _ = wrapped / count * count + 2 * count := add_mul _ _ _
          _ ≤ wrapped + 2 * count := by omega
      omega
    · intro conditions
      omega

/-! ### Range of an estimate -/

theorem toInt_max_one (frameDelay : Int32) :
    (max frameDelay 1).toInt = max frameDelay.toInt 1 := by
  rw [toInt_max]
  rfl

theorem estimateDivisor_pos (averageRtt : Time) (frameDelay : Int32) :
    0 < estimateDivisor averageRtt frameDelay := by
  rw [estimateDivisor, toInt_max_one]
  exact Int.mul_pos (by omega) (by omega)

/-- Round trips below 2^32 ms leave the divisor within 64 bits. -/
theorem estimateDivisor_lt {averageRtt : Time} (short : averageRtt < 2 ^ 32 * millisecond)
    (frameDelay : Int32) : estimateDivisor averageRtt frameDelay < 2 ^ 63 := by
  have delay : max frameDelay.toInt 1 ≤ 2 ^ 31 - 1 := by
    have := frameDelay.toInt_lt
    omega
  have milliseconds : averageRtt.tdiv millisecond < 2 ^ 32 := by
    rcases le_total 0 averageRtt with high | low
    · rw [Int.tdiv_eq_ediv_of_nonneg high]
      exact Int.ediv_lt_of_lt_mul (by decide) short
    · exact (tdiv_nonpos low (by decide)).trans_lt (by norm_num)
  have atMost : max (averageRtt.tdiv millisecond) 1 ≤ 2 ^ 32 - 1 := by omega
  rw [estimateDivisor, toInt_max_one]
  calc
    max (averageRtt.tdiv millisecond) 1 * max frameDelay.toInt 1
        ≤ (2 ^ 32 - 1) * (2 ^ 31 - 1) := Int.mul_le_mul atMost delay (by omega) (by omega)
    _ < 2 ^ 63 := by norm_num

def EstimateFits (estimate : Int32) : Prop := 0 ≤ estimate.toInt ∧ estimate.toInt ≤ 120

theorem frameRateEstimate_toInt (averageRtt : Time) (control : FrameRateControl) :
    (frameRateEstimate averageRtt control).toInt =
      min (1000 / estimateDivisor averageRtt control.frameDelay)
        control.maximumFrameRate.toInt := by
  have positive := estimateDivisor_pos averageRtt control.frameDelay
  have nonneg : 0 ≤ 1000 / estimateDivisor averageRtt control.frameDelay :=
    Int.ediv_nonneg (by norm_num) positive.le
  have bounded : 1000 / estimateDivisor averageRtt control.frameDelay ≤ 1000 :=
    Int.ediv_le_self _ (by norm_num)
  rw [frameRateEstimate, Int.tdiv_eq_ediv_of_nonneg (by norm_num), toInt_min,
    Int32.toInt_ofInt_of_le (by omega) (by omega)]

theorem frameRateEstimate_fits (averageRtt : Time) {control : FrameRateControl}
    (maximum : control.maximumFrameRate = 120) :
    EstimateFits (frameRateEstimate averageRtt control) := by
  have nonneg : 0 ≤ 1000 / estimateDivisor averageRtt control.frameDelay :=
    Int.ediv_nonneg (by norm_num) (estimateDivisor_pos averageRtt control.frameDelay).le
  have most : control.maximumFrameRate.toInt = 120 := by
    rw [maximum]
    rfl
  rw [EstimateFits, frameRateEstimate_toInt, most]
  omega

/-! ### One call -/

theorem averageEstimate_lt (estimates : List FrameRateEstimate) :
    averageEstimate estimates < 2 ^ 31 := by
  have bound := (sumEstimates estimates).toInt_lt
  rw [averageEstimate]
  rcases le_total 0 (sumEstimates estimates).toInt with high | low
  · rw [Int.tdiv_eq_ediv_of_nonneg high]
    exact (Int.ediv_le_self _ high).trans_lt bound
  · have negative := tdiv_nonpos low (Int.natCast_nonneg estimates.length)
    omega

theorem toInt_truncate {average : Int} (small : average < 2 ^ 31) :
    (Int32.ofInt (truncate (targetFrameRate average))).toInt = max 2 average / 2 := by
  rw [truncate_targetFrameRate]
  exact Int32.toInt_ofInt_of_le (by omega) (by omega)

/-- The rate after a request is half of the average, whether it was reported or not. -/
theorem requestFrameRate_requested {average : Int} (small : average < 2 ^ 31)
    (control : FrameRateControl) :
    (requestFrameRate (targetFrameRate average) control).requestedFrameRate.toInt =
      max 2 average / 2 := by
  by_cases same : targetFrameRate average = control.requestedFrameRate.toInt
  · rw [requestFrameRate, if_neg (not_not_intro same)]
    rw [targetFrameRate_eq_iff] at same
    omega
  · rw [requestFrameRate, if_pos same, toInt_truncate small]

theorem requestFrameRate_changes (frameRate : Rat) (control : FrameRateControl) :
    (requestFrameRate frameRate control).changes ≠ control.changes ↔
      frameRate ≠ control.requestedFrameRate.toInt := by
  unfold requestFrameRate
  split
  · rename_i different
    simp [different]
  · rename_i same
    simp [not_not.mp same]

/-- A call, with what it reads. -/
structure RateCall where
  averageRtt : Time
  frameDelay : Int32
  now : Time
  deriving DecidableEq, Repr

def noteFrameDelay (frameDelay : Int32) (control : FrameRateControl) : FrameRateControl :=
  { control with frameDelay := frameDelay }

def RateCall.append (call : RateCall) (control : FrameRateControl) : FrameRateControl :=
  appendEstimate call.averageRtt call.now (noteFrameDelay call.frameDelay control)

def rateCall (control : FrameRateControl) (call : RateCall) : FrameRateControl :=
  updateRequestedFrameRate call.averageRtt call.now (noteFrameDelay call.frameDelay control)

/-- The state that the call leaves when it recomputes, up to the requested rate. -/
def RateCall.purge (call : RateCall) (control : FrameRateControl) : FrameRateControl :=
  purgeEstimates call.now (call.append control)

/-- The average that the call takes if it recomputes. -/
def RateCall.average (call : RateCall) (control : FrameRateControl) : Int :=
  averageEstimate (call.purge control).frameRateEstimates

variable {control : FrameRateControl} {call : RateCall}

theorem rateCall_of_early (early : ¬Recomputes call.now control) :
    rateCall control call = call.append control :=
  if_pos (not_le.mp early)

theorem rateCall_of_recomputes (recomputes : Recomputes call.now control) :
    rateCall control call =
      requestFrameRate (targetFrameRate (call.average control)) (call.purge control) :=
  if_neg (not_lt.mpr recomputes)

/-! ### Reported changes -/

/-- The signal is emitted if and only if the rate becomes another one. -/
def ReportsChange (before after : FrameRateControl) : Prop :=
  after.changes ≠ before.changes ↔ after.requestedFrameRate ≠ before.requestedFrameRate

/-- The rate is already half of an odd average, without the fraction. -/
def HalvesOddAverage (average : Int) (control : FrameRateControl) : Prop :=
  3 ≤ average ∧ average % 2 = 1 ∧ control.requestedFrameRate.toInt = average / 2

instance (average : Int) (control : FrameRateControl) :
    Decidable (HalvesOddAverage average control) :=
  inferInstanceAs (Decidable (_ ∧ _))

/-- The estimate of a call in integers, with the round trip in whole milliseconds. -/
def RateCall.rate (maximum : Int) (call : RateCall) : Int :=
  min (1000 / (max (call.averageRtt / millisecond) 1 * max call.frameDelay.toInt 1)) maximum

theorem max_tdiv_one (averageRtt : Time) :
    max (averageRtt.tdiv millisecond) 1 = max (averageRtt / millisecond) 1 := by
  rcases le_total 0 averageRtt with high | low
  · rw [Int.tdiv_eq_ediv_of_nonneg high]
  · have truncated : averageRtt.tdiv millisecond ≤ 0 := tdiv_nonpos low (by decide)
    have floored : averageRtt / millisecond ≤ 0 :=
      Int.ediv_nonpos_of_nonpos_of_neg low (by decide)
    rw [max_eq_right (truncated.trans zero_le_one), max_eq_right (floored.trans zero_le_one)]

theorem estimate_toInt (call : RateCall) (control : FrameRateControl) :
    (frameRateEstimate call.averageRtt (noteFrameDelay call.frameDelay control)).toInt =
      call.rate control.maximumFrameRate.toInt := by
  rw [frameRateEstimate_toInt, estimateDivisor, toInt_max_one, max_tdiv_one]
  rfl

/-- The mean of integers whose sum wraps at 32 bits. -/
def wrappedMean (values : List Int) : Int := (values.sum.bmod (2 ^ 32)).tdiv values.length

/-- What a call that recomputes takes the mean of: an estimate is kept unless it is a
period ahead of the clock. -/
def RateCall.values (call : RateCall) (control : FrameRateControl) : List Int :=
  estimateValues (control.frameRateEstimates.filter fun estimate =>
    estimate.timeStamp ≤ call.now + frameRateEstimateAveragePeriod) ++
    [call.rate control.maximumFrameRate.toInt]

theorem averageEstimate_eq (estimates : List FrameRateEstimate) :
    averageEstimate estimates = wrappedMean (estimateValues estimates) := by
  rw [averageEstimate, sumEstimates_toInt, wrappedMean, estimateValues, List.length_map]

theorem RateCall.average_eq (call : RateCall) (control : FrameRateControl) :
    call.average control = wrappedMean (call.values control) := by
  have kept (estimates : List FrameRateEstimate) : keptEstimates call.now estimates =
      estimates.filter fun estimate =>
        estimate.timeStamp ≤ call.now + frameRateEstimateAveragePeriod := by
    apply List.filter_congr
    intro estimate _
    simp only [gt_iff_lt, ← decide_not, not_lt, sub_le_iff_le_add']
  have own : call.now ≤ call.now + frameRateEstimateAveragePeriod :=
    Int.le_add_of_nonneg_right (by decide)
  rw [RateCall.average, averageEstimate_eq, RateCall.purge, purgeEstimates, kept, RateCall.append,
    appendEstimate, RateCall.values, ← estimate_toInt, List.filter_append]
  simp only [estimateValues, List.map_append]
  rw [List.filter_singleton]
  simp [own, noteFrameDelay]

theorem requestFrameRate_reports {average : Int} (small : average < 2 ^ 31)
    (control : FrameRateControl) :
    ReportsChange control (requestFrameRate (targetFrameRate average) control) ↔
      ¬HalvesOddAverage average control := by
  rw [ReportsChange, requestFrameRate_changes, ne_eq, ne_eq, targetFrameRate_eq_iff,
    ← Int32.toInt_inj, requestFrameRate_requested small, HalvesOddAverage]
  omega

theorem rateCall_reports (control : FrameRateControl) (call : RateCall) :
    ReportsChange control (rateCall control call) ↔
      (Recomputes call.now control → ¬HalvesOddAverage (call.average control) control) := by
  by_cases recomputes : Recomputes call.now control
  · rw [rateCall_of_recomputes recomputes, imp_iff_right recomputes]
    exact requestFrameRate_reports (averageEstimate_lt _) (call.purge control)
  · rw [rateCall_of_early recomputes]
    exact iff_of_true (iff_of_false (fun other => other rfl) fun other => other rfl)
      fun late => absurd late recomputes

/-- In a run every call reports as it should exactly when no call that recomputes
finds the rate at the truncated half of an odd average.  The average is the mean of the
estimates that are not a period ahead of the clock. -/
theorem rateCalls_report_iff (start : FrameRateControl) (calls : List RateCall) :
    (StepRun.Along rateCall (fun control call => ReportsChange control (rateCall control call))
        start calls ↔
      StepRun.Along rateCall
        (fun control call =>
          Recomputes call.now control → ¬HalvesOddAverage (call.average control) control)
        start calls) ∧
    ∀ control (call : RateCall), call.average control = wrappedMean (call.values control) :=
  ⟨StepRun.along_congr rateCall_reports start calls, fun control call => call.average_eq control⟩

/-- With a round trip of 9 ms the average is 111.  The second call reports the
rate of 55 again. -/
theorem rateCalls_report_fails :
    let second : Time := 1000 * millisecond
    let calls : List RateCall :=
      [{ averageRtt := 9 * millisecond, frameDelay := 0, now := second },
        { averageRtt := 9 * millisecond, frameDelay := 0, now := 2 * second }]
    (StepRun.run rateCall {} calls).changes = [55, 55] ∧
      ¬∀ start calls, StepRun.Along rateCall
        (fun control call => ReportsChange control (rateCall control call)) start calls := by
  intro second calls
  refine ⟨by decide +kernel, ?_⟩
  intro reports
  have reported := (reports {} calls).2.1
  revert reported
  unfold ReportsChange
  decide +kernel

/-! ### Recent conditions -/

/-- The controller beside all estimates that it ever took. -/
structure ObservedRate where
  control : FrameRateControl := {}
  history : List FrameRateEstimate := []
  deriving DecidableEq, Repr

def RateCall.estimate (call : RateCall) (control : FrameRateControl) : FrameRateEstimate :=
  { timeStamp := call.now
    estimate := frameRateEstimate call.averageRtt (noteFrameDelay call.frameDelay control) }

def observedCall (observed : ObservedRate) (call : RateCall) : ObservedRate :=
  { control := rateCall observed.control call
    history := observed.history ++ [call.estimate observed.control] }

def recentEstimates (now : Time) (estimates : List FrameRateEstimate) : List FrameRateEstimate :=
  SampleWindow.recent FrameRateEstimate.timeStamp frameRateEstimateAveragePeriod now estimates

/-- What a recomputation is for: the estimates of the last period are kept, and
the rate is half of their mean. -/
structure FollowsRecent (now : Time) (observed : ObservedRate) : Prop where
  kept : observed.control.frameRateEstimates = recentEstimates now observed.history
  requested : observed.control.requestedFrameRate.toInt =
    truncate (targetFrameRate
      (SampleWindow.mean (estimateValues (recentEstimates now observed.history))))

/-- No estimate is too old, and the sum does not wrap or does not matter. -/
structure NothingExpires (call : RateCall) (control : FrameRateControl) : Prop where
  young : ∀ estimate ∈ control.frameRateEstimates,
    call.now - estimate.timeStamp ≤ frameRateEstimateAveragePeriod
  fits : (estimateValues (call.append control).frameRateEstimates).sum < 2 ^ 31 ∨
    SampleWindow.mean (estimateValues (call.append control).frameRateEstimates) ≤ 3

/-- What holds while the clock does not go back: no estimate has been erased. -/
structure Accumulates (observed : ObservedRate) : Prop where
  maximum : observed.control.maximumFrameRate = 120
  all : observed.control.frameRateEstimates = observed.history
  estimates : ∀ estimate ∈ observed.history, EstimateFits estimate.estimate

/-- The clock reads no earlier than before. -/
def ClockGoesOn (observed : ObservedRate) (call : RateCall) : Prop :=
  ∀ estimate ∈ observed.history, estimate.timeStamp ≤ call.now

theorem requestFrameRate_maximum (frameRate : Rat) (control : FrameRateControl) :
    (requestFrameRate frameRate control).maximumFrameRate = control.maximumFrameRate := by
  unfold requestFrameRate
  split
  · rfl
  · rfl

theorem requestFrameRate_estimates (frameRate : Rat) (control : FrameRateControl) :
    (requestFrameRate frameRate control).frameRateEstimates = control.frameRateEstimates := by
  unfold requestFrameRate
  split
  · rfl
  · rfl

theorem keptEstimates_eq_self {now : Time} {estimates : List FrameRateEstimate}
    (past : ∀ estimate ∈ estimates, estimate.timeStamp ≤ now) :
    keptEstimates now estimates = estimates := by
  apply List.filter_eq_self.mpr
  intro estimate member
  have before : estimate.timeStamp - now ≤ 0 := Int.sub_nonpos_of_le (past estimate member)
  have notLater : ¬estimate.timeStamp - now > frameRateEstimateAveragePeriod :=
    not_lt.mpr (before.trans (by decide))
  rw [decide_eq_false notLater, Bool.not_false]

theorem estimateValues_nonneg {estimates : List FrameRateEstimate}
    (fit : ∀ estimate ∈ estimates, EstimateFits estimate.estimate) :
    0 ≤ (estimateValues estimates).sum := by
  apply List.sum_nonneg
  intro value member
  obtain ⟨estimate, listed, rfl⟩ := List.mem_map.mp member
  exact (fit estimate listed).1

theorem half_estimates_iff {estimates : List FrameRateEstimate}
    (fit : ∀ estimate ∈ estimates, EstimateFits estimate.estimate) (nonempty : estimates ≠ []) :
    max 2 (averageEstimate estimates) / 2 =
        max 2 (SampleWindow.mean (estimateValues estimates)) / 2 ↔
      (estimateValues estimates).sum < 2 ^ 31 ∨
        SampleWindow.mean (estimateValues estimates) ≤ 3 := by
  have nonneg := estimateValues_nonneg fit
  have positive : (0 : Int) < estimates.length := SampleWindow.length_pos nonempty
  rw [averageEstimate, SampleWindow.mean, estimateValues, List.length_map]
  exact half_wrapped_eq_iff positive nonneg (sumEstimates_cases nonneg)
    (sumEstimates estimates).toInt_lt

section Accumulation

variable {observed : ObservedRate}

theorem Accumulates.append_estimates (accumulates : Accumulates observed) (call : RateCall) :
    (call.append observed.control).frameRateEstimates =
      (observedCall observed call).history := by
  rw [observedCall, ← accumulates.all]
  rfl

theorem Accumulates.purge_estimates (accumulates : Accumulates observed)
    (clock : ClockGoesOn observed call) :
    (call.purge observed.control).frameRateEstimates = (observedCall observed call).history := by
  rw [← accumulates.append_estimates call]
  apply keptEstimates_eq_self
  rw [accumulates.append_estimates call]
  intro estimate member
  rcases List.mem_append.mp member with earlier | new
  · exact clock estimate earlier
  · rw [List.mem_singleton.mp new]
    exact le_refl call.now

theorem Accumulates.step (accumulates : Accumulates observed)
    (clock : ClockGoesOn observed call) : Accumulates (observedCall observed call) := by
  have new : EstimateFits (call.estimate observed.control).estimate :=
    frameRateEstimate_fits call.averageRtt accumulates.maximum
  refine ⟨?_, ?_, ?_⟩
  · by_cases recomputes : Recomputes call.now observed.control
    · rw [observedCall, rateCall_of_recomputes recomputes, requestFrameRate_maximum]
      exact accumulates.maximum
    · rw [observedCall, rateCall_of_early recomputes]
      exact accumulates.maximum
  · by_cases recomputes : Recomputes call.now observed.control
    · rw [← accumulates.purge_estimates clock, observedCall, rateCall_of_recomputes recomputes,
        requestFrameRate_estimates]
    · rw [← accumulates.append_estimates call, observedCall, rateCall_of_early recomputes]
  · intro estimate member
    rcases List.mem_append.mp member with earlier | only
    · exact accumulates.estimates estimate earlier
    · rw [List.mem_singleton.mp only]
      exact new

/-- A recomputation follows the recent estimates exactly when none of all it has
is too old and the sum comes out right. -/
theorem Accumulates.follows_iff (accumulates : Accumulates observed)
    (clock : ClockGoesOn observed call) (recomputes : Recomputes call.now observed.control) :
    FollowsRecent call.now (observedCall observed call) ↔
      NothingExpires call observed.control := by
  have all := (accumulates.step clock).all
  have appended := accumulates.append_estimates call
  have requested : (observedCall observed call).control.requestedFrameRate.toInt =
      max 2 (averageEstimate (observedCall observed call).history) / 2 := by
    rw [← accumulates.purge_estimates clock]
    simp only [observedCall, rateCall_of_recomputes recomputes]
    exact requestFrameRate_requested (averageEstimate_lt _) _
  have rate := half_estimates_iff (accumulates.step clock).estimates (by simp [observedCall])
  have young : recentEstimates call.now (observedCall observed call).history =
        (observedCall observed call).history ↔
      ∀ estimate ∈ observed.control.frameRateEstimates,
        call.now - estimate.timeStamp ≤ frameRateEstimateAveragePeriod := by
    rw [recentEstimates, SampleWindow.recent_eq_self_iff, accumulates.all]
    simp only [observedCall, List.forall_mem_append, List.forall_mem_singleton]
    refine and_iff_left ?_
    rw [RateCall.estimate, sub_self]
    decide
  constructor
  · intro follows
    have kept : recentEstimates call.now (observedCall observed call).history =
        (observedCall observed call).history := by
      rw [← follows.kept, all]
    have value := follows.requested
    rw [kept, requested, truncate_targetFrameRate] at value
    refine ⟨young.mp kept, ?_⟩
    rw [appended]
    exact rate.mp value
  · intro nothing
    have kept := young.mpr nothing.young
    have fits := nothing.fits
    rw [appended] at fits
    refine ⟨by rw [kept, all], ?_⟩
    rw [kept, requested, truncate_targetFrameRate]
    exact rate.mpr fits

end Accumulation

theorem clock_along {calls : List RateCall}
    (clock : (calls.map RateCall.now).Pairwise (· ≤ ·)) :
    StepRun.Along observedCall ClockGoesOn {} calls := by
  have along : StepRun.Along observedCall
      (fun observed call => ∀ earlier ∈ observed.history.map FrameRateEstimate.timeStamp,
        earlier ≤ call.now) {} calls := by
    apply StepRun.along_of_pairwise_map RateCall.now
      (fun observed : ObservedRate => observed.history.map FrameRateEstimate.timeStamp) ?_ clock
    · simp
    · intro observed call
      rw [observedCall, List.map_append]
      exact List.Subset.refl _
  refine (StepRun.along_congr ?_ _ _).mp along
  intro observed call
  simp only [ClockGoesOn, List.forall_mem_map]

/-! ### The condition over the calls -/

/-- The last of the clock readings that came a period after the one before it. -/
def lastRecomputation (readings : List Time) : Time :=
  readings.foldl
    (fun last now => if frameRateEstimateAveragePeriod ≤ now - last then now else last) 0

/-- The calls before came within the last period, and the rates of all of them add up
without a wrap that matters. -/
structure WithinPeriod (before : List RateCall) (call : RateCall) : Prop where
  young : ∀ earlier ∈ before, call.now - earlier.now ≤ frameRateEstimateAveragePeriod
  fits : ((before ++ [call]).map (RateCall.rate 120)).sum < 2 ^ 31 ∨
    SampleWindow.mean ((before ++ [call]).map (RateCall.rate 120)) ≤ 3

/-- What the observed state is after these calls. -/
structure Tells (before : List RateCall) (observed : ObservedRate) : Prop where
  accumulates : Accumulates observed
  stamps : observed.history.map FrameRateEstimate.timeStamp = before.map RateCall.now
  values : estimateValues observed.history = before.map (RateCall.rate 120)
  last : observed.control.lastFrameRateEstimation = lastRecomputation (before.map RateCall.now)

section Tells

variable {before : List RateCall} {observed : ObservedRate}

theorem requestFrameRate_last (frameRate : Rat) (control : FrameRateControl) :
    (requestFrameRate frameRate control).lastFrameRateEstimation =
      control.lastFrameRateEstimation := by
  unfold requestFrameRate
  split
  · rfl
  · rfl

theorem Accumulates.estimate_toInt (accumulates : Accumulates observed) (call : RateCall) :
    (call.estimate observed.control).estimate.toInt = call.rate 120 := by
  rw [RateCall.estimate, VideoStream.estimate_toInt, accumulates.maximum]
  rfl

theorem Accumulates.values_append (accumulates : Accumulates observed) (call : RateCall) :
    estimateValues (observedCall observed call).history =
      estimateValues observed.history ++ [call.rate 120] := by
  simp only [observedCall, estimateValues, List.map_append, List.map_singleton,
    accumulates.estimate_toInt]

theorem Tells.step (tells : Tells before observed)
    (past : ∀ earlier ∈ before, earlier.now ≤ call.now) :
    Tells (before ++ [call]) (observedCall observed call) := by
  have clock : ClockGoesOn observed call := by
    have stamps : ∀ stamp ∈ observed.history.map FrameRateEstimate.timeStamp,
        stamp ≤ call.now := by
      rw [tells.stamps]
      exact List.forall_mem_map.mpr past
    intro estimate member
    exact stamps estimate.timeStamp (List.mem_map_of_mem member)
  refine ⟨tells.accumulates.step clock, ?_, ?_, ?_⟩
  · rw [observedCall, List.map_append, List.map_append, tells.stamps]
    rfl
  · rw [tells.accumulates.values_append, List.map_append, tells.values]
    rfl
  · rw [List.map_append, lastRecomputation, List.foldl_append, ← lastRecomputation, ← tells.last]
    by_cases recomputes : Recomputes call.now observed.control
    · have gate : frameRateEstimateAveragePeriod ≤
          call.now - observed.control.lastFrameRateEstimation := recomputes
      rw [observedCall, rateCall_of_recomputes recomputes, requestFrameRate_last]
      simp only [List.map_singleton, List.foldl_cons, List.foldl_nil, if_pos gate]
      rfl
    · have gate : ¬frameRateEstimateAveragePeriod ≤
          call.now - observed.control.lastFrameRateEstimation := recomputes
      rw [observedCall, rateCall_of_early recomputes]
      simp only [List.map_singleton, List.foldl_cons, List.foldl_nil, if_neg gate]
      rfl

theorem tells_run {before : List RateCall}
    (clock : (before.map RateCall.now).Pairwise (· ≤ ·)) :
    Tells before (StepRun.run observedCall {} before) := by
  induction before using List.reverseRecOn with
  | nil => exact ⟨⟨rfl, rfl, by simp⟩, rfl, rfl, rfl⟩
  | append_singleton before call ih =>
      rw [List.map_append, List.pairwise_append] at clock
      rw [StepRun.run_append]
      apply (ih clock.1).step
      intro earlier member
      exact clock.2.2 earlier.now (List.mem_map_of_mem member) call.now (by simp)

theorem Tells.nothingExpires_iff (tells : Tells before observed) :
    NothingExpires call observed.control ↔ WithinPeriod before call := by
  have young : (∀ estimate ∈ observed.control.frameRateEstimates,
        call.now - estimate.timeStamp ≤ frameRateEstimateAveragePeriod) ↔
      ∀ earlier ∈ before, call.now - earlier.now ≤ frameRateEstimateAveragePeriod := by
    rw [tells.accumulates.all]
    have mapped (stamps : List Time) (same : stamps = before.map RateCall.now) :
        (∀ stamp ∈ stamps, call.now - stamp ≤ frameRateEstimateAveragePeriod) ↔
          ∀ earlier ∈ before, call.now - earlier.now ≤ frameRateEstimateAveragePeriod := by
      rw [same, List.forall_mem_map]
    rw [← mapped _ tells.stamps, List.forall_mem_map]
  have values : estimateValues (call.append observed.control).frameRateEstimates =
      (before ++ [call]).map (RateCall.rate 120) := by
    rw [tells.accumulates.append_estimates, tells.accumulates.values_append, tells.values,
      List.map_append]
    rfl
  constructor
  · intro nothing
    refine ⟨young.mp nothing.young, ?_⟩
    rw [← values]
    exact nothing.fits
  · intro within
    refine ⟨young.mpr within.young, ?_⟩
    rw [values]
    exact within.fits

end Tells

/-- While the clock does not go back, every recomputation follows the recent
estimates exactly when none of them finds an estimate that is too old, or a sum
that wraps and matters: when every call that comes a period after the last recomputation
comes within a period of all calls before it. -/
theorem frameRate_follows_iff (calls : List RateCall)
    (clock : (calls.map RateCall.now).Pairwise (· ≤ ·)) :
    (StepRun.Along observedCall
        (fun observed call => Recomputes call.now observed.control →
          FollowsRecent call.now (observedCall observed call)) {} calls ↔
      StepRun.Along observedCall
        (fun observed call => Recomputes call.now observed.control →
          NothingExpires call observed.control) {} calls) ∧
    (StepRun.Along observedCall
        (fun observed call => Recomputes call.now observed.control →
          NothingExpires call observed.control) {} calls ↔
      ∀ before call after, calls = before ++ call :: after →
        frameRateEstimateAveragePeriod ≤
            call.now - lastRecomputation (before.map RateCall.now) →
          WithinPeriod before call) := by
  constructor
  · apply StepRun.along_iff_along Accumulates
    · exact ⟨rfl, rfl, by simp⟩
    · exact clock_along clock
    · intro observed call accumulates goesOn _
      exact accumulates.step goesOn
    · intro observed call accumulates goesOn
      exact imp_congr_right (accumulates.follows_iff goesOn)
  · rw [StepRun.along_iff_forall]
    refine forall_congr' fun before => forall_congr' fun call => forall_congr' fun after => ?_
    refine imp_congr_right ?_
    rintro rfl
    rw [List.map_append, List.pairwise_append] at clock
    have tells := tells_run clock.1
    rw [Recomputes, tells.last, tells.nothingExpires_iff]

theorem frameRate_follows_iff_second :
    let second : Time := 1000 * millisecond
    let calls : List RateCall :=
      [{ averageRtt := 10 * millisecond, frameDelay := 0, now := second },
        { averageRtt := second, frameDelay := 0, now := 2 * second }]
    StepRun.Along observedCall
        (fun observed call => Recomputes call.now observed.control →
          FollowsRecent call.now (observedCall observed call)) {} calls ↔
      StepRun.Along observedCall
        (fun observed call => Recomputes call.now observed.control →
          NothingExpires call observed.control) {} calls := by
  intro second calls
  exact (frameRate_follows_iff calls (by decide)).1

/-- A fast second followed by a slow one: the estimate of 100 is three seconds
old and still counts. -/
theorem frameRate_follows_fails :
    let second : Time := 1000 * millisecond
    let calls : List RateCall :=
      [{ averageRtt := 10 * millisecond, frameDelay := 0, now := second },
        { averageRtt := second, frameDelay := 0, now := 4 * second }]
    (calls.map RateCall.now).Pairwise (· ≤ ·) ∧
      (StepRun.run observedCall {} calls).control.requestedFrameRate = 25 ∧
      ¬∀ calls : List RateCall, (calls.map RateCall.now).Pairwise (· ≤ ·) →
        StepRun.Along observedCall
          (fun observed call => Recomputes call.now observed.control →
            FollowsRecent call.now (observedCall observed call)) {} calls := by
  intro second calls
  have clock : (calls.map RateCall.now).Pairwise (· ≤ ·) := by decide
  refine ⟨clock, by decide +kernel, ?_⟩
  intro follows
  have kept := ((follows calls clock).2.1 (by decide +kernel)).kept
  revert kept
  decide +kernel

end VideoStream

end KRdp
