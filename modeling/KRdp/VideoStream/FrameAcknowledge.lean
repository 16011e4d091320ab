/-
The range of the requested frame rate.

The client acknowledges frames with the number of frames it has decoded, which
may be any number.  The stream takes the difference to the frames it has encoded
as the delay, and the delay goes into the estimates of the frame rate.  Whatever
the client sends, no divisor is zero and the rate stays between 1 and 60.
-/

import KRdp.VideoStream.FrameRate

namespace KRdp

namespace VideoStream

open NetworkDetection (Time millisecond)

/-- The stream with its frame rate. -/
structure Pipeline where
  stream : Private
  control : FrameRateControl := {}
  deriving DecidableEq, Repr

/-- The queue depth is only logged. -/
structure FrameAcknowledgePdu where
  queueDepth : UInt32
  frameId : UInt32
  totalFramesDecoded : UInt32
  deriving DecidableEq, Repr

inductive PipelineAction where
  | sendFrame (frame : VideoFrame)
  | onFrameAcknowledge (pdu : FrameAcknowledgePdu)
  | updateRequestedFrameRate (averageRtt now : Time)
  deriving DecidableEq, Repr

def forgetPendingFrame (frameId : UInt32) (d : Private) : Private :=
  { d with pendingFrames := d.pendingFrames.erase frameId }

/-- The difference is taken between unsigned numbers and stored as a signed one. -/
def frameDelayOf (encodedFrames : Int32) (totalFramesDecoded : UInt32) : Int32 :=
  (encodedFrames.toUInt32 - totalFramesDecoded).toInt32

def onFrameAcknowledge (pdu : FrameAcknowledgePdu) (pipeline : Pipeline) :
    UInt32 × Pipeline :=
  if pdu.frameId ∈ pipeline.stream.pendingFrames then
    (channelRcOk,
      { stream := forgetPendingFrame pdu.frameId pipeline.stream
        control := noteFrameDelay
          (frameDelayOf pipeline.stream.encodedFrames pdu.totalFramesDecoded)
          pipeline.control })
  else (channelRcOk, pipeline)

/-- How long the submission thread sleeps without a frame, in milliseconds. -/
def submissionSleep (control : FrameRateControl) : Option Int :=
  if control.requestedFrameRate = 0 then none
  else some (Int.tdiv 1000 control.requestedFrameRate.toInt)

def pipelineStep (channel : Channel) (pipeline : Pipeline) : PipelineAction → Pipeline
  | .sendFrame frame =>
      { pipeline with stream := VideoStream.sendFrame channel frame pipeline.stream }
  | .onFrameAcknowledge pdu => (VideoStream.onFrameAcknowledge pdu pipeline).2
  | .updateRequestedFrameRate averageRtt now =>
      { pipeline with
        control := VideoStream.updateRequestedFrameRate averageRtt now pipeline.control }

/-! ### The range -/

structure InRange (control : FrameRateControl) : Prop where
  maximum : control.maximumFrameRate = 120
  estimates : ∀ estimate ∈ control.frameRateEstimates, EstimateFits estimate.estimate
  requested : 1 ≤ control.requestedFrameRate.toInt ∧ control.requestedFrameRate.toInt ≤ 60

/-- The two divisors of a call; the first is computed in 64 bits. -/
structure DividesSafely (averageRtt now : Time) (control : FrameRateControl) : Prop where
  divisor : estimateDivisor averageRtt control.frameDelay ≠ 0
  fits : averageRtt < 2 ^ 32 * millisecond →
    estimateDivisor averageRtt control.frameDelay < 2 ^ 63
  size : Recomputes now control →
    (purgeEstimates now (appendEstimate averageRtt now control)).frameRateEstimates.length ≠ 0

theorem InRange.initial : InRange {} := ⟨rfl, by simp, by decide⟩

variable {control : FrameRateControl}

theorem purge_nonempty (averageRtt now : Time) (control : FrameRateControl) :
    (purgeEstimates now (appendEstimate averageRtt now control)).frameRateEstimates ≠ [] := by
  apply List.ne_nil_of_mem
  apply List.mem_filter.mpr
  refine ⟨List.mem_append_right _ (List.mem_singleton_self _), ?_⟩
  rw [sub_self]
  decide

theorem dividesSafely (averageRtt now : Time) (control : FrameRateControl) :
    DividesSafely averageRtt now control := by
  refine ⟨ne_of_gt (estimateDivisor_pos averageRtt control.frameDelay), ?_, ?_⟩
  · intro short
    exact estimateDivisor_lt short control.frameDelay
  · intro _
    exact List.length_pos_iff.mpr (purge_nonempty averageRtt now control) |>.ne'

/-- The wrapped sum is at most the sum, and the mean of the estimates at most 120. -/
theorem averageEstimate_le {estimates : List FrameRateEstimate}
    (fit : ∀ estimate ∈ estimates, EstimateFits estimate.estimate) (nonempty : estimates ≠ []) :
    averageEstimate estimates ≤ 120 := by
  have positive : (0 : Int) < estimates.length := SampleWindow.length_pos nonempty
  have mean : (estimateValues estimates).sum / estimates.length ≤ 120 := by
    have bound : SampleWindow.mean (estimateValues estimates) ≤ 120 := by
      apply SampleWindow.mean_le (by simpa [estimateValues] using nonempty)
      intro value member
      obtain ⟨estimate, listed, rfl⟩ := List.mem_map.mp member
      exact (fit estimate listed).2
    rwa [SampleWindow.mean, estimateValues, List.length_map] at bound
  have below : (sumEstimates estimates).toInt ≤ (estimateValues estimates).sum := by
    have nonneg := estimateValues_nonneg fit
    rcases sumEstimates_cases nonneg with ⟨same, _⟩ | ⟨less, _⟩
    · exact same.le
    · omega
  rw [averageEstimate]
  rcases le_total 0 (sumEstimates estimates).toInt with high | low
  · rw [Int.tdiv_eq_ediv_of_nonneg high]
    exact (Int.ediv_le_ediv positive below).trans mean
  · exact (tdiv_nonpos low positive.le).trans (by norm_num)

theorem InRange.append (inRange : InRange control) (averageRtt now : Time) :
    InRange (appendEstimate averageRtt now control) := by
  refine ⟨inRange.maximum, ?_, inRange.requested⟩
  intro estimate member
  rcases List.mem_append.mp member with earlier | new
  · exact inRange.estimates estimate earlier
  · rw [List.mem_singleton.mp new]
    exact frameRateEstimate_fits averageRtt inRange.maximum

theorem InRange.purge (inRange : InRange control) (now : Time) :
    InRange (purgeEstimates now control) := by
  refine ⟨inRange.maximum, ?_, inRange.requested⟩
  intro estimate member
  exact inRange.estimates estimate (List.mem_of_mem_filter member)

theorem InRange.request {average : Int} (inRange : InRange control) (small : average ≤ 120) :
    InRange (requestFrameRate (targetFrameRate average) control) := by
  have requested := requestFrameRate_requested (by omega : average < 2 ^ 31) control
  refine ⟨?_, ?_, by omega⟩
  · rw [requestFrameRate_maximum]
    exact inRange.maximum
  · rw [requestFrameRate_estimates]
    exact inRange.estimates

theorem updateRequestedFrameRate_eq (averageRtt now : Time) (control : FrameRateControl) :
    updateRequestedFrameRate averageRtt now control =
      rateCall control { averageRtt, frameDelay := control.frameDelay, now } := rfl

theorem InRange.update (inRange : InRange control) (averageRtt now : Time) :
    InRange (updateRequestedFrameRate averageRtt now control) := by
  rw [updateRequestedFrameRate_eq]
  by_cases recomputes : Recomputes now control
  · have purged := (inRange.append averageRtt now).purge now
    rw [rateCall_of_recomputes recomputes]
    exact purged.request
      (averageEstimate_le purged.estimates (purge_nonempty averageRtt now control))
  · rw [rateCall_of_early recomputes]
    exact inRange.append averageRtt now

theorem InRange.step {pipeline : Pipeline} (inRange : InRange pipeline.control)
    (channel : Channel) (action : PipelineAction) :
    InRange (pipelineStep channel pipeline action).control := by
  cases action with
  | sendFrame frame => exact inRange
  | onFrameAcknowledge pdu =>
      rw [pipelineStep, onFrameAcknowledge]
      split
      · exact ⟨inRange.maximum, inRange.estimates, inRange.requested⟩
      · exact inRange
  | updateRequestedFrameRate averageRtt now => exact inRange.update averageRtt now

theorem InRange.sleep (inRange : InRange control) : (submissionSleep control).isSome = true := by
  have nonzero : control.requestedFrameRate ≠ 0 := by
    intro zero
    have positive := inRange.requested.1
    rw [zero] at positive
    exact absurd positive (by decide)
  rw [submissionSleep, if_neg nonzero]
  rfl

/-- In every run the estimates lie between 0 and 120 and the requested rate between
1 and 60, the submission thread knows how long to sleep, and every call divides by
numbers that are not zero. -/
theorem frameRate_inRange (channel : Channel) (stream : Private)
    (actions : List PipelineAction) :
    StepRun.Always (pipelineStep channel)
        (fun pipeline => InRange pipeline.control ∧
          (submissionSleep pipeline.control).isSome = true) { stream } actions ∧
      StepRun.Along (pipelineStep channel)
        (fun pipeline action => ∀ averageRtt now,
          action = .updateRequestedFrameRate averageRtt now →
            DividesSafely averageRtt now pipeline.control) { stream } actions := by
  constructor
  · apply StepRun.always_of_invariant fun pipeline => InRange pipeline.control
    · exact InRange.initial
    · intro pipeline action inRange
      exact inRange.step channel action
    · intro pipeline inRange
      exact ⟨inRange, inRange.sleep⟩
  · apply StepRun.along_of_forall
    intro pipeline action averageRtt now _
    exact dividesSafely averageRtt now pipeline.control

end VideoStream

end KRdp
