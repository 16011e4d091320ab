/-
The end of the submission thread.

`close` closes the channel, asks the submission thread to stop and waits for it.  The
thread looks at the request between two frames only, and what it has read by then may
be out of date: it still takes a frame that it was about to take.
-/

import KRdp.VideoStream.Conservation

namespace KRdp

namespace VideoStream

inductive Closing where
  | opened
  | channelClosed
  | stopRequested
  /-- The thread has been joined. -/
  | closed
  deriving DecidableEq, Repr

/-- The threads with the loop of one of them.  The last two fields observe how many frames
had been sent when the stop was requested, and the steps of the loop since. -/
structure Shutdown where
  world : World := .start
  closing : Closing := .opened
  /-- The loop has seen that no stop is requested, and is about to take a frame. -/
  checked : Bool := false
  finished : Bool := false
  sentBefore : Nat := 0
  stepsSince : Nat := 0
  deriving DecidableEq, Repr

inductive ShutdownAction where
  | act (action : Action)
  | close
  deriving DecidableEq, Repr

def Shutdown.stopRequested (shutdown : Shutdown) : Bool :=
  shutdown.closing == .stopRequested || shutdown.closing == .closed

def sent (world : World) : Nat := (world.stream.calls.filterMap Call.surfaceCommand).length

/-- The thread checks for a stop, and then takes and sends one frame. -/
def Shutdown.turn (channel : Channel) (shutdown : Shutdown) : Shutdown :=
  match shutdown.world.submission with
  | .idle =>
      if shutdown.checked then
        { shutdown with
          world := submissionStep channel shutdown.world
          checked := false }
      else if shutdown.stopRequested then { shutdown with finished := true }
      else { shutdown with checked := true }
  | _ => { shutdown with world := submissionStep channel shutdown.world }

def Shutdown.loopStep (channel : Channel) (shutdown : Shutdown) : Shutdown :=
  let after := if shutdown.finished then shutdown else shutdown.turn channel
  { after with
    stepsSince := if shutdown.stopRequested then shutdown.stepsSince + 1 else shutdown.stepsSince }

def Shutdown.close (shutdown : Shutdown) : Shutdown :=
  match shutdown.closing with
  | .opened =>
      if shutdown.world.stream.gfxContext then { shutdown with closing := .channelClosed }
      else shutdown
  | .channelClosed =>
      { shutdown with
        closing := .stopRequested
        sentBefore := sent shutdown.world
        stepsSince := 0 }
  | .stopRequested => if shutdown.finished then { shutdown with closing := .closed } else shutdown
  | .closed => shutdown

def Shutdown.step (channel : Channel) (shutdown : Shutdown) : ShutdownAction → Shutdown
  | .act .submissionStep => shutdown.loopStep channel
  | .act action => { shutdown with world := VideoStream.step channel shutdown.world action }
  | .close => shutdown.close

/-! ### One step -/

/-- How many steps the loop has left from here to its next check. -/
def Submission.stage : Submission → Nat
  | idle => 1
  | sending _ => 2
  | emitted _ _ => 3
  | copied _ _ => 4
  | resetting _ => 5
  | taken _ => 6

/-- The frame in hand may still be sent. -/
def Submission.held : Submission → Nat
  | idle => 0
  | sending _ | emitted _ _ | copied _ _ | resetting _ | taken _ => 1

def Shutdown.rank (shutdown : Shutdown) : Nat :=
  if shutdown.finished then 0
  else if shutdown.checked then 7
  else shutdown.world.submission.stage

def Shutdown.pending (shutdown : Shutdown) : Nat :=
  if shutdown.checked then 1 else shutdown.world.submission.held

section Steps

variable {channel : Channel} {world : World}

/-- Only the submission thread makes calls and moves a frame. -/
theorem step_other (channel : Channel) (world : World) {action : Action}
    (other : action ≠ .submissionStep) :
    (step channel world action).submission = world.submission ∧
      (step channel world action).stream.calls = world.stream.calls := by
  cases action with
  | queueFrame session frame =>
      simp only [step, queueFrame, true_and]
      split <;> rfl
  | setEnabled enabled =>
      simp only [step, setEnabled, true_and]
      split <;> rfl
  | confirmCaps => exact ⟨rfl, rfl⟩
  | setMonitorLayout monitors =>
      rw [step]
      split <;> exact ⟨rfl, rfl⟩
  | callerStep =>
      rw [step, callerStep]
      split <;> exact ⟨rfl, rfl⟩
  | reset => exact ⟨rfl, rfl⟩
  | submissionStep => exact absurd rfl other

theorem sent_eq {after : World} (calls : after.stream.calls = world.stream.calls) :
    sent after = sent world := by
  rw [sent, calls, sent]

theorem takeFrame_effect (idle : world.submission = .idle) :
    sent (takeFrame world) = sent world ∧ (takeFrame world).submission.stage ≤ 6 ∧
      (takeFrame world).submission.held ≤ 1 := by
  unfold takeFrame
  split
  · rw [idle]
    exact ⟨rfl, by decide, by decide⟩
  · dsimp only
    split
    · dsimp only
      rw [idle]
      exact ⟨rfl, by decide, by decide⟩
    · exact ⟨rfl, Nat.le_refl 6, Nat.le_refl 1⟩

/-- A frame in hand goes on or is done, and is sent in the last step only. -/
theorem submissionStep_effect (channel : Channel) (busy : world.submission ≠ .idle) :
    (submissionStep channel world).submission.stage < world.submission.stage ∧
      sent (submissionStep channel world) + (submissionStep channel world).submission.held ≤
        sent world + world.submission.held := by
  unfold submissionStep
  cases position : world.submission with
  | idle => exact absurd position busy
  | taken frame =>
      dsimp only
      split
      · split
        · exact ⟨Nat.lt_succ_self 5, Nat.le_refl _⟩
        · exact ⟨(by decide : 2 < 6), Nat.le_refl _⟩
      · exact ⟨(by decide : 1 < 6), Nat.le_succ _⟩
  | resetting frame => exact ⟨Nat.lt_succ_self 4, Nat.le_refl _⟩
  | copied frame layout =>
      have commands := performResetTo_commands channel layout frame world.stream
      have same : sent (world.observe frame (performResetTo channel layout frame world.stream).2) =
          sent world :=
        congrArg List.length commands
      dsimp only
      refine ⟨?_, ?_⟩
      · split
        · exact Nat.lt_succ_self 3
        · exact (by decide : 1 < 4)
      · change sent (world.observe frame (performResetTo channel layout frame world.stream).2) +
          _ ≤ _
        rw [same]
        split
        · exact Nat.le_refl _
        · exact Nat.le_succ _
  | emitted frame layout => exact ⟨Nat.lt_succ_self 2, Nat.le_refl _⟩
  | sending frame =>
      refine ⟨Nat.lt_succ_self 1, ?_⟩
      change ((submitFrame channel frame world.stream).calls.filterMap
        Call.surfaceCommand).length + 0 ≤ sent world + 1
      cases found : surfaceFor world.stream frame with
      | none =>
          simp only [submitFrame, found]
          exact Nat.le_succ _
      | some surface =>
          rw [submitFrame_commands channel found, List.length_append]
          exact Nat.le_refl _

end Steps

/-! ### The loop -/

/-- While the thread is between two frames it has nothing in hand. -/
structure Winding (shutdown : Shutdown) : Prop where
  checked : shutdown.checked = true → shutdown.world.submission = .idle
  finished : shutdown.finished = true →
    shutdown.checked = false ∧ shutdown.world.submission = .idle
  closed : shutdown.closing = .closed → shutdown.finished = true
  few : shutdown.stopRequested = true →
    sent shutdown.world + shutdown.pending ≤ shutdown.sentBefore + 1
  soon : shutdown.stopRequested = true → shutdown.finished = false →
    shutdown.rank + shutdown.stepsSince ≤ 7

section Loop

variable {channel : Channel} {shutdown : Shutdown}

theorem rank_le (shutdown : Shutdown) : shutdown.rank ≤ 7 := by
  unfold Shutdown.rank
  split
  · exact Nat.zero_le 7
  · split
    · exact Nat.le_refl 7
    · cases shutdown.world.submission <;> (dsimp only [Submission.stage]; omega)

theorem pending_le (shutdown : Shutdown) : shutdown.pending ≤ 1 := by
  unfold Shutdown.pending
  split
  · exact Nat.le_refl 1
  · cases shutdown.world.submission <;> (dsimp only [Submission.held]; omega)

/-- A turn after the request goes on with the frame in hand, takes the one it was about to
take, or ends the loop. -/
theorem Winding.turn (winding : Winding shutdown) (channel : Channel)
    (running : shutdown.finished = false) :
    let after := shutdown.turn channel
    (after.checked = true → after.world.submission = .idle) ∧
      (after.finished = true → after.checked = false ∧ after.world.submission = .idle) ∧
      after.closing = shutdown.closing ∧
      after.sentBefore = shutdown.sentBefore ∧
      after.stepsSince = shutdown.stepsSince ∧
      (shutdown.stopRequested = true → after.rank < shutdown.rank ∧
        sent after.world + after.pending ≤ sent shutdown.world + shutdown.pending) := by
  by_cases idle : shutdown.world.submission = .idle
  · cases checked : shutdown.checked with
    | true =>
        have taken : shutdown.turn channel =
            { shutdown with
              world := takeFrame shutdown.world
              checked := false } := by
          simp only [Shutdown.turn, idle, checked, if_true, submissionStep]
        obtain ⟨same, stage, held⟩ := takeFrame_effect idle
        rw [taken]
        refine ⟨fun impossible => ?_, fun impossible => ?_, rfl, rfl, rfl, fun _ => ?_⟩
        · cases impossible
        · cases running.symm.trans impossible
        · simp only [Shutdown.rank, Shutdown.pending, running, checked, if_true,
            Bool.false_eq_true, if_false]
          omega
    | false =>
        cases stop : shutdown.stopRequested with
        | true =>
            have ended : shutdown.turn channel = { shutdown with finished := true } := by
              simp only [Shutdown.turn, idle, checked, stop, if_true, Bool.false_eq_true, if_false]
            rw [ended]
            refine ⟨fun impossible => ?_, fun _ => ⟨checked, idle⟩, rfl, rfl, rfl, fun _ => ?_⟩
            · cases checked.symm.trans impossible
            · simp only [Shutdown.rank, Shutdown.pending, running, checked, idle, if_true,
                Bool.false_eq_true, if_false, Submission.stage]
              omega
        | false =>
            have looked : shutdown.turn channel = { shutdown with checked := true } := by
              simp only [Shutdown.turn, idle, checked, stop, Bool.false_eq_true, if_false]
            rw [looked]
            refine ⟨fun _ => idle, fun impossible => ?_, rfl, rfl, rfl, fun impossible => ?_⟩
            · cases running.symm.trans impossible
            · cases impossible
  · have unchecked : shutdown.checked = false :=
      Bool.eq_false_iff.mpr fun checked => idle (winding.checked checked)
    have worked : shutdown.turn channel =
        { shutdown with world := submissionStep channel shutdown.world } := by
      unfold Shutdown.turn
      split
      · rename_i isIdle
        exact absurd isIdle idle
      · rfl
    obtain ⟨stage, frames⟩ := submissionStep_effect channel idle
    rw [worked]
    refine ⟨fun impossible => ?_, fun impossible => ?_, rfl, rfl, rfl, fun _ => ?_⟩
    · cases unchecked.symm.trans impossible
    · cases running.symm.trans impossible
    · simp only [Shutdown.rank, Shutdown.pending, running, unchecked, Bool.false_eq_true, if_false]
      exact ⟨stage, frames⟩

theorem stage_pos (submission : Submission) : 0 < submission.stage := by
  cases submission <;> exact Nat.succ_pos _

theorem Winding.loopStep (winding : Winding shutdown) : Winding (shutdown.loopStep channel) := by
  cases ended : shutdown.finished with
  | true =>
      have counted : shutdown.loopStep channel =
          { shutdown with
            stepsSince :=
              if shutdown.stopRequested then shutdown.stepsSince + 1
              else shutdown.stepsSince } := by
        simp only [Shutdown.loopStep, ended, if_true]
      rw [counted]
      refine ⟨winding.checked, winding.finished, winding.closed, winding.few, ?_⟩
      intro _ running
      cases ended.symm.trans running
  | false =>
      obtain ⟨checked, finished, closing, before, since, lower⟩ :=
        winding.turn channel ended
      have turned : shutdown.loopStep channel =
          { shutdown.turn channel with
            stepsSince :=
              if shutdown.stopRequested then shutdown.stepsSince + 1
              else shutdown.stepsSince } := by
        simp only [Shutdown.loopStep, ended, Bool.false_eq_true, if_false]
      rw [turned]
      have same : ∀ requested : Bool, (shutdown.turn channel).stopRequested = requested →
          shutdown.stopRequested = requested := by
        intro requested stop
        rwa [Shutdown.stopRequested, closing] at stop
      refine ⟨checked, finished, ?_, ?_, ?_⟩
      · intro closed
        cases ended.symm.trans (winding.closed (closing.symm.trans closed))
      · intro stop
        have requested := same true stop
        have frames := winding.few requested
        have fewer := (lower requested).2
        change sent (shutdown.turn channel).world + (shutdown.turn channel).pending ≤
          (shutdown.turn channel).sentBefore + 1
        omega
      · intro stop running
        have requested := same true stop
        have steps := winding.soon requested ended
        have down := (lower requested).1
        change (shutdown.turn channel).rank +
          (if shutdown.stopRequested then shutdown.stepsSince + 1 else shutdown.stepsSince) ≤ 7
        rw [if_pos requested]
        omega

theorem Winding.act (winding : Winding shutdown) {action : Action}
    (other : action ≠ .submissionStep) :
    Winding { shutdown with world := VideoStream.step channel shutdown.world action } := by
  obtain ⟨submission, calls⟩ := step_other channel shutdown.world other
  have same := sent_eq calls
  refine ⟨?_, ?_, winding.closed, ?_, ?_⟩
  · intro checked
    exact submission.trans (winding.checked checked)
  · intro finished
    obtain ⟨unchecked, idle⟩ := winding.finished finished
    exact ⟨unchecked, submission.trans idle⟩
  · intro stop
    simp only [Shutdown.pending, submission, same]
    exact winding.few stop
  · intro stop running
    simp only [Shutdown.rank, submission]
    exact winding.soon stop running

theorem Winding.close (winding : Winding shutdown) : Winding shutdown.close := by
  unfold Shutdown.close
  cases position : shutdown.closing with
  | opened =>
      dsimp only
      split
      · refine ⟨winding.checked, winding.finished, fun impossible => ?_, fun impossible => ?_,
          fun impossible => ?_⟩
        all_goals cases impossible
      · exact winding
  | channelClosed =>
      refine ⟨winding.checked, winding.finished, fun impossible => ?_, fun _ => ?_, fun _ _ => ?_⟩
      · cases impossible
      · exact Nat.add_le_add_left (pending_le shutdown) _
      · exact rank_le shutdown
  | stopRequested =>
      have requested : shutdown.stopRequested = true := by
        rw [Shutdown.stopRequested, position]
        rfl
      dsimp only
      split
      · rename_i ended
        exact ⟨winding.checked, winding.finished, fun _ => ended,
          fun _ => winding.few requested, fun _ => winding.soon requested⟩
      · exact winding
  | closed => exact winding

theorem Winding.step (winding : Winding shutdown) (action : ShutdownAction) :
    Winding (shutdown.step channel action) := by
  cases action with
  | close => exact winding.close
  | act action =>
      cases action with
      | submissionStep => exact winding.loopStep
      | queueFrame _ _ | setEnabled _ | confirmCaps | setMonitorLayout _ | callerStep | reset =>
          exact winding.act (by intro impossible; cases impossible)

/-- A thread that has ended makes no call. -/
theorem finished_calls (finished : shutdown.finished = true) (action : ShutdownAction) :
    (shutdown.step channel action).world.stream.calls = shutdown.world.stream.calls := by
  cases action with
  | close =>
      simp only [Shutdown.step, Shutdown.close]
      split
      · split <;> rfl
      · rfl
      · split <;> rfl
      · rfl
  | act action =>
      cases action with
      | submissionStep =>
          simp only [Shutdown.step, Shutdown.loopStep, finished, if_true]
      | queueFrame _ _ | setEnabled _ | confirmCaps | setMonitorLayout _ | callerStep | reset =>
          exact (step_other channel shutdown.world (by intro impossible; cases impossible)).2

end Loop

/-- Once the stop is requested at most one more frame is sent, and the thread has ended
after seven of its own steps, whatever the others do in between; then nothing is sent. -/
theorem thread_stops (channel : Channel) (actions : List ShutdownAction) :
    StepRun.Always (Shutdown.step channel) (fun shutdown =>
      (shutdown.stopRequested = true → sent shutdown.world ≤ shutdown.sentBefore + 1 ∧
        (7 ≤ shutdown.stepsSince → shutdown.finished = true)) ∧
      (shutdown.closing = .closed → shutdown.finished = true) ∧
      (shutdown.finished = true → ∀ action,
        (shutdown.step channel action).world.stream.calls = shutdown.world.stream.calls))
      {} actions := by
  refine StepRun.always_of_invariant Winding ?_ (fun _ action winding => winding.step action) ?_
    actions
  · refine ⟨fun impossible => ?_, fun impossible => ?_, fun impossible => ?_,
      fun impossible => ?_, fun impossible => ?_⟩
    all_goals cases impossible
  · intro shutdown winding
    refine ⟨fun stop => ⟨?_, ?_⟩, winding.closed, fun finished action =>
      finished_calls finished action⟩
    · have few := winding.few stop
      omega
    · intro enough
      by_contra running
      have soon := winding.soon stop (Bool.eq_false_iff.mpr running)
      have positive : 0 < shutdown.rank := by
        simp only [Shutdown.rank, Bool.eq_false_iff.mpr running, Bool.false_eq_true, if_false]
        split
        · exact Nat.succ_pos 6
        · exact stage_pos _
      omega

end VideoStream

end KRdp
