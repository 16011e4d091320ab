/-
The stream shared by two threads.

The submission thread takes frames from the queue and runs `sendFrame` on them;
another thread calls `setMonitorLayout`.  The fields both threads use are the
queue, the monitor layout and the `pendingReset` flag, so the functions are cut
at their accesses to these, and a step of either thread runs up to the next one.

What happened is observed through the calls made: the events of a run are the
published topologies and the submitted frames, in order.  Layouts are numbered
by the changes made so far, and a frame carries the number that was current when
it was queued.
-/

import KRdp.Library.Run
import KRdp.VideoStream.Reset

namespace KRdp

namespace VideoStream

/-- Where the submission thread stands. -/
inductive Submission where
  | idle
  /-- Before `pendingReset` is loaded. -/
  | taken (frame : VideoFrame)
  /-- `pendingReset` was set; the layout is not copied yet. -/
  | resetting (frame : VideoFrame)
  | copied (frame : VideoFrame) (layout : DisplayMonitorList)
  /-- The reset is done; `pendingReset` is still to be cleared. -/
  | emitted (frame : VideoFrame) (layout : DisplayMonitorList)
  | sending (frame : VideoFrame)
  deriving DecidableEq, Repr

inductive Caller where
  | idle
  | stored
  | cleared
  deriving DecidableEq, Repr

inductive Event where
  | published (layoutNumber : Nat) (frame : VideoFrame) (pdu : ResetGraphicsPdu)
  | submitted (frameNumber : Nat)
  deriving DecidableEq, Repr

/-- The two threads; the fields after `caller` only observe them. -/
structure World where
  stream : Private
  submission : Submission := .idle
  caller : Caller := .idle
  layoutNumber : Nat := 0
  queueNumbers : List Nat := []
  frameNumber : Nat := 0
  copyNumber : Nat := 0
  events : List Event := []
  deriving DecidableEq, Repr

inductive Action where
  | queueFrame (session : RdpConnection.State) (frame : VideoFrame)
  | setEnabled (enabled : Bool)
  | confirmCaps
  | setMonitorLayout (monitors : DisplayMonitorList)
  | callerStep
  | reset
  | submissionStep
  deriving DecidableEq, Repr

/-! ### Observing the calls -/

def eventOf (frame : VideoFrame) (frameNumber copyNumber : Nat) : Call → Option Event
  | .gfx (.resetGraphics pdu) status =>
      if status == channelRcOk then some (.published copyNumber frame pdu) else none
  | .gfx (.surfaceCommand _) _ => some (.submitted frameNumber)
  | _ => none

def World.observe (world : World) (frame : VideoFrame) (stream : Private) : World :=
  { world with
    stream := stream
    events := world.events ++ (stream.calls.drop world.stream.calls.length).filterMap
      (eventOf frame world.frameNumber world.copyNumber) }

theorem World.observe_events {world : World} {frame : VideoFrame} {stream : Private}
    {emitted : List Call} (calls : stream.calls = world.stream.calls ++ emitted) :
    (world.observe frame stream).events = world.events ++
      emitted.filterMap (eventOf frame world.frameNumber world.copyNumber) := by
  simp only [observe, calls, List.drop_left]

private theorem setup_events {frame : VideoFrame} {frameNumber copyNumber : Nat}
    {calls : List Call} (setup : ∀ call ∈ calls, call.isSurfaceSetup = true) :
    calls.filterMap (eventOf frame frameNumber copyNumber) = [] := by
  rw [List.filterMap_eq_nil_iff]
  intro call member
  have isSetup := setup call member
  cases call with
  | gfx pdu status =>
      cases pdu with
      | deleteSurface _ => rfl
      | createSurface _ => rfl
      | mapSurfaceToOutput _ => rfl
      | resetGraphics _ => cases isSetup
      | startFrame _ _ => cases isSetup
      | surfaceCommand _ => cases isSetup
      | endFrame _ => cases isSetup
  | startBandwidthMeasure => cases isSetup
  | stopBandwidthMeasure => cases isSetup

/-- A reset publishes at most its own topology, and does so if it completes. -/
theorem observe_reset (channel : Channel) (world : World) (frame : VideoFrame)
    (copied : DisplayMonitorList) :
    let outcome := performResetTo channel copied frame world.stream
    let event := Event.published world.copyNumber frame
      (resetGraphicsPdu (resetLayout copied frame))
    (world.observe frame outcome.2).events = world.events ++ [event] ∨
      outcome.1 = false ∧ (world.observe frame outcome.2).events = world.events := by
  simp only [performResetTo]
  split
  · obtain ⟨before, status, after, calls, setup, completes⟩ :=
      publishLayout_setup channel (resetLayout copied frame) frame world.stream
    rw [World.observe_events calls, List.filterMap_append, List.filterMap_cons,
      setup_events fun call member => setup call (List.mem_append_left _ member),
      setup_events fun call member => setup call (List.mem_append_right _ member)]
    by_cases ok : status = channelRcOk
    · exact .inl (by simp [eventOf, ok])
    · refine .inr ⟨Bool.eq_false_iff.mpr fun completed => ok (completes completed), ?_⟩
      simp [eventOf, ok]
  · exact .inr ⟨rfl, by simp [World.observe]⟩

theorem observe_submit (channel : Channel) (world : World) (frame : VideoFrame) :
    (world.observe frame (submitFrame channel frame world.stream)).events = world.events ++
      (if (surfaceFor world.stream frame).isSome then [.submitted world.frameNumber]
        else []) := by
  simp only [submitFrame]
  split
  · rename_i missing
    simp [World.observe, missing]
  · rename_i surface found
    rw [World.observe_events (emitFrame_calls channel surface frame world.stream), found]
    rfl

/-! ### Steps of the threads -/

/-- A frame that the thread takes with an empty size is dropped. -/
def takeFrame (world : World) : World :=
  match world.stream.frameQueue with
  | [] => world
  | frame :: rest =>
      let taken :=
        { world with
          stream := { world.stream with frameQueue := rest }
          queueNumbers := world.queueNumbers.tail }
      if frame.size.isEmpty then taken
      else
        { taken with
          submission := .taken frame
          frameNumber := world.queueNumbers.headD 0 }

def submissionStep (channel : Channel) (world : World) : World :=
  match world.submission with
  | .idle => takeFrame world
  | .taken frame =>
      if canSend world.stream frame then
        if world.stream.pendingReset then { world with submission := .resetting frame }
        else { world with submission := .sending frame }
      else { world with submission := .idle }
  | .resetting frame =>
      { world with
        submission := .copied frame world.stream.monitorLayout
        copyNumber := world.layoutNumber }
  | .copied frame layout =>
      let outcome := performResetTo channel layout frame world.stream
      { world.observe frame outcome.2 with
        submission := if outcome.1 then .emitted frame layout else .idle }
  | .emitted frame _ =>
      { world with
        stream := clearPendingReset world.stream
        submission := .sending frame }
  | .sending frame =>
      { world.observe frame (submitFrame channel frame world.stream) with submission := .idle }

def callerStep (world : World) : World :=
  match world.caller with
  | .idle => world
  | .stored =>
      { world with
        stream := clearFrameQueue world.stream
        queueNumbers := []
        caller := .cleared }
  | .cleared => { world with stream := VideoStream.reset world.stream, caller := .idle }

/-- Actions that cannot happen in a state leave it as it is. -/
def step (channel : Channel) (world : World) : Action → World
  | .queueFrame session frame =>
      { world with
        stream := queueFrame session frame world.stream
        queueNumbers :=
          if session != .streaming || !world.stream.enabled then world.queueNumbers
          else world.queueNumbers ++ [world.layoutNumber] }
  | .setEnabled enabled => { world with stream := setEnabled enabled world.stream }
  | .confirmCaps => { world with stream := { world.stream with capsConfirmed := true } }
  | .setMonitorLayout monitors =>
      if world.caller != .idle || world.stream.monitorLayout == monitors then world
      else
        { world with
          stream := storeMonitorLayout monitors world.stream
          caller := .stored
          layoutNumber := world.layoutNumber + 1 }
  | .callerStep => callerStep world
  | .reset => { world with stream := VideoStream.reset world.stream }
  | .submissionStep => submissionStep channel world

def World.start : World := { stream := { gfxContext := true } }

/-! ### The threads on their own -/

/-- With no other thread in between, the steps of a frame are `sendFrame`. -/
theorem steps_eq_sendFrame (channel : Channel) (world : World) (frame : VideoFrame)
    (taken : world.submission = .taken frame) :
    ∃ count ≤ 5,
      let after := StepRun.run (step channel) world (List.replicate count .submissionStep)
      after.submission = .idle ∧ after.stream = sendFrame channel frame world.stream := by
  simp only [sendFrame, performReset]
  cases sendable : canSend world.stream frame with
  | false => exact ⟨1, by omega, by simp [step, submissionStep, taken, sendable]⟩
  | true =>
      cases pending : world.stream.pendingReset with
      | false =>
          refine ⟨2, by omega, ?_⟩
          simp [List.replicate, step, submissionStep, taken, sendable, pending, World.observe]
      | true =>
          by_cases completed :
              (performResetTo channel world.stream.monitorLayout frame world.stream).1 = true
          · refine ⟨5, by omega, ?_⟩
            simp [List.replicate, step, submissionStep, taken, sendable, pending,
              World.observe, completed]
          · refine ⟨3, by omega, ?_⟩
            simp [List.replicate, step, submissionStep, taken, sendable, pending,
              World.observe, completed]

/-- With no other thread in between, the steps of a call are `setMonitorLayout`. -/
theorem steps_eq_setMonitorLayout (channel : Channel) (world : World)
    (monitors : DisplayMonitorList) (idle : world.caller = .idle) :
    let after := StepRun.run (step channel) world
      [.setMonitorLayout monitors, .callerStep, .callerStep]
    after.caller = .idle ∧ after.stream = setMonitorLayout monitors world.stream := by
  simp only [setMonitorLayout]
  cases same : world.stream.monitorLayout == monitors with
  | true => simp [step, idle, same, callerStep]
  | false => simp [step, idle, same, callerStep]

end VideoStream

end KRdp
