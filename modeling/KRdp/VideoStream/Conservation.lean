/-
What becomes of a queued frame.

The ledger keeps the frames that `queueFrame` has appended beside the two threads.
The frames that reach the client are compared with it through the surface commands
alone, so that a frame which is sent twice, out of turn or with the data of another
would show.
-/

import KRdp.Library.Conveyor
import KRdp.VideoStream.Submission

namespace KRdp

namespace VideoStream

structure Ledger where
  world : World := .start
  accepted : List VideoFrame := []
  deriving DecidableEq, Repr

/-- The frames that an action appends to the queue. -/
def admits (world : World) : Action → List VideoFrame
  | .queueFrame session frame =>
      if session != .streaming || !world.stream.enabled then [] else [frame]
  | .setEnabled _ | .confirmCaps | .setMonitorLayout _ | .callerStep | .reset
  | .submissionStep => []

def Ledger.step (channel : Channel) (ledger : Ledger) (action : Action) : Ledger :=
  { world := VideoStream.step channel ledger.world action
    accepted := ledger.accepted ++ admits ledger.world action }

def Call.surfaceCommand : Call → Option SurfaceCommand
  | .gfx (.surfaceCommand command) _ => some command
  | _ => none

/-- The command draws the whole frame on a surface of its size. -/
def Draws (frame : VideoFrame) (command : SurfaceCommand) : Prop :=
  ∃ surface : Surface, surface.size = frame.size ∧ command = surfaceCommandFor surface frame

def Submission.hand : Submission → Option VideoFrame
  | .idle => none
  | .taken frame | .resetting frame | .copied frame _ | .emitted frame _ | .sending frame =>
      some frame

def Ledger.conveyor (ledger : Ledger) : Conveyor VideoFrame SurfaceCommand :=
  { admitted := ledger.accepted
    waiting := ledger.world.stream.frameQueue
    hand := ledger.world.submission.hand
    made := ledger.world.stream.calls.filterMap Call.surfaceCommand }

/-- No frame is lost by the action: a change of the layout finds the queue empty, and
the frame in hand passes the check that the submission thread is about to make. -/
def KeepsFrames (channel : Channel) (ledger : Ledger) : Action → Prop
  | .callerStep => ledger.world.caller = .stored → ledger.world.stream.frameQueue = []
  | .submissionStep =>
      match ledger.world.submission with
      | .idle => ∀ frame ∈ ledger.world.stream.frameQueue.head?, frame.size.isEmpty = false
      | .taken frame => canSend ledger.world.stream frame = true
      | .copied frame layout =>
          (performResetTo channel layout frame ledger.world.stream).1 = true
      | .sending frame => (surfaceFor ledger.world.stream frame).isSome = true
      | .resetting _ | .emitted _ _ => True
  | .queueFrame _ _ | .setEnabled _ | .confirmCaps | .setMonitorLayout _ | .reset => True

/-! ### The commands of a call -/

theorem setup_commands {calls : List Call}
    (setup : ∀ call ∈ calls, call.isSurfaceSetup = true) :
    calls.filterMap Call.surfaceCommand = [] := by
  rw [List.filterMap_eq_nil_iff]
  intro call member
  have isSetup := setup call member
  cases call with
  | gfx pdu status =>
      cases pdu with
      | surfaceCommand command => cases isSetup
      | deleteSurface _ | resetGraphics _ | createSurface _ | mapSurfaceToOutput _
      | startFrame _ _ | endFrame _ => rfl
  | startBandwidthMeasure => rfl
  | stopBandwidthMeasure => rfl

theorem performResetTo_commands (channel : Channel) (copied : DisplayMonitorList)
    (frame : VideoFrame) (d : Private) :
    (performResetTo channel copied frame d).2.calls.filterMap Call.surfaceCommand =
      d.calls.filterMap Call.surfaceCommand := by
  simp only [performResetTo]
  split
  · obtain ⟨before, status, after, calls, setup, _⟩ :=
      publishLayout_setup channel (resetLayout copied frame) frame d
    rw [calls, List.filterMap_append, List.filterMap_append, List.filterMap_cons,
      setup_commands fun call member => setup call (List.mem_append_left _ member),
      setup_commands fun call member => setup call (List.mem_append_right _ member)]
    simp only [Call.surfaceCommand, List.append_nil]
  · rfl

theorem submitFrame_commands (channel : Channel) {surface : Surface} {frame : VideoFrame}
    {d : Private} (found : surfaceFor d frame = some surface) :
    (submitFrame channel frame d).calls.filterMap Call.surfaceCommand =
      d.calls.filterMap Call.surfaceCommand ++ [surfaceCommandFor surface frame] := by
  simp only [submitFrame, found]
  rw [emitFrame_calls, List.filterMap_append]
  rfl

theorem surfaceFor_draws {d : Private} {frame : VideoFrame} {surface : Surface}
    (found : surfaceFor d frame = some surface) :
    Draws frame (surfaceCommandFor surface frame) := by
  refine ⟨surface, ?_, rfl⟩
  have same := (Option.filter_eq_some_iff.mp found).2
  exact beq_iff_eq.mp same

/-! ### Every step -/

/-- A step that leaves the queue, the hand and the commands alone. -/
theorem Ledger.idle {channel : Channel} {ledger : Ledger} {action : Action}
    (nothing : admits ledger.world action = [])
    (queue : (VideoStream.step channel ledger.world action).stream.frameQueue =
      ledger.world.stream.frameQueue)
    (hand : (VideoStream.step channel ledger.world action).submission.hand =
      ledger.world.submission.hand)
    (commands : (VideoStream.step channel ledger.world action).stream.calls.filterMap
      Call.surfaceCommand = ledger.world.stream.calls.filterMap Call.surfaceCommand) :
    Conveyor.Moves Draws ledger.conveyor (ledger.step channel action).conveyor := by
  have same : (ledger.step channel action).conveyor = ledger.conveyor := by
    simp only [Ledger.conveyor, Ledger.step, nothing, queue, hand, commands, List.append_nil]
  rw [same]
  exact .idle _

theorem Ledger.queueFrame_moves (channel : Channel) (ledger : Ledger)
    (session : RdpConnection.State) (frame : VideoFrame) :
    Conveyor.Moves Draws ledger.conveyor
      (ledger.step channel (.queueFrame session frame)).conveyor := by
  cases refused : session != .streaming || !ledger.world.stream.enabled with
  | true =>
      refine Ledger.idle ?_ ?_ rfl ?_
      · rw [admits, refused, if_pos rfl]
      · simp only [VideoStream.step, queueFrame, refused, if_true]
      · simp only [VideoStream.step, queueFrame, refused, if_true]
  | false =>
      have admitted : (ledger.step channel (.queueFrame session frame)).conveyor =
          { ledger.conveyor with
            admitted := ledger.conveyor.admitted ++ [frame]
            waiting := ledger.conveyor.waiting ++ [frame] } := by
        simp [Ledger.conveyor, Ledger.step, VideoStream.step, queueFrame, admits, refused]
      rw [admitted]
      exact .accept _ frame

/-- What a step does to the frames, by whether it keeps them. -/
def Ledger.Fate (channel : Channel) (ledger : Ledger) (action : Action) : Prop :=
  KeepsFrames channel ledger action ∧
      Conveyor.Moves Draws ledger.conveyor (ledger.step channel action).conveyor ∨
    ¬KeepsFrames channel ledger action ∧
      Conveyor.Loses ledger.conveyor (ledger.step channel action).conveyor

theorem Ledger.callerStep_fate (channel : Channel) (ledger : Ledger) :
    ledger.Fate channel .callerStep := by
  cases position : ledger.world.caller with
  | idle =>
      left
      refine ⟨by simp [KeepsFrames, position], Ledger.idle rfl ?_ ?_ ?_⟩
      all_goals simp only [VideoStream.step, callerStep, position]
  | cleared =>
      left
      refine ⟨by simp [KeepsFrames, position], Ledger.idle rfl ?_ ?_ ?_⟩
      all_goals simp only [VideoStream.step, callerStep, position, VideoStream.reset]
  | stored =>
      by_cases empty : ledger.world.stream.frameQueue = []
      · left
        refine ⟨fun _ => empty, Ledger.idle rfl ?_ ?_ ?_⟩
        · simp only [VideoStream.step, callerStep, position, clearFrameQueue, empty]
        · simp only [VideoStream.step, callerStep, position]
        · simp only [VideoStream.step, callerStep, position, clearFrameQueue]
      · right
        have cleared : (ledger.step channel .callerStep).conveyor =
            { ledger.conveyor with waiting := [] } := by
          simp [Ledger.conveyor, Ledger.step, VideoStream.step, callerStep, position,
            clearFrameQueue, admits]
        refine ⟨fun keeps => empty (keeps position), ?_⟩
        rw [cleared]
        exact .waiting _ [] (List.nil_sublist _) (List.length_pos_iff.mpr empty)

theorem Ledger.takeFrame_fate (channel : Channel) (ledger : Ledger)
    (position : ledger.world.submission = .idle) : ledger.Fate channel .submissionStep := by
  cases queue : ledger.world.stream.frameQueue with
  | nil =>
      left
      refine ⟨by simp [KeepsFrames, position, queue], Ledger.idle rfl ?_ ?_ ?_⟩
      all_goals simp only [VideoStream.step, submissionStep, position, takeFrame, queue]
  | cons frame rest =>
      cases empty : frame.size.isEmpty with
      | true =>
          right
          have dropped : (ledger.step channel .submissionStep).conveyor =
              { ledger.conveyor with waiting := rest } := by
            simp [Ledger.conveyor, Ledger.step, VideoStream.step, submissionStep, position,
              takeFrame, queue, empty, admits]
          refine ⟨by simp [KeepsFrames, position, queue, empty], ?_⟩
          rw [dropped]
          refine .waiting _ rest ?_ ?_
          · simp only [Ledger.conveyor, queue]
            exact List.sublist_cons_self frame rest
          · simp only [Ledger.conveyor, queue]
            exact Nat.lt_succ_self _
      | false =>
          left
          have taken : (ledger.step channel .submissionStep).conveyor =
              { ledger.conveyor with
                waiting := rest
                hand := some frame } := by
            simp [Ledger.conveyor, Ledger.step, VideoStream.step, submissionStep, position,
              takeFrame, queue, empty, admits, Submission.hand]
          refine ⟨by simp [KeepsFrames, position, queue, empty], ?_⟩
          rw [taken]
          refine .take _ frame rest ?_ queue
          simp only [Ledger.conveyor, position, Submission.hand]

/-- The frame in hand is dropped. -/
theorem Ledger.drop_hand {channel : Channel} {ledger : Ledger} {frame : VideoFrame}
    (held : ledger.world.submission.hand = some frame)
    (queue : (submissionStep channel ledger.world).stream.frameQueue =
      ledger.world.stream.frameQueue)
    (idle : (submissionStep channel ledger.world).submission = .idle)
    (commands : (submissionStep channel ledger.world).stream.calls.filterMap
      Call.surfaceCommand = ledger.world.stream.calls.filterMap Call.surfaceCommand) :
    Conveyor.Loses ledger.conveyor (ledger.step channel .submissionStep).conveyor := by
  have dropped : (ledger.step channel .submissionStep).conveyor =
      { ledger.conveyor with hand := none } := by
    simp [Ledger.conveyor, Ledger.step, VideoStream.step, admits, queue, idle, commands,
      Submission.hand]
  rw [dropped]
  exact .hand _ frame held

theorem Ledger.taken_fate (channel : Channel) (ledger : Ledger) (frame : VideoFrame)
    (position : ledger.world.submission = .taken frame) :
    ledger.Fate channel .submissionStep := by
  have held : ledger.world.submission.hand = some frame := by rw [position, Submission.hand]
  cases sendable : canSend ledger.world.stream frame with
  | true =>
      left
      refine ⟨by simp [KeepsFrames, position, sendable], ?_⟩
      cases pending : ledger.world.stream.pendingReset with
      | true =>
          refine Ledger.idle rfl ?_ ?_ ?_
          all_goals simp [VideoStream.step, submissionStep, position, sendable, pending,
            Submission.hand]
      | false =>
          refine Ledger.idle rfl ?_ ?_ ?_
          all_goals simp [VideoStream.step, submissionStep, position, sendable, pending,
            Submission.hand]
  | false =>
      right
      refine ⟨by simp [KeepsFrames, position, sendable], Ledger.drop_hand held ?_ ?_ ?_⟩
      all_goals simp [submissionStep, position, sendable]

theorem Ledger.copied_fate (channel : Channel) (ledger : Ledger) (frame : VideoFrame)
    (layout : DisplayMonitorList) (position : ledger.world.submission = .copied frame layout) :
    ledger.Fate channel .submissionStep := by
  have held : ledger.world.submission.hand = some frame := by rw [position, Submission.hand]
  have queue := (performResetTo_untouched channel layout frame ledger.world.stream).frameQueue
  have commands := performResetTo_commands channel layout frame ledger.world.stream
  cases completed : (performResetTo channel layout frame ledger.world.stream).1 with
  | true =>
      left
      refine ⟨by simp [KeepsFrames, position, completed], Ledger.idle rfl ?_ ?_ ?_⟩
      · simpa [VideoStream.step, submissionStep, position, World.observe] using queue
      · simp [VideoStream.step, submissionStep, position, completed, Submission.hand]
      · simpa [VideoStream.step, submissionStep, position, World.observe] using commands
  | false =>
      right
      refine ⟨by simp [KeepsFrames, position, completed], Ledger.drop_hand held ?_ ?_ ?_⟩
      · simpa [submissionStep, position, World.observe] using queue
      · simp [submissionStep, position, completed]
      · simpa [submissionStep, position, World.observe] using commands

theorem Ledger.sending_fate (channel : Channel) (ledger : Ledger) (frame : VideoFrame)
    (position : ledger.world.submission = .sending frame) :
    ledger.Fate channel .submissionStep := by
  have held : ledger.world.submission.hand = some frame := by rw [position, Submission.hand]
  cases found : surfaceFor ledger.world.stream frame with
  | none =>
      right
      refine ⟨by simp [KeepsFrames, position, found], Ledger.drop_hand held ?_ ?_ ?_⟩
      all_goals simp [submissionStep, position, World.observe, submitFrame, found]
  | some surface =>
      left
      have queue := (submitFrame_untouched channel frame ledger.world.stream).frameQueue
      have commands := submitFrame_commands channel found
      have finished : (ledger.step channel .submissionStep).conveyor =
          { ledger.conveyor with
            hand := none
            made := ledger.conveyor.made ++ [surfaceCommandFor surface frame] } := by
        simp [Ledger.conveyor, Ledger.step, VideoStream.step, submissionStep, position,
          World.observe, admits, queue, commands, Submission.hand]
      refine ⟨by simp [KeepsFrames, position, found], ?_⟩
      rw [finished]
      exact .finish _ frame _ held (surfaceFor_draws found)

theorem Ledger.step_fate (channel : Channel) (ledger : Ledger) (action : Action) :
    ledger.Fate channel action := by
  cases action with
  | queueFrame session frame => exact .inl ⟨trivial, ledger.queueFrame_moves channel session frame⟩
  | setEnabled enabled =>
      refine .inl ⟨trivial, Ledger.idle rfl ?_ rfl ?_⟩
      all_goals
        simp only [VideoStream.step, setEnabled]
        split <;> rfl
  | confirmCaps => exact .inl ⟨trivial, Ledger.idle rfl rfl rfl rfl⟩
  | setMonitorLayout monitors =>
      refine .inl ⟨trivial, Ledger.idle rfl ?_ ?_ ?_⟩
      all_goals
        simp only [VideoStream.step]
        split <;> rfl
  | callerStep => exact ledger.callerStep_fate channel
  | reset => exact .inl ⟨trivial, Ledger.idle rfl rfl rfl rfl⟩
  | submissionStep =>
      cases position : ledger.world.submission with
      | idle => exact ledger.takeFrame_fate channel position
      | taken frame => exact ledger.taken_fate channel frame position
      | resetting frame =>
          refine .inl ⟨by simp [KeepsFrames, position], Ledger.idle rfl ?_ ?_ ?_⟩
          all_goals simp [VideoStream.step, submissionStep, position, Submission.hand]
      | copied frame layout => exact ledger.copied_fate channel frame layout position
      | emitted frame layout =>
          refine .inl ⟨by simp [KeepsFrames, position], Ledger.idle rfl ?_ ?_ ?_⟩
          all_goals simp [VideoStream.step, submissionStep, position, clearPendingReset,
            Submission.hand]
      | sending frame => exact ledger.sending_fate channel frame position

/-! ### Every run -/

/-- However the threads interleave, the commands draw frames of the queue, each at
most once and in the order in which they were queued. -/
theorem submitted_in_order (channel : Channel) (actions : List Action) :
    StepRun.Always (Ledger.step channel)
      (fun ledger => ledger.conveyor.InOrder Draws) {} actions := by
  refine StepRun.always_of_invariant (fun ledger : Ledger => ledger.conveyor.InOrder Draws)
    ?_ ?_ (fun _ inOrder => inOrder) actions
  · exact ⟨[], .nil, List.nil_sublist _⟩
  · intro ledger action inOrder
    rcases ledger.step_fate channel action with ⟨_, moves⟩ | ⟨_, loses⟩
    · exact moves.inOrder inOrder
    · exact loses.inOrder inOrder

/-- Every queued frame is drawn, in the hand of the submission thread or still queued
in every state of a run, exactly if every step of the run keeps its frames. -/
theorem nothing_lost_iff (channel : Channel) (actions : List Action) :
    StepRun.Always (Ledger.step channel)
        (fun ledger => ledger.conveyor.Complete Draws) {} actions ↔
      StepRun.Along (Ledger.step channel) (KeepsFrames channel) {} actions := by
  refine StepRun.always_iff_along (fun ledger : Ledger => ledger.conveyor.Complete Draws) actions
    ⟨[], .nil, rfl⟩ ?_ (fun _ complete => complete) ?_
  · intro ledger action complete keeps
    rcases ledger.step_fate channel action with ⟨_, moves⟩ | ⟨missed, _⟩
    · exact moves.complete complete
    · exact absurd keeps missed
  · intro ledger action complete missed
    rcases ledger.step_fate channel action with ⟨keeps, _⟩ | ⟨_, loses⟩
    · exact absurd keeps missed
    · exact loses.not_complete complete

end VideoStream

end KRdp
