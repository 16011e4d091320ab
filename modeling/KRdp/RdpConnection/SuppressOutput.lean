/-
SuppressOutput requests over a run of the loop.

The request and the channel setup write the same flag.  The setup is repeated in
every iteration that finds the dynamic channels ready, so it switches the output
on again after the client has denied it.
-/

import KRdp.Library.Run
import KRdp.RdpConnection.Loop

namespace KRdp

namespace RdpConnection

def denied (connection : Connection) : Prop := connection.lastSuppressOutput = some 0

/-- Once streaming has started, a standing denial keeps the output off, and no
frame is queued. -/
def DenialHonoured (connection : Connection) : Prop :=
  connection.streamingStarted = true → denied connection →
    connection.videoStream.enabled = false ∧
      ∀ frame, VideoStream.queueFrame connection.state frame connection.videoStream =
        connection.videoStream

def setUpSucceeds (input : Iteration) (connection : Connection) : Bool :=
  input.connected && input.drdynvcJoined && input.drdynvcState == .ready &&
    (connection.displayControl || input.displayControlOpens) &&
    (connection.videoStream.gfxContext || input.gfxContextNew && input.gfxOpens)

def reachesStreaming (input : Iteration) (connection : Connection) : Bool :=
  !input.stopRequested && !decide (input.handleCount ≤ 0) && input.fileDescriptorOk &&
    setUpSucceeds input connection

def standingRequest (input : Iteration) (connection : Connection) : Option UInt8 :=
  input.suppressOutputs.getLast?.or connection.lastSuppressOutput

/-- No iteration finishes the channel setup while a denial stands. -/
def AllowsSetup (connection : Connection) : Action → Prop
  | .iteration input =>
      connection.state ≠ .closed → reachesStreaming input connection = true →
        standingRequest input connection ≠ some 0
  | .queueFrame _ => True

/-! ### The messages of an iteration -/

/-- A standing denial keeps the output off, whether or not streaming started. -/
def DenialStands (connection : Connection) : Prop :=
  denied connection → connection.videoStream.enabled = false

theorem checkFileDescriptor_denial (input : Iteration) {connection : Connection}
    (stands : DenialStands connection) : DenialStands (checkFileDescriptor input connection) := by
  unfold checkFileDescriptor
  generalize input.suppressOutputs = messages
  induction messages generalizing connection with
  | nil => exact stands
  | cons allow rest ih =>
      apply ih
      intro isDenied
      obtain rfl : allow = 0 := Option.some.inj isDenied
      exact setEnabled_enabled _ _

theorem checkFileDescriptor_last (input : Iteration) (connection : Connection) :
    (checkFileDescriptor input connection).lastSuppressOutput =
      standingRequest input connection := by
  unfold checkFileDescriptor standingRequest
  generalize input.suppressOutputs = messages
  induction messages generalizing connection with
  | nil => rfl
  | cons allow rest ih =>
      refine (ih (onSuppressOutput connection allow)).trans ?_
      rw [List.getLast?_cons]
      cases rest.getLast? <;> rfl

/-! ### The rest of an iteration -/

structure SameOutput (before after : Connection) : Prop where
  enabled : after.videoStream.enabled = before.videoStream.enabled
  last : after.lastSuppressOutput = before.lastSuppressOutput
  started : after.streamingStarted = before.streamingStarted

theorem SameOutput.refl (connection : Connection) : SameOutput connection connection :=
  ⟨rfl, rfl, rfl⟩

theorem SameOutput.trans {first second third : Connection} (before : SameOutput first second)
    (after : SameOutput second third) : SameOutput first third :=
  ⟨after.enabled.trans before.enabled, after.last.trans before.last,
    after.started.trans before.started⟩

theorem SameOutput.denial {before after : Connection} (same : SameOutput before after)
    (stands : DenialStands before) : DenialStands after := by
  intro isDenied
  rw [same.enabled]
  exact stands (same.last.symm.trans isDenied)

theorem initializeDisplayControl_same (input : Iteration) (connection : Connection) :
    SameOutput connection (initializeDisplayControl input connection).2 ∧
      (initializeDisplayControl input connection).2.videoStream = connection.videoStream ∧
      (initializeDisplayControl input connection).1 =
        (connection.displayControl || input.displayControlOpens) := by
  unfold initializeDisplayControl
  cases connection.displayControl <;> cases input.displayControlOpens <;>
    exact ⟨⟨rfl, rfl, rfl⟩, rfl, rfl⟩

theorem initializeVideoStream_same (input : Iteration) (connection : Connection) :
    SameOutput connection (initializeVideoStream input connection).2 ∧
      (initializeVideoStream input connection).1 =
        (connection.videoStream.gfxContext || input.gfxContextNew && input.gfxOpens) := by
  unfold initializeVideoStream
  cases connection.videoStream.gfxContext <;> cases input.gfxContextNew <;>
    exact ⟨⟨rfl, rfl, rfl⟩, rfl⟩

/-- The setup either goes through and switches the output on, or leaves it. -/
theorem setUpChannels_output (input : Iteration) (connection : Connection) :
    if setUpSucceeds input connection then
      ∃ opened, SameOutput connection opened ∧
        setUpChannels input connection = (true, startStreaming opened)
    else SameOutput connection (setUpChannels input connection).2 := by
  obtain ⟨controlSame, sameStream, controlOk⟩ := initializeDisplayControl_same input connection
  obtain ⟨streamSame, streamOk⟩ := initializeVideoStream_same input
    (initializeDisplayControl input connection).2
  rw [sameStream] at streamOk
  simp only [setUpSucceeds, setUpChannels, controlOk, streamOk]
  cases input.connected && input.drdynvcJoined with
  | false => exact .refl connection
  | true =>
      cases input.drdynvcState == .ready with
      | false => exact .refl connection
      | true =>
          cases connection.displayControl || input.displayControlOpens with
          | false => exact controlSame
          | true =>
              cases connection.videoStream.gfxContext ||
                  input.gfxContextNew && input.gfxOpens with
              | false => exact controlSame.trans streamSame
              | true => exact ⟨_, controlSame.trans streamSame, rfl⟩

theorem finishIteration_same (input : Iteration) (connection : Connection) :
    SameOutput connection (finishIteration input connection).2 := by
  simp only [finishIteration]
  split
  · exact .refl connection
  · split
    · have clipboardSame : SameOutput connection (initializeClipboard input connection).2 := by
        unfold initializeClipboard
        split
        · exact .refl connection
        · split <;> exact ⟨rfl, rfl, rfl⟩
      split
      · exact clipboardSame.trans ⟨rfl, rfl, rfl⟩
      · exact clipboardSame
    · exact ⟨rfl, rfl, rfl⟩

/-- An iteration that gets through the setup ends with the output on. -/
theorem iterate_of_reaching {input : Iteration} {connection : Connection}
    (reaches : reachesStreaming input connection = true) :
    (iterate input connection).2.videoStream.enabled = true ∧
      (iterate input connection).2.lastSuppressOutput = standingRequest input connection ∧
      (iterate input connection).2.streamingStarted = true := by
  simp only [reachesStreaming, Bool.and_eq_true, Bool.not_eq_true', decide_eq_false_iff_not]
    at reaches
  obtain ⟨⟨⟨goesOn, handles⟩, readable⟩, succeeds⟩ := reaches
  have last := checkFileDescriptor_last input connection
  obtain ⟨_, control, context, _⟩ := checkFileDescriptor_same input connection
  have setUp := setUpChannels_output input (checkFileDescriptor input connection)
  have stillSucceeds : setUpSucceeds input (checkFileDescriptor input connection) = true := by
    rw [setUpSucceeds, control, context]
    exact succeeds
  rw [if_pos stillSucceeds] at setUp
  obtain ⟨opened, same, channels⟩ := setUp
  have finished := finishIteration_same input (startStreaming opened)
  simp only [iterate, goesOn, handles, readable, channels]
  refine ⟨finished.enabled.trans (setEnabled_enabled true _), ?_, finished.started⟩
  exact finished.last.trans (same.last.trans last)

theorem iterate_of_not_reaching {input : Iteration} {connection : Connection}
    (misses : reachesStreaming input connection = false) (stands : DenialStands connection) :
    DenialStands (iterate input connection).2 := by
  have read := checkFileDescriptor_denial input stands
  obtain ⟨_, control, context, _⟩ := checkFileDescriptor_same input connection
  have setUp := setUpChannels_output input (checkFileDescriptor input connection)
  simp only [iterate]
  split
  · exact stands
  · rename_i goesOn
    split
    · exact stands
    · rename_i handles
      split
      · exact read
      · rename_i readable
        have fails : setUpSucceeds input (checkFileDescriptor input connection) ≠ true := by
          intro succeeds
          have succeedsBefore : setUpSucceeds input connection = true := by
            rw [setUpSucceeds, ← control, ← context]
            exact succeeds
          have readableBefore : input.fileDescriptorOk = true := by simpa using readable
          have reaches : reachesStreaming input connection = true := by
            simp [reachesStreaming, goesOn, handles, readableBefore, succeedsBefore]
          rw [reaches] at misses
          cases misses
        rw [if_neg fails] at setUp
        split
        · exact (setUp.trans (finishIteration_same input _)).denial read
        · exact setUp.denial read

/-! ### Runs -/

theorem DenialStands.honoured {connection : Connection} (stands : DenialStands connection) :
    DenialHonoured connection := by
  intro _ isDenied
  have disabled := stands isDenied
  refine ⟨disabled, ?_⟩
  intro frame
  simp [VideoStream.queueFrame, disabled]

theorem queueFrame_enabled (session : State) (frame : VideoFrame) (d : VideoStream.Private) :
    (VideoStream.queueFrame session frame d).enabled = d.enabled := by
  unfold VideoStream.queueFrame
  split <;> rfl

theorem denialStands_step {connection : Connection} {action : Action}
    (stands : DenialStands connection) (allows : AllowsSetup connection action) :
    DenialStands (step connection action) := by
  cases action with
  | queueFrame frame =>
      intro isDenied
      exact (queueFrame_enabled _ _ _).trans (stands isDenied)
  | iteration input =>
      simp only [step]
      split
      · exact stands
      · rename_i closed
        have open' : connection.state ≠ .closed := by simpa using closed
        have next : DenialStands (iterate input connection).2 := by
          cases reaches : reachesStreaming input connection with
          | false => exact iterate_of_not_reaching reaches stands
          | true =>
              intro isDenied
              obtain ⟨_, last, _⟩ := iterate_of_reaching reaches
              exact absurd (last.symm.trans isDenied) (allows open' reaches)
        split
        · exact next
        · exact next

theorem dishonoured_of_setup {connection : Connection} {action : Action}
    (overrides : ¬AllowsSetup connection action) : ¬DenialHonoured (step connection action) := by
  cases action with
  | queueFrame frame => exact absurd trivial overrides
  | iteration input =>
      simp only [AllowsSetup, Classical.not_imp, not_not] at overrides
      obtain ⟨isOpen, reaches, isDenied⟩ := overrides
      obtain ⟨enabled, last, started⟩ := iterate_of_reaching reaches
      have after : (step connection (.iteration input)).videoStream.enabled = true ∧
          denied (step connection (.iteration input)) ∧
          (step connection (.iteration input)).streamingStarted = true := by
        simp only [step, beq_eq_false_iff_ne.mpr isOpen, Bool.false_eq_true, if_false]
        split <;> exact ⟨enabled, last.trans isDenied, started⟩
      intro honoured
      obtain ⟨disabled, _⟩ := honoured after.2.2 after.2.1
      rw [after.1] at disabled
      cases disabled

/-- A denial is honoured throughout a run exactly when no iteration gets through
the channel setup while it stands. -/
theorem denialHonoured_iff (actions : List Action) :
    StepRun.Always step DenialHonoured {} actions ↔ StepRun.Along step AllowsSetup {} actions :=
  StepRun.always_iff_along DenialStands actions nofun
    (fun _ _ stands allows => denialStands_step stands allows)
    (fun _ stands => stands.honoured)
    (fun _ _ _ overrides => dishonoured_of_setup overrides)

/-- A denial in the iteration after streaming started. -/
theorem denialHonoured_fails :
    ¬StepRun.Always step DenialHonoured {}
      [.iteration {}, .iteration { suppressOutputs := [0] }] := by
  intro always
  have disabled := (always.at_end rfl rfl).1
  cases disabled

end RdpConnection

end KRdp
