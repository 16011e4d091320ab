/-
Layout updates against the submission thread.

`performReset` works on a copy of the layout, and `sendFrame` clears the pending
flag only after it.  An update that falls in between sets a flag that is already
set, and the clear then wipes it out together with the old one.  The theorem
says that this is the only way in which an update is lost.
-/

import KRdp.VideoStream.Submission

namespace KRdp

namespace VideoStream

def asPublished : Event → Option (VideoFrame × ResetGraphicsPdu)
  | .published _ frame pdu => some (frame, pdu)
  | .submitted _ => none

/-- The topology last published, with the frame that it was published for. -/
def lastPublished (events : List Event) : Option (VideoFrame × ResetGraphicsPdu) :=
  (events.filterMap asPublished).getLast?

/-- With no update under way and no reset pending, the client has the topology
of the current layout. -/
def NoLostUpdate (world : World) : Prop :=
  world.caller = .idle → world.stream.pendingReset = false →
    ∃ published ∈ lastPublished world.events,
      published.2 = resetGraphicsPdu (resetLayout world.stream.monitorLayout published.1)

instance decidableNoLostUpdate (world : World) : Decidable (NoLostUpdate world) :=
  inferInstanceAs (Decidable (_ → _ → ∃ _ ∈ lastPublished world.events, _))

/-- When the flag is cleared, either an update is still under way, or the copied
layout has the topology of the current one. -/
def ClearsCurrent (world : World) : Action → Prop
  | .submissionStep => ∀ frame copied, world.submission = .emitted frame copied →
      world.caller ≠ .idle ∨ resetGraphicsPdu (resetLayout copied frame) =
        resetGraphicsPdu (resetLayout world.stream.monitorLayout frame)
  | _ => True

/-- From the load of the flag to its clear. -/
def Submission.InReset : Submission → Prop
  | .resetting _ => True
  | .copied _ _ => True
  | .emitted _ _ => True
  | _ => False

structure Tracked (world : World) : Prop where
  upToDate : NoLostUpdate world
  pending : world.submission.InReset → world.stream.pendingReset = true
  published : ∀ frame copied, world.submission = .emitted frame copied →
    lastPublished world.events = some (frame, resetGraphicsPdu (resetLayout copied frame))

theorem lastPublished_published (events : List Event) (layoutNumber : Nat) (frame : VideoFrame)
    (pdu : ResetGraphicsPdu) :
    lastPublished (events ++ [.published layoutNumber frame pdu]) = some (frame, pdu) := by
  simp [lastPublished, asPublished]

theorem lastPublished_submitted (events : List Event) (frameNumber : Nat) :
    lastPublished (events ++ [.submitted frameNumber]) = lastPublished events := by
  simp [lastPublished, asPublished]

theorem Tracked.of_pending {world : World} (pending : world.stream.pendingReset = true)
    (published : ∀ frame copied, world.submission = .emitted frame copied →
      lastPublished world.events = some (frame, resetGraphicsPdu (resetLayout copied frame))) :
    Tracked world := by
  refine ⟨?_, fun _ => pending, published⟩
  intro _ complete
  rw [pending] at complete
  cases complete

theorem Tracked.of_outside {world : World} (upToDate : NoLostUpdate world)
    (outside : ¬world.submission.InReset) : Tracked world := by
  refine ⟨upToDate, fun inside => absurd inside outside, ?_⟩
  intro frame copied emitted
  rw [emitted] at outside
  exact absurd trivial outside

theorem tracked_start : Tracked World.start := .of_pending rfl (by simp [World.start])

theorem tracked_submissionStep (channel : Channel) {world : World} (tracked : Tracked world)
    (clears : ClearsCurrent world .submissionStep) : Tracked (submissionStep channel world) := by
  cases position : world.submission with
  | idle =>
      simp only [submissionStep, position, takeFrame]
      split
      · exact tracked
      · split
        · exact .of_outside tracked.upToDate id
        · exact .of_outside tracked.upToDate id
  | taken frame =>
      simp only [submissionStep, position]
      split
      · split
        · rename_i pending
          exact .of_pending pending (by simp)
        · exact .of_outside tracked.upToDate id
      · exact .of_outside tracked.upToDate id
  | resetting frame =>
      simp only [submissionStep, position]
      exact .of_pending (tracked.pending (by rw [position]; trivial)) (by simp)
  | copied frame copied =>
      have pending : (performResetTo channel copied frame world.stream).2.pendingReset = true :=
        (performResetTo_untouched channel copied frame world.stream).pendingReset.trans
          (tracked.pending (by rw [position]; trivial))
      simp only [submissionStep, position]
      refine .of_pending pending ?_
      intro other otherCopied emitted
      split at emitted
      · rename_i completed
        obtain ⟨rfl, rfl⟩ := Submission.emitted.inj emitted
        rcases observe_reset channel world frame copied with published | ⟨failed, _⟩
        · change lastPublished (world.observe frame _).events = _
          rw [published, lastPublished_published]
        · rw [failed] at completed
          cases completed
      · cases emitted
  | emitted frame copied =>
      simp only [submissionStep, position]
      refine .of_outside ?_ id
      intro idle _
      have current := (clears frame copied position).resolve_left (not_not_intro idle)
      exact ⟨_, tracked.published frame copied position, current⟩
  | sending frame =>
      simp only [submissionStep, position]
      refine .of_outside ?_ id
      have untouched := submitFrame_untouched channel frame world.stream
      intro idle complete
      obtain ⟨published, member, topology⟩ :=
        tracked.upToDate idle (untouched.pendingReset.symm.trans complete)
      refine ⟨published, ?_, ?_⟩
      · change published ∈ lastPublished (world.observe frame _).events
        rw [observe_submit]
        split
        · rw [lastPublished_submitted]
          exact member
        · rw [List.append_nil]
          exact member
      · change _ = resetGraphicsPdu (resetLayout
          (submitFrame channel frame world.stream).monitorLayout published.1)
        rw [untouched.monitorLayout]
        exact topology

theorem tracked_step (channel : Channel) {world : World} {action : Action}
    (tracked : Tracked world) (clears : ClearsCurrent world action) :
    Tracked (step channel world action) := by
  obtain ⟨upToDate, pending, published⟩ := tracked
  cases action with
  | queueFrame session frame =>
      have flag : (queueFrame session frame world.stream).pendingReset =
          world.stream.pendingReset := by
        unfold queueFrame
        split <;> rfl
      have layout : (queueFrame session frame world.stream).monitorLayout =
          world.stream.monitorLayout := by
        unfold queueFrame
        split <;> rfl
      simp only [step]
      exact ⟨by simpa only [NoLostUpdate, flag, layout] using upToDate,
        by simpa only [flag] using pending, published⟩
  | setEnabled enabled =>
      simp only [step, setEnabled]
      split <;> exact ⟨upToDate, pending, published⟩
  | confirmCaps => exact ⟨upToDate, pending, published⟩
  | setMonitorLayout monitors =>
      simp only [step]
      split
      · exact ⟨upToDate, pending, published⟩
      · exact ⟨by simp [NoLostUpdate], pending, published⟩
  | callerStep =>
      simp only [step, callerStep]
      split
      · exact ⟨upToDate, pending, published⟩
      · exact ⟨by simp [NoLostUpdate], pending, published⟩
      · exact .of_pending rfl published
  | reset => exact .of_pending rfl published
  | submissionStep => exact tracked_submissionStep channel ⟨upToDate, pending, published⟩ clears

/-- Clearing the flag over a copy of an older topology loses the update at once. -/
theorem lost_of_stale_clear (channel : Channel) {world : World} {action : Action}
    (tracked : Tracked world) (stale : ¬ClearsCurrent world action) :
    ¬NoLostUpdate (step channel world action) := by
  cases action with
  | submissionStep =>
      simp only [ClearsCurrent, not_forall, not_or, not_not] at stale
      obtain ⟨frame, copied, position, idle, different⟩ := stale
      intro upToDate
      simp only [step, submissionStep, position] at upToDate
      obtain ⟨published, member, topology⟩ := upToDate idle rfl
      have last : lastPublished world.events = some published := member
      rw [tracked.published frame copied position] at last
      obtain rfl := Option.some.inj last
      exact different topology
  | queueFrame _ _ => exact absurd trivial stale
  | setEnabled _ => exact absurd trivial stale
  | confirmCaps => exact absurd trivial stale
  | setMonitorLayout _ => exact absurd trivial stale
  | callerStep => exact absurd trivial stale
  | reset => exact absurd trivial stale

/-- In a run of the two threads no update is lost exactly when every clear of
the flag meets the current topology or an update under way. -/
theorem noLostUpdate_iff (channel : Channel) (actions : List Action) :
    StepRun.Always (step channel) NoLostUpdate World.start actions ↔
      StepRun.Along (step channel) ClearsCurrent World.start actions :=
  StepRun.always_iff_along Tracked actions tracked_start
    (fun _ _ tracked clears => tracked_step channel tracked clears)
    (fun _ tracked => tracked.upToDate)
    (fun _ _ tracked stale => lost_of_stale_clear channel tracked stale)

/-- A layout set between the copy and the clear: the client keeps the old
topology, and no reset is pending. -/
theorem noLostUpdate_fails :
    let frame : VideoFrame := { size := { width := 640, height := 480 }, data := [1] }
    let monitor : DisplayMonitor :=
      { position := QPoint.origin
        size := { width := 800, height := 600 }
        primary := true }
    ¬StepRun.Always (step reliableChannel) NoLostUpdate World.start
      [.confirmCaps, .setEnabled true, .queueFrame .streaming frame,
        .submissionStep, .submissionStep, .submissionStep,
        .setMonitorLayout [monitor], .callerStep, .callerStep,
        .submissionStep, .submissionStep] := by
  decide

end VideoStream

end KRdp
