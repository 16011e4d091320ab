/-
Frames of an old layout against the published topology.

The queue is emptied when the layout changes, but the submission thread may
already hold a frame, or take one before the queue is emptied.  Such a frame is
compared with the new layout by its size only.  The theorem says that a frame is
sent under a topology newer than itself exactly when a reset that it triggered
itself completed on a newer layout.
-/

import KRdp.VideoStream.LayoutUpdates

namespace KRdp

namespace VideoStream

/-- Not a frame from before a layout after that layout was published. -/
def Event.Fresh : Event → Event → Prop
  | .published layoutNumber _ _, .submitted frameNumber => layoutNumber ≤ frameNumber
  | _, _ => True

instance decidableFresh : (earlier later : Event) → Decidable (earlier.Fresh later)
  | .published layoutNumber _ _, .submitted frameNumber =>
      inferInstanceAs (Decidable (layoutNumber ≤ frameNumber))
  | .published _ _ _, .published _ _ _ => inferInstanceAs (Decidable True)
  | .submitted _, _ => inferInstanceAs (Decidable True)

/-- No submitted frame was queued before the change to a layout that was
published before the submission. -/
def NoStaleFrame (world : World) : Prop := world.events.Pairwise Event.Fresh

instance decidableNoStaleFrame (world : World) : Decidable (NoStaleFrame world) :=
  inferInstanceAs (Decidable (List.Pairwise Event.Fresh world.events))

/-- When a completed reset is acknowledged, it copied the layout that was
current when the frame in hand was queued. -/
def SendsOwnTopology (world : World) : Action → Prop
  | .submissionStep => ∀ frame copied, world.submission = .emitted frame copied →
      world.frameNumber = world.copyNumber
  | _ => True

def PublishedUpTo (number : Nat) (events : List Event) : Prop :=
  ∀ event ∈ events, event.Fresh (.submitted number)

/-- Numbers grow along the queue, from the frame in hand to the current layout. -/
structure Numbered (world : World) : Prop where
  counted : world.queueNumbers.length = world.stream.frameQueue.length
  sorted : world.queueNumbers.Pairwise (· ≤ ·)
  queued : ∀ number ∈ world.queueNumbers, number ≤ world.layoutNumber
  hand : world.submission ≠ .idle → world.frameNumber ≤ world.layoutNumber ∧
    ∀ number ∈ world.queueNumbers, world.frameNumber ≤ number
  published : PublishedUpTo world.layoutNumber world.events

/-- What the submission thread knows about the published layouts at each of its
positions. -/
structure Guarded (world : World) : Prop extends Numbered world where
  fresh : NoStaleFrame world
  pending : world.submission.InReset → world.stream.pendingReset = true
  copied : ∀ frame layout,
    world.submission = .copied frame layout ∨ world.submission = .emitted frame layout →
      world.frameNumber ≤ world.copyNumber ∧ world.copyNumber ≤ world.layoutNumber ∧
        PublishedUpTo world.copyNumber world.events
  emitted : ∀ frame layout, world.submission = .emitted frame layout →
    (∃ pdu, .published world.copyNumber frame pdu ∈ world.events) ∧
      (surfaceFor world.stream frame).isSome = true
  settled : world.stream.pendingReset = false →
    (world.submission ≠ .idle → PublishedUpTo world.frameNumber world.events) ∧
      ∀ number ∈ world.queueNumbers, PublishedUpTo number world.events
  sending : ∀ frame, world.submission = .sending frame →
    PublishedUpTo world.frameNumber world.events

/-! ### Events -/

theorem PublishedUpTo.mono {small large : Nat} {events : List Event}
    (bounded : PublishedUpTo small events) (le : small ≤ large) :
    PublishedUpTo large events := by
  intro event member
  have fresh := bounded event member
  cases event with
  | published layoutNumber frame pdu => exact Nat.le_trans fresh le
  | submitted frameNumber => trivial

theorem PublishedUpTo.append {number : Nat} {events : List Event} {event : Event}
    (bounded : PublishedUpTo number events) (fresh : event.Fresh (.submitted number)) :
    PublishedUpTo number (events ++ [event]) := by
  intro other member
  rcases List.mem_append.mp member with old | new
  · exact bounded other old
  · rw [List.mem_singleton.mp new]
    exact fresh

theorem fresh_append_published {events : List Event} (fresh : events.Pairwise Event.Fresh)
    (layoutNumber : Nat) (frame : VideoFrame) (pdu : ResetGraphicsPdu) :
    List.Pairwise Event.Fresh (events ++ [.published layoutNumber frame pdu]) := by
  rw [List.pairwise_append]
  refine ⟨fresh, List.pairwise_singleton _ _, ?_⟩
  intro earlier _ later member
  rw [List.mem_singleton.mp member]
  cases earlier <;> trivial

theorem fresh_append_submitted {events : List Event} {frameNumber : Nat} :
    List.Pairwise Event.Fresh (events ++ [.submitted frameNumber]) ↔
      events.Pairwise Event.Fresh ∧ PublishedUpTo frameNumber events := by
  rw [List.pairwise_append]
  constructor
  · rintro ⟨fresh, _, cross⟩
    exact ⟨fresh, fun event member => cross event member _ (List.mem_singleton_self _)⟩
  · rintro ⟨fresh, bounded⟩
    refine ⟨fresh, List.pairwise_singleton _ _, ?_⟩
    intro earlier earlierMember later member
    rw [List.mem_singleton.mp member]
    exact bounded earlier earlierMember

/-! ### Steps -/

theorem guarded_start : Guarded World.start :=
  { counted := rfl
    sorted := .nil
    queued := by simp [World.start]
    hand := fun busy => absurd rfl busy
    published := by simp [World.start, PublishedUpTo]
    fresh := .nil
    pending := by simp [World.start]
    copied := by simp [World.start]
    emitted := by simp [World.start]
    settled := by simp [World.start]
    sending := by simp [World.start] }

theorem guarded_takeFrame {world : World} (guarded : Guarded world)
    (idle : world.submission = .idle) : Guarded (takeFrame world) := by
  rw [takeFrame]
  split
  · exact guarded
  · rename_i frame rest queue
    have counted := guarded.counted
    have sorted := guarded.sorted
    have queued := guarded.queued
    have settled := guarded.settled
    rw [queue] at counted
    obtain ⟨number, numbers, numbersEq⟩ := List.exists_cons_of_length_eq_add_one counted
    rw [numbersEq] at counted sorted queued settled ⊢
    obtain ⟨first, later⟩ := List.pairwise_cons.mp sorted
    have tailQueued (other : Nat) (member : other ∈ numbers) : other ≤ world.layoutNumber :=
      queued other (List.mem_cons_of_mem number member)
    have tailCounted : numbers.length = rest.length := Nat.succ.inj counted
    split
    · exact
        { counted := tailCounted
          sorted := later
          queued := tailQueued
          hand := fun busy => absurd idle busy
          published := guarded.published
          fresh := guarded.fresh
          pending := guarded.pending
          copied := guarded.copied
          emitted := guarded.emitted
          settled := fun complete => ⟨fun busy => absurd idle busy, fun other member =>
            (settled complete).2 other (List.mem_cons_of_mem number member)⟩
          sending := guarded.sending }
    · exact
        { counted := tailCounted
          sorted := later
          queued := tailQueued
          hand := fun _ => ⟨queued number List.mem_cons_self, first⟩
          published := guarded.published
          fresh := guarded.fresh
          pending := by simp [Submission.InReset]
          copied := by simp
          emitted := by simp
          settled := fun complete =>
            ⟨fun _ => (settled complete).2 number List.mem_cons_self, fun other member =>
              (settled complete).2 other (List.mem_cons_of_mem number member)⟩
          sending := by simp }

theorem guarded_copied (channel : Channel) {world : World} (guarded : Guarded world)
    {frame : VideoFrame} {copied : DisplayMonitorList}
    (position : world.submission = .copied frame copied) :
    Guarded (submissionStep channel world) := by
  have pending : (performResetTo channel copied frame world.stream).2.pendingReset = true :=
    (performResetTo_untouched channel copied frame world.stream).pendingReset.trans
      (guarded.pending (by rw [position]; trivial))
  have counted : world.queueNumbers.length =
      (performResetTo channel copied frame world.stream).2.frameQueue.length := by
    rw [(performResetTo_untouched channel copied frame world.stream).frameQueue]
    exact guarded.counted
  obtain ⟨frameLe, copyLe, bounded⟩ := guarded.copied frame copied (.inl position)
  have busy := guarded.hand (by rw [position]; simp)
  have observed := observe_reset channel world frame copied
  have events : PublishedUpTo world.copyNumber
        (world.observe frame (performResetTo channel copied frame world.stream).2).events ∧
      List.Pairwise Event.Fresh
        (world.observe frame (performResetTo channel copied frame world.stream).2).events := by
    rcases observed with published | ⟨_, unchanged⟩
    · rw [published]
      exact ⟨bounded.append (Nat.le_refl world.copyNumber),
        fresh_append_published guarded.fresh _ _ _⟩
    · rw [unchanged]
      exact ⟨bounded, guarded.fresh⟩
  simp only [submissionStep, position]
  exact
    { counted := counted
      sorted := guarded.sorted
      queued := guarded.queued
      hand := fun _ => busy
      published := events.1.mono copyLe
      fresh := events.2
      pending := fun _ => pending
      copied := fun _ _ _ => ⟨frameLe, copyLe, events.1⟩
      emitted := by
        intro other otherCopied emitted
        split at emitted
        · rename_i completed
          obtain ⟨rfl, rfl⟩ := Submission.emitted.inj emitted
          refine ⟨?_, performResetTo_surfaceFor completed⟩
          rcases observed with published | ⟨failed, _⟩
          · refine ⟨resetGraphicsPdu (resetLayout copied frame), ?_⟩
            change _ ∈ (world.observe frame _).events
            rw [published]
            exact List.mem_append_right _ (List.mem_singleton_self _)
          · rw [failed] at completed
            cases completed
        · cases emitted
      settled := by
        intro complete
        exact absurd (pending.symm.trans complete) (by decide)
      sending := by
        intro other sending
        split at sending <;> cases sending }

theorem guarded_sending (channel : Channel) {world : World} (guarded : Guarded world)
    {frame : VideoFrame} (position : world.submission = .sending frame) :
    Guarded (submissionStep channel world) := by
  have untouched := submitFrame_untouched channel frame world.stream
  have bounded := guarded.sending frame position
  have busy := guarded.hand (by rw [position]; simp)
  have extend {number : Nat} (upTo : PublishedUpTo number world.events) : PublishedUpTo number
      (world.observe frame (submitFrame channel frame world.stream)).events := by
    rw [observe_submit]
    split
    · exact upTo.append trivial
    · rwa [List.append_nil]
  have fresh : List.Pairwise Event.Fresh
      (world.observe frame (submitFrame channel frame world.stream)).events := by
    rw [observe_submit]
    split
    · exact fresh_append_submitted.mpr ⟨guarded.fresh, bounded⟩
    · rw [List.append_nil]
      exact guarded.fresh
  simp only [submissionStep, position]
  exact
    { counted := guarded.counted.trans (congrArg List.length untouched.frameQueue.symm)
      sorted := guarded.sorted
      queued := guarded.queued
      hand := fun busy => absurd rfl busy
      published := extend guarded.published
      fresh := fresh
      pending := by simp [Submission.InReset]
      copied := by simp
      emitted := by simp
      settled := fun _ => ⟨fun busy => absurd rfl busy,
        fun number member => extend (bounded.mono (busy.2 number member))⟩
      sending := by simp }

theorem guarded_submissionStep (channel : Channel) {world : World} (guarded : Guarded world)
    (own : SendsOwnTopology world .submissionStep) : Guarded (submissionStep channel world) := by
  cases position : world.submission with
  | idle =>
      simp only [submissionStep, position]
      exact guarded_takeFrame guarded position
  | taken frame =>
      have busy := guarded.hand (by rw [position]; simp)
      have held : world.stream.pendingReset = false →
          PublishedUpTo world.frameNumber world.events :=
        fun complete => (guarded.settled complete).1 (by rw [position]; simp)
      simp only [submissionStep, position]
      split
      · split
        · rename_i pending
          exact
            { guarded with
              hand := fun _ => busy
              pending := fun _ => pending
              copied := by simp
              emitted := by simp
              settled := fun complete => ⟨fun _ => held complete, (guarded.settled complete).2⟩
              sending := by simp }
        · rename_i complete
          exact
            { guarded with
              hand := fun _ => busy
              pending := by simp [Submission.InReset]
              copied := by simp
              emitted := by simp
              settled := fun complete => ⟨fun _ => held complete, (guarded.settled complete).2⟩
              sending := fun _ _ => held (Bool.eq_false_iff.mpr complete) }
      · exact
          { guarded with
            hand := fun busy => absurd rfl busy
            pending := by simp [Submission.InReset]
            copied := by simp
            emitted := by simp
            settled := fun complete =>
              ⟨fun busy => absurd rfl busy, (guarded.settled complete).2⟩
            sending := by simp }
  | resetting frame =>
      have busy := guarded.hand (by rw [position]; simp)
      have pending := guarded.pending (by rw [position]; trivial)
      simp only [submissionStep, position]
      exact
        { guarded with
          hand := fun _ => busy
          pending := fun _ => pending
          copied := fun _ _ _ => ⟨busy.1, Nat.le_refl _, guarded.published⟩
          emitted := by simp
          settled := fun complete => absurd (pending.symm.trans complete) (by decide)
          sending := by simp }
  | copied frame copied => exact guarded_copied channel guarded position
  | emitted frame copied =>
      have busy := guarded.hand (by rw [position]; simp)
      have bounded : PublishedUpTo world.frameNumber world.events := by
        rw [own frame copied position]
        exact (guarded.copied frame copied (.inr position)).2.2
      simp only [submissionStep, position]
      exact
        { guarded with
          hand := fun _ => busy
          pending := by simp [Submission.InReset]
          copied := by simp
          emitted := by simp
          settled := fun _ =>
            ⟨fun _ => bounded, fun number member => bounded.mono (busy.2 number member)⟩
          sending := fun _ _ => bounded }
  | sending frame => exact guarded_sending channel guarded position

theorem guarded_queueFrame (session : RdpConnection.State) (frame : VideoFrame) {world : World}
    (guarded : Guarded world) (channel : Channel) :
    Guarded (step channel world (.queueFrame session frame)) := by
  simp only [step, queueFrame]
  split
  · exact guarded
  · have grown (number : Nat)
        (member : number ∈ world.queueNumbers ++ [world.layoutNumber]) :
        number ∈ world.queueNumbers ∨ number = world.layoutNumber :=
      (List.mem_append.mp member).imp_right List.mem_singleton.mp
    exact
      { guarded with
        counted := by
          rw [List.length_append, List.length_append, guarded.counted]
          rfl
        sorted := by
          rw [List.pairwise_append]
          refine ⟨guarded.sorted, List.pairwise_singleton _ _, ?_⟩
          intro earlier earlierMember later member
          rw [List.mem_singleton.mp member]
          exact guarded.queued earlier earlierMember
        queued := by
          intro number member
          rcases grown number member with old | rfl
          · exact guarded.queued number old
          · exact Nat.le_refl _
        hand := by
          intro busy
          refine ⟨(guarded.hand busy).1, ?_⟩
          intro number member
          rcases grown number member with old | rfl
          · exact (guarded.hand busy).2 number old
          · exact (guarded.hand busy).1
        settled := by
          intro complete
          refine ⟨(guarded.settled complete).1, ?_⟩
          intro number member
          rcases grown number member with old | rfl
          · exact (guarded.settled complete).2 number old
          · exact guarded.published }

theorem guarded_setMonitorLayout (monitors : DisplayMonitorList) {world : World}
    (guarded : Guarded world) (channel : Channel) :
    Guarded (step channel world (.setMonitorLayout monitors)) := by
  simp only [step]
  split
  · exact guarded
  · exact
      { guarded with
        queued := fun number member => Nat.le_succ_of_le (guarded.queued number member)
        hand := fun busy =>
          ⟨Nat.le_succ_of_le (guarded.hand busy).1, (guarded.hand busy).2⟩
        published := guarded.published.mono (Nat.le_succ _)
        copied := by
          intro frame copied position
          obtain ⟨frameLe, copyLe, bounded⟩ := guarded.copied frame copied position
          exact ⟨frameLe, Nat.le_succ_of_le copyLe, bounded⟩ }

theorem guarded_callerStep {world : World} (guarded : Guarded world) :
    Guarded (callerStep world) := by
  rw [callerStep]
  split
  · exact guarded
  · exact
      { guarded with
        counted := rfl
        sorted := .nil
        queued := by simp
        hand := fun busy => ⟨(guarded.hand busy).1, by simp⟩
        settled := fun complete => ⟨(guarded.settled complete).1, by simp⟩ }
  · exact
      { guarded with
        pending := fun _ => rfl
        settled := by simp [reset] }

theorem guarded_step (channel : Channel) {world : World} {action : Action}
    (guarded : Guarded world) (own : SendsOwnTopology world action) :
    Guarded (step channel world action) := by
  cases action with
  | queueFrame session frame => exact guarded_queueFrame session frame guarded channel
  | setEnabled enabled =>
      simp only [step, setEnabled]
      split <;> exact { guarded with }
  | confirmCaps => exact { guarded with }
  | setMonitorLayout monitors => exact guarded_setMonitorLayout monitors guarded channel
  | callerStep => exact guarded_callerStep guarded
  | reset =>
      exact
        { guarded with
          pending := fun _ => rfl
          settled := by simp [step, reset] }
  | submissionStep => exact guarded_submissionStep channel guarded own

/-- The next step of the submission thread does not send a stale frame either. -/
theorem fresh_next (channel : Channel) {world : World} (guarded : Guarded world) :
    NoStaleFrame (step channel world .submissionStep) := by
  by_cases emitted : ∃ frame copied, world.submission = .emitted frame copied
  · obtain ⟨frame, copied, position⟩ := emitted
    simp only [step, submissionStep, position]
    exact guarded.fresh
  · have own : SendsOwnTopology world .submissionStep :=
      fun frame copied position => absurd ⟨frame, copied, position⟩ emitted
    exact (guarded_submissionStep channel guarded own).fresh

/-- After a reset on a newer layout, the frame in hand is sent in the next step. -/
theorem stale_of_foreign_topology (channel : Channel) {world : World} {action : Action}
    (guarded : Guarded world) (foreign : ¬SendsOwnTopology world action) :
    ¬NoStaleFrame (step channel (step channel world action) .submissionStep) := by
  cases action with
  | submissionStep =>
      simp only [SendsOwnTopology, not_forall] at foreign
      obtain ⟨frame, copied, position, different⟩ := foreign
      obtain ⟨⟨pdu, published⟩, listed⟩ := guarded.emitted frame copied position
      have frameLe := (guarded.copied frame copied (.inr position)).1
      intro fresh
      simp only [step, submissionStep, position] at fresh
      change List.Pairwise Event.Fresh (World.observe { world with
        stream := clearPendingReset world.stream
        submission := .sending frame } frame _).events at fresh
      rw [observe_submit] at fresh
      have stillListed : (surfaceFor (clearPendingReset world.stream) frame).isSome = true :=
        listed
      rw [if_pos stillListed, fresh_append_submitted] at fresh
      have newer : world.copyNumber ≤ world.frameNumber := fresh.2 _ published
      exact different (Nat.le_antisymm frameLe newer)
  | queueFrame _ _ => exact absurd trivial foreign
  | setEnabled _ => exact absurd trivial foreign
  | confirmCaps => exact absurd trivial foreign
  | setMonitorLayout _ => exact absurd trivial foreign
  | callerStep => exact absurd trivial foreign
  | reset => exact absurd trivial foreign

/-- No frame of an old layout is sent, up to the next step of the submission
thread, exactly when every completed reset copied the layout that its own frame
was queued under. -/
theorem noStaleFrame_iff (channel : Channel) (actions : List Action) :
    StepRun.Always (step channel)
        (fun world => NoStaleFrame world ∧ NoStaleFrame (step channel world .submissionStep))
        World.start actions ↔
      StepRun.Along (step channel) SendsOwnTopology World.start actions :=
  StepRun.always_iff_along Guarded actions guarded_start
    (fun _ _ guarded own => guarded_step channel guarded own)
    (fun _ guarded => ⟨guarded.fresh, fresh_next channel guarded⟩)
    (fun _ _ guarded foreign both => stale_of_foreign_topology channel guarded foreign both.2)

/-- Two monitors swap places while a frame is in hand: the frame of the old
arrangement is sent under the new one. -/
theorem noStaleFrame_fails :
    let size : QSize := { width := 640, height := 480 }
    let frame : VideoFrame := { size := size, outputIndex := 0, data := [1] }
    let monitor (x : Int32) : DisplayMonitor :=
      { position := { x := x, y := 0 }, size := size, primary := x == 0 }
    ¬StepRun.Always (step reliableChannel) NoStaleFrame World.start
      [.confirmCaps, .setEnabled true,
        .setMonitorLayout [monitor 0, monitor 640], .callerStep, .callerStep,
        .queueFrame .streaming frame, .submissionStep,
        .setMonitorLayout [monitor 640, monitor 0], .callerStep, .callerStep,
        .submissionStep, .submissionStep, .submissionStep, .submissionStep,
        .submissionStep] := by
  decide

end VideoStream

end KRdp
