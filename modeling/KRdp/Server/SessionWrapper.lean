/-
A session that follows the stream of its connection.

The stream is enabled and disabled on the thread of the connection, and the wrapper
hears of it through the event queue of the main thread; by then the stream may have
changed again, so the wrapper looks at it.  The frame rate changes on the main thread,
and the wrapper passes it on at once.
-/

import KRdp.Library.Announce
import KRdp.Session.StreamCreation
import KRdp.Session.Streaming
import KRdp.VideoStream.FrameRate

namespace KRdp

namespace SessionWrapper

open AbstractSession (EncoderConfiguration Operation Replayed settings)
open VideoStream (FrameRateControl)
open NetworkDetection (Time)

/-- The video stream is the one object that requests frames of the session. -/
structure World where
  streamEnabled : Bool := false
  control : FrameRateControl := {}
  /-- Notifications of `enabledChanged` in the event queue. -/
  queued : Nat := 0
  session : AbstractSession.Private Unit := {}

inductive Action where
  | setEnabled (enabled : Bool)
  | onVideoStreamEnabledChanged
  | updateRequestedFrameRate (averageRtt now : Time)
  | setVideoQuality (quality : UInt8)
  | sendEvent
  | started
  deriving DecidableEq, Repr

def setEnabled (enabled : Bool) (world : World) : World :=
  if world.streamEnabled = enabled then world
  else
    { world with
      streamEnabled := enabled
      queued := world.queued + 1 }

/-- The operation that the wrapper chooses when it hears of a change. -/
def enabledOperation (streamEnabled : Bool) : Operation Unit :=
  if streamEnabled then .requestStreamingEnable () else .requestStreamingDisable ()

def World.perform (defaults : EncoderConfiguration) (operation : Operation Unit) (world : World) :
    World :=
  { world with session := AbstractSession.perform defaults world.session operation }

def onVideoStreamEnabledChanged (defaults : EncoderConfiguration) (world : World) : World :=
  if world.queued = 0 then world
  else
    { world with queued := world.queued - 1 }.perform defaults
      (enabledOperation world.streamEnabled)

/-- `requestedFrameRateChanged` is emitted if the rate is another one. -/
def updateRequestedFrameRate (defaults : EncoderConfiguration) (averageRtt now : Time)
    (world : World) : World :=
  let control := VideoStream.updateRequestedFrameRate averageRtt now world.control
  if control.changes.length = world.control.changes.length then { world with control := control }
  else
    { world with control := control }.perform defaults
      (.setVideoFrameRate control.requestedFrameRate.toUInt32)

def step (defaults : EncoderConfiguration) (world : World) : Action → World
  | .setEnabled enabled => setEnabled enabled world
  | .onVideoStreamEnabledChanged => onVideoStreamEnabledChanged defaults world
  | .updateRequestedFrameRate averageRtt now =>
      updateRequestedFrameRate defaults averageRtt now world
  | .setVideoQuality quality => world.perform defaults (.setVideoQuality quality)
  | .sendEvent => world.perform defaults .stream
  | .started => world.perform defaults .started

/-- The encoder works if the session has started and the stream is enabled. -/
def ActiveFollows (world : World) : Prop :=
  AbstractSession.streamingEnabled world.session = (world.session.started && world.streamEnabled)

/-- The encoder runs at the rate that the stream asks for. -/
def RateFollows (world : World) : Prop :=
  ∀ encoded, world.session.encodedStream = some encoded →
    encoded.maxFramerate = ⟨world.control.requestedFrameRate.toUInt32, 1⟩

/-! ### The requests follow the stream -/

def requested (world : World) : Bool := decide (() ∈ world.session.enableRequests)

/-- The wrapper reads the state of the stream whenever it is notified of a change. -/
def view (world : World) : Announce Bool :=
  { shared := some world.streamEnabled
    owed := world.queued != 0
    held := some (requested world) }

section Steps

variable {defaults : EncoderConfiguration} {world : World}

theorem requested_perform {world : World} (gated : AbstractSession.Gated world.session)
    (operation : Operation Unit) :
    requested (world.perform defaults operation) =
      (operation.request ()).getD (requested world) :=
  AbstractSession.requested_perform defaults () world.session operation gated

/-- An operation that is no request leaves the view alone. -/
theorem view_perform (gated : AbstractSession.Gated world.session) {operation : Operation Unit}
    (none : operation.request () = none) :
    view (world.perform defaults operation) = view world := by
  have same := @requested_perform defaults world gated operation
  rw [none, Option.getD_none] at same
  rw [view, same]
  rfl

theorem view_updateRequestedFrameRate (gated : AbstractSession.Gated world.session)
    (averageRtt now : Time) :
    view (updateRequestedFrameRate defaults averageRtt now world) = view world := by
  simp only [updateRequestedFrameRate]
  split
  · rfl
  · refine (view_perform ?_ rfl).trans rfl
    exact gated

theorem step_simulates (gated : AbstractSession.Gated world.session) (action : Action) :
    Announce.Step (view world) (view (step defaults world action)) := by
  cases action with
  | setEnabled enabled =>
      simp only [step, setEnabled]
      split
      · exact .idle _
      · exact Announce.Step.change (view world) (.inr (.inl rfl))
  | onVideoStreamEnabledChanged =>
      simp only [step, onVideoStreamEnabledChanged]
      split
      · exact .idle _
      · have read : requested (World.perform defaults (enabledOperation world.streamEnabled)
            { world with queued := world.queued - 1 }) = world.streamEnabled := by
          refine (requested_perform ?_ (enabledOperation world.streamEnabled)).trans ?_
          · exact gated
          · cases world.streamEnabled <;> rfl
        have after : view (World.perform defaults (enabledOperation world.streamEnabled)
            { world with queued := world.queued - 1 }) =
              { view world with
                owed := world.queued - 1 != 0
                held := (view world).shared } := by
          rw [view, read]
          rfl
        rw [after]
        exact .read (view world) _ rfl
  | updateRequestedFrameRate averageRtt now =>
      simp only [step, view_updateRequestedFrameRate gated]
      exact .idle _
  | setVideoQuality quality =>
      have same := @view_perform defaults world gated (.setVideoQuality quality) rfl
      rw [step, same]
      exact .idle _
  | sendEvent =>
      have same := @view_perform defaults world gated .stream rfl
      rw [step, same]
      exact .idle _
  | started =>
      have same := @view_perform defaults world gated .started rfl
      rw [step, same]
      exact .idle _

end Steps

/-! ### The invariant -/

/-- What the session has been told is what the stream asks for. -/
structure Tied (defaults : EncoderConfiguration) (world : World) : Prop where
  gated : AbstractSession.Gated world.session
  told : ∃ quality, Replayed defaults world.control.requestedFrameRate.toUInt32 quality
    (settings world.session)

theorem Tied.start (defaults : EncoderConfiguration) : Tied defaults {} :=
  ⟨AbstractSession.Gated.initial, none, AbstractSession.Replayed.initial⟩

section Invariant

variable {defaults : EncoderConfiguration} {world : World}

theorem Tied.perform (tied : Tied defaults world) (operation : Operation Unit)
    (rate : operation.framerate.getD world.control.requestedFrameRate.toUInt32 =
      world.control.requestedFrameRate.toUInt32) :
    Tied defaults (world.perform defaults operation) := by
  obtain ⟨quality, told⟩ := tied.told
  have after := told.after operation
  rw [rate, ← AbstractSession.settings_perform] at after
  exact ⟨tied.gated.perform defaults world.session operation, _, after⟩

/-- The rate changes only together with a report. -/
theorem requestedFrameRate_of_silent {averageRtt now : Time} {control : FrameRateControl}
    (silent : (VideoStream.updateRequestedFrameRate averageRtt now control).changes.length =
      control.changes.length) :
    (VideoStream.updateRequestedFrameRate averageRtt now control).requestedFrameRate =
      control.requestedFrameRate := by
  unfold VideoStream.updateRequestedFrameRate at silent ⊢
  dsimp only at silent ⊢
  split at silent
  · rename_i early
    rw [if_pos early]
    rfl
  · rename_i late
    rw [if_neg late]
    unfold VideoStream.recomputeFrameRate VideoStream.requestFrameRate at silent ⊢
    dsimp only at silent ⊢
    split at silent
    · rw [List.length_append, List.length_singleton] at silent
      exact absurd silent (Nat.succ_ne_self _)
    · rename_i same
      rw [if_neg same]
      rfl

theorem Tied.updateRequestedFrameRate (tied : Tied defaults world) (averageRtt now : Time) :
    Tied defaults (updateRequestedFrameRate defaults averageRtt now world) := by
  obtain ⟨quality, told⟩ := tied.told
  simp only [SessionWrapper.updateRequestedFrameRate]
  split
  · rename_i silent
    refine ⟨tied.gated, quality, ?_⟩
    simp only [requestedFrameRate_of_silent silent]
    exact told
  · have after (framerate : UInt32) := told.after (.setVideoFrameRate framerate : Operation Unit)
    simp only [← AbstractSession.settings_perform] at after
    refine ⟨?_, _, after _⟩
    exact tied.gated.perform defaults world.session (.setVideoFrameRate _)

theorem Tied.step (tied : Tied defaults world) (action : Action) :
    Tied defaults (step defaults world action) := by
  cases action with
  | setEnabled enabled =>
      simp only [SessionWrapper.step, setEnabled]
      split
      · exact tied
      · exact ⟨tied.gated, tied.told⟩
  | onVideoStreamEnabledChanged =>
      simp only [SessionWrapper.step, onVideoStreamEnabledChanged]
      split
      · exact tied
      · have delivered : Tied defaults { world with queued := world.queued - 1 } :=
          ⟨tied.gated, tied.told⟩
        refine delivered.perform (enabledOperation world.streamEnabled) ?_
        cases world.streamEnabled <;> rfl
  | updateRequestedFrameRate averageRtt now => exact tied.updateRequestedFrameRate averageRtt now
  | setVideoQuality quality => exact tied.perform (.setVideoQuality quality) rfl
  | sendEvent => exact tied.perform .stream rfl
  | started => exact tied.perform .started rfl

theorem Tied.rateFollows (tied : Tied defaults world) : RateFollows world := by
  obtain ⟨quality, told⟩ := tied.told
  intro encoded found
  refine (told.replayed encoded.toEncoderConfiguration ?_).1
  rw [settings, found]
  rfl

theorem Tied.activeFollows (tied : Tied defaults world)
    (same : requested world = world.streamEnabled) :
    ActiveFollows world := by
  have enabled : world.session.enabled = world.streamEnabled := by
    rw [← same, requested, Bool.eq_iff_iff, decide_eq_true_iff, tied.gated.enabled]
    constructor
    · intro requested
      obtain ⟨requester, member⟩ := requested
      exact member
    · intro member
      exact ⟨(), member⟩
  rw [ActiveFollows, AbstractSession.streamingEnabled]
  cases exists_ : world.session.encodedStream with
  | some encoded =>
      rw [← enabled]
      exact tied.gated.active encoded exists_
  | none =>
      cases started : world.session.started with
      | false => rfl
      | true =>
          have some := tied.gated.exists_of_started started
          rw [exists_] at some
          cases some

end Invariant

/-- The encoder has the rate of the stream in every state, and once the notifications
are delivered it works exactly if the session has started and the stream is enabled;
delivering them is all it takes. -/
theorem session_follows (defaults : EncoderConfiguration) (actions : List Action) :
    StepRun.Always (step defaults)
        (fun world => RateFollows world ∧ (world.queued = 0 → ActiveFollows world)) {} actions ∧
      ∃ deliveries : List Action, (∀ action ∈ deliveries, action = .onVideoStreamEnabledChanged) ∧
        (StepRun.run (step defaults) {} (actions ++ deliveries)).queued = 0 := by
  constructor
  · refine Announce.always_of_fresh view (Tied defaults) (fun _ action tied => tied.step action)
      (fun _ action tied => step_simulates tied.gated action) ?_ (.start defaults) ?_ actions
    · intro world tied fresh
      refine ⟨tied.rateFollows, ?_⟩
      intro delivered
      have settled : (view world).Settled := ⟨by simp [view, delivered], rfl⟩
      exact tied.activeFollows (Option.some.inj (fresh.held settled rfl))
    · intro enabled shared
      right
      exact shared
  · have delivers : ∀ world : World, world.queued ≠ 0 → ∃ action : Action,
        action = .onVideoStreamEnabledChanged ∧ (step defaults world action).queued <
          world.queued := by
      intro world waiting
      refine ⟨_, rfl, ?_⟩
      rw [step, onVideoStreamEnabledChanged, if_neg waiting]
      exact Nat.sub_lt (Nat.pos_of_ne_zero waiting) Nat.one_pos
    obtain ⟨deliveries, only, delivered⟩ := StepRun.exists_run_of_measure
      (fun world => world.queued = 0) World.queued delivers (StepRun.run (step defaults) {} actions)
    exact ⟨deliveries, only, by rwa [StepRun.run_append]⟩

end SessionWrapper

end KRdp
