/-
The settings of a session and of its encoder.

Requests for frames only change whether the stream is active.  What is left of a
session without them is a machine of its own, which the session runs.
-/

import KRdp.Session.AbstractSession

namespace KRdp

namespace AbstractSession

/-- What no request changes. -/
structure Settings where
  started : Bool := false
  frameRate : Option UInt32 := some 60
  quality : Option UInt8 := none
  encoder : Option EncoderConfiguration := none
  deriving DecidableEq, Repr

namespace Settings

/-- What a new encoder is told: not the limit of the pending frames. -/
def newEncoder (defaults : EncoderConfiguration) (stored : Settings) : EncoderConfiguration :=
  { maxFramerate := (stored.frameRate.map fun framerate => ⟨framerate, 1⟩).getD
      defaults.maxFramerate
    maxPendingFrames := defaults.maxPendingFrames
    quality := stored.quality.or defaults.quality }

def create (defaults : EncoderConfiguration) (stored : Settings) : Settings :=
  { stored with encoder := some (stored.encoder.getD (stored.newEncoder defaults)) }

def after {Requester : Type*} (defaults : EncoderConfiguration) (stored : Settings) :
    Operation Requester → Settings
  | .setVideoQuality quality =>
      { stored with
        quality := some quality
        encoder := stored.encoder.map fun encoder =>
          { encoder with quality := some quality } }
  | .setVideoFrameRate framerate =>
      { stored with
        frameRate := some framerate
        encoder := stored.encoder.map fun encoder =>
          { encoder with maxFramerate := ⟨framerate, 1⟩, maxPendingFrames := framerate } }
  | .stream => stored.create defaults
  | .started => { stored.create defaults with started := true }
  | .requestStreamingEnable _ => stored
  | .requestStreamingDisable _ => stored
  | .destroyed _ => stored

theorem started_after {Requester : Type*} (defaults : EncoderConfiguration)
    (stored : Settings) (operation : Operation Requester) :
    (stored.after defaults operation).started = true ↔
      stored.started = true ∨ operation = .started := by
  cases operation <;> simp [after, create]

end Settings

variable {Requester : Type*}

def settings (d : Private Requester) : Settings :=
  { started := d.started
    frameRate := d.frameRate
    quality := d.quality
    encoder := d.encodedStream.map EncodedStream.toEncoderConfiguration }

/-! ### The session runs the machine -/

theorem settings_newStream (defaults : EncoderConfiguration) (d : Private Requester) :
    (newStream defaults d).toEncoderConfiguration = (settings d).newEncoder defaults := by
  unfold newStream Settings.newEncoder settings
  cases d.frameRate <;> cases d.quality <;> rfl

theorem settings_stream (defaults : EncoderConfiguration) (d : Private Requester) :
    settings (stream defaults d) = (settings d).create defaults := by
  rw [stream_eq, Settings.create, ← settings_newStream]
  unfold settings
  rw [Option.getD_map]
  rfl

theorem settings_becomeStarted (defaults : EncoderConfiguration) (d : Private Requester) :
    settings ((becomeStarted defaults d).getD d) =
      { (settings d).create defaults with started := true } := by
  rw [← settings_stream, becomeStarted_eq, stream_eq]
  rfl

theorem settings_setStreamingEnabled (enable : Bool) (d : Private Requester) :
    settings (setStreamingEnabled enable d) = settings d := by
  unfold settings setStreamingEnabled
  rw [Option.map_map]
  rfl

variable [DecidableEq Requester]

theorem settings_requestStreamingDisable (requester : Requester) (d : Private Requester) :
    settings (requestStreamingDisable requester d) = settings d := by
  by_cases member : requester ∈ d.enableRequests
  · rw [requestStreamingDisable_of_mem member]
    dsimp only
    split
    · exact settings_setStreamingEnabled false _
    · rfl
  · rw [requestStreamingDisable_of_not_mem member]

theorem settings_destroyed (requester : Requester) (d : Private Requester) :
    settings (destroyed requester d) = settings d := by
  have emitted : ∀ connections : Nat,
      settings (emitDestroyed requester connections d) = settings d := by
    intro connections
    induction connections generalizing d with
    | zero => rfl
    | succ connections ih =>
        rw [emitDestroyed, ih]
        split
        · exact settings_requestStreamingDisable requester d
        · rfl
  exact emitted _

theorem settings_perform (defaults : EncoderConfiguration) (d : Private Requester)
    (operation : Operation Requester) :
    settings (perform defaults d operation) = (settings d).after defaults operation := by
  cases operation with
  | setVideoQuality quality => simp [perform, setVideoQuality, settings, Settings.after,
      EncodedStream.setQuality, Function.comp_def]
  | setVideoFrameRate framerate => simp [perform, setVideoFrameRate, settings, Settings.after,
      EncodedStream.setMaxFramerate, EncodedStream.setMaxPendingFrames, Function.comp_def]
  | stream => exact settings_stream defaults d
  | started => exact settings_becomeStarted defaults d
  | requestStreamingEnable requester => exact settings_setStreamingEnabled true _
  | requestStreamingDisable requester => exact settings_requestStreamingDisable requester d
  | destroyed requester => exact settings_destroyed requester d

theorem settings_session (defaults : EncoderConfiguration)
    (history : List (Operation Requester)) :
    settings (session defaults history) = StepRun.run (Settings.after defaults) {} history :=
  (List.foldl_hom settings fun d operation => (settings_perform defaults d operation).symm).symm

end AbstractSession

end KRdp
