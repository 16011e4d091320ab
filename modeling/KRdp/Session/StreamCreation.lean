/-
What an encoder that is created late has been told.

The session keeps the frame rate and the quality for a stream that does not exist
yet, and tells the stream both when it creates it.  The limit of the pending frames
is only told with a frame rate that is set after that.
-/

import KRdp.Library.Register
import KRdp.Session.Settings
import Mathlib.Data.List.TakeWhile

namespace KRdp

namespace AbstractSession

namespace Operation

variable {Requester : Type*}

def framerate : Operation Requester → Option UInt32
  | .setVideoFrameRate framerate => some framerate
  | .setVideoQuality _ | .stream | .started | .requestStreamingEnable _
  | .requestStreamingDisable _ | .destroyed _ => none

def quality : Operation Requester → Option UInt8
  | .setVideoQuality quality => some quality
  | .setVideoFrameRate _ | .stream | .started | .requestStreamingEnable _
  | .requestStreamingDisable _ | .destroyed _ => none

def creates : Operation Requester → Bool
  | .stream | .started => true
  | .setVideoQuality _ | .setVideoFrameRate _ | .requestStreamingEnable _
  | .requestStreamingDisable _ | .destroyed _ => false

end Operation

variable {Requester : Type*}

/-- The last frame rate set, or the one a session starts with. -/
def currentFrameRate (history : List (Operation Requester)) : UInt32 :=
  (Register.latest Operation.framerate history).getD 60

/-- The encoder follows the last values set, and buffers one second of frames. -/
def lastValues (defaults : EncoderConfiguration) (history : List (Operation Requester)) :
    EncoderConfiguration :=
  { maxFramerate := ⟨currentFrameRate history, 1⟩
    maxPendingFrames := currentFrameRate history
    quality := (Register.latest Operation.quality history).or defaults.quality }

/-- What follows the first call of `stream`, that call included. -/
def sinceCreation (history : List (Operation Requester)) : List (Operation Requester) :=
  history.dropWhile fun operation => !operation.creates

theorem latest_sinceCreation {history : List (Operation Requester)} {framerate : UInt32}
    (set : Register.latest Operation.framerate (sinceCreation history) = some framerate) :
    currentFrameRate history = framerate := by
  rw [currentFrameRate, ← List.takeWhile_append_dropWhile
    (p := fun operation : Operation Requester => !operation.creates) (l := history),
    Register.latest_append]
  change ((Register.latest Operation.framerate (sinceCreation history)).or _).getD 60 = framerate
  rw [set]
  rfl

theorem latest_framerate_isSome {history : List (Operation Requester)} :
    (Register.latest Operation.framerate history).isSome = true ↔
      ∃ framerate, Operation.setVideoFrameRate framerate ∈ history := by
  rw [Register.latest_isSome]
  constructor
  · rintro ⟨operation, member, sets⟩
    cases operation with
    | setVideoFrameRate framerate => exact ⟨framerate, member⟩
    | setVideoQuality | stream | started | requestStreamingEnable | requestStreamingDisable
    | destroyed => cases sets
  · rintro ⟨framerate, member⟩
    exact ⟨_, member, rfl⟩

/-! ### Stored values -/

/-- The encoder, if there is one, has the stored frame rate and quality. -/
structure Replayed (defaults : EncoderConfiguration) (framerate : UInt32)
    (quality : Option UInt8) (stored : Settings) : Prop where
  rateStored : stored.frameRate = some framerate
  qualityStored : stored.quality = quality
  replayed : ∀ encoder, stored.encoder = some encoder →
    encoder.maxFramerate = ⟨framerate, 1⟩ ∧ encoder.quality = quality.or defaults.quality

section Replaying

variable {defaults : EncoderConfiguration} {framerate : UInt32} {quality : Option UInt8}
variable {stored : Settings}

theorem Replayed.create (before : Replayed defaults framerate quality stored) :
    Replayed defaults framerate quality (stored.create defaults) := by
  refine ⟨before.rateStored, before.qualityStored, ?_⟩
  intro encoder found
  rw [← Option.some.inj found]
  cases existing : stored.encoder with
  | some encoder => exact before.replayed encoder existing
  | none =>
      rw [Option.getD_none, Settings.newEncoder, before.rateStored, before.qualityStored]
      exact ⟨rfl, rfl⟩

theorem Replayed.after (before : Replayed defaults framerate quality stored)
    (operation : Operation Requester) :
    Replayed defaults (operation.framerate.getD framerate) (operation.quality.or quality)
      (stored.after defaults operation) := by
  cases operation with
  | setVideoQuality quality =>
      refine ⟨before.rateStored, rfl, ?_⟩
      intro encoder found
      obtain ⟨earlier, existing, rfl⟩ := Option.map_eq_some_iff.mp found
      exact ⟨(before.replayed earlier existing).1, rfl⟩
  | setVideoFrameRate framerate =>
      refine ⟨rfl, before.qualityStored, ?_⟩
      intro encoder found
      obtain ⟨earlier, existing, rfl⟩ := Option.map_eq_some_iff.mp found
      exact ⟨rfl, (before.replayed earlier existing).2⟩
  | stream => exact before.create
  | started =>
      have created := before.create
      exact ⟨created.rateStored, created.qualityStored, created.replayed⟩
  | requestStreamingEnable requester => exact before
  | requestStreamingDisable requester => exact before
  | destroyed requester => exact before

theorem Replayed.run (before : Replayed defaults framerate quality stored)
    (history : List (Operation Requester)) :
    Replayed defaults ((Register.latest Operation.framerate history).getD framerate)
      ((Register.latest Operation.quality history).or quality)
      (StepRun.run (Settings.after defaults) stored history) := by
  induction history generalizing stored framerate quality with
  | nil => exact before
  | cons operation rest ih =>
      have after := ih (before.after operation)
      rw [StepRun.run_cons, Register.latest_cons, Register.latest_cons, Option.or_assoc]
      cases latest : Register.latest Operation.framerate rest with
      | none => rwa [latest] at after
      | some framerate => rwa [latest] at after

theorem Replayed.initial : Replayed defaults 60 none {} := by
  refine ⟨rfl, rfl, ?_⟩
  intro encoder impossible
  cases impossible

end Replaying

/-! ### The limit of the pending frames -/

/-- The limit, or what it will be when the encoder is created. -/
def pendingLimit (defaults : EncoderConfiguration) (stored : Settings) : UInt32 :=
  match stored.encoder with
  | some encoder => encoder.maxPendingFrames
  | none => defaults.maxPendingFrames

section Pending

variable {defaults : EncoderConfiguration} {stored : Settings}

theorem pendingLimit_of_none (missing : stored.encoder = none) :
    pendingLimit defaults stored = defaults.maxPendingFrames := by
  rw [pendingLimit, missing]

theorem pendingLimit_create : pendingLimit defaults (stored.create defaults) =
    pendingLimit defaults stored := by
  unfold pendingLimit Settings.create
  cases stored.encoder with
  | none => rfl
  | some encoder => rfl

theorem encoder_isSome_after (defaults : EncoderConfiguration) (stored : Settings)
    (operation : Operation Requester) :
    (stored.after defaults operation).encoder.isSome = true ↔
      stored.encoder.isSome = true ∨ operation.creates = true := by
  cases operation <;> simp [Settings.after, Settings.create, Operation.creates]

/-- The limit is that of the encoder that exists: a rate that is set before is not
replayed as a limit. -/
theorem pendingLimit_after (operation : Operation Requester)
    (known : stored.encoder.isSome = true ∨ operation.creates = true) :
    pendingLimit defaults (stored.after defaults operation) =
      operation.framerate.getD (pendingLimit defaults stored) := by
  cases operation with
  | setVideoQuality quality =>
      obtain ⟨encoder, existing⟩ :=
        Option.isSome_iff_exists.mp (known.resolve_right Bool.false_ne_true)
      simp [Settings.after, pendingLimit, existing, Operation.framerate]
  | setVideoFrameRate framerate =>
      obtain ⟨encoder, existing⟩ :=
        Option.isSome_iff_exists.mp (known.resolve_right Bool.false_ne_true)
      simp [Settings.after, pendingLimit, existing, Operation.framerate]
  | stream => exact pendingLimit_create
  | started => exact pendingLimit_create
  | requestStreamingEnable requester => rfl
  | requestStreamingDisable requester => rfl
  | destroyed requester => rfl

theorem pendingLimit_run (missing : stored.encoder = none)
    (history : List (Operation Requester)) :
    pendingLimit defaults (StepRun.run (Settings.after defaults) stored history) =
      (Register.latest Operation.framerate (sinceCreation history)).getD
        defaults.maxPendingFrames := by
  induction history generalizing stored with
  | nil => exact pendingLimit_of_none missing
  | cons operation rest ih =>
      have created := encoder_isSome_after defaults stored operation
      rw [sinceCreation, List.dropWhile_cons]
      by_cases creates : operation.creates = true
      · have limit : pendingLimit defaults (stored.after defaults operation) =
            operation.framerate.getD (pendingLimit defaults stored) :=
          pendingLimit_after operation (.inr creates)
        have register := Register.read_run
          (fun stored : Settings => stored.encoder.isSome = true)
          (pendingLimit defaults) (created.mpr (.inr creates))
          (fun stored operation existing =>
            (encoder_isSome_after defaults stored operation).mpr (.inl existing))
          (fun _ operation existing => pendingLimit_after operation (.inl existing)) rest
        rw [StepRun.run_cons, register, limit, pendingLimit_of_none missing,
          if_neg (by simp [creates]), Register.latest_cons]
        cases Register.latest Operation.framerate rest with
        | none => rfl
        | some framerate => rfl
      · have stillMissing : (stored.after defaults operation).encoder = none := by
          rw [← Option.not_isSome_iff_eq_none, created, missing]
          simp [creates]
        rw [StepRun.run_cons, if_pos (by simp [creates])]
        exact ih stillMissing

end Pending

/-! ### Configurations -/

variable [DecidableEq Requester]

theorem configuration_session {defaults : EncoderConfiguration}
    {history : List (Operation Requester)} {encoded : EncodedStream}
    (existing : (session defaults history).encodedStream = some encoded) :
    encoded.toEncoderConfiguration =
      { lastValues defaults history with
        maxPendingFrames := (Register.latest Operation.framerate (sinceCreation history)).getD
          defaults.maxPendingFrames } := by
  have encoder : (settings (session defaults history)).encoder =
      some encoded.toEncoderConfiguration :=
    congrArg (Option.map EncodedStream.toEncoderConfiguration) existing
  rw [settings_session] at encoder
  have replayed := (Replayed.initial.run history).replayed _ encoder
  have limit : pendingLimit defaults (StepRun.run (Settings.after defaults) {} history) = _ :=
    pendingLimit_run rfl history
  rw [pendingLimit, encoder] at limit
  rw [Option.or_none] at replayed
  dsimp only at limit
  rw [← limit]
  unfold lastValues currentFrameRate
  rw [← replayed.1, ← replayed.2]

/-- An encoder follows the last values set if a frame rate is set after its creation, or
its own limit happens to be the frame rate. -/
theorem configuration_follows_iff (defaults : EncoderConfiguration)
    (history : List (Operation Requester)) (encoded : EncodedStream)
    (existing : (session defaults history).encodedStream = some encoded) :
    encoded.toEncoderConfiguration = lastValues defaults history ↔
      (∃ framerate, Operation.setVideoFrameRate framerate ∈ sinceCreation history) ∨
        defaults.maxPendingFrames = currentFrameRate history := by
  rw [configuration_session existing, ← latest_framerate_isSome]
  cases latest : Register.latest Operation.framerate (sinceCreation history) with
  | some framerate =>
      rw [Option.getD_some, ← latest_sinceCreation latest]
      exact iff_of_true rfl (.inl rfl)
  | none =>
      rw [Option.getD_none]
      constructor
      · intro same
        exact .inr (congrArg EncoderConfiguration.maxPendingFrames same)
      · rintro (impossible | limit)
        · cases impossible
        · rw [limit]
          rfl

theorem configuration_follows_iff_stream :
    (⟨⟨60, 1⟩, 60, none⟩ : EncoderConfiguration) =
        lastValues ⟨⟨30, 1⟩, 60, none⟩ ([.stream] : List (Operation Nat)) ↔
      (∃ framerate, Operation.setVideoFrameRate framerate ∈
        sinceCreation ([.stream] : List (Operation Nat))) ∨
        (60 : UInt32) = currentFrameRate ([.stream] : List (Operation Nat)) :=
  configuration_follows_iff ⟨⟨30, 1⟩, 60, none⟩ [.stream] ⟨⟨⟨60, 1⟩, 60, none⟩, false⟩ (by decide)

/-- A rate of 30 set before the creation leaves the encoder its own limit of 50 frames,
and set after the creation it does not. -/
theorem configuration_order_fails :
    (session ⟨⟨60, 1⟩, 50, none⟩
        ([.setVideoFrameRate 30, .stream] : List (Operation Nat))).encodedStream =
        some ⟨⟨⟨30, 1⟩, 50, none⟩, false⟩ ∧
      currentFrameRate ([.setVideoFrameRate 30, .stream] : List (Operation Nat)) = 30 ∧
      ¬∃ configuration : Option UInt32 → Option UInt8 → EncoderConfiguration,
        ∀ (history : List (Operation Nat)) (encoded : EncodedStream),
          (session ⟨⟨60, 1⟩, 50, none⟩ history).encodedStream = some encoded →
            encoded.toEncoderConfiguration =
              configuration (Register.latest Operation.framerate history)
                (Register.latest Operation.quality history) := by
  refine ⟨by decide, by decide, ?_⟩
  rintro ⟨configuration, follows⟩
  have before := follows [.setVideoFrameRate 30, .stream] ⟨⟨⟨30, 1⟩, 50, none⟩, false⟩ (by decide)
  have after := follows [.stream, .setVideoFrameRate 30] ⟨⟨⟨30, 1⟩, 30, none⟩, false⟩ (by decide)
  have same := congrArg EncoderConfiguration.maxPendingFrames (before.trans after.symm)
  exact absurd same (by decide)

end AbstractSession

end KRdp
