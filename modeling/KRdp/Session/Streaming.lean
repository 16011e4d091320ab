/-
When the stream is active.

The session keeps a flag next to the set of requests.  The flag says whether there is
a request, the set has the objects whose latest operation is a request, and each of
these is connected, so that its destruction withdraws the request.
-/

import KRdp.Library.Register
import KRdp.Session.Settings

namespace KRdp

namespace AbstractSession

variable {Requester : Type*}

/-! ### The invariant -/

structure Gated (d : Private Requester) : Prop where
  enabled : d.enabled = true ↔ d.enableRequests.Nonempty
  connected : ∀ requester, requester ∈ d.enableRequests ↔ requester ∈ d.connections
  active : ∀ encoded, d.encodedStream = some encoded →
    encoded.active = (d.started && d.enabled)
  exists_of_started : d.started = true → d.encodedStream.isSome = true

theorem Gated.initial : Gated ({} : Private Requester) := by
  constructor
  · simp
  · simp
  · intro encoded impossible
    cases impossible
  · intro impossible
    cases impossible

theorem newStream_active (defaults : EncoderConfiguration) (d : Private Requester) :
    (newStream defaults d).active = false := by
  unfold newStream
  cases d.frameRate <;> cases d.quality <;> rfl

variable {d : Private Requester}

/-- A change that leaves the flag, the requests and the activity alone. -/
theorem Gated.of_map (gated : Gated d) {changed : Private Requester}
    (configure : EncodedStream → EncodedStream)
    (keeps : ∀ encoded, (configure encoded).active = encoded.active)
    (streams : changed.encodedStream = d.encodedStream.map configure)
    (started : changed.started = d.started) (enabled : changed.enabled = d.enabled)
    (requests : changed.enableRequests = d.enableRequests)
    (connections : changed.connections = d.connections) : Gated changed := by
  constructor
  · rw [enabled, requests]
    exact gated.enabled
  · rw [requests, connections]
    exact gated.connected
  · intro encoded found
    rw [streams] at found
    obtain ⟨before, existing, rfl⟩ := Option.map_eq_some_iff.mp found
    rw [keeps, started, enabled]
    exact gated.active before existing
  · intro isStarted
    rw [streams, Option.isSome_map]
    exact gated.exists_of_started (started.symm.trans isStarted)

theorem Gated.setVideoQuality (gated : Gated d) (quality : UInt8) :
    Gated (setVideoQuality quality d) :=
  gated.of_map (fun encoded => encoded.setQuality quality) (fun _ => rfl) rfl rfl rfl rfl rfl

theorem Gated.setVideoFrameRate (gated : Gated d) (framerate : UInt32) :
    Gated (setVideoFrameRate framerate d) :=
  gated.of_map
    (fun encoded => (encoded.setMaxFramerate ⟨framerate, 1⟩).setMaxPendingFrames framerate)
    (fun _ => rfl) rfl rfl rfl rfl rfl

/-- A stream that is created now was not needed before: the session has not started. -/
theorem Gated.stream (gated : Gated d) (defaults : EncoderConfiguration) :
    Gated (stream defaults d) := by
  rw [stream_eq]
  refine ⟨gated.enabled, gated.connected, ?_, fun _ => rfl⟩
  intro encoded found
  rw [← Option.some.inj found]
  cases existing : d.encodedStream with
  | some before => exact gated.active before existing
  | none =>
      have notStarted : d.started = false := by
        by_contra started
        have isSome := gated.exists_of_started (Bool.of_not_eq_false started)
        rw [existing] at isSome
        cases isSome
      rw [Option.getD_none, newStream_active, notStarted]
      rfl

theorem Gated.becomeStarted (gated : Gated d) (defaults : EncoderConfiguration) :
    Gated ((becomeStarted defaults d).getD d) := by
  rw [becomeStarted_eq]
  refine ⟨gated.enabled, gated.connected, ?_, fun _ => rfl⟩
  intro encoded found
  rw [← Option.some.inj found]
  rfl

/-- The flag is set to what the requests say. -/
theorem gated_setStreamingEnabled {enable : Bool}
    (requests : enable = true ↔ d.enableRequests.Nonempty)
    (connected : ∀ requester, requester ∈ d.enableRequests ↔ requester ∈ d.connections)
    (exists_of_started : d.started = true → d.encodedStream.isSome = true) :
    Gated (setStreamingEnabled enable d) := by
  refine ⟨requests, connected, ?_, ?_⟩
  · intro encoded found
    obtain ⟨before, _, rfl⟩ := Option.map_eq_some_iff.mp found
    exact Bool.and_comm enable d.started
  · intro started
    exact Option.isSome_map.trans (exists_of_started started)

variable [DecidableEq Requester]

theorem Gated.requestStreamingEnable (gated : Gated d) (requester : Requester) :
    Gated (requestStreamingEnable requester d) := by
  apply gated_setStreamingEnabled
  · simp
  · intro other
    change other ∈ insert requester d.enableRequests ↔ other ∈ d.connections ++ [requester]
    rw [Finset.mem_insert, List.mem_append, List.mem_singleton, gated.connected, or_comm]
  · exact gated.exists_of_started

theorem Gated.requestStreamingDisable (gated : Gated d) (requester : Requester) :
    Gated (requestStreamingDisable requester d) := by
  by_cases member : requester ∈ d.enableRequests
  · have connected : ∀ other, other ∈ d.enableRequests.erase requester ↔
        other ∈ d.connections.filter (· ≠ requester) := by
      intro other
      rw [Finset.mem_erase, List.mem_filter, decide_eq_true_iff, gated.connected, and_comm]
    rw [requestStreamingDisable_of_mem member]
    dsimp only
    by_cases last : (d.enableRequests.erase requester).card = 0
    · rw [if_pos last]
      refine gated_setStreamingEnabled ?_ connected gated.exists_of_started
      rw [Finset.card_eq_zero] at last
      simp [last]
    · rw [if_neg last]
      have enabled := gated.enabled.mpr ⟨requester, member⟩
      have remaining := Finset.card_pos.mp (Nat.pos_of_ne_zero last)
      exact ⟨iff_of_true enabled remaining, connected, gated.active, gated.exists_of_started⟩
  · rw [requestStreamingDisable_of_not_mem member]
    exact gated

/-! ### Destruction -/

theorem emitDestroyed_of_not_mem {requester : Requester} (count : Nat)
    (absent : requester ∉ d.connections) : emitDestroyed requester count d = d := by
  induction count with
  | zero => rfl
  | succ count ih => rw [emitDestroyed, if_neg absent, ih]

/-- However many connections an object has made, its destruction withdraws the request
once. -/
theorem Gated.destroyed_eq (gated : Gated d) (requester : Requester) :
    destroyed requester d = AbstractSession.requestStreamingDisable requester d := by
  unfold destroyed
  by_cases member : requester ∈ d.enableRequests
  · have connected := (gated.connected requester).mp member
    have removed := connections_of_requestStreamingDisable member
    have absent : requester ∉
        (AbstractSession.requestStreamingDisable requester d).connections := by
      rw [removed]
      simp
    obtain ⟨count, connections⟩ :=
      Nat.exists_eq_succ_of_ne_zero (List.count_pos_iff.mpr connected).ne'
    rw [connections, emitDestroyed, if_pos connected, emitDestroyed_of_not_mem count absent]
    dsimp only
    rw [List.filter_eq_self.mpr]
    intro other listed
    rw [removed] at listed
    exact (List.mem_filter.mp listed).2
  · have absent := mt (gated.connected requester).mpr member
    rw [emitDestroyed_of_not_mem _ absent, requestStreamingDisable_of_not_mem member]
    dsimp only
    rw [List.filter_eq_self.mpr]
    intro other listed
    rw [decide_eq_true_iff]
    rintro rfl
    exact absent listed

/-! ### Whole runs -/

theorem Gated.perform (defaults : EncoderConfiguration) (d : Private Requester)
    (operation : Operation Requester) (gated : Gated d) :
    Gated (perform defaults d operation) := by
  cases operation with
  | setVideoQuality quality => exact gated.setVideoQuality quality
  | setVideoFrameRate framerate => exact gated.setVideoFrameRate framerate
  | stream => exact gated.stream defaults
  | started => exact gated.becomeStarted defaults
  | requestStreamingEnable requester => exact gated.requestStreamingEnable requester
  | requestStreamingDisable requester => exact gated.requestStreamingDisable requester
  | destroyed requester =>
      change Gated (AbstractSession.destroyed requester d)
      rw [gated.destroyed_eq]
      exact gated.requestStreamingDisable requester

theorem gated_session (defaults : EncoderConfiguration) (history : List (Operation Requester)) :
    Gated (session defaults history) :=
  StepRun.run_invariant Gated Gated.initial (Gated.perform defaults) history

/-! ### Standing requests -/

/-- What an operation leaves of the request of one object. -/
def Operation.request (requester : Requester) : Operation Requester → Option Bool
  | .requestStreamingEnable other => if other = requester then some true else none
  | .requestStreamingDisable other => if other = requester then some false else none
  | .destroyed other => if other = requester then some false else none
  | .setVideoQuality _ | .setVideoFrameRate _ | .stream | .started => none

/-- The latest operation that concerns the object is a request for frames: the object
has neither withdrawn it nor been destroyed since. -/
def Standing (history : List (Operation Requester)) (requester : Requester) : Prop :=
  Register.latest (Operation.request requester) history = some true

instance (history : List (Operation Requester)) (requester : Requester) :
    Decidable (Standing history requester) :=
  inferInstanceAs (Decidable (_ = _))

theorem requested_perform (defaults : EncoderConfiguration) (requester : Requester)
    (d : Private Requester) (operation : Operation Requester) (gated : Gated d) :
    decide (requester ∈ (perform defaults d operation).enableRequests) =
      (operation.request requester).getD (decide (requester ∈ d.enableRequests)) := by
  have withdrawn : ∀ other : Requester,
      decide (requester ∈ (requestStreamingDisable other d).enableRequests) =
        (if other = requester then some false else none).getD
          (decide (requester ∈ d.enableRequests)) := by
    intro other
    rw [requests_of_requestStreamingDisable]
    by_cases same : other = requester
    · simp [same]
    · simp [same, Ne.symm same]
  cases operation with
  | setVideoQuality quality => rfl
  | setVideoFrameRate framerate => rfl
  | stream =>
      change decide (requester ∈ (stream defaults d).enableRequests) = _
      rw [stream_eq]
      rfl
  | started =>
      change decide (requester ∈ ((becomeStarted defaults d).getD d).enableRequests) = _
      rw [becomeStarted_eq]
      rfl
  | requestStreamingEnable other =>
      change decide (requester ∈ insert other d.enableRequests) =
        (if other = requester then some true else none).getD _
      by_cases same : other = requester
      · simp [same]
      · simp [same, Ne.symm same]
  | requestStreamingDisable other => exact withdrawn other
  | destroyed other =>
      change decide (requester ∈ (destroyed other d).enableRequests) = _
      rw [gated.destroyed_eq]
      exact withdrawn other

theorem mem_enableRequests_session (defaults : EncoderConfiguration)
    (history : List (Operation Requester)) (requester : Requester) :
    requester ∈ (session defaults history).enableRequests ↔ Standing history requester := by
  have register := Register.read_run Gated
    (fun d : Private Requester => decide (requester ∈ d.enableRequests)) Gated.initial
    (Gated.perform defaults) (requested_perform defaults requester) history
  have read : decide (requester ∈ (session defaults history).enableRequests) =
      (Register.latest (Operation.request requester) history).getD false := register
  rw [← decide_eq_true_iff (p := requester ∈ (session defaults history).enableRequests), read,
    Standing]
  cases Register.latest (Operation.request requester) history with
  | none => simp
  | some standing => simp

theorem started_session (defaults : EncoderConfiguration)
    (history : List (Operation Requester)) :
    (session defaults history).started = true ↔ Operation.started ∈ history := by
  have view : (session defaults history).started =
      (StepRun.run (Settings.after defaults) {} history).started :=
    congrArg Settings.started (settings_session defaults history)
  rw [view, Register.raised_run (fun stored : Settings => stored.started = true)
    (Settings.started_after defaults)]
  simp

theorem enabled_session (defaults : EncoderConfiguration)
    (history : List (Operation Requester)) :
    (session defaults history).enabled = true ↔ ∃ requester, Standing history requester := by
  rw [(gated_session defaults history).enabled]
  exact exists_congr (mem_enableRequests_session defaults history)

/-- A stream that exists is active if the session has started and the request of some
living object stands. -/
theorem streaming_gate (defaults : EncoderConfiguration)
    (history : List (Operation Requester)) (encoded : EncodedStream)
    (existing : (session defaults history).encodedStream = some encoded) :
    encoded.active = true ↔
      Operation.started ∈ history ∧ ∃ requester, Standing history requester := by
  rw [(gated_session defaults history).active encoded existing, Bool.and_eq_true,
    started_session, enabled_session]

/-- Two requests of the first object end with it, and the second keeps the stream active. -/
theorem streaming_gate_second :
    Operation.started ∈ ([.stream, .requestStreamingEnable 1, .requestStreamingEnable 1,
        .started, .requestStreamingEnable 2, .destroyed 1] : List (Operation Nat)) ∧
      ∃ requester, Standing ([.stream, .requestStreamingEnable 1, .requestStreamingEnable 1,
        .started, .requestStreamingEnable 2, .destroyed 1] : List (Operation Nat)) requester :=
  (streaming_gate ⟨⟨60, 1⟩, 50, none⟩
    [.stream, .requestStreamingEnable 1, .requestStreamingEnable 1, .started,
      .requestStreamingEnable 2, .destroyed 1] ⟨⟨⟨60, 1⟩, 50, none⟩, true⟩
    (by decide)).mp rfl

/-- A session without a stream has not started. -/
theorem streamingEnabled_session (defaults : EncoderConfiguration)
    (history : List (Operation Requester)) :
    streamingEnabled (session defaults history) = true ↔
      Operation.started ∈ history ∧ ∃ requester, Standing history requester := by
  have gated := gated_session defaults history
  rw [← enabled_session defaults, ← started_session defaults, ← Bool.and_eq_true]
  unfold streamingEnabled
  split
  · rename_i encoded existing
    rw [gated.active encoded existing]
  · rename_i missing
    constructor
    · intro impossible
      cases impossible
    · intro both
      have isSome := gated.exists_of_started (Bool.and_eq_true_iff.mp both).1
      rw [missing] at isSome
      cases isSome

end AbstractSession

end KRdp
