/-
Frames between the server and the client.

The client decodes the frames in the order in which they arrive and acknowledges
each with the number of frames it has decoded so far.  A frame that the channel
fails to send is lost, and is never acknowledged.  The handler of acknowledgements
and the submission thread use the pending frames from two threads without a lock;
here each of their calls is one step.
-/

import KRdp.VideoStream.FrameAcknowledge
import KRdp.VideoStream.Submission
import Mathlib.Data.List.Nodup

namespace KRdp

namespace VideoStream

open NetworkDetection (Time)

/-! ### Both ends -/

/-- What an acknowledgement led to, beside the frames pending after it. -/
structure Acknowledged where
  known : Bool
  frameDelay : Int32
  pending : Nat
  deriving DecidableEq, Repr

structure Playback where
  world : World := .start
  control : FrameRateControl := {}
  toClient : List UInt32 := []
  toServer : List FrameAcknowledgePdu := []
  decoded : Nat := 0
  lost : List UInt32 := []
  acknowledged : List Acknowledged := []
  deriving DecidableEq, Repr

inductive Playback.Action where
  | stream (action : VideoStream.Action) (arrives : Bool)
  | decode (queueDepth : UInt32)
  | acknowledge
  | updateRequestedFrameRate (averageRtt now : Time)
  deriving DecidableEq, Repr

def Call.ended : Call → Option UInt32
  | .gfx (.endFrame frameId) _ => some frameId
  | _ => none

def Playback.transmit (frameIds : List UInt32) (arrives : Bool) (playback : Playback) :
    Playback :=
  if arrives then { playback with toClient := playback.toClient ++ frameIds }
  else { playback with lost := playback.lost ++ frameIds }

def Playback.decode (queueDepth : UInt32) (playback : Playback) : Playback :=
  match playback.toClient with
  | [] => playback
  | frameId :: rest =>
      { playback with
        toClient := rest
        decoded := playback.decoded + 1
        toServer := playback.toServer ++
          [{ queueDepth := queueDepth
             frameId := frameId
             totalFramesDecoded := .ofNat (playback.decoded + 1) }] }

def Playback.acknowledge (playback : Playback) : Playback :=
  match playback.toServer with
  | [] => playback
  | pdu :: rest =>
      let pipeline :=
        (onFrameAcknowledge pdu { stream := playback.world.stream, control := playback.control }).2
      { playback with
        world := { playback.world with stream := pipeline.stream }
        control := pipeline.control
        toServer := rest
        acknowledged := playback.acknowledged ++
          [{ known := decide (pdu.frameId ∈ playback.world.stream.pendingFrames)
             frameDelay := pipeline.control.frameDelay
             pending := pipeline.stream.pendingFrames.length }] }

def Playback.step (channel : Channel) (playback : Playback) : Action → Playback
  | .stream action arrives =>
      let world := VideoStream.step channel playback.world action
      let calls := world.stream.calls.drop playback.world.stream.calls.length
      { playback with world := world }.transmit (calls.filterMap Call.ended) arrives
  | .decode queueDepth => playback.decode queueDepth
  | .acknowledge => playback.acknowledge
  | .updateRequestedFrameRate averageRtt now =>
      { playback with
        control := VideoStream.updateRequestedFrameRate averageRtt now playback.control }

/-- Exactly the frames that are lost, on their way to the client, or acknowledged on
the way back are pending, each acknowledgement was known, and the delay was the number
of frames left pending. -/
structure Playback.Tracked (playback : Playback) : Prop where
  pending : playback.world.stream.pendingFrames.Perm
    (playback.lost ++ playback.toServer.map FrameAcknowledgePdu.frameId ++ playback.toClient)
  known : ∀ entry ∈ playback.acknowledged, entry.known = true
  delay : ∀ entry ∈ playback.acknowledged, entry.pending < 2 ^ 31 →
    entry.frameDelay.toInt = entry.pending

/-- A frame is sent under a number that no pending frame has: the numbers wrap. -/
def Playback.FreshNumber (playback : Playback) : Action → Prop
  | .stream .submissionStep _ =>
      match playback.world.submission with
      | .sending frame => (surfaceFor playback.world.stream frame).isSome = true →
          playback.world.stream.frameId ∉ playback.world.stream.pendingFrames
      | _ => True
  | _ => True

/-! ### The numbers of a stream -/

/-- What counts the frames of a stream. -/
structure Counters where
  frameId : UInt32
  encodedFrames : Int32
  pendingFrames : List UInt32

def counters (d : Private) : Counters := ⟨d.frameId, d.encodedFrames, d.pendingFrames⟩

theorem deleteSurfaces_counters (channel : Channel) (d : Private) :
    counters (deleteSurfaces channel d) = counters d := by
  have folded (surfaces : List Surface) (d : Private) :
      counters (surfaces.foldl
        (fun d surface => (send channel (.deleteSurface surface.id) d).2) d) = counters d := by
    induction surfaces generalizing d with
    | nil => rfl
    | cons surface rest ih => exact ih _
  exact folded d.surfaces d

theorem createSurfaces_counters (channel : Channel) (outputs : List (QSize × QPoint))
    (d : Private) : counters (createSurfaces channel outputs d).2 = counters d := by
  induction outputs generalizing d with
  | nil => rfl
  | cons output rest ih =>
      obtain ⟨surfaceSize, outputPosition⟩ := output
      simp only [createSurfaces]
      split
      · rfl
      · split
        · rfl
        · exact ih _

theorem performResetTo_counters (channel : Channel) (copied : DisplayMonitorList)
    (frame : VideoFrame) (d : Private) :
    counters (performResetTo channel copied frame d).2 = counters d := by
  simp only [performResetTo, publishLayout]
  split
  · split
    · exact deleteSurfaces_counters channel d
    · exact (createSurfaces_counters channel _ _).trans (deleteSurfaces_counters channel d)
  · rfl

theorem setup_ended {calls : List Call} (setup : ∀ call ∈ calls, call.isSurfaceSetup = true) :
    calls.filterMap Call.ended = [] := by
  rw [List.filterMap_eq_nil_iff]
  intro call member
  have isSetup := setup call member
  cases call with
  | gfx pdu status =>
      cases pdu with
      | endFrame _ => cases isSetup
      | deleteSurface _ | resetGraphics _ | createSurface _ | mapSurfaceToOutput _
      | startFrame _ _ | surfaceCommand _ => rfl
  | startBandwidthMeasure => rfl
  | stopBandwidthMeasure => rfl

/-- The numbers of the frames that a step ends. -/
def endedBy (channel : Channel) (world : World) (action : Action) : List UInt32 :=
  ((VideoStream.step channel world action).stream.calls.drop
    world.stream.calls.length).filterMap Call.ended

structure Quiet (channel : Channel) (world : World) (action : Action) : Prop where
  counters : counters (VideoStream.step channel world action).stream = counters world.stream
  ended : endedBy channel world action = []

theorem Quiet.of_calls {channel : Channel} {world : World} {action : Action}
    (counters : VideoStream.counters (VideoStream.step channel world action).stream =
      VideoStream.counters world.stream)
    (calls : (VideoStream.step channel world action).stream.calls = world.stream.calls) :
    Quiet channel world action := by
  refine ⟨counters, ?_⟩
  rw [endedBy, calls, List.drop_length]
  rfl

/-- The step that sends the frame in hand. -/
structure Sends (channel : Channel) (world : World) (action : Action) : Prop where
  sending : action = .submissionStep ∧
    ∃ frame, world.submission = .sending frame ∧ (surfaceFor world.stream frame).isSome = true
  counters : counters (VideoStream.step channel world action).stream =
    { frameId := world.stream.frameId + 1
      encodedFrames := world.stream.encodedFrames + 1
      pendingFrames := world.stream.pendingFrames.insert world.stream.frameId }
  ended : endedBy channel world action = [world.stream.frameId]

theorem quiet_copied (channel : Channel) {world : World} {frame : VideoFrame}
    {layout : DisplayMonitorList} (position : world.submission = .copied frame layout) :
    Quiet channel world .submissionStep := by
  have stream : (VideoStream.step channel world .submissionStep).stream =
      (performResetTo channel layout frame world.stream).2 := by
    simp only [VideoStream.step, submissionStep, position, World.observe]
  refine ⟨by rw [stream, performResetTo_counters], ?_⟩
  rw [endedBy, stream]
  simp only [performResetTo]
  split
  · obtain ⟨before, status, after, calls, setup, _⟩ :=
      publishLayout_setup channel (resetLayout layout frame) frame world.stream
    rw [calls, List.drop_left, List.filterMap_append, List.filterMap_cons,
      setup_ended fun call member => setup call (List.mem_append_left _ member),
      setup_ended fun call member => setup call (List.mem_append_right _ member)]
    rfl
  · rw [List.drop_length]
    rfl

theorem sends_of_found (channel : Channel) {world : World} {frame : VideoFrame}
    (position : world.submission = .sending frame)
    (found : (surfaceFor world.stream frame).isSome = true) :
    Sends channel world .submissionStep := by
  obtain ⟨surface, isFound⟩ := Option.isSome_iff_exists.mp found
  have stream : (VideoStream.step channel world .submissionStep).stream =
      emitFrame channel surface frame world.stream := by
    simp only [VideoStream.step, submissionStep, position, World.observe, submitFrame, isFound]
  refine ⟨⟨rfl, frame, position, found⟩, ?_, ?_⟩
  · rw [stream]
    rfl
  · rw [endedBy, stream, emitFrame_calls, List.drop_left]
    rfl

theorem submissionStep_counts (channel : Channel) (world : World) :
    Quiet channel world .submissionStep ∨ Sends channel world .submissionStep := by
  cases position : world.submission with
  | idle =>
      refine .inl (Quiet.of_calls ?_ ?_)
      all_goals
        simp only [VideoStream.step, submissionStep, position, takeFrame]
        split
        · rfl
        · split <;> rfl
  | taken frame =>
      refine .inl (Quiet.of_calls ?_ ?_)
      all_goals
        simp only [VideoStream.step, submissionStep, position]
        split
        · split <;> rfl
        · rfl
  | resetting frame =>
      refine .inl (Quiet.of_calls ?_ ?_)
      all_goals simp only [VideoStream.step, submissionStep, position]
  | copied frame layout => exact .inl (quiet_copied channel position)
  | emitted frame layout =>
      refine .inl (Quiet.of_calls ?_ ?_)
      all_goals
        simp only [VideoStream.step, submissionStep, position]
        rfl
  | sending frame =>
      cases found : surfaceFor world.stream frame with
      | none =>
          refine .inl (Quiet.of_calls ?_ ?_)
          all_goals simp only [VideoStream.step, submissionStep, position, World.observe,
            submitFrame, found]
      | some surface => exact .inr (sends_of_found channel position (by rw [found]; rfl))

theorem step_counts (channel : Channel) (world : World) (action : Action) :
    Quiet channel world action ∨ Sends channel world action := by
  cases action with
  | queueFrame session frame =>
      refine .inl (Quiet.of_calls ?_ ?_)
      all_goals
        simp only [VideoStream.step, queueFrame]
        split <;> rfl
  | setEnabled enabled =>
      refine .inl (Quiet.of_calls ?_ ?_)
      all_goals
        simp only [VideoStream.step, setEnabled]
        split <;> rfl
  | confirmCaps => exact .inl (Quiet.of_calls rfl rfl)
  | setMonitorLayout monitors =>
      refine .inl (Quiet.of_calls ?_ ?_)
      all_goals
        simp only [VideoStream.step]
        split <;> rfl
  | callerStep =>
      refine .inl (Quiet.of_calls ?_ ?_)
      all_goals
        simp only [VideoStream.step, callerStep]
        split <;> rfl
  | reset => exact .inl (Quiet.of_calls rfl rfl)
  | submissionStep => exact submissionStep_counts channel world

/-! ### The invariant -/

/-- The numbers that the client puts into its acknowledgements go up to the number of
frames it has decoded, and every frame sent is decoded, lost or on its way. -/
structure Playback.Counted (playback : Playback) : Prop extends Tracked playback where
  encoded : playback.world.stream.encodedFrames.toUInt32 =
    .ofNat (playback.decoded + playback.toClient.length + playback.lost.length)
  totals : ∃ first, first + playback.toServer.length = playback.decoded + 1 ∧
    playback.toServer.map FrameAcknowledgePdu.totalFramesDecoded =
      (List.range' first playback.toServer.length).map UInt32.ofNat

theorem Playback.Counted.start : Counted {} where
  pending := .nil
  known := by
    intro entry member
    cases member
  delay := by
    intro entry member
    cases member
  encoded := rfl
  totals := ⟨1, rfl, rfl⟩

/-- The links after one more frame was sent. -/
theorem Playback.transmit_links (frameId : UInt32) (arrives : Bool) (playback : Playback) :
    let after := playback.transmit [frameId] arrives
    (frameId :: (playback.lost ++ playback.toServer.map FrameAcknowledgePdu.frameId ++
        playback.toClient)).Perm
      (after.lost ++ after.toServer.map FrameAcknowledgePdu.frameId ++ after.toClient) ∧
      after.toClient.length + after.lost.length =
        playback.toClient.length + playback.lost.length + 1 := by
  cases arrives with
  | true =>
      constructor
      · simp only [transmit, if_true]
        rw [← List.append_assoc]
        exact (List.perm_append_singleton _ _).symm
      · simp only [transmit, if_true, List.length_append, List.length_singleton]
        omega
  | false =>
      constructor
      · simp only [transmit, Bool.false_eq_true, if_false, List.append_assoc]
        exact List.perm_middle.symm
      · simp only [transmit, Bool.false_eq_true, if_false, List.length_append,
          List.length_singleton]
        omega

theorem Playback.transmit_nothing (arrives : Bool) (playback : Playback) :
    playback.transmit [] arrives = playback := by
  cases arrives <;> simp only [transmit, List.append_nil, if_true, Bool.false_eq_true, if_false]

/-- What a transmission leaves alone. -/
theorem Playback.transmit_rest (frameIds : List UInt32) (arrives : Bool) (playback : Playback) :
    let after := playback.transmit frameIds arrives
    after.world = playback.world ∧ after.toServer = playback.toServer ∧
      after.decoded = playback.decoded ∧ after.acknowledged = playback.acknowledged := by
  cases arrives <;> exact ⟨rfl, rfl, rfl, rfl⟩

theorem Playback.Counted.quiet {playback : Playback} (counted : playback.Counted) {world : World}
    (same : counters world.stream = counters playback.world.stream) :
    Counted { playback with world := world } where
  pending := by
    have pendingFrames : world.stream.pendingFrames = playback.world.stream.pendingFrames :=
      congrArg Counters.pendingFrames same
    simp only [pendingFrames]
    exact counted.pending
  known := counted.known
  delay := counted.delay
  encoded := by
    have encodedFrames : world.stream.encodedFrames = playback.world.stream.encodedFrames :=
      congrArg Counters.encodedFrames same
    simp only [encodedFrames]
    exact counted.encoded
  totals := counted.totals

theorem Playback.Counted.sends {playback : Playback} (counted : playback.Counted) {world : World}
    (sent : counters world.stream =
      { frameId := playback.world.stream.frameId + 1
        encodedFrames := playback.world.stream.encodedFrames + 1
        pendingFrames :=
          playback.world.stream.pendingFrames.insert playback.world.stream.frameId })
    (fresh : playback.world.stream.frameId ∉ playback.world.stream.pendingFrames)
    (arrives : Bool) :
    (transmit [playback.world.stream.frameId] arrives
      { playback with world := world }).Counted := by
  have pendingFrames := congrArg Counters.pendingFrames sent
  have encodedFrames := congrArg Counters.encodedFrames sent
  simp only [counters] at pendingFrames encodedFrames
  obtain ⟨perm, count⟩ :=
    transmit_links playback.world.stream.frameId arrives { playback with world := world }
  obtain ⟨sameWorld, toServer, decoded, acknowledged⟩ :=
    transmit_rest [playback.world.stream.frameId] arrives { playback with world := world }
  generalize transmit [playback.world.stream.frameId] arrives
    { playback with world := world } = after at perm count sameWorld toServer decoded acknowledged ⊢
  dsimp only at perm count sameWorld toServer decoded acknowledged
  refine ⟨⟨?_, ?_, ?_⟩, ?_, ?_⟩
  · rw [sameWorld, pendingFrames, List.insert_of_not_mem fresh]
    exact (List.Perm.cons _ counted.pending).trans perm
  · rw [acknowledged]
    exact counted.known
  · rw [acknowledged]
    exact counted.delay
  · have total : after.decoded + after.toClient.length + after.lost.length =
        playback.decoded + playback.toClient.length + playback.lost.length + 1 := by omega
    rw [sameWorld, encodedFrames, Int32.toUInt32_add, counted.encoded, total]
    exact (UInt32.ofNat_add _ 1).symm
  · rw [toServer, decoded]
    exact counted.totals

theorem Playback.step_stream (channel : Channel) (playback : Playback)
    (action : VideoStream.Action) (arrives : Bool) :
    playback.step channel (.stream action arrives) =
      transmit (endedBy channel playback.world action) arrives
        { playback with world := VideoStream.step channel playback.world action } := rfl

theorem Playback.Counted.stream {playback : Playback} (counted : playback.Counted)
    (channel : Channel) (action : VideoStream.Action) (arrives : Bool)
    (fresh : playback.FreshNumber (.stream action arrives)) :
    (playback.step channel (.stream action arrives)).Counted := by
  rw [step_stream]
  rcases step_counts channel playback.world action with quiet | sends
  · rw [quiet.ended, transmit_nothing]
    exact counted.quiet quiet.counters
  · obtain ⟨rfl, frame, position, found⟩ := sends.sending
    simp only [FreshNumber, position] at fresh
    rw [sends.ended]
    exact counted.sends sends.counters (fresh found) arrives

theorem Playback.Counted.decode {playback : Playback} (counted : playback.Counted)
    (queueDepth : UInt32) : (playback.decode queueDepth).Counted := by
  unfold Playback.decode
  split
  · exact counted
  · rename_i frameId rest next
    obtain ⟨first, reaches, totals⟩ := counted.totals
    refine ⟨⟨?_, counted.known, counted.delay⟩, ?_, first, ?_, ?_⟩
    · have pending := counted.pending
      rw [next] at pending
      simpa only [List.map_append, List.map_cons, List.map_nil, List.append_assoc,
        List.singleton_append] using pending
    · have encoded := counted.encoded
      rw [next] at encoded
      refine encoded.trans (congrArg UInt32.ofNat ?_)
      simp only [List.length_cons]
      omega
    · simp only [List.length_append, List.length_singleton]
      omega
    · simp only [List.map_append, List.map_cons, List.map_nil, List.length_append,
        List.length_singleton, totals, List.range'_concat]
      rw [show playback.decoded + 1 = first + 1 * playback.toServer.length by omega]

/-- The difference of the two counts is what they differ by, however often they wrapped. -/
theorem frameDelayOf_eq {encodedFrames : Int32} {total first : Nat}
    (encoded : encodedFrames.toUInt32 = .ofNat total) (le : first ≤ total)
    (small : total - first < 2 ^ 31) :
    (frameDelayOf encodedFrames (.ofNat first)).toInt = (total - first : Nat) := by
  have narrow : (UInt32.ofNat (total - first)).toNat = total - first :=
    UInt32.toNat_ofNat_of_lt' (Nat.lt_trans small (by decide))
  rw [frameDelayOf, encoded, ← UInt32.ofNat_sub le,
    MachineInt.toInt_toInt32_of_lt (by rw [narrow]; exact small), narrow]

theorem Playback.Counted.acknowledge {playback : Playback} (counted : playback.Counted) :
    playback.acknowledge.Counted := by
  unfold Playback.acknowledge
  split
  · exact counted
  · rename_i pdu rest next
    obtain ⟨first, reaches, totals⟩ := counted.totals
    have pending := counted.pending
    rw [next] at pending totals reaches
    rw [List.map_cons, List.length_cons, List.range'_succ, List.map_cons, List.cons.injEq] at totals
    obtain ⟨total, totals⟩ := totals
    have listed : pdu.frameId ∈ playback.world.stream.pendingFrames :=
      pending.mem_iff.mpr (by simp)
    have erased : (playback.world.stream.pendingFrames.erase pdu.frameId).Perm
        (playback.lost ++ rest.map FrameAcknowledgePdu.frameId ++ playback.toClient) := by
      have front := pending.trans (List.Perm.append_right _ List.perm_middle)
      have without := front.erase pdu.frameId
      rwa [List.cons_append, List.erase_cons_head] at without
    have count := erased.length_eq
    simp only [List.length_append, List.length_map] at count
    rw [List.length_cons] at reaches
    simp only [onFrameAcknowledge, if_pos listed]
    refine ⟨⟨erased, ?_, ?_⟩, counted.encoded, first + 1, ?_, totals⟩
    · intro entry member
      rcases List.mem_append.mp member with earlier | new
      · exact counted.known entry earlier
      · rw [List.mem_singleton.mp new]
        exact decide_eq_true listed
    · intro entry member
      rcases List.mem_append.mp member with earlier | new
      · exact counted.delay entry earlier
      · rw [List.mem_singleton.mp new]
        dsimp only [forgetPendingFrame, noteFrameDelay]
        intro small
        rw [total, frameDelayOf_eq counted.encoded (by omega) (by omega)]
        exact congrArg Int.ofNat (by omega)
    · dsimp only
      omega

theorem Playback.Counted.step {playback : Playback} (counted : playback.Counted)
    (channel : Channel) (action : Action) (fresh : playback.FreshNumber action) :
    (playback.step channel action).Counted := by
  cases action with
  | stream action arrives => exact counted.stream channel action arrives fresh
  | decode queueDepth => exact counted.decode queueDepth
  | acknowledge => exact counted.acknowledge
  | updateRequestedFrameRate averageRtt now =>
      exact ⟨⟨counted.pending, counted.known, counted.delay⟩, counted.encoded, counted.totals⟩

end VideoStream

end KRdp
