/-
Bandwidth measurements around frames.

One thread executes the calls of `sendFrame` one at a time, and callbacks of the
client arrive between any two of them.  What goes out, and when results come in,
is kept in one log; a monitor says which logs measure whole frames.
-/

import KRdp.Library.Monitor
import KRdp.Library.Run
import KRdp.NetworkDetection.Detection
import KRdp.VideoStream.Reset

namespace KRdp

namespace NetworkDetection

open VideoStream (GfxPdu Channel)

/-! ### The log -/

/-- A message of the detection, a message of the graphics channel, or the arrival
of bandwidth results. -/
inductive Entry where
  | detection (output : Output)
  | graphics (pdu : GfxPdu)
  | results
  deriving DecidableEq, Repr

/-- Start and stop of a measurement, as true and false. -/
def Output.measure : Output → Option Bool
  | .bandwidthMeasureStart _ => some true
  | .bandwidthMeasureStop _ => some false
  | .rttMeasureRequest _ | .networkCharacteristicsResult _ _ | .rttChanged => none

def Entry.measure : Entry → Option Bool
  | .detection output => output.measure
  | .graphics _ | .results => none

def Entry.pdu : Entry → Option GfxPdu
  | .graphics pdu => some pdu
  | .detection _ | .results => none

/-- The three messages of one frame. -/
def isFrame : List GfxPdu → Bool
  | [.startFrame _ started, .surfaceCommand _, .endFrame ended] => started == ended
  | _ => false

def AlternatesFrom : Bool → List Bool → Prop
  | _, [] => True
  | expected, measure :: rest => measure = expected ∧ AlternatesFrom (!expected) rest

/-- Measurements alternate, cover one frame each, and wait for results. -/
structure Bracketed (log : List Entry) : Prop where
  alternating : AlternatesFrom true (log.filterMap Entry.measure)
  framed : ∀ before start between stop after,
    log = before ++ start :: between ++ stop :: after →
      start.measure = some true → stop.measure = some false →
      between.filterMap Entry.measure = [] →
        isFrame (between.filterMap Entry.pdu) = true
  answered : ∀ before stop between start after,
    log = before ++ stop :: between ++ start :: after →
      stop.measure = some false → start.measure = some true →
      between.filterMap Entry.measure = [] →
        Entry.results ∈ between

/-! ### The threads -/

/-- The detection, and the calls that `sendFrame` has still to make. -/
structure FrameWorld where
  detection : Private := {}
  remaining : List VideoStream.Call := []
  log : List Entry := []

inductive FrameAction where
  | sendFrame (channel : Channel) (frame : VideoFrame) (stream : VideoStream.Private)
  | advance
  | bandwidthMeasureResults (netCharBandwidth : UInt32) (now : Time)
  | rttMeasureResponse (sequence : UInt16) (received now : Time)
  | update (session : RdpConnection.State) (now : Time)

def FrameWorld.observe (detection : Private) (world : FrameWorld) : FrameWorld :=
  { world with
    detection := detection
    log := world.log ++
      (detection.outputs.drop world.detection.outputs.length).map Entry.detection }

def FrameWorld.enter (entry : Entry) (world : FrameWorld) : FrameWorld :=
  { world with log := world.log ++ [entry] }

/-- The calls of one `sendFrame`, whatever state the stream is in. -/
def callsOf (channel : Channel) (frame : VideoFrame) (stream : VideoStream.Private) :
    List VideoStream.Call :=
  (VideoStream.sendFrame channel frame stream).calls.drop stream.calls.length

def FrameWorld.execute (call : VideoStream.Call) (world : FrameWorld) : FrameWorld :=
  match call with
  | .gfx pdu _ => world.enter (.graphics pdu)
  | .startBandwidthMeasure => world.observe (startBandwidthMeasure world.detection)
  | .stopBandwidthMeasure => world.observe (stopBandwidthMeasure world.detection)

/-- A callback that never returns has stored the new state before. -/
def resultsStored (netCharBandwidth : UInt32) (now : Time) (d : Private) : Private :=
  (onBandwidthMeasureResults netCharBandwidth now d).getD { d with state := .none }

def FrameWorld.step (world : FrameWorld) : FrameAction → FrameWorld
  | .sendFrame channel frame stream =>
      match world.remaining with
      | [] => { world with remaining := callsOf channel frame stream }
      | _ :: _ => world
  | .advance =>
      match world.remaining with
      | [] => world
      | call :: rest => { world.execute call with remaining := rest }
  | .bandwidthMeasureResults netCharBandwidth now =>
      (world.enter .results).observe (resultsStored netCharBandwidth now world.detection)
  | .rttMeasureResponse sequence received now =>
      world.observe ((onRttMeasureResponse sequence received now world.detection).getD
        world.detection)
  | .update session now =>
      world.observe ((update session now world.detection).getD world.detection)

/-! ### The monitor -/

/-- Between measurements, in one with the graphics messages since its start, or
waiting for its results. -/
inductive Phase where
  | resting
  | measuring (sent : List GfxPdu)
  | awaiting
  deriving DecidableEq, Repr

def monitor (phase : Phase) (entry : Entry) : Option Phase :=
  match entry with
  | .detection output =>
      match output.measure, phase with
      | none, phase => some phase
      | some true, .resting => some (.measuring [])
      | some false, .measuring sent => if isFrame sent then some .awaiting else none
      | some _, _ => none
  | .graphics pdu =>
      match phase with
      | .measuring sent => some (.measuring (sent ++ [pdu]))
      | .resting | .awaiting => some phase
  | .results =>
      match phase with
      | .awaiting => some .resting
      | .resting | .measuring _ => some phase

def Phase.expects : Phase → Bool
  | .resting | .awaiting => true
  | .measuring _ => false

theorem monitor_start {phase next : Phase} {entry : Entry} (start : entry.measure = some true)
    (accepted : monitor phase entry = some next) : phase = .resting ∧ next = .measuring [] := by
  cases entry with
  | graphics pdu => cases start
  | results => cases start
  | detection output =>
      cases output <;> cases start
      cases phase <;> cases accepted
      exact ⟨rfl, rfl⟩

theorem monitor_stop {phase next : Phase} {entry : Entry} (stop : entry.measure = some false)
    (accepted : monitor phase entry = some next) :
    (∃ sent, phase = .measuring sent ∧ isFrame sent = true) ∧ next = .awaiting := by
  cases entry with
  | graphics pdu => cases stop
  | results => cases stop
  | detection output =>
      cases output <;> cases stop
      cases phase with
      | resting => cases accepted
      | awaiting => cases accepted
      | measuring sent =>
          change (if isFrame sent then some Phase.awaiting else none) = some next at accepted
          by_cases frame : isFrame sent = true
          · rw [if_pos frame] at accepted
            cases accepted
            exact ⟨⟨sent, rfl, frame⟩, rfl⟩
          · rw [if_neg frame] at accepted
            cases accepted

/-- What an entry that is neither start nor stop can do. -/
theorem monitor_other {phase next : Phase} {entry : Entry} (other : entry.measure = none)
    (accepted : monitor phase entry = some next) :
    (∃ sent, phase = .measuring sent ∧ next = .measuring (sent ++ entry.pdu.toList)) ∨
      (phase = .awaiting ∧ (next = .awaiting ∨ entry = .results ∧ next = .resting)) ∨
      (phase = .resting ∧ next = .resting) := by
  cases entry with
  | graphics pdu => cases phase <;> cases accepted <;> simp [Entry.pdu]
  | results => cases phase <;> cases accepted <;> simp [Entry.pdu]
  | detection output =>
      have same : next = phase := by
        cases output <;> cases phase <;> cases other <;> exact (Option.some.inj accepted).symm
      cases phase <;> simp [same, Entry.pdu]

theorem monitor_expects {phase next : Phase} {entry : Entry} (other : entry.measure = none)
    (accepted : monitor phase entry = some next) : next.expects = phase.expects := by
  rcases monitor_other other accepted with measuring | outside
  · obtain ⟨sent, rfl, rfl⟩ := measuring
    rfl
  · rcases outside with awaiting | resting
    · obtain ⟨rfl, rfl | ⟨_, rfl⟩⟩ := awaiting <;> rfl
    · obtain ⟨rfl, rfl⟩ := resting
      rfl

theorem alternates_of_accepted {phase last : Phase} {log : List Entry}
    (accepted : Monitor.run monitor phase log = some last) :
    AlternatesFrom phase.expects (log.filterMap Entry.measure) := by
  induction log generalizing phase with
  | nil => trivial
  | cons entry rest ih =>
      obtain ⟨next, stepped, acceptedRest⟩ := Monitor.run_cons_eq_some accepted
      have alternates := ih acceptedRest
      rw [List.filterMap_cons]
      cases measured : entry.measure with
      | none =>
          rw [← monitor_expects measured stepped]
          exact alternates
      | some measure =>
          cases measure with
          | true =>
              obtain ⟨rfl, rfl⟩ := monitor_start measured stepped
              exact ⟨rfl, alternates⟩
          | false =>
              obtain ⟨⟨sent, rfl, _⟩, rfl⟩ := monitor_stop measured stepped
              exact ⟨rfl, alternates⟩

/-- After a start a stop is expected, and otherwise a start. -/
theorem expects_of_accepted {phase last : Phase} {log : List Entry}
    (accepted : Monitor.run monitor phase log = some last) :
    (log.filterMap Entry.measure).getLastD (!phase.expects) = !last.expects := by
  induction log generalizing phase with
  | nil =>
      cases accepted
      rfl
  | cons entry rest ih =>
      obtain ⟨next, stepped, acceptedRest⟩ := Monitor.run_cons_eq_some accepted
      have expects := ih acceptedRest
      rw [List.filterMap_cons]
      cases measured : entry.measure with
      | none =>
          rw [← monitor_expects measured stepped]
          exact expects
      | some measure =>
          rw [List.getLastD_cons]
          cases measure with
          | true =>
              obtain ⟨_, rfl⟩ := monitor_start measured stepped
              exact expects
          | false =>
              obtain ⟨_, rfl⟩ := monitor_stop measured stepped
              exact expects

theorem run_measuring {sent : List GfxPdu} {last : Phase} {between : List Entry}
    (unmeasured : between.filterMap Entry.measure = [])
    (accepted : Monitor.run monitor (.measuring sent) between = some last) :
    last = .measuring (sent ++ between.filterMap Entry.pdu) := by
  induction between generalizing sent with
  | nil =>
      cases accepted
      simp
  | cons entry rest ih =>
      have other := List.filterMap_eq_nil_iff.mp unmeasured entry List.mem_cons_self
      obtain ⟨next, stepped, acceptedRest⟩ := Monitor.run_cons_eq_some accepted
      cases monitor_other other stepped with
      | inr outside => simp at outside
      | inl measuring =>
          obtain ⟨before, same, rfl⟩ := measuring
          cases same
          rw [List.filterMap_cons, other] at unmeasured
          rw [ih unmeasured acceptedRest, List.append_assoc, List.filterMap_cons]
          cases entry.pdu <;> rfl

theorem run_awaiting {last : Phase} {between : List Entry}
    (unmeasured : between.filterMap Entry.measure = []) (unanswered : Entry.results ∉ between)
    (accepted : Monitor.run monitor .awaiting between = some last) : last = .awaiting := by
  induction between with
  | nil =>
      cases accepted
      rfl
  | cons entry rest ih =>
      have other := List.filterMap_eq_nil_iff.mp unmeasured entry List.mem_cons_self
      have notResults : entry ≠ .results := by
        intro same
        exact unanswered (same ▸ List.mem_cons_self)
      obtain ⟨next, stepped, acceptedRest⟩ := Monitor.run_cons_eq_some accepted
      have stays : next = .awaiting := by
        rcases monitor_other other stepped with measuring | outside
        · simp at measuring
        · simpa [notResults] using outside
      rw [stays] at acceptedRest
      rw [List.filterMap_cons, other] at unmeasured
      exact ih unmeasured (fun member => unanswered (List.mem_cons_of_mem entry member))
        acceptedRest

/-- Every log that the monitor accepts measures whole frames. -/
theorem bracketed_of_accepted {log : List Entry} {last : Phase}
    (accepted : Monitor.run monitor .resting log = some last) : Bracketed log := by
  constructor
  · exact alternates_of_accepted accepted
  · intro before start between stop after split isStart isStop unmeasured
    rw [split] at accepted
    obtain ⟨reached, started, drawn, stopped, startStep, ran, stopStep⟩ :=
      Monitor.run_between accepted
    obtain ⟨rfl, rfl⟩ := monitor_start isStart startStep
    obtain ⟨⟨sent, rfl, frame⟩, _⟩ := monitor_stop isStop stopStep
    have sentEq := run_measuring unmeasured ran
    cases sentEq
    exact frame
  · intro before stop between start after split isStop isStart unmeasured
    rw [split] at accepted
    obtain ⟨reached, stopped, waited, started, stopStep, ran, startStep⟩ :=
      Monitor.run_between accepted
    obtain ⟨_, rfl⟩ := monitor_stop isStop stopStep
    obtain ⟨rfl, _⟩ := monitor_start isStart startStep
    by_contra unanswered
    have stillWaiting := run_awaiting unmeasured unanswered ran
    cases stillWaiting

/-! ### The detection -/

/-- Neither the measurement state changes nor a start or stop goes out. -/
structure Quiet (before after : Private) : Prop where
  state : after.state = before.state
  outputs : ∃ added, after.outputs = before.outputs ++ added ∧
    ∀ output ∈ added, output.measure = none

namespace Quiet

theorem refl (d : Private) : Quiet d d := ⟨rfl, [], (List.append_nil _).symm, by simp⟩

theorem trans {first second third : Private} (before : Quiet first second)
    (after : Quiet second third) : Quiet first third := by
  obtain ⟨added, addedEq, addedQuiet⟩ := before.outputs
  obtain ⟨more, moreEq, moreQuiet⟩ := after.outputs
  refine ⟨after.state.trans before.state, added ++ more, ?_, ?_⟩
  · rw [moreEq, addedEq, List.append_assoc]
  · intro output member
    exact (List.mem_append.mp member).elim (addedQuiet output) (moreQuiet output)

theorem of_fields {before after : Private} (state : after.state = before.state)
    (outputs : after.outputs = before.outputs) : Quiet before after :=
  ⟨state, [], by rw [outputs, List.append_nil], by simp⟩

theorem emit (d : Private) {output : Output} (silent : output.measure = none) :
    Quiet d (emit output d) :=
  ⟨rfl, [output], rfl, by
    intro other member
    rw [List.mem_singleton.mp member]
    exact silent⟩

end Quiet

theorem nextSequenceNumber_quiet {d counted : Private} {sequence : UInt32}
    (found : nextSequenceNumber d = some (sequence, counted)) : Quiet d counted := by
  obtain ⟨number, _, numbered⟩ := Option.map_eq_some_iff.mp found
  cases numbered
  exact Quiet.of_fields rfl rfl

theorem updateAverageRtt_quiet {now : Time} {d after : Private}
    (returned : updateAverageRtt now d = some after) : Quiet d after := by
  simp only [updateAverageRtt] at returned
  split at returned
  · cases returned
    exact Quiet.of_fields rfl rfl
  · have averaged : Quiet d
        (emit .rttChanged (noteAverages (recentMeasurements now d.rttMeasurements) d)) := by
      have averages : Quiet d (noteAverages (recentMeasurements now d.rttMeasurements) d) :=
        Quiet.of_fields rfl rfl
      exact averages.trans (Quiet.emit _ rfl)
    split at returned
    · cases returned
      exact averaged
    · split at returned
      · cases returned
        exact averaged
      · obtain ⟨⟨sequence, counted⟩, found, emitted⟩ := Option.bind_eq_some_iff.mp returned
        cases emitted
        have noted : Quiet d (noteNetworkResult now
            (emit .rttChanged (noteAverages (recentMeasurements now d.rttMeasurements) d))) :=
          averaged.trans (Quiet.of_fields rfl rfl)
        exact (noted.trans (nextSequenceNumber_quiet found)).trans (Quiet.emit counted rfl)

theorem update_quiet {session : RdpConnection.State} {now : Time} {d after : Private}
    (returned : update session now d = some after) : Quiet d after := by
  simp only [update] at returned
  split at returned
  · cases returned
    exact .refl d
  · split at returned
    · cases returned
      exact .refl d
    · obtain ⟨⟨sequence, counted⟩, found, emitted⟩ := Option.bind_eq_some_iff.mp returned
      cases emitted
      have noted : Quiet d (noteUpdate now d) := Quiet.of_fields rfl rfl
      have inserted : Quiet counted (insertRequest sequence now counted) :=
        Quiet.of_fields rfl rfl
      exact ((noted.trans (nextSequenceNumber_quiet found)).trans inserted).trans
        (Quiet.emit _ rfl)

theorem onRttMeasureResponse_quiet {sequence : UInt16} {received now : Time} {d after : Private}
    (returned : onRttMeasureResponse sequence received now d = some after) : Quiet d after := by
  simp only [onRttMeasureResponse] at returned
  split at returned
  · cases returned
    exact .refl d
  · simp only [completeRequest] at returned
    split at returned
    · cases returned
      exact Quiet.of_fields rfl rfl
    · rename_i sentAt _ _
      have measured : Quiet d (addMeasurement
          { measurementTime := received, roundTripTime := received - sentAt }
          (removeRequest sequence.toUInt32 d)) := Quiet.of_fields rfl rfl
      exact measured.trans (updateAverageRtt_quiet returned)

theorem resultsStored_ignored {netCharBandwidth : UInt32} {now : Time} {d : Private}
    (notPending : d.state ≠ .pendingResults) : resultsStored netCharBandwidth now d = d := by
  unfold resultsStored onBandwidthMeasureResults
  rw [if_pos (bne_iff_ne.mpr notPending)]
  rfl

theorem resultsStored_quiet {netCharBandwidth : UInt32} {now : Time} {d : Private}
    (pending : d.state = .pendingResults) :
    Quiet { d with state := .none } (resultsStored netCharBandwidth now d) := by
  unfold resultsStored onBandwidthMeasureResults
  rw [if_neg (by simp [pending])]
  simp only
  split
  · exact .refl _
  · have stored : Quiet { d with state := .none }
        { d with state := .none, lastBandwithMeasurement := netCharBandwidth } :=
      Quiet.of_fields rfl rfl
    cases returned : updateAverageRtt now
      { d with state := .none, lastBandwithMeasurement := netCharBandwidth } with
    | none => exact .refl _
    | some after => exact stored.trans (updateAverageRtt_quiet returned)

/-! ### The calls of one frame -/

def IsGfx (call : VideoStream.Call) : Prop := ∃ pdu status, call = .gfx pdu status

theorem isGfx_of_setup {call : VideoStream.Call} (setup : call.isSurfaceSetup = true) :
    IsGfx call := by
  cases call with
  | gfx pdu status => exact ⟨pdu, status, rfl⟩
  | startBandwidthMeasure => cases setup
  | stopBandwidthMeasure => cases setup

theorem performReset_gfx (channel : Channel) (frame : VideoFrame) (d : VideoStream.Private) :
    ∃ emitted, (VideoStream.performReset channel frame d).2.calls = d.calls ++ emitted ∧
      ∀ call ∈ emitted, IsGfx call := by
  simp only [VideoStream.performReset, VideoStream.performResetTo]
  split
  · obtain ⟨before, status, after, callsEq, setup, _⟩ :=
      VideoStream.publishLayout_setup channel (VideoStream.resetLayout d.monitorLayout frame)
        frame d
    refine ⟨_, callsEq, ?_⟩
    intro call member
    rcases List.mem_append.mp member with early | late
    · exact isGfx_of_setup (setup call (List.mem_append_left _ early))
    · rcases List.mem_cons.mp late with reset | rest
      · exact ⟨_, _, reset⟩
      · exact isGfx_of_setup (setup call (List.mem_append_right _ rest))
  · exact ⟨[], (List.append_nil _).symm, by simp⟩

/-- The five steps of a frame on the wire. -/
def frameCalls (timestamp frameId : UInt32) (command : VideoStream.SurfaceCommand)
    (statuses : UInt32 × UInt32 × UInt32) : List VideoStream.Call :=
  [.startBandwidthMeasure,
    .gfx (.startFrame timestamp frameId) statuses.1,
    .gfx (.surfaceCommand command) statuses.2.1,
    .gfx (.endFrame frameId) statuses.2.2,
    .stopBandwidthMeasure]

theorem submitFrame_frameCalls (channel : Channel) (frame : VideoFrame)
    (d : VideoStream.Private) :
    (VideoStream.submitFrame channel frame d).calls = d.calls ∨
      ∃ timestamp frameId command statuses,
        (VideoStream.submitFrame channel frame d).calls =
          d.calls ++ frameCalls timestamp frameId command statuses := by
  unfold VideoStream.submitFrame
  split
  · exact .inl rfl
  · rename_i surface found
    right
    rw [VideoStream.emitFrame_calls]
    exact ⟨_, _, _, ⟨_, _, _⟩, rfl⟩

/-- `sendFrame` sets up surfaces first and then sends at most one frame. -/
theorem callsOf_shape (channel : Channel) (frame : VideoFrame) (stream : VideoStream.Private) :
    ∃ setup, (∀ call ∈ setup, IsGfx call) ∧
      (callsOf channel frame stream = setup ∨
        ∃ timestamp frameId command statuses,
          callsOf channel frame stream =
            setup ++ frameCalls timestamp frameId command statuses) := by
  have shape : ∃ setup, (∀ call ∈ setup, IsGfx call) ∧
      ((VideoStream.sendFrame channel frame stream).calls = stream.calls ++ setup ∨
        ∃ timestamp frameId command statuses,
          (VideoStream.sendFrame channel frame stream).calls = stream.calls ++
            (setup ++ frameCalls timestamp frameId command statuses)) := by
    simp only [VideoStream.sendFrame]
    split
    · split
      · obtain ⟨setup, resetCalls, gfx⟩ := performReset_gfx channel frame stream
        refine ⟨setup, gfx, ?_⟩
        split
        · have cleared : (VideoStream.clearPendingReset
              (VideoStream.performReset channel frame stream).2).calls = stream.calls ++ setup :=
            resetCalls
          cases submitFrame_frameCalls channel frame (VideoStream.clearPendingReset
              (VideoStream.performReset channel frame stream).2) with
          | inl none => exact .inl (none.trans cleared)
          | inr sent =>
              obtain ⟨timestamp, frameId, command, statuses, sentEq⟩ := sent
              right
              rw [cleared, List.append_assoc] at sentEq
              exact ⟨timestamp, frameId, command, statuses, sentEq⟩
        · exact .inl resetCalls
      · refine ⟨[], by simp, ?_⟩
        rcases submitFrame_frameCalls channel frame stream with none | sent
        · left
          rw [none, List.append_nil]
        · obtain ⟨timestamp, frameId, command, statuses, sentEq⟩ := sent
          exact .inr ⟨timestamp, frameId, command, statuses, sentEq⟩
    · exact ⟨[], by simp, .inl (List.append_nil _).symm⟩
  obtain ⟨setup, gfx, calls⟩ := shape
  refine ⟨setup, gfx, ?_⟩
  unfold callsOf
  rcases calls with only | sent
  · left
    rw [only, List.drop_left]
  · obtain ⟨timestamp, frameId, command, statuses, sentEq⟩ := sent
    right
    exact ⟨timestamp, frameId, command, statuses, by rw [sentEq, List.drop_left]⟩

/-! ### The invariant -/

/-- Where the thread is: what it has still to do, and, after the start of the
frame's measurement was called for, what it has sent of the frame since. -/
inductive Progress : List VideoStream.Call → Option (List GfxPdu) → Prop where
  | outside (calls : List VideoStream.Call) (gfx : ∀ call ∈ calls, IsGfx call) :
      Progress calls none
  | ahead (setup : List VideoStream.Call) (gfx : ∀ call ∈ setup, IsGfx call)
      (timestamp frameId : UInt32) (command : VideoStream.SurfaceCommand)
      (statuses : UInt32 × UInt32 × UInt32) :
      Progress (setup ++ frameCalls timestamp frameId command statuses) none
  | within (sent : List GfxPdu) (left : List (GfxPdu × UInt32))
      (frame : isFrame (sent ++ left.map Prod.fst) = true) :
      Progress (left.map (fun entry => .gfx entry.1 entry.2) ++ [.stopBandwidthMeasure])
        (some sent)

theorem isFrame_frameCalls (timestamp frameId : UInt32) (command : VideoStream.SurfaceCommand) :
    isFrame [.startFrame timestamp frameId, .surfaceCommand command, .endFrame frameId] = true :=
  beq_self_eq_true frameId

/-- What the next call of the thread can be. -/
theorem Progress.next {call : VideoStream.Call} {rest : List VideoStream.Call}
    {sent : Option (List GfxPdu)} (progress : Progress (call :: rest) sent) :
    (∃ pdu status, call = .gfx pdu status ∧ Progress rest (sent.map (· ++ [pdu]))) ∨
      (call = .startBandwidthMeasure ∧ sent = none ∧ Progress rest (some [])) ∨
      (call = .stopBandwidthMeasure ∧ Progress rest none ∧
        ∃ measured, sent = some measured ∧ isFrame measured = true) := by
  generalize split : call :: rest = calls at progress
  cases progress with
  | outside _ gfx =>
      subst split
      obtain ⟨pdu, status, rfl⟩ := gfx call List.mem_cons_self
      exact .inl ⟨pdu, status, rfl,
        .outside rest fun other member => gfx other (List.mem_cons_of_mem _ member)⟩
  | ahead setup gfx timestamp frameId command statuses =>
      cases setup with
      | nil =>
          obtain ⟨rfl, rfl⟩ := List.cons.inj split
          refine .inr (.inl ⟨rfl, rfl, ?_⟩)
          exact .within [] [(.startFrame timestamp frameId, statuses.1),
            (.surfaceCommand command, statuses.2.1), (.endFrame frameId, statuses.2.2)]
            (isFrame_frameCalls timestamp frameId command)
      | cons first others =>
          obtain ⟨rfl, rfl⟩ := List.cons.inj split
          obtain ⟨pdu, status, rfl⟩ := gfx call List.mem_cons_self
          exact .inl ⟨pdu, status, rfl,
            .ahead others (fun other member => gfx other (List.mem_cons_of_mem _ member))
              timestamp frameId command statuses⟩
  | within measured left frame =>
      cases left with
      | nil =>
          obtain ⟨rfl, rfl⟩ := List.cons.inj split
          refine .inr (.inr ⟨rfl, .outside [] (by simp), measured, rfl, ?_⟩)
          simpa using frame
      | cons entry others =>
          obtain ⟨rfl, rfl⟩ := List.cons.inj split
          refine .inl ⟨entry.1, entry.2, rfl, ?_⟩
          apply Progress.within (measured ++ [entry.1]) others
          rw [List.append_assoc]
          exact frame

/-- The phase that a detection state stands for, with what was sent of the frame
being measured. -/
def Phase.Matches (phase : Phase) (state : State) (sent : Option (List GfxPdu)) : Prop :=
  match phase with
  | .resting => state = .none
  | .measuring measured => state = .pendingStop ∧ sent = some measured
  | .awaiting => state = .pendingResults

def FrameWorld.Tracked (world : FrameWorld) : Prop :=
  ∃ phase sent, Monitor.run monitor .resting world.log = some phase ∧
    Progress world.remaining sent ∧ phase.Matches world.detection.state sent

theorem Phase.Matches.none_iff {phase : Phase} {state : State} {sent : Option (List GfxPdu)}
    (agrees : phase.Matches state sent) : state = .none ↔ phase = .resting := by
  cases phase with
  | resting => exact iff_of_true agrees rfl
  | measuring measured =>
      rw [agrees.1]
      simp
  | awaiting =>
      rw [show state = .pendingResults from agrees]
      simp

theorem monitor_silent (phase : Phase) {output : Output} (silent : output.measure = none) :
    monitor phase (.detection output) = some phase := by
  cases output <;> cases silent <;> cases phase <;> rfl

theorem observe_quiet {world : FrameWorld} {detection : Private} {phase : Phase}
    (quiet : Quiet world.detection detection)
    (accepted : Monitor.run monitor .resting world.log = some phase) :
    Monitor.run monitor .resting (world.observe detection).log = some phase := by
  obtain ⟨added, outputsEq, silent⟩ := quiet.outputs
  simp only [FrameWorld.observe, outputsEq, List.drop_left]
  rw [Monitor.run_append, accepted, Option.bind_some]
  apply Monitor.run_stays
  intro entry member
  obtain ⟨output, outputMember, rfl⟩ := List.mem_map.mp member
  exact monitor_silent phase (silent output outputMember)

namespace FrameWorld.Tracked

variable {world : FrameWorld}

theorem quiet (tracked : world.Tracked) {detection : Private}
    (quiet : Quiet world.detection detection) : (world.observe detection).Tracked := by
  obtain ⟨phase, sent, accepted, progress, agrees⟩ := tracked
  refine ⟨phase, sent, observe_quiet quiet accepted, progress, ?_⟩
  change phase.Matches detection.state sent
  rw [quiet.state]
  exact agrees

theorem getD_quiet (tracked : world.Tracked) {returned : Option Private}
    (quiet : ∀ after, returned = some after → Quiet world.detection after) :
    (world.observe (returned.getD world.detection)).Tracked := by
  cases result : returned with
  | none => exact tracked.quiet (.refl _)
  | some after => exact tracked.quiet (quiet after result)

theorem results (tracked : world.Tracked) (netCharBandwidth : UInt32) (now : Time) :
    (world.step (.bandwidthMeasureResults netCharBandwidth now)).Tracked := by
  obtain ⟨phase, sent, accepted, progress, agrees⟩ := tracked
  have entered := Monitor.run_concat accepted Entry.results
  simp only [FrameWorld.step]
  by_cases pending : world.detection.state = .pendingResults
  · have awaiting : phase = .awaiting := by
      cases phase with
      | awaiting => rfl
      | resting => rw [show world.detection.state = .none from agrees] at pending; cases pending
      | measuring measured => rw [agrees.1] at pending; cases pending
    rw [awaiting] at entered
    let idle : FrameWorld :=
      { world.enter .results with detection := { world.detection with state := .none } }
    have idleTracked : idle.Tracked := ⟨.resting, sent, entered, progress, rfl⟩
    exact idleTracked.quiet (resultsStored_quiet pending)
  · have notAwaiting : monitor phase .results = some phase := by
      cases phase with
      | awaiting => exact absurd agrees pending
      | resting => rfl
      | measuring measured => rfl
    rw [resultsStored_ignored pending]
    have enteredTracked : (world.enter .results).Tracked :=
      ⟨phase, sent, entered.trans notAwaiting, progress, agrees⟩
    exact enteredTracked.quiet (.refl _)

theorem enterCall (tracked : world.Tracked) (channel : Channel) (frame : VideoFrame)
    (stream : VideoStream.Private) : (world.step (.sendFrame channel frame stream)).Tracked := by
  obtain ⟨phase, sent, accepted, progress, agrees⟩ := tracked
  simp only [FrameWorld.step]
  cases remaining : world.remaining with
  | cons call rest => exact ⟨phase, sent, accepted, progress, agrees⟩
  | nil =>
      have outsideFrame : sent = none := by
        rw [remaining] at progress
        generalize split : ([] : List VideoStream.Call) = calls at progress
        cases progress with
        | outside _ _ => rfl
        | ahead setup _ _ _ _ _ => rfl
        | within measured left _ => simp at split
      rw [outsideFrame] at agrees
      obtain ⟨setup, gfx, shape⟩ := callsOf_shape channel frame stream
      refine ⟨phase, none, accepted, ?_, agrees⟩
      rcases shape with only | sends
      · simp only [only]
        exact .outside setup gfx
      · obtain ⟨timestamp, frameId, command, statuses, calls⟩ := sends
        simp only [calls]
        exact .ahead setup gfx timestamp frameId command statuses

theorem executeGfx {pdu : GfxPdu} {status : UInt32} {rest : List VideoStream.Call}
    {phase : Phase} {sent : Option (List GfxPdu)}
    (accepted : Monitor.run monitor .resting world.log = some phase)
    (agrees : phase.Matches world.detection.state sent)
    (progress : Progress rest (sent.map (· ++ [pdu]))) :
    ({ world.execute (.gfx pdu status) with remaining := rest } : FrameWorld).Tracked := by
  have entered := Monitor.run_concat accepted (Entry.graphics pdu)
  cases phase with
  | resting => exact ⟨.resting, _, entered, progress, agrees⟩
  | awaiting => exact ⟨.awaiting, _, entered, progress, agrees⟩
  | measuring measured =>
      obtain ⟨pending, rfl⟩ := agrees
      exact ⟨.measuring (measured ++ [pdu]), _, entered, progress, pending, rfl⟩

theorem executeStart {rest : List VideoStream.Call} {phase : Phase}
    (accepted : Monitor.run monitor .resting world.log = some phase)
    (agrees : phase.Matches world.detection.state none) (progress : Progress rest (some [])) :
    ({ world.execute .startBandwidthMeasure with remaining := rest } : FrameWorld).Tracked := by
  simp only [FrameWorld.execute, startBandwidthMeasure]
  by_cases idle : world.detection.state = .none
  · rw [if_neg (by simp [idle])]
    obtain rfl := agrees.none_iff.mp idle
    have started := Monitor.run_concat accepted (Entry.detection (.bandwidthMeasureStart 0))
    refine ⟨.measuring [], some [], ?_, progress, rfl, rfl⟩
    simp only [FrameWorld.observe, emit, List.drop_left]
    exact started
  · rw [if_pos (by simp [idle])]
    refine ⟨phase, some [], observe_quiet (.refl _) accepted, progress, ?_⟩
    cases phase with
    | resting => exact agrees
    | awaiting => exact agrees
    | measuring measured => cases agrees.2

theorem executeStop {rest : List VideoStream.Call} {phase : Phase} {measured : List GfxPdu}
    (accepted : Monitor.run monitor .resting world.log = some phase)
    (agrees : phase.Matches world.detection.state (some measured))
    (frame : isFrame measured = true) (progress : Progress rest none) :
    ({ world.execute .stopBandwidthMeasure with remaining := rest } : FrameWorld).Tracked := by
  simp only [FrameWorld.execute, stopBandwidthMeasure]
  by_cases pending : world.detection.state = .pendingStop
  · rw [if_neg (by simp [pending])]
    have measuring : phase = .measuring measured := by
      cases phase with
      | resting => rw [show world.detection.state = .none from agrees] at pending; cases pending
      | awaiting =>
          rw [show world.detection.state = .pendingResults from agrees] at pending
          cases pending
      | measuring same => rw [Option.some.inj agrees.2]
    have stopped := Monitor.run_concat accepted (Entry.detection (.bandwidthMeasureStop 0))
    rw [measuring] at stopped
    have awaiting : monitor (.measuring measured) (.detection (.bandwidthMeasureStop 0)) =
        some .awaiting := if_pos frame
    rw [awaiting] at stopped
    refine ⟨.awaiting, none, ?_, progress, rfl⟩
    simp only [FrameWorld.observe, emit, List.drop_left]
    exact stopped
  · rw [if_pos (by simp [pending])]
    refine ⟨phase, none, observe_quiet (.refl _) accepted, progress, ?_⟩
    cases phase with
    | resting => exact agrees
    | awaiting => exact agrees
    | measuring same => exact absurd agrees.1 pending

theorem advance (tracked : world.Tracked) : (world.step .advance).Tracked := by
  obtain ⟨phase, sent, accepted, progress, agrees⟩ := tracked
  simp only [FrameWorld.step]
  cases remaining : world.remaining with
  | nil => exact ⟨phase, sent, accepted, progress, agrees⟩
  | cons call rest =>
      rw [remaining] at progress
      rcases progress.next with gfx | measure
      · obtain ⟨pdu, status, rfl, next⟩ := gfx
        exact executeGfx accepted agrees next
      · rcases measure with start | stop
        · obtain ⟨rfl, rfl, next⟩ := start
          exact executeStart accepted agrees next
        · obtain ⟨rfl, next, measured, rfl, frame⟩ := stop
          exact executeStop accepted agrees frame next

theorem step (tracked : world.Tracked) (action : FrameAction) : (world.step action).Tracked := by
  cases action with
  | sendFrame channel frame stream => exact tracked.enterCall channel frame stream
  | advance => exact tracked.advance
  | bandwidthMeasureResults netCharBandwidth now => exact tracked.results netCharBandwidth now
  | rttMeasureResponse sequence received now =>
      exact tracked.getD_quiet fun _ returned => onRttMeasureResponse_quiet returned
  | update session now => exact tracked.getD_quiet fun _ returned => update_quiet returned

theorem run (actions : List FrameAction) : (StepRun.run FrameWorld.step {} actions).Tracked := by
  apply StepRun.run_invariant FrameWorld.Tracked
  · exact ⟨.resting, none, rfl, .outside [] (by simp), rfl⟩
  · intro world action tracked
    exact tracked.step action

end FrameWorld.Tracked

/-- A start that is called for at rest goes out, and so does the stop of a frame that
is being measured. -/
structure FrameWorld.Measures (world : FrameWorld) : Prop where
  starts : ∀ rest, world.remaining = .startBandwidthMeasure :: rest →
    world.detection.state = .none →
      (world.step .advance).log = world.log ++ [.detection (.bandwidthMeasureStart 0)]
  stops : ∀ rest, world.remaining = .stopBandwidthMeasure :: rest →
    (world.log.filterMap Entry.measure).getLast? = some true →
      (world.step .advance).log = world.log ++ [.detection (.bandwidthMeasureStop 0)]

theorem FrameWorld.Tracked.pendingStop {world : FrameWorld} (tracked : world.Tracked)
    (started : (world.log.filterMap Entry.measure).getLast? = some true) :
    world.detection.state = .pendingStop := by
  obtain ⟨phase, sent, accepted, _, agrees⟩ := tracked
  have expects := expects_of_accepted accepted
  rw [List.getLastD_eq_getLast?, started, Option.getD_some] at expects
  cases phase with
  | resting => cases expects
  | awaiting => cases expects
  | measuring measured => exact agrees.1

theorem FrameWorld.Tracked.measures {world : FrameWorld} (tracked : world.Tracked) :
    world.Measures := by
  constructor
  · intro rest remaining resting
    simp [FrameWorld.step, remaining, FrameWorld.execute, startBandwidthMeasure, resting,
      FrameWorld.observe, emit]
  · intro rest remaining started
    simp [FrameWorld.step, remaining, FrameWorld.execute, stopBandwidthMeasure,
      tracked.pendingStop started, FrameWorld.observe, emit]

/-- Over every interleaving of frames, bandwidth results and round-trip traffic,
the measurements bracket whole frames, and none that could be made is left out. -/
theorem measurements_bracket_frames (actions : List FrameAction) :
    Bracketed (StepRun.run FrameWorld.step {} actions).log ∧
      (StepRun.run FrameWorld.step {} actions).Measures := by
  have measures := (FrameWorld.Tracked.run actions).measures
  obtain ⟨phase, _, accepted, _⟩ := FrameWorld.Tracked.run actions
  exact ⟨bracketed_of_accepted accepted, measures⟩

end NetworkDetection

end KRdp
