/-
The part of a session that both kinds of sessions share.

The encoder is a third-party object that the session creates when it is first asked
for.  It keeps what it is told; what it starts from is a parameter.  Objects that
want frames request them, and a request also ends with the object.
-/

import KRdp.Library.Run
import Mathlib.Data.Finset.Card

namespace KRdp

namespace AbstractSession

structure Fraction where
  numerator : UInt32
  denominator : UInt32
  deriving DecidableEq, Repr

/-- What the session configures of an encoder. -/
structure EncoderConfiguration where
  maxFramerate : Fraction
  maxPendingFrames : UInt32
  quality : Option UInt8
  deriving DecidableEq, Repr

/-- `PipeWireEncodedStream`.  Each field is the argument of the last call that the session
made to set it, or what a new stream has before. -/
structure EncodedStream extends EncoderConfiguration where
  active : Bool
  deriving DecidableEq, Repr

namespace EncodedStream

def make (defaults : EncoderConfiguration) : EncodedStream :=
  { defaults with active := false }

def setActive (encoded : EncodedStream) (active : Bool) : EncodedStream :=
  { encoded with active := active }

def setMaxFramerate (encoded : EncodedStream) (framerate : Fraction) : EncodedStream :=
  { encoded with maxFramerate := framerate }

def setMaxPendingFrames (encoded : EncodedStream) (frames : UInt32) : EncodedStream :=
  { encoded with maxPendingFrames := frames }

def setQuality (encoded : EncodedStream) (quality : UInt8) : EncodedStream :=
  { encoded with quality := some quality }

end EncodedStream

/-- `connections` are those of the signal `destroyed` to `requestStreamingDisable`,
by their sender: one for each call that made a connection. -/
structure Private (Requester : Type*) where
  encodedStream : Option EncodedStream := none
  started : Bool := false
  enabled : Bool := false
  frameRate : Option UInt32 := some 60
  quality : Option UInt8 := none
  enableRequests : Finset Requester := ∅
  connections : List Requester := []

variable {Requester : Type*}

def setVideoQuality (quality : UInt8) (d : Private Requester) : Private Requester :=
  { d with
    quality := some quality
    encodedStream := d.encodedStream.map fun encoded => encoded.setQuality quality }

def streamingEnabled (d : Private Requester) : Bool :=
  match d.encodedStream with
  | some encoded => encoded.active
  | none => false

def setStreamingEnabled (enable : Bool) (d : Private Requester) : Private Requester :=
  { d with
    enabled := enable
    encodedStream := d.encodedStream.map fun encoded => encoded.setActive (enable && d.started) }

def setVideoFrameRate (framerate : UInt32) (d : Private Requester) : Private Requester :=
  { d with
    frameRate := some framerate
    encodedStream := d.encodedStream.map fun encoded =>
      -- this buffers 1 second of frames and drops after that
      (encoded.setMaxFramerate ⟨framerate, 1⟩).setMaxPendingFrames framerate }

/-- A new stream with the stored frame rate and quality. -/
def newStream (defaults : EncoderConfiguration) (d : Private Requester) : EncodedStream :=
  let encoded := EncodedStream.make defaults
  let encoded := match d.frameRate with
    | some framerate => encoded.setMaxFramerate ⟨framerate, 1⟩
    | none => encoded
  match d.quality with
  | some quality => encoded.setQuality quality
  | none => encoded

def stream (defaults : EncoderConfiguration) (d : Private Requester) : Private Requester :=
  match d.encodedStream with
  | some _ => d
  | none => { d with encodedStream := some (newStream defaults d) }

theorem stream_eq (defaults : EncoderConfiguration) (d : Private Requester) :
    stream defaults d =
      { d with encodedStream := some (d.encodedStream.getD (newStream defaults d)) } := by
  unfold stream
  split
  · rename_i encoded found
    rw [found, Option.getD_some, ← found]
  · rename_i missing
    rw [missing, Option.getD_none]

/-- Undefined when the session starts without a stream, whose pointer is not checked.
The slots of the signal `started` do not use the session: they only schedule its
deletion. -/
def setStarted (s : Bool) (d : Private Requester) : Option (Private Requester) :=
  let d := { d with started := s }
  if s then
    d.encodedStream.map fun encoded =>
      { d with encodedStream := some (encoded.setActive d.enabled) }
  else some d

/-- Both sessions ask for the stream before they become started. -/
def becomeStarted (defaults : EncoderConfiguration) (d : Private Requester) :
    Option (Private Requester) :=
  setStarted true (stream defaults d)

theorem becomeStarted_eq (defaults : EncoderConfiguration) (d : Private Requester) :
    becomeStarted defaults d = some
      { d with
        started := true
        encodedStream :=
          some ((d.encodedStream.getD (newStream defaults d)).setActive d.enabled) } := by
  rw [becomeStarted, stream_eq]
  rfl

variable [DecidableEq Requester]

def requestStreamingEnable (requester : Requester) (d : Private Requester) : Private Requester :=
  setStreamingEnabled true
    { d with
      enableRequests := insert requester d.enableRequests
      connections := d.connections ++ [requester] }

def requestStreamingDisable (requester : Requester) (d : Private Requester) :
    Private Requester :=
  if requester ∉ d.enableRequests then d
  else
    let d := { d with
      connections := d.connections.filter (· ≠ requester)
      enableRequests := d.enableRequests.erase requester }
    if d.enableRequests.card = 0 then setStreamingEnabled false d else d

theorem requestStreamingDisable_of_not_mem {requester : Requester} {d : Private Requester}
    (absent : requester ∉ d.enableRequests) : requestStreamingDisable requester d = d :=
  if_pos absent

theorem requestStreamingDisable_of_mem {requester : Requester} {d : Private Requester}
    (member : requester ∈ d.enableRequests) :
    requestStreamingDisable requester d =
      let removed := { d with
        connections := d.connections.filter (· ≠ requester)
        enableRequests := d.enableRequests.erase requester }
      if removed.enableRequests.card = 0 then setStreamingEnabled false removed else removed :=
  if_neg (not_not.mpr member)

theorem requests_of_requestStreamingDisable (requester : Requester) (d : Private Requester) :
    (requestStreamingDisable requester d).enableRequests = d.enableRequests.erase requester := by
  by_cases member : requester ∈ d.enableRequests
  · rw [requestStreamingDisable_of_mem member]
    dsimp only
    split <;> rfl
  · rw [requestStreamingDisable_of_not_mem member, Finset.erase_eq_of_notMem member]

theorem connections_of_requestStreamingDisable {requester : Requester} {d : Private Requester}
    (member : requester ∈ d.enableRequests) :
    (requestStreamingDisable requester d).connections =
      d.connections.filter (· ≠ requester) := by
  rw [requestStreamingDisable_of_mem member]
  dsimp only
  split <;> rfl

/-- One call for each connection the sender had when the signal was emitted, unless
an earlier call has disconnected it. -/
def emitDestroyed (requester : Requester) : Nat → Private Requester → Private Requester
  | 0, d => d
  | connections + 1, d =>
      emitDestroyed requester connections
        (if requester ∈ d.connections then requestStreamingDisable requester d else d)

/-- The connections of an object go with it. -/
def destroyed (requester : Requester) (d : Private Requester) : Private Requester :=
  let d := emitDestroyed requester (d.connections.count requester) d
  { d with connections := d.connections.filter (· ≠ requester) }

/-! ### Operations of the session -/

/-- A requester is known by its address, at which a new object may live after one has
been destroyed.  `stream` is also the first thing that `sendEvent` does. -/
inductive Operation (Requester : Type*) where
  | setVideoQuality (quality : UInt8)
  | setVideoFrameRate (framerate : UInt32)
  | stream
  | started
  | requestStreamingEnable (requester : Requester)
  | requestStreamingDisable (requester : Requester)
  | destroyed (requester : Requester)
  deriving DecidableEq, Repr

def perform (defaults : EncoderConfiguration) (d : Private Requester) :
    Operation Requester → Private Requester
  | .setVideoQuality quality => setVideoQuality quality d
  | .setVideoFrameRate framerate => setVideoFrameRate framerate d
  | .stream => stream defaults d
  | .started => (becomeStarted defaults d).getD d
  | .requestStreamingEnable requester => requestStreamingEnable requester d
  | .requestStreamingDisable requester => requestStreamingDisable requester d
  | .destroyed requester => destroyed requester d

def session (defaults : EncoderConfiguration) (history : List (Operation Requester)) :
    Private Requester :=
  StepRun.run (perform defaults) {} history

end AbstractSession

end KRdp
