/-
The communication loop of a connection.

One iteration reads the client's messages, sets up the dynamic channels once the
channel for them is ready, and measures the network.  What the iteration finds
on its sockets and channels is its input.  An iteration that breaks out of the
loop closes the connection.
-/

import KRdp.NetworkDetection.Detection
import KRdp.VideoStream.Stream

namespace KRdp

namespace RdpConnection

inductive DrdynvcState where
  | none
  | initialized
  | ready
  | failed
  deriving DecidableEq, Repr

structure Iteration where
  stopRequested : Bool := false
  handleCount : UInt32 := 1
  /-- The `allow` bytes of the SuppressOutput messages, in order. -/
  suppressOutputs : List UInt8 := []
  fileDescriptorOk : Bool := true
  connected : Bool := true
  drdynvcJoined : Bool := true
  drdynvcState : DrdynvcState := .ready
  displayControlOpens : Bool := true
  gfxContextNew : Bool := true
  gfxOpens : Bool := true
  channelEvent : Bool := false
  channelManagerOk : Bool := true
  cliprdrJoined : Bool := false
  clipboardStarts : Bool := true
  now : NetworkDetection.Time := 0
  deriving DecidableEq, Repr

/-- The connection; the last two fields observe it. -/
structure Connection where
  state : State := .running
  videoStream : VideoStream.Private := {}
  networkDetection : NetworkDetection.Private := {}
  displayControl : Bool := false
  clipboard : Bool := false
  lastSuppressOutput : Option UInt8 := Option.none
  streamingStarted : Bool := false

/-! ### Parts of an iteration -/

def onSuppressOutput (connection : Connection) (allow : UInt8) : Connection :=
  { connection with
    videoStream := VideoStream.setEnabled (allow != 0) connection.videoStream
    lastSuppressOutput := some allow }

def checkFileDescriptor (input : Iteration) (connection : Connection) : Connection :=
  input.suppressOutputs.foldl onSuppressOutput connection

def initializeDisplayControl (input : Iteration) (connection : Connection) :
    Bool × Connection :=
  if connection.displayControl then (true, connection)
  else if input.displayControlOpens then (true, { connection with displayControl := true })
  else (false, connection)

def initializeVideoStream (input : Iteration) (connection : Connection) : Bool × Connection :=
  if connection.videoStream.gfxContext then (true, connection)
  else if !input.gfxContextNew then (false, connection)
  else
    (input.gfxOpens,
      { connection with videoStream := { connection.videoStream with gfxContext := true } })

def initializeClipboard (input : Iteration) (connection : Connection) : Bool × Connection :=
  if connection.clipboard then (true, connection)
  else if input.clipboardStarts then (true, { connection with clipboard := true })
  else (false, connection)

def startStreaming (connection : Connection) : Connection :=
  { connection with
    videoStream := VideoStream.setEnabled true connection.videoStream
    state := .streaming
    streamingStarted := true }

/-- The dynamic channels are set up in every iteration that finds them ready. -/
def setUpChannels (input : Iteration) (connection : Connection) : Bool × Connection :=
  if input.connected && input.drdynvcJoined then
    if input.drdynvcState == .ready then
      let control := initializeDisplayControl input connection
      if !control.1 then (false, control.2)
      else
        let stream := initializeVideoStream input control.2
        if stream.1 then (true, startStreaming stream.2) else (false, stream.2)
    else (true, connection)
  else (true, connection)

/-- The channel manager is checked when its event is set, which an iteration
does itself to get the dynamic channels going. -/
def channelManagerFails (input : Iteration) : Bool :=
  let eventSet := input.channelEvent ||
    (input.connected && input.drdynvcJoined && input.drdynvcState == .none)
  eventSet && !input.channelManagerOk

def updateNetwork (input : Iteration) (connection : Connection) : Connection :=
  { connection with
    networkDetection := (NetworkDetection.update connection.state input.now
      connection.networkDetection).getD connection.networkDetection }

def finishIteration (input : Iteration) (connection : Connection) : Bool × Connection :=
  if channelManagerFails input then (false, connection)
  else if input.connected && input.cliprdrJoined then
    let clipboard := initializeClipboard input connection
    if clipboard.1 then (true, updateNetwork input clipboard.2) else (false, clipboard.2)
  else (true, updateNetwork input connection)

/-- One iteration; the flag tells whether the loop goes on. -/
def iterate (input : Iteration) (connection : Connection) : Bool × Connection :=
  if input.stopRequested then (false, connection)
  else if input.handleCount ≤ 0 then (false, connection)
  else
    let read := checkFileDescriptor input connection
    if !input.fileDescriptorOk then (false, read)
    else
      let channels := setUpChannels input read
      if channels.1 then finishIteration input channels.2 else (false, channels.2)

def onClose (connection : Connection) : Connection :=
  { connection with
    displayControl := false
    clipboard := false
    state := .closed }

/-! ### What the parts leave alone -/

@[simp] theorem setEnabled_enabled (enabled : Bool) (d : VideoStream.Private) :
    (VideoStream.setEnabled enabled d).enabled = enabled := by
  unfold VideoStream.setEnabled
  split
  · rename_i same
    exact beq_iff_eq.mp same
  · rfl

@[simp] theorem setEnabled_gfxContext (enabled : Bool) (d : VideoStream.Private) :
    (VideoStream.setEnabled enabled d).gfxContext = d.gfxContext := by
  unfold VideoStream.setEnabled
  split <;> rfl

/-- The client's wishes for the output change nothing but the switch of the stream. -/
structure SameButOutput (before after : Connection) : Prop where
  state : after.state = before.state
  displayControl : after.displayControl = before.displayControl
  gfxContext : after.videoStream.gfxContext = before.videoStream.gfxContext
  clipboard : after.clipboard = before.clipboard

theorem checkFileDescriptor_same (input : Iteration) (connection : Connection) :
    SameButOutput connection (checkFileDescriptor input connection) := by
  unfold checkFileDescriptor
  generalize input.suppressOutputs = messages
  induction messages generalizing connection with
  | nil => exact ⟨rfl, rfl, rfl, rfl⟩
  | cons allow rest ih =>
      obtain ⟨state, displayControl, gfxContext, clipboard⟩ :=
        ih (onSuppressOutput connection allow)
      exact ⟨state, displayControl, gfxContext.trans (setEnabled_gfxContext _ _), clipboard⟩

/-- The dynamic channels leave the clipboard alone, and the state but for the start of
the stream. -/
structure OpensChannels (before after : Connection) : Prop where
  state : after.state = before.state ∨ after.state = .streaming
  clipboard : after.clipboard = before.clipboard

theorem initializeDisplayControl_eq (input : Iteration) (connection : Connection) :
    ∃ displayControl, (initializeDisplayControl input connection).2 =
      { connection with displayControl } := by
  unfold initializeDisplayControl
  split
  · exact ⟨_, rfl⟩
  · split
    · exact ⟨_, rfl⟩
    · exact ⟨_, rfl⟩

theorem initializeVideoStream_eq (input : Iteration) (connection : Connection) :
    ∃ videoStream,
      (initializeVideoStream input connection).2 = { connection with videoStream } := by
  unfold initializeVideoStream
  split
  · exact ⟨_, rfl⟩
  · split
    · exact ⟨_, rfl⟩
    · exact ⟨_, rfl⟩

theorem setUpChannels_opens (input : Iteration) (connection : Connection) :
    OpensChannels connection (setUpChannels input connection).2 := by
  obtain ⟨displayControl, control⟩ := initializeDisplayControl_eq input connection
  obtain ⟨videoStream, stream⟩ :=
    initializeVideoStream_eq input (initializeDisplayControl input connection).2
  simp only [setUpChannels]
  split
  · split
    · split
      · rw [control]
        exact ⟨.inl rfl, rfl⟩
      · rw [stream, control]
        split
        · exact ⟨.inr rfl, rfl⟩
        · exact ⟨.inl rfl, rfl⟩
    · exact ⟨.inl rfl, rfl⟩
  · exact ⟨.inl rfl, rfl⟩

/-! ### Runs of the loop -/

inductive Action where
  | iteration (input : Iteration)
  | queueFrame (frame : VideoFrame)
  deriving DecidableEq, Repr

/-- Frames come in between the iterations; after a break there are no more
iterations. -/
def step (connection : Connection) : Action → Connection
  | .iteration input =>
      if connection.state == .closed then connection
      else
        let outcome := iterate input connection
        if outcome.1 then outcome.2 else onClose outcome.2
  | .queueFrame frame =>
      { connection with
        videoStream := VideoStream.queueFrame connection.state frame connection.videoStream }

end RdpConnection

end KRdp
