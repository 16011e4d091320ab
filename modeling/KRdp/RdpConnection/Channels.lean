/-
The channels of a connection and what they are made of.

The context of the peer has the manager of its virtual channels, and each channel has
a context that is made with the manager and needs it as long as the channel is open.
The communication thread opens and closes the channels; the peer is freed before the
members that have them.
-/

import KRdp.Library.Custody
import KRdp.Library.Run

namespace KRdp

namespace RdpConnection

namespace Channels

/-- The context of a channel, and whether the channel is open. -/
structure Channel where
  context : Nat
  opened : Bool := false
  deriving DecidableEq, Repr

inductive Kind where
  | displayControl
  | audioStream
  | clipboard
  | videoStream
  deriving DecidableEq, Repr

inductive Phase where
  | initial
  | failed
  | running
  | closed
  | destroyed
  deriving DecidableEq, Repr

/-- The contexts keep their pointer to the manager when the manager is freed. -/
structure Private where
  virtualChannelManager : Option Nat := none
  displayControl : Option Channel := none
  audioStream : Option Channel := none
  clipboard : Option Channel := none
  videoStream : Option Channel := none
  phase : Phase := .initial
  memory : Custody.Heap := {}
  deriving DecidableEq, Repr

def get (kind : Kind) (d : Private) : Option Channel :=
  match kind with
  | .displayControl => d.displayControl
  | .audioStream => d.audioStream
  | .clipboard => d.clipboard
  | .videoStream => d.videoStream

def set (kind : Kind) (channel : Option Channel) (d : Private) : Private :=
  match kind with
  | .displayControl => { d with displayControl := channel }
  | .audioStream => { d with audioStream := channel }
  | .clipboard => { d with clipboard := channel }
  | .videoStream => { d with videoStream := channel }

def useContext (context : Nat) (d : Private) : Private :=
  { d with memory := d.memory.use context }

def useManager (d : Private) : Private :=
  match d.virtualChannelManager with
  | some manager => { d with memory := d.memory.use manager }
  | none => d

/-! ### One channel -/

/-- An open channel goes through the manager. -/
def passManager (channel : Channel) (d : Private) : Private :=
  if channel.opened then useManager d else d

/-- An open channel is closed with its context. -/
def freeContext (kind : Kind) (channel : Channel) (d : Private) : Private :=
  let closed := passManager channel d
  set kind none { closed with memory := closed.memory.free channel.context }

/-- `Stop` or `Close`. -/
def stop (kind : Kind) (channel : Channel) (d : Private) : Private :=
  set kind (some { channel with opened := false })
    (passManager channel (useContext channel.context d))

def closeDisplayControl (d : Private) : Private :=
  match d.displayControl with
  | some channel => freeContext .displayControl channel d
  | none => d

/-- The channel is stopped before its context is freed. -/
def stopAndFree (kind : Kind) (d : Private) : Private :=
  match get kind d with
  | some channel => freeContext kind { channel with opened := false } (stop kind channel d)
  | none => d

def closeAudioStream (d : Private) : Private := stopAndFree .audioStream d

def closeClipboard (d : Private) : Private := stopAndFree .clipboard d

/-- The context of the graphics channel is kept. -/
def closeVideoStream (d : Private) : Private :=
  match d.videoStream with
  | some channel => stop .videoStream channel d
  | none => d

/-- What the calls of an initialization come to.  Only the audio stream has formats, and
only the display control advertises. -/
structure Outcome where
  context : Bool
  formats : Bool
  opens : Bool
  advertises : Bool
  deriving DecidableEq, Repr

def newContext (kind : Kind) (succeeds : Bool) (d : Private) : Private :=
  let d := useManager d
  if succeeds then
    set kind (some { context := d.memory.allocated }) { d with memory := d.memory.allocate }
  else d

/-- The call that opens the channel of a new context: `Open`, `Start` or `Initialize`. -/
def openChannel (kind : Kind) (opens : Bool) (whenRefused : Private → Private) (d : Private) :
    Bool × Private :=
  match get kind d with
  | none => (false, d)
  | some channel =>
      let d := useManager (useContext channel.context d)
      if opens then (true, set kind (some { channel with opened := true }) d)
      else (false, whenRefused d)

def useChannel (kind : Kind) (d : Private) : Private :=
  match get kind d with
  | some channel => passManager channel (useContext channel.context d)
  | none => d

def initializeDisplayControl (outcome : Outcome) (d : Private) : Bool × Private :=
  if d.displayControl.isSome then (true, d)
  else
    let opened := openChannel .displayControl outcome.opens closeDisplayControl
      (newContext .displayControl outcome.context d)
    if !opened.1 then opened
    else
      let advertised := useChannel .displayControl opened.2
      if outcome.advertises then (true, advertised) else (false, closeDisplayControl advertised)

/-- All that can be allocated is, before the first failure is looked at. -/
def initializeAudioStream (outcome : Outcome) (d : Private) : Bool × Private :=
  if d.audioStream.isSome then (true, d)
  else
    let made := newContext .audioStream outcome.context d
    if !outcome.formats then (false, closeAudioStream made)
    else openChannel .audioStream outcome.opens closeAudioStream made

/-- A context whose channel does not open is left to `close`. -/
def initializeClipboard (outcome : Outcome) (d : Private) : Bool × Private :=
  if d.clipboard.isSome then (true, d)
  else openChannel .clipboard outcome.opens id (newContext .clipboard outcome.context d)

def initializeVideoStream (outcome : Outcome) (d : Private) : Bool × Private :=
  if d.videoStream.isSome then (true, d)
  else openChannel .videoStream outcome.opens id (newContext .videoStream outcome.context d)

def initializeMember (kind : Kind) (outcome : Outcome) (d : Private) : Bool × Private :=
  match kind with
  | .displayControl => initializeDisplayControl outcome d
  | .audioStream => initializeAudioStream outcome d
  | .clipboard => initializeClipboard outcome d
  | .videoStream => initializeVideoStream outcome d

/-! ### The connection -/

/-- Without a manager the context of the peer is not made. -/
def newPeerContext (succeeds : Bool) (d : Private) : Private :=
  if succeeds then
    { d with
      virtualChannelManager := some d.memory.allocated
      memory := d.memory.allocate }
  else d

def onClose (d : Private) : Private :=
  closeVideoStream (closeClipboard (closeAudioStream (closeDisplayControl d)))

def freePeerContext (d : Private) : Private :=
  match d.virtualChannelManager with
  | some manager => { d with memory := d.memory.free manager }
  | none => d

def freeVideoStream (d : Private) : Private :=
  match d.videoStream with
  | some channel => freeContext .videoStream channel d
  | none => d

/-- `freerdp_peer_free`.  Whether it frees the context of the peer as well, and so calls
back, is up to the library. -/
def freePeer (freesContext : Bool) (d : Private) : Private :=
  if freesContext then freePeerContext d else d

/-- The members are destroyed in the reverse of their order. -/
def destroy (freesContext : Bool) (d : Private) : Private :=
  let freed := freePeer freesContext d
  let closed := closeClipboard (closeAudioStream (closeDisplayControl freed))
  { freeVideoStream closed with phase := .destroyed }

inductive Action where
  | initializeConnection (contextNew succeeds : Bool)
  | initializeMember (kind : Kind) (outcome : Outcome)
  | useChannel (kind : Kind)
  | onClose
  | destroy
  deriving DecidableEq, Repr

/-- The thread runs until it has closed the channels, and the destructor waits for it. -/
def step (freesContext : Bool) (d : Private) (action : Action) : Private :=
  match action with
  | .initializeConnection contextNew succeeds =>
      if d.phase = .initial then
        { newPeerContext contextNew d with
          phase := if contextNew && succeeds then .running else .failed }
      else d
  | .initializeMember kind outcome =>
      if d.phase = .running then (initializeMember kind outcome d).2 else d
  | .useChannel kind => if d.phase = .destroyed then d else useChannel kind d
  | .onClose => if d.phase = .running then { onClose d with phase := .closed } else d
  | .destroy => if d.phase = .running ∨ d.phase = .destroyed then d else destroy freesContext d

end Channels

end RdpConnection

end KRdp
