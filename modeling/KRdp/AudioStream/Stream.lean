/-
The playback audio channel.

The channel is opened and closed on the thread of the connection, the client is
answered on the thread of the channel, and the embedder sends samples from its own.
A close first takes back the flag and then stops the channel, and the client may be
answered in between.  A send checks the stream, reads the pointer to the context and
then calls it, and nothing keeps the stream from being closed or destroyed meanwhile.
Every other call is taken as one step.

What is allocated is numbered, and each allocation, use and free is logged.  The
channel context owns the server formats from the moment they are assigned to it.
-/

import KRdp.Library.Custody
import KRdp.Library.Run
import KRdp.NetworkDetection.Detection

namespace KRdp

namespace AudioStream

open NetworkDetection (Time millisecond)

def waveFormatPcm : UInt16 := 1

structure AudioFormat where
  wFormatTag : UInt16
  nChannels : UInt16
  nSamplesPerSec : UInt32
  wBitsPerSample : UInt16
  deriving DecidableEq, Repr

def AudioFormat.compatible (format : AudioFormat) : Bool :=
  format.wFormatTag == waveFormatPcm && format.nChannels == 2 &&
    format.nSamplesPerSec == 48000 && format.wBitsPerSample == 16

/-- `RdpsndServerContext`, as far as its memory goes. -/
structure Context where
  id : Nat
  serverFormats : Option Nat := none
  deriving DecidableEq, Repr

structure Samples where
  data : List UInt8
  frames : Nat
  timestamp : UInt16
  deriving DecidableEq, Repr

/-- A call of `sendSamples` that has passed its check. -/
inductive Sending where
  | checked (samples : Samples)
  | loaded (samples : Samples) (context : Nat)
  deriving DecidableEq, Repr

/-- Between the two halves of a close, `closing` is what `wasActive` is there. -/
structure Private where
  context : Option Context := none
  serverFormat : Option Nat := none
  sourceFormat : Option Nat := none
  active : Bool := false
  started : Time := 0
  /-- The channel is initialized, and may answer the client. -/
  running : Bool := false
  closing : Option Bool := none
  destroyed : Bool := false
  memory : Custody.Heap := {}
  selected : List Nat := []
  sending : Option Sending := none
  /-- A send went through a null pointer. -/
  nullContext : Bool := false
  sent : List Samples := []
  /-- What `active` is whenever `activeChanged` is emitted. -/
  signals : List Bool := []
  deriving DecidableEq, Repr

/-- Nothing is allocated where the allocation fails. -/
def allocate (succeeds : Bool) (d : Private) : Option Nat × Private :=
  if succeeds then (some d.memory.allocated, { d with memory := d.memory.allocate })
  else (none, d)

def use (name : Nat) (d : Private) : Private := { d with memory := d.memory.use name }

def free (name : Option Nat) (d : Private) : Private :=
  match name with
  | some name => { d with memory := d.memory.free name }
  | none => d

/-- The server formats go with the context. -/
def freeContext (context : Context) (d : Private) : Private :=
  let freed := free context.serverFormats d
  { freed with memory := freed.memory.free context.id }

def emitActiveChanged (d : Private) : Private := { d with signals := d.signals ++ [d.active] }

/-! ### Closing -/

def exchangeActive (d : Private) : Private :=
  { d with
    active := false
    closing := some d.active }

def stopContext (d : Private) : Private :=
  match d.context with
  | some context =>
      { freeContext context (use context.id d) with
        context := none
        serverFormat := none
        running := false }
  | none => d

def stopChannel (wasActive : Bool) (d : Private) : Private :=
  let stopped := { stopContext d with closing := none }
  if wasActive then emitActiveChanged stopped else stopped

def close (d : Private) : Private := stopChannel d.active (exchangeActive d)

/-! ### Opening -/

/-- What the calls to the channel come to. -/
structure Outcome where
  context : Bool
  serverFormat : Bool
  sourceFormat : Bool
  initialized : Bool
  deriving DecidableEq, Repr

def allocateAll (outcome : Outcome) (d : Private) : Private :=
  let context := allocate outcome.context d
  let serverFormat := allocate outcome.serverFormat context.2
  let sourceFormat := allocate outcome.sourceFormat serverFormat.2
  { sourceFormat.2 with
    context := context.1.map fun id => { id }
    serverFormat := serverFormat.1
    sourceFormat := sourceFormat.1 }

/-- The context takes the server formats. -/
def assignFormats (d : Private) : Private :=
  { d with
    context := d.context.map fun context =>
      { context with serverFormats := d.serverFormat } }

/-- Without a context the server formats are freed by hand. -/
def giveUp (d : Private) : Private :=
  let released := if d.context.isSome then assignFormats d else free d.serverFormat d
  close { released with serverFormat := none }

def openChannel (outcome : Outcome) (now : Time) (d : Private) : Bool × Private :=
  let d := allocateAll outcome d
  if d.context.isNone || d.serverFormat.isNone || d.sourceFormat.isNone then (false, giveUp d)
  else
    let d := assignFormats d
    if !outcome.initialized then (false, close d)
    else
      (true,
        { d with
          started := now
          running := true })

def initializeChannel (outcome : Outcome) (now : Time) (d : Private) : Bool × Private :=
  if d.context.isSome then (true, d) else openChannel outcome now d

/-! ### Answering the client and sending -/

/-- Only the first compatible format is tried. -/
def activated (clientFormats : List AudioFormat) (selects : Bool) (d : Private) : Private :=
  match clientFormats.findIdx? AudioFormat.compatible, d.context with
  | some index, some context =>
      let selected := { use context.id d with selected := d.selected ++ [index] }
      if selects then emitActiveChanged { selected with active := true } else selected
  | _, _ => d

def sendSamples (pcm : List UInt8) (now : Time) (d : Private) : Private :=
  match d.active, d.context with
  | true, some _ =>
      let byteCount := pcm.length - pcm.length % 4
      if byteCount = 0 then d
      else
        let samples : Samples :=
          { data := pcm.take byteCount
            frames := byteCount / 4
            timestamp := .ofInt ((now - d.started).tdiv millisecond) }
        { d with sending := some (.checked samples) }
  | _, _ => d

def loadContext (d : Private) : Private :=
  match d.sending, d.context with
  | some (.checked samples), some context =>
      { d with sending := some (.loaded samples context.id) }
  | some (.checked _), none => { d with sending := none, nullContext := true }
  | _, _ => d

def callSend (d : Private) : Private :=
  match d.sending with
  | some (.loaded samples context) =>
      { use context d with
        sending := none
        sent := d.sent ++ [samples] }
  | _ => d

def destroy (d : Private) : Private :=
  let closed := close d
  { free closed.sourceFormat closed with
    sourceFormat := none
    destroyed := true }

/-! ### Runs -/

inductive Action where
  | initializeChannel (outcome : Outcome) (now : Time)
  | exchangeActive
  | stopChannel
  | activated (clientFormats : List AudioFormat) (selects : Bool)
  | sendSamples (pcm : List UInt8) (now : Time)
  | loadContext
  | callSend
  | destroy
  deriving DecidableEq, Repr

/-- A send that is under way goes on whatever happens to the stream. -/
def Action.goesOn : Action → Bool
  | .loadContext | .callSend => true
  | _ => false

/-- The thread of the connection, or the one that destroys it, makes one call after
another, and the embedder sends one buffer after another; an action that cannot happen
leaves the stream as it is. -/
def step (d : Private) (action : Action) : Private :=
  if d.destroyed && !action.goesOn then d
  else
    match action with
    | .initializeChannel outcome now =>
        if d.closing.isSome then d else (initializeChannel outcome now d).2
    | .exchangeActive => if d.closing.isSome then d else exchangeActive d
    | .stopChannel =>
        match d.closing with
        | some wasActive => stopChannel wasActive d
        | none => d
    | .activated clientFormats selects =>
        if d.running then activated clientFormats selects d else d
    | .sendSamples pcm now => if d.sending.isSome then d else sendSamples pcm now d
    | .loadContext => loadContext d
    | .callSend => callSend d
    | .destroy => if d.closing.isSome then d else destroy d

/-- What a step can do, with what is known when it does it. -/
inductive Steps (d : Private) : Action → Private → Prop where
  | stays (action : Action) : Steps d action d
  | initializeChannel {outcome : Outcome} {now : Time} (alive : d.destroyed = false)
      (ready : d.closing = none) :
      Steps d (.initializeChannel outcome now) (initializeChannel outcome now d).2
  | exchangeActive (alive : d.destroyed = false) (ready : d.closing = none) :
      Steps d .exchangeActive (exchangeActive d)
  | stopChannel {wasActive : Bool} (alive : d.destroyed = false)
      (closing : d.closing = some wasActive) : Steps d .stopChannel (stopChannel wasActive d)
  | activated {clientFormats : List AudioFormat} {selects : Bool} (alive : d.destroyed = false)
      (running : d.running = true) :
      Steps d (.activated clientFormats selects) (activated clientFormats selects d)
  | sendSamples {pcm : List UInt8} {now : Time} (alive : d.destroyed = false) :
      Steps d (.sendSamples pcm now) (sendSamples pcm now d)
  | loadContext : Steps d .loadContext (loadContext d)
  | callSend : Steps d .callSend (callSend d)
  | destroy (alive : d.destroyed = false) (ready : d.closing = none) :
      Steps d .destroy (destroy d)

theorem steps (d : Private) (action : Action) : Steps d action (step d action) := by
  unfold step
  split
  · exact .stays action
  · rename_i goes
    have alive : action.goesOn = false → d.destroyed = false := by
      intro stops
      simpa [stops] using goes
    cases action with
    | initializeChannel outcome now =>
        dsimp only
        split
        · exact .stays _
        · rename_i ready
          exact .initializeChannel (alive rfl) (by simpa using ready)
    | exchangeActive =>
        dsimp only
        split
        · exact .stays _
        · rename_i ready
          exact .exchangeActive (alive rfl) (by simpa using ready)
    | stopChannel =>
        dsimp only
        split
        · rename_i wasActive closing
          exact .stopChannel (alive rfl) closing
        · exact .stays _
    | activated clientFormats selects =>
        dsimp only
        split
        · rename_i running
          exact .activated (alive rfl) running
        · exact .stays _
    | sendSamples pcm now =>
        dsimp only
        split
        · exact .stays _
        · exact .sendSamples (alive rfl)
    | loadContext => exact .loadContext
    | callSend => exact .callSend
    | destroy =>
        dsimp only
        split
        · exact .stays _
        · rename_i ready
          exact .destroy (alive rfl) (by simpa using ready)

@[simp] theorem step_loadContext (d : Private) : step d .loadContext = loadContext d := by
  simp [step, Action.goesOn]

@[simp] theorem step_callSend (d : Private) : step d .callSend = callSend d := by
  simp [step, Action.goesOn]

/-- With no answer in between, the two halves are a close. -/
theorem steps_eq_close {d : Private} (alive : d.destroyed = false) (ready : d.closing = none) :
    StepRun.run step d [.exchangeActive, .stopChannel] = close d := by
  simp [step, alive, ready, exchangeActive, close]

/-! ### What allocations leave as it is -/

theorem free_eq (name : Option Nat) (d : Private) :
    free name d = { d with memory := (free name d).memory } := by
  cases name <;> rfl

theorem allocate_eq (succeeds : Bool) (d : Private) :
    (allocate succeeds d).2 = { d with memory := (allocate succeeds d).2.memory } := by
  cases succeeds <;> rfl

/-- The states differ in their memory only. -/
structure SameActivity (before after : Private) : Prop where
  active : after.active = before.active
  closing : after.closing = before.closing
  signals : after.signals = before.signals
  running : after.running = before.running
  sending : after.sending = before.sending
  nullContext : after.nullContext = before.nullContext
  sent : after.sent = before.sent
  destroyed : after.destroyed = before.destroyed

theorem SameActivity.trans {first second third : Private} (before : SameActivity first second)
    (after : SameActivity second third) : SameActivity first third :=
  ⟨after.active.trans before.active, after.closing.trans before.closing,
    after.signals.trans before.signals, after.running.trans before.running,
    after.sending.trans before.sending, after.nullContext.trans before.nullContext,
    after.sent.trans before.sent, after.destroyed.trans before.destroyed⟩

theorem sameActivity_free (name : Option Nat) (d : Private) : SameActivity d (free name d) := by
  rw [free_eq]
  exact ⟨rfl, rfl, rfl, rfl, rfl, rfl, rfl, rfl⟩

theorem sameActivity_allocate (succeeds : Bool) (d : Private) :
    SameActivity d (allocate succeeds d).2 := by
  rw [allocate_eq]
  exact ⟨rfl, rfl, rfl, rfl, rfl, rfl, rfl, rfl⟩

theorem sameActivity_allocateAll (outcome : Outcome) (d : Private) :
    SameActivity d (allocateAll outcome d) := by
  have context := sameActivity_allocate outcome.context d
  have serverFormat := context.trans (sameActivity_allocate outcome.serverFormat _)
  have sourceFormat := serverFormat.trans (sameActivity_allocate outcome.sourceFormat _)
  exact sourceFormat.trans ⟨rfl, rfl, rfl, rfl, rfl, rfl, rfl, rfl⟩

/-- What closing the channel leaves as it is. -/
structure KeptByClose (before after : Private) : Prop where
  sourceFormat : after.sourceFormat = before.sourceFormat
  sending : after.sending = before.sending
  nullContext : after.nullContext = before.nullContext
  sent : after.sent = before.sent
  destroyed : after.destroyed = before.destroyed

theorem stopContext_kept (d : Private) : KeptByClose d (stopContext d) := by
  unfold stopContext
  split
  · rw [freeContext, free_eq]
    exact ⟨rfl, rfl, rfl, rfl, rfl⟩
  · exact ⟨rfl, rfl, rfl, rfl, rfl⟩

theorem stopChannel_kept (wasActive : Bool) (d : Private) :
    KeptByClose d (stopChannel wasActive d) := by
  have kept := stopContext_kept d
  cases wasActive <;>
    exact ⟨kept.sourceFormat, kept.sending, kept.nullContext, kept.sent, kept.destroyed⟩

theorem close_kept (d : Private) : KeptByClose d (close d) := by
  have kept := stopChannel_kept d.active (exchangeActive d)
  exact ⟨kept.sourceFormat, kept.sending, kept.nullContext, kept.sent, kept.destroyed⟩

/-- An open channel is left alone; any other is closed again, or opened. -/
theorem initializeChannel_cases (outcome : Outcome) (now : Time) (d : Private) :
    (initializeChannel outcome now d).2 = d ∨
      (∃ allocated, SameActivity d allocated ∧ d.context = none ∧
        (initializeChannel outcome now d).2 = close allocated) ∨
      ∃ opened, SameActivity d opened ∧ d.context = none ∧ opened.context.isSome = true ∧
        (initializeChannel outcome now d).2 = { opened with started := now, running := true } := by
  have same := sameActivity_allocateAll outcome d
  have assigned : SameActivity d (assignFormats (allocateAll outcome d)) :=
    same.trans ⟨rfl, rfl, rfl, rfl, rfl, rfl, rfl, rfl⟩
  unfold initializeChannel
  cases context : d.context with
  | some context => exact .inl rfl
  | none =>
      rw [Option.isSome_none, if_neg Bool.false_ne_true]
      unfold openChannel
      dsimp only
      split
      · refine .inr (.inl ⟨_, ?_, rfl, rfl⟩)
        split
        · exact assigned.trans ⟨rfl, rfl, rfl, rfl, rfl, rfl, rfl, rfl⟩
        · have freed := same.trans (sameActivity_free (allocateAll outcome d).serverFormat _)
          exact freed.trans ⟨rfl, rfl, rfl, rfl, rfl, rfl, rfl, rfl⟩
      · rename_i all
        split
        · exact .inr (.inl ⟨_, assigned, rfl, rfl⟩)
        · refine .inr (.inr ⟨_, assigned, rfl, ?_, rfl⟩)
          rw [assignFormats, Option.isSome_map]
          cases allocated : (allocateAll outcome d).context with
          | some _ => rfl
          | none => simp [allocated] at all

end AudioStream

end KRdp
