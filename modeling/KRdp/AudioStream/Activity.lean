/-
Whether the audio channel is active.

The flag is set on the thread of the channel and taken back on that of the connection.
An answer of the client that falls between the two halves of a close sets the flag of
a channel that is about to go.
-/

import KRdp.AudioStream.Stream

namespace KRdp

namespace AudioStream

open NetworkDetection (Time)

/-- What is known to someone who reads the flag whenever `activeChanged` is emitted. -/
def listener (d : Private) : Bool := d.signals.getLast?.getD false

@[simp] theorem listener_emitActiveChanged (d : Private) :
    listener (emitActiveChanged d) = d.active := by
  simp [listener, emitActiveChanged]

/-! ### Who listens to the signal -/

/-- Within a close the listener knows what the flag was, or what the client has set
since then. -/
structure Listened (d : Private) : Prop where
  idle : d.closing = none → listener d = d.active
  closing : ∀ wasActive, d.closing = some wasActive → listener d = (wasActive || d.active)

section Listened

variable {d : Private}

theorem Listened.same {after : Private} (listened : Listened d) (same : SameActivity d after) :
    Listened after := by
  have heard : listener after = listener d := by rw [listener, same.signals]; rfl
  constructor
  · intro ready
    rw [heard, same.active]
    exact listened.idle (same.closing ▸ ready)
  · intro wasActive closing
    rw [heard, same.active]
    exact listened.closing wasActive (same.closing ▸ closing)

theorem Listened.exchangeActive (listened : Listened d) (ready : d.closing = none) :
    Listened (exchangeActive d) := by
  constructor
  · intro impossible
    cases impossible
  · intro wasActive same
    cases same
    exact (listened.idle ready).trans (Bool.or_false _).symm

/-- Stopping the context changes neither the flag nor what was signalled. -/
theorem stopContext_activity (d : Private) : (stopContext d).active = d.active ∧
    (stopContext d).signals = d.signals := by
  unfold stopContext
  split
  · rw [freeContext, free_eq]
    exact ⟨rfl, rfl⟩
  · exact ⟨rfl, rfl⟩

theorem Listened.stopChannel (listened : Listened d) {wasActive : Bool}
    (closing : d.closing = some wasActive) : Listened (stopChannel wasActive d) := by
  obtain ⟨active, signals⟩ := stopContext_activity d
  have known := listened.closing wasActive closing
  cases wasActive with
  | true =>
      refine ⟨fun _ => listener_emitActiveChanged _, ?_⟩
      intro other impossible
      cases impossible
  | false =>
      refine ⟨fun _ => ?_, ?_⟩
      · change (stopContext d).signals.getLast?.getD false = (stopContext d).active
        rw [signals, active]
        exact known
      · intro other impossible
        cases impossible

theorem Listened.close (listened : Listened d) (ready : d.closing = none) :
    Listened (close d) :=
  (listened.exchangeActive ready).stopChannel rfl

theorem Listened.initializeChannel (listened : Listened d) (ready : d.closing = none)
    (outcome : Outcome) (now : Time) : Listened (initializeChannel outcome now d).2 := by
  rcases initializeChannel_cases outcome now d with
    unchanged | ⟨allocated, same, _, closed⟩ | ⟨opened, same, _, _, running⟩
  · rwa [unchanged]
  · rw [closed]
    exact (listened.same same).close (same.closing.trans ready)
  · rw [running]
    exact ⟨(listened.same same).idle, (listened.same same).closing⟩

theorem Listened.activated (listened : Listened d) (clientFormats : List AudioFormat)
    (selects : Bool) : Listened (activated clientFormats selects d) := by
  unfold AudioStream.activated
  split
  · cases selects with
    | true =>
        refine ⟨fun _ => listener_emitActiveChanged _, fun wasActive closing => ?_⟩
        exact (listener_emitActiveChanged _).trans (Bool.or_true wasActive).symm
    | false => exact ⟨listened.idle, listened.closing⟩
  · exact listened

/-- Sending changes neither the flag nor what was signalled, nor whether the channel is
open. -/
structure SameChannel (before after : Private) : Prop where
  active : after.active = before.active
  closing : after.closing = before.closing
  signals : after.signals = before.signals
  running : after.running = before.running
  context : after.context = before.context

theorem sendSamples_same (pcm : List UInt8) (now : Time) (d : Private) :
    SameChannel d (sendSamples pcm now d) := by
  unfold sendSamples
  split
  · dsimp only
    split <;> exact ⟨rfl, rfl, rfl, rfl, rfl⟩
  · exact ⟨rfl, rfl, rfl, rfl, rfl⟩

theorem loadContext_same (d : Private) : SameChannel d (loadContext d) := by
  unfold loadContext
  split <;> exact ⟨rfl, rfl, rfl, rfl, rfl⟩

theorem callSend_same (d : Private) : SameChannel d (callSend d) := by
  unfold callSend
  split <;> exact ⟨rfl, rfl, rfl, rfl, rfl⟩

theorem Listened.sameChannel (listened : Listened d) {after : Private}
    (same : SameChannel d after) : Listened after := by
  constructor
  · rw [listener, same.signals, same.active, same.closing]
    exact listened.idle
  · rw [listener, same.signals, same.active, same.closing]
    exact listened.closing

theorem Listened.step (listened : Listened d) (action : Action) : Listened (step d action) := by
  have taken := steps d action
  generalize AudioStream.step d action = after at taken ⊢
  cases taken with
  | stays => exact listened
  | initializeChannel alive ready => exact listened.initializeChannel ready _ _
  | exchangeActive alive ready => exact listened.exchangeActive ready
  | stopChannel alive closing => exact listened.stopChannel closing
  | activated alive running => exact listened.activated _ _
  | sendSamples alive => exact listened.sameChannel (sendSamples_same _ _ d)
  | loadContext => exact listened.sameChannel (loadContext_same d)
  | callSend => exact listened.sameChannel (callSend_same d)
  | destroy alive ready =>
      have closed := listened.close ready
      have freed := closed.same (sameActivity_free (AudioStream.close d).sourceFormat _)
      exact ⟨freed.idle, freed.closing⟩

end Listened

/-! ### Answers to an open channel -/

/-- A running channel has a context, and an active one runs and is not being closed. -/
structure Open (d : Private) : Prop where
  context : d.running = true → d.context.isSome = true
  active : d.active = true → d.running = true ∧ d.closing = none

/-- The client does not select a format while the channel is being closed. -/
def AnsweredOpen (d : Private) : Action → Prop
  | .activated clientFormats selects =>
      ¬(d.destroyed = false ∧ d.running = true ∧ d.closing.isSome = true ∧
        clientFormats.any AudioFormat.compatible = true ∧ selects = true)
  | _ => True

section Open

variable {d : Private}

theorem Open.of_idle (running : d.running = false) (active : d.active = false) : Open d := by
  constructor
  · intro impossible
    cases running.symm.trans impossible
  · intro impossible
    cases active.symm.trans impossible

theorem Open.inactive (opened : Open d) (none : d.context = none) :
    d.running = false ∧ d.active = false := by
  have running : d.running = false := by
    by_contra other
    have context := opened.context (Bool.of_not_eq_false other)
    rw [none] at context
    cases context
  refine ⟨running, ?_⟩
  by_contra other
  have runs := (opened.active (Bool.of_not_eq_false other)).1
  cases running.symm.trans runs

theorem stopContext_running (context : d.running = true → d.context.isSome = true) :
    (stopContext d).running = false := by
  unfold stopContext
  split
  · rfl
  · rename_i none
    by_contra other
    have context := context (Bool.of_not_eq_false other)
    rw [none] at context
    cases context

theorem stopChannel_open (context : d.running = true → d.context.isSome = true)
    (active : d.active = false) (wasActive : Bool) : Open (stopChannel wasActive d) := by
  have stopped := stopContext_running context
  have inactive := (stopContext_activity d).1.trans active
  cases wasActive with
  | true => exact .of_idle stopped inactive
  | false => exact .of_idle stopped inactive

theorem close_open (context : d.running = true → d.context.isSome = true) : Open (close d) :=
  stopChannel_open (d := exchangeActive d) context rfl d.active

theorem Open.initializeChannel (opened : Open d) (outcome : Outcome) (now : Time) :
    Open (initializeChannel outcome now d).2 := by
  rcases initializeChannel_cases outcome now d with
    unchanged | ⟨allocated, same, none, closed⟩ | ⟨allocated, same, none, context, running⟩
  · rwa [unchanged]
  · rw [closed]
    apply close_open
    intro impossible
    cases (same.running.trans (opened.inactive none).1).symm.trans impossible
  · rw [running]
    refine ⟨fun _ => context, fun impossible => ?_⟩
    cases (same.active.trans (opened.inactive none).2).symm.trans impossible

theorem Open.activated (opened : Open d) {clientFormats : List AudioFormat} {selects : Bool}
    (running : d.running = true)
    (answered : d.closing.isSome = true → clientFormats.any AudioFormat.compatible = true →
      selects = false) : Open (activated clientFormats selects d) := by
  unfold AudioStream.activated
  split
  · rename_i index context found _
    have compatible : clientFormats.any AudioFormat.compatible = true := by
      have present : (clientFormats.findIdx? AudioFormat.compatible).isSome = true := by
        rw [found, Option.isSome_some]
      rwa [List.findIdx?_isSome] at present
    cases selects with
    | false => exact ⟨opened.context, opened.active⟩
    | true =>
        refine ⟨opened.context, fun _ => ⟨running, ?_⟩⟩
        by_contra closing
        have impossible := answered (Option.isSome_iff_ne_none.mpr closing) compatible
        cases impossible
  · exact opened

theorem Open.sameChannel (opened : Open d) {after : Private} (same : SameChannel d after) :
    Open after := by
  constructor
  · rw [same.running, same.context]
    exact opened.context
  · rw [same.active, same.running, same.closing]
    exact opened.active

theorem Open.step (opened : Open d) {action : Action} (answered : AnsweredOpen d action) :
    Open (step d action) := by
  have taken := steps d action
  generalize AudioStream.step d action = after at taken ⊢
  cases taken with
  | stays => exact opened
  | initializeChannel alive ready => exact opened.initializeChannel _ _
  | exchangeActive alive ready => exact ⟨opened.context, fun impossible => by cases impossible⟩
  | stopChannel alive closing =>
      apply stopChannel_open opened.context
      by_contra active
      have none := (opened.active (Bool.of_not_eq_false active)).2
      cases closing.symm.trans none
  | activated alive running =>
      apply opened.activated running
      intro closing compatible
      by_contra selected
      exact answered ⟨alive, running, closing, compatible, Bool.of_not_eq_false selected⟩
  | sendSamples alive => exact opened.sameChannel (sendSamples_same _ _ d)
  | loadContext => exact opened.sameChannel (loadContext_same d)
  | callSend => exact opened.sameChannel (callSend_same d)
  | destroy alive ready =>
      have closed := close_open opened.context
      rw [destroy, free_eq]
      exact ⟨closed.context, closed.active⟩

/-- An answer that comes too late sets the flag while the channel is being closed. -/
theorem not_answeredOpen (opened : Open d) {action : Action} (late : ¬AnsweredOpen d action) :
    (step d action).active = true ∧ (step d action).closing.isSome = true := by
  cases action with
  | activated clientFormats selects =>
      obtain ⟨alive, running, closing, compatible, rfl⟩ := Classical.not_not.mp late
      have found : (clientFormats.findIdx? AudioFormat.compatible).isSome = true := by
        rwa [List.findIdx?_isSome]
      obtain ⟨index, first⟩ := Option.isSome_iff_exists.mp found
      obtain ⟨context, present⟩ := Option.isSome_iff_exists.mp (opened.context running)
      have set : step d (.activated clientFormats true) = emitActiveChanged
          { use context.id d with selected := d.selected ++ [index], active := true } := by
        simp only [AudioStream.step, alive, running, AudioStream.activated, first, present,
          Bool.false_and, Bool.false_eq_true, if_false, if_true]
      rw [set]
      exact ⟨rfl, closing⟩
  | initializeChannel _ _ => exact absurd trivial late
  | exchangeActive => exact absurd trivial late
  | stopChannel => exact absurd trivial late
  | sendSamples _ _ => exact absurd trivial late
  | loadContext => exact absurd trivial late
  | callSend => exact absurd trivial late
  | destroy => exact absurd trivial late

end Open

/-! ### Samples -/

/-- The buffer is of whole frames, and not empty. -/
structure Samples.Whole (samples : Samples) : Prop where
  length : samples.data.length = 4 * samples.frames
  nonempty : 0 < samples.frames

def Sending.samples : Sending → Samples
  | .checked samples => samples
  | .loaded samples _ => samples

/-- What was sent, after what is being sent. -/
def buffers (d : Private) : List Samples := (d.sending.map Sending.samples).toList ++ d.sent

theorem SameActivity.buffers {d after : Private} (same : SameActivity d after) :
    buffers after = AudioStream.buffers d := by
  rw [AudioStream.buffers, same.sending, same.sent]
  rfl

theorem KeptByClose.buffers {d after : Private} (kept : KeptByClose d after) :
    buffers after = AudioStream.buffers d := by
  rw [AudioStream.buffers, kept.sending, kept.sent]
  rfl

theorem sendSamples_buffers (pcm : List UInt8) (now : Time) (d : Private) :
    ∀ samples ∈ buffers (sendSamples pcm now d), samples ∈ buffers d ∨ samples.Whole := by
  intro samples member
  unfold sendSamples at member
  split at member
  · dsimp only at member
    split at member
    · exact .inl member
    · rename_i some
      rcases List.mem_append.mp member with new | earlier
      · rw [← Option.some.inj (Option.mem_toList.mp new)]
        refine .inr ⟨?_, ?_⟩
        · simp only [Sending.samples, List.length_take]
          omega
        · simp only [Sending.samples]
          omega
      · exact .inl (List.mem_append_right _ earlier)
  · exact .inl member

theorem loadContext_buffers (d : Private) : buffers (loadContext d) ⊆ buffers d := by
  intro samples member
  unfold loadContext at member
  split at member
  · rename_i checked context sending found
    rw [buffers, sending]
    exact member
  · exact List.mem_append_right _ member
  · exact member

theorem callSend_buffers (d : Private) : buffers (callSend d) ⊆ buffers d := by
  intro samples member
  unfold callSend at member
  split at member
  · rename_i loaded context sending
    rw [buffers, sending]
    exact List.perm_append_comm.mem_iff.mp member
  · exact member

theorem step_buffers (d : Private) (action : Action) :
    ∀ samples ∈ buffers (step d action), samples ∈ buffers d ∨ samples.Whole := by
  intro samples member
  have taken := steps d action
  generalize step d action = after at taken member
  cases taken with
  | stays => exact .inl member
  | @initializeChannel outcome now alive ready =>
      rcases initializeChannel_cases outcome now d with
        unchanged | ⟨allocated, same, _, closed⟩ | ⟨opened, same, _, _, running⟩
      · rw [unchanged] at member
        exact .inl member
      · rw [closed, (close_kept allocated).buffers, same.buffers] at member
        exact .inl member
      · rw [running] at member
        exact .inl (same.buffers ▸ member)
  | exchangeActive alive ready => exact .inl member
  | stopChannel alive closing =>
      rw [(stopChannel_kept _ d).buffers] at member
      exact .inl member
  | @activated clientFormats selects alive running =>
      dsimp only [activated] at member
      split at member
      · cases selects <;> exact .inl member
      · exact .inl member
  | sendSamples alive => exact sendSamples_buffers _ _ d samples member
  | loadContext => exact .inl (loadContext_buffers d member)
  | callSend => exact .inl (callSend_buffers d member)
  | destroy alive ready =>
      rw [destroy, free_eq] at member
      exact .inl ((close_kept d).buffers ▸ member)

/-! ### Every run -/

/-- Outside a close the listener knows the flag, and what is sent is whole frames.  An
active channel is initialized and stays open exactly if the client never selects a
format while the channel is being closed. -/
theorem activity_always (actions : List Action) :
    StepRun.Always step (fun d => (d.closing = none → listener d = d.active) ∧
        ∀ samples ∈ d.sent, samples.Whole) {} actions ∧
      (StepRun.Always step (fun d => d.active = true → d.running = true ∧ d.closing = none) {}
          actions ↔
        StepRun.Along step AnsweredOpen {} actions) := by
  constructor
  · refine StepRun.always_of_invariant
      (fun d => Listened d ∧ ∀ samples ∈ buffers d, samples.Whole) ?_ ?_ ?_ actions
    · refine ⟨⟨fun _ => rfl, ?_⟩, ?_⟩
      · intro wasActive impossible
        cases impossible
      · intro samples impossible
        cases impossible
    · intro d action before
      obtain ⟨listened, whole⟩ := before
      refine ⟨listened.step action, ?_⟩
      intro samples member
      rcases step_buffers d action samples member with earlier | new
      · exact whole samples earlier
      · exact new
    · intro d before
      obtain ⟨listened, whole⟩ := before
      exact ⟨listened.idle, fun samples member => whole samples (List.mem_append_right _ member)⟩
  · refine StepRun.always_iff_along Open actions (.of_idle rfl rfl) ?_ ?_ ?_
    · intro d action opened answered
      exact opened.step answered
    · intro d opened
      exact opened.active
    · intro d action opened late always
      obtain ⟨active, closing⟩ := not_answeredOpen opened late
      rw [(always active).2] at closing
      cases closing

end AudioStream

end KRdp
