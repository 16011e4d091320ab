/-
Who frees what the audio channel has allocated.

The context owns the server formats, and the stream owns the context and the source
format.  A close gives up the context and keeps the source format, which a new attempt
to open the channel overwrites.  A send that is under way while the context goes is left
with a pointer to nothing.
-/

import KRdp.AudioStream.Stream

namespace KRdp

namespace AudioStream

open NetworkDetection (Time)

/-! ### What is allocated -/

/-- Just these names are allocated. -/
def Sound (live : List Nat) (d : Private) : Prop := d.memory.Sound live

section Sound

variable {live : List Nat} {d : Private}

theorem Sound.perm (sound : Sound live d) {other : List Nat} (perm : live.Perm other) :
    Sound other d :=
  Custody.Heap.Sound.perm sound perm

theorem Sound.of_memory (sound : Sound live d) {other : Private}
    (memory : other.memory = d.memory) : Sound live other := by
  rw [Sound, memory]
  exact sound

theorem Sound.use (sound : Sound live d) {name : Nat} (member : name ∈ live) :
    Sound live (use name d) :=
  Custody.Heap.Sound.use sound member

theorem Sound.free {name : Option Nat} (sound : Sound (name.toList ++ live) d) :
    Sound live (free name d) := by
  cases name with
  | none => exact sound
  | some name => exact Custody.Heap.Sound.free sound

theorem Sound.allocate (sound : Sound live d) (succeeds : Bool) :
    Sound ((allocate succeeds d).1.toList ++ live) (allocate succeeds d).2 := by
  cases succeeds with
  | false => exact sound
  | true => exact Custody.Heap.Sound.allocate sound

end Sound

/-! ### What the stream owns -/

def Context.owned (context : Context) : List Nat := context.id :: context.serverFormats.toList

def owned (d : Private) : List Nat :=
  (d.context.map Context.owned).getD [] ++ d.sourceFormat.toList

section Owned

variable {leaked : List Nat} {d : Private}

theorem owned_of_none (none : d.context = none) : owned d = d.sourceFormat.toList := by
  rw [owned, none]
  rfl

theorem stopContext_context (d : Private) : (stopContext d).context = none := by
  unfold stopContext
  split
  · rfl
  · assumption

/-- The context is the first of what is allocated. -/
theorem owned_of_some {context : Context} (found : d.context = some context)
    (leaked : List Nat) :
    owned d ++ leaked =
      context.id :: (context.serverFormats.toList ++ (d.sourceFormat.toList ++ leaked)) := by
  simp only [owned, found, Option.map_some, Option.getD_some, Context.owned, List.cons_append,
    List.append_assoc]

theorem Sound.stopContext (sound : Sound (owned d ++ leaked) d) :
    Sound (d.sourceFormat.toList ++ leaked) (stopContext d) := by
  unfold AudioStream.stopContext
  split
  · rename_i context found
    rw [owned_of_some found] at sound
    have used := sound.use List.mem_cons_self
    have released : Sound ((some context.id).toList ++ (d.sourceFormat.toList ++ leaked))
        (AudioStream.free context.serverFormats (AudioStream.use context.id d)) :=
      Sound.free (used.perm List.perm_middle.symm)
    exact released.free.of_memory rfl
  · rename_i none
    rwa [owned_of_none none] at sound

/-- The same memory, owned in the same way. -/
structure SameMemory (before after : Private) : Prop where
  context : after.context = before.context
  sourceFormat : after.sourceFormat = before.sourceFormat
  memory : after.memory = before.memory

theorem SameMemory.owned {after : Private} (same : SameMemory d after) :
    AudioStream.owned after = AudioStream.owned d := by
  rw [AudioStream.owned, same.context, same.sourceFormat]
  rfl

theorem Sound.same (sound : Sound (owned d ++ leaked) d) (after : Private)
    (same : SameMemory d after) : Sound (owned after ++ leaked) after := by
  rw [same.owned]
  exact sound.of_memory same.memory

theorem Sound.stopChannel (sound : Sound (owned d ++ leaked) d) (wasActive : Bool) :
    Sound (owned (stopChannel wasActive d) ++ leaked) (stopChannel wasActive d) := by
  have none := stopContext_context d
  have sourceFormat := (stopContext_kept d).sourceFormat
  have stopped := sound.stopContext
  rw [← sourceFormat, ← owned_of_none none] at stopped
  refine stopped.same _ ?_
  cases wasActive <;> exact ⟨rfl, rfl, rfl⟩

theorem stopChannel_context (wasActive : Bool) (d : Private) :
    (stopChannel wasActive d).context = none := by
  have none := stopContext_context d
  cases wasActive <;> exact none

theorem close_context (d : Private) : (close d).context = none :=
  stopChannel_context d.active (exchangeActive d)

theorem Sound.close (sound : Sound (owned d ++ leaked) d) :
    Sound (owned (close d) ++ leaked) (close d) := by
  have exchanged := sound.same (exchangeActive d) ⟨rfl, rfl, rfl⟩
  exact exchanged.stopChannel d.active

theorem owned_map_id (id : Option Nat) :
    ((id.map fun id => ({ id } : Context)).map Context.owned).getD [] = id.toList := by
  cases id <;> rfl

/-- After the three allocations the server formats are on their own, and the source
format from before is lost. -/
theorem Sound.allocateAll (sound : Sound (d.sourceFormat.toList ++ leaked) d) (outcome : Outcome) :
    let after := allocateAll outcome d
    Sound (after.serverFormat.toList ++ (owned after ++ (leaked ++ d.sourceFormat.toList)))
      after := by
  have context := sound.allocate outcome.context
  have serverFormat := context.allocate outcome.serverFormat
  have sourceFormat := serverFormat.allocate outcome.sourceFormat
  refine (sourceFormat.perm ?_).of_memory rfl
  simp only [owned, AudioStream.allocateAll, owned_map_id]
  rw [List.perm_iff_count]
  intro name
  simp only [List.count_append]
  omega

theorem Sound.assignFormats {context : Context} (found : d.context = some context)
    (unassigned : context.serverFormats = none)
    (sound : Sound (d.serverFormat.toList ++ (owned d ++ leaked)) d) :
    Sound (owned (assignFormats d) ++ leaked) (assignFormats d) := by
  refine (sound.perm ?_).of_memory rfl
  simp only [owned, AudioStream.assignFormats, found, Option.map_some, Option.getD_some,
    Context.owned, unassigned]
  rw [List.perm_iff_count]
  intro name
  simp only [List.count_append, List.count_cons, Option.toList_none, List.count_nil]
  omega

/-- Opening the channel loses the source format that was there. -/
theorem Sound.openChannel (sound : Sound (owned d ++ leaked) d) (none : d.context = none)
    (outcome : Outcome) (now : Time) :
    Sound (owned (openChannel outcome now d).2 ++ (leaked ++ d.sourceFormat.toList))
      (openChannel outcome now d).2 := by
  rw [owned_of_none none] at sound
  have allocated := sound.allocateAll outcome
  have unassigned : ∀ context, (AudioStream.allocateAll outcome d).context = some context →
      context.serverFormats = Option.none := by
    intro context found
    obtain ⟨id, _, rfl⟩ := Option.map_eq_some_iff.mp found
    rfl
  generalize leaked ++ d.sourceFormat.toList = lost at allocated ⊢
  simp only [AudioStream.openChannel]
  generalize AudioStream.allocateAll outcome d = after at allocated unassigned ⊢
  cases found : after.context with
  | none =>
      have released := allocated.free
      have dropped : SameMemory (AudioStream.free after.serverFormat after)
          { AudioStream.free after.serverFormat after with serverFormat := Option.none } :=
        ⟨rfl, rfl, rfl⟩
      have same : owned (AudioStream.free after.serverFormat after) = owned after := by
        rw [free_eq]
        rfl
      rw [← same] at released
      rw [Option.isNone_none, Bool.true_or, Bool.true_or, if_pos rfl]
      simp only [giveUp, found, Option.isSome_none, Bool.false_eq_true, if_false]
      exact (released.same _ dropped).close
  | some context =>
      have assigned := allocated.assignFormats found (unassigned context found)
      cases missing : after.serverFormat.isNone || after.sourceFormat.isNone with
      | true =>
          have dropped : SameMemory (AudioStream.assignFormats after)
              { AudioStream.assignFormats after with serverFormat := Option.none } :=
            ⟨rfl, rfl, rfl⟩
          rw [Option.isNone_some, Bool.false_or, missing, if_pos rfl]
          simp only [giveUp, found, Option.isSome_some, if_true]
          exact (assigned.same _ dropped).close
      | false =>
          rw [Option.isNone_some, Bool.false_or, missing, if_neg Bool.false_ne_true]
          cases outcome.initialized with
          | false => exact assigned.close
          | true => exact assigned.same _ ⟨rfl, rfl, rfl⟩

theorem destroy_context (d : Private) : (destroy d).context = none := by
  simp only [destroy]
  rw [free_eq]
  exact close_context d

theorem owned_destroy (d : Private) : owned (destroy d) = [] := by
  rw [owned_of_none (destroy_context d)]
  rfl

theorem Sound.destroy (sound : Sound (owned d ++ leaked) d) :
    Sound (owned (destroy d) ++ leaked) (destroy d) := by
  have closed := sound.close
  rw [owned_of_none (close_context d)] at closed
  rw [owned_destroy]
  exact closed.free.of_memory rfl

end Owned

/-! ### Sends -/

/-- The stream goes no further than its check and its log allow. -/
def Safe (d : Private) : Prop :=
  d.nullContext = false ∧ ∃ live, Custody.Holds d.memory.log live

/-- The rest of the send that is under way. -/
def finishSend (d : Private) : Private := StepRun.run step d [.loadContext, .callSend]

/-- A send that is under way has the context of the stream. -/
structure Attached (d : Private) : Prop where
  checked : d.sending.isSome = true → d.context.isSome = true
  loaded : ∀ samples name, d.sending = some (.loaded samples name) →
    ∃ context, d.context = some context ∧ context.id = name
  notNull : d.nullContext = false

/-- The context is not stopped and the stream is not destroyed during a send. -/
def SendsOpen (d : Private) : Action → Prop
  | .stopChannel => d.destroyed = false → d.closing.isSome = true → d.sending = none
  | .destroy => d.destroyed = false → d.closing = none → d.sending = none
  | _ => True

section Sends

variable {live : List Nat} {d : Private}

theorem Attached.of_idle (idle : d.sending = none) (notNull : d.nullContext = false) :
    Attached d := by
  constructor
  · intro impossible
    rw [idle] at impossible
    cases impossible
  · intro samples name impossible
    rw [idle] at impossible
    cases impossible
  · exact notNull

theorem Attached.same (attached : Attached d) (after : Private)
    (context : after.context = d.context) (sending : after.sending = d.sending)
    (nullContext : after.nullContext = d.nullContext) : Attached after := by
  constructor
  · rw [sending, context]
    exact attached.checked
  · rw [sending, context]
    exact attached.loaded
  · rw [nullContext]
    exact attached.notNull

theorem Attached.idle (attached : Attached d) (missing : d.context = none) :
    d.sending = none := by
  by_contra sending
  have found := attached.checked (Option.isSome_iff_ne_none.mpr sending)
  rw [missing] at found
  cases found

theorem Attached.initializeChannel (attached : Attached d) (outcome : Outcome) (now : Time) :
    Attached (initializeChannel outcome now d).2 := by
  rcases initializeChannel_cases outcome now d with
    unchanged | ⟨allocated, same, missing, closed⟩ | ⟨opened, same, missing, _, running⟩
  · rwa [unchanged]
  · have kept := close_kept allocated
    rw [closed]
    apply Attached.of_idle
    · rw [kept.sending, same.sending, attached.idle missing]
    · rw [kept.nullContext, same.nullContext, attached.notNull]
  · rw [running]
    apply Attached.of_idle
    · exact same.sending.trans (attached.idle missing)
    · exact same.nullContext.trans attached.notNull

theorem Attached.activated (attached : Attached d) (clientFormats : List AudioFormat)
    (selects : Bool) : Attached (activated clientFormats selects d) := by
  unfold AudioStream.activated
  split
  · cases selects <;> exact attached.same _ rfl rfl rfl
  · exact attached

theorem Attached.sendSamples (attached : Attached d) (pcm : List UInt8) (now : Time) :
    Attached (sendSamples pcm now d) := by
  unfold AudioStream.sendSamples
  split
  · rename_i context _ found
    dsimp only
    split
    · exact attached
    · constructor
      · intro _
        rw [found, Option.isSome_some]
      · intro samples name impossible
        cases impossible
      · exact attached.notNull
  · exact attached

theorem Attached.loadContext (attached : Attached d) : Attached (loadContext d) := by
  unfold AudioStream.loadContext
  split
  · rename_i checked context _ found
    constructor
    · intro _
      rw [found, Option.isSome_some]
    · intro samples name same
      cases same
      exact ⟨context, found, rfl⟩
    · exact attached.notNull
  · rename_i checked sending missing
    have idle := attached.idle missing
    rw [sending] at idle
    cases idle
  · exact attached

theorem Attached.callSend (attached : Attached d) : Attached (callSend d) := by
  unfold AudioStream.callSend
  split
  · exact .of_idle rfl attached.notNull
  · exact attached

theorem Attached.step (attached : Attached d) {action : Action}
    (sendsOpen : SendsOpen d action) : Attached (step d action) := by
  have taken := steps d action
  generalize AudioStream.step d action = after at taken ⊢
  cases taken with
  | stays => exact attached
  | initializeChannel alive ready => exact attached.initializeChannel _ _
  | exchangeActive alive ready => exact attached.same _ rfl rfl rfl
  | @stopChannel wasActive alive closing =>
      have idle := sendsOpen alive (by rw [closing, Option.isSome_some])
      have kept := stopChannel_kept wasActive d
      exact .of_idle (kept.sending.trans idle) (kept.nullContext.trans attached.notNull)
  | activated alive running => exact attached.activated _ _
  | sendSamples alive => exact attached.sendSamples _ _
  | loadContext => exact attached.loadContext
  | callSend => exact attached.callSend
  | destroy alive ready =>
      have kept := close_kept d
      rw [AudioStream.destroy, free_eq]
      exact .of_idle (kept.sending.trans (sendsOpen alive ready))
        (kept.nullContext.trans attached.notNull)

/-- Without its context a send that is under way goes wrong. -/
theorem not_safe_finishSend (sound : Sound live d) (missing : d.context = none)
    (sending : d.sending.isSome = true)
    (gone : ∀ samples name, d.sending = some (.loaded samples name) → name ∉ live) :
    ¬Safe (finishSend d) := by
  obtain ⟨send, found⟩ := Option.isSome_iff_exists.mp sending
  simp only [finishSend, StepRun.run_cons, StepRun.run_nil, step_loadContext, step_callSend]
  cases send with
  | checked samples =>
      have failed : callSend (loadContext d) =
          { d with sending := none, nullContext := true } := by
        simp only [loadContext, found, missing, callSend]
      rw [failed]
      intro safe
      cases safe.1
  | loaded samples name =>
      have used : callSend (loadContext d) =
          { use name d with sending := none, sent := d.sent ++ [samples] } := by
        simp only [loadContext, found, callSend]
      rw [used]
      rintro ⟨_, other, holds⟩
      exact sound.holds.not_use (gone samples name found) other holds

end Sends

/-! ### Every step -/

/-- The source format that an action overwrites. -/
def overwritten (d : Private) : Action → List Nat
  | .initializeChannel _ _ =>
      if d.destroyed || d.closing.isSome || d.context.isSome then [] else d.sourceFormat.toList
  | .exchangeActive | .stopChannel | .activated _ _ | .sendSamples _ _ | .loadContext | .callSend
  | .destroy => []

/-- A channel is only opened by a stream without a source format. -/
def KeepsSource (d : Private) (action : Action) : Prop := overwritten d action = []

section Steps

variable {leaked : List Nat} {d : Private}

theorem Sound.activated (sound : Sound (owned d ++ leaked) d) (clientFormats : List AudioFormat)
    (selects : Bool) :
    Sound (owned (activated clientFormats selects d) ++ leaked)
      (activated clientFormats selects d) := by
  unfold AudioStream.activated
  split
  · rename_i index context _ found
    have member : context.id ∈ owned d ++ leaked := by simp [owned, found, Context.owned]
    have used := sound.use member
    cases selects <;> exact used.of_memory rfl
  · exact sound

theorem sendSamples_sameMemory (pcm : List UInt8) (now : Time) (d : Private) :
    SameMemory d (sendSamples pcm now d) := by
  unfold sendSamples
  split
  · dsimp only
    split <;> exact ⟨rfl, rfl, rfl⟩
  · exact ⟨rfl, rfl, rfl⟩

theorem loadContext_sameMemory (d : Private) : SameMemory d (loadContext d) := by
  unfold loadContext
  split <;> exact ⟨rfl, rfl, rfl⟩

theorem Sound.callSend (sound : Sound (owned d ++ leaked) d) (attached : Attached d) :
    Sound (owned (callSend d) ++ leaked) (callSend d) := by
  unfold AudioStream.callSend
  split
  · rename_i samples name sending
    obtain ⟨context, found, rfl⟩ := attached.loaded samples name sending
    have member : context.id ∈ owned d ++ leaked := by simp [owned, found, Context.owned]
    exact (sound.use member).of_memory rfl
  · exact sound

theorem step_of_destroyed (destroyed : d.destroyed = true) {action : Action}
    (goesOn : action.goesOn = false) : step d action = d := by
  unfold AudioStream.step
  rw [destroyed, goesOn, Bool.not_false, Bool.and_self, if_pos rfl]

theorem initializeChannel_destroyed (outcome : Outcome) (now : Time) (d : Private) :
    (initializeChannel outcome now d).2.destroyed = d.destroyed := by
  rcases initializeChannel_cases outcome now d with
    unchanged | ⟨allocated, same, _, closed⟩ | ⟨opened, same, _, _, running⟩
  · rw [unchanged]
  · rw [closed, (close_kept allocated).destroyed, same.destroyed]
  · rw [running]
    exact same.destroyed

theorem activated_destroyed (clientFormats : List AudioFormat) (selects : Bool) (d : Private) :
    (activated clientFormats selects d).destroyed = d.destroyed := by
  unfold AudioStream.activated
  split
  · cases selects <;> rfl
  · rfl

theorem sendSamples_destroyed (pcm : List UInt8) (now : Time) (d : Private) :
    (sendSamples pcm now d).destroyed = d.destroyed := by
  unfold AudioStream.sendSamples
  split
  · dsimp only
    split <;> rfl
  · rfl

theorem loadContext_destroyed (d : Private) : (loadContext d).destroyed = d.destroyed := by
  unfold loadContext
  split <;> rfl

theorem callSend_destroyed (d : Private) : (callSend d).destroyed = d.destroyed := by
  unfold callSend
  split <;> rfl

theorem callSend_owned (d : Private) : owned (callSend d) = owned d := by
  unfold callSend
  split <;> rfl

/-- Only its destruction destroys a stream. -/
theorem step_alive (alive : d.destroyed = false) {action : Action}
    (other : ¬(action = .destroy ∧ d.closing = none)) : (step d action).destroyed = false := by
  have taken := steps d action
  generalize step d action = after at taken ⊢
  cases taken with
  | stays => exact alive
  | initializeChannel _ ready => rw [initializeChannel_destroyed, alive]
  | exchangeActive _ ready => exact alive
  | stopChannel _ closing => rw [(stopChannel_kept _ d).destroyed, alive]
  | activated _ running => rw [activated_destroyed, alive]
  | sendSamples _ => rw [sendSamples_destroyed, alive]
  | loadContext => rw [loadContext_destroyed, alive]
  | callSend => rw [callSend_destroyed, alive]
  | destroy _ ready => exact absurd ⟨rfl, ready⟩ other

theorem Sound.step (sound : Sound (owned d ++ leaked) d) (attached : Attached d)
    (action : Action) :
    Sound (owned (step d action) ++ (leaked ++ overwritten d action)) (step d action) := by
  unfold AudioStream.step
  split
  · rename_i destroyed
    rw [Bool.and_eq_true] at destroyed
    have nothing : overwritten d action = [] := by
      cases action <;> simp [overwritten, destroyed.1]
    rw [nothing, List.append_nil]
    exact sound
  · rename_i goes
    cases action with
    | initializeChannel outcome now =>
        have alive : d.destroyed = false := by simpa [Action.goesOn] using goes
        dsimp only [initializeChannel]
        cases closing : d.closing with
        | some wasActive =>
            have nothing : overwritten d (.initializeChannel outcome now) = [] := by
              simp [overwritten, closing]
            rw [nothing, List.append_nil, Option.isSome_some, if_pos rfl]
            exact sound
        | none =>
            rw [Option.isSome_none, if_neg Bool.false_ne_true]
            cases context : d.context with
            | some context' =>
                have nothing : overwritten d (.initializeChannel outcome now) = [] := by
                  simp [overwritten, context]
                rw [nothing, List.append_nil, Option.isSome_some, if_pos rfl]
                exact sound
            | none =>
                have lost : overwritten d (.initializeChannel outcome now) =
                    d.sourceFormat.toList := by
                  simp [overwritten, alive, closing, context]
                rw [lost, Option.isSome_none, if_neg Bool.false_ne_true]
                exact sound.openChannel context outcome now
    | exchangeActive =>
        rw [overwritten, List.append_nil]
        dsimp only
        split
        · exact sound
        · exact sound.same _ ⟨rfl, rfl, rfl⟩
    | stopChannel =>
        rw [overwritten, List.append_nil]
        dsimp only
        split
        · exact sound.stopChannel _
        · exact sound
    | activated clientFormats selects =>
        rw [overwritten, List.append_nil]
        dsimp only
        split
        · exact sound.activated clientFormats selects
        · exact sound
    | sendSamples pcm now =>
        rw [overwritten, List.append_nil]
        dsimp only
        split
        · exact sound
        · exact sound.same _ (sendSamples_sameMemory pcm now d)
    | loadContext =>
        rw [overwritten, List.append_nil]
        exact sound.same _ (loadContext_sameMemory d)
    | callSend =>
        rw [overwritten, List.append_nil]
        exact sound.callSend attached
    | destroy =>
        rw [overwritten, List.append_nil]
        dsimp only
        split
        · exact sound
        · exact sound.destroy

/-- A destroyed stream owns nothing. -/
theorem step_destroyed (owns : d.destroyed = true → owned d = []) (action : Action)
    (after : (step d action).destroyed = true) : owned (step d action) = [] := by
  cases destroyed : d.destroyed with
  | true =>
      cases goesOn : action.goesOn with
      | false =>
          rw [step_of_destroyed destroyed goesOn]
          exact owns destroyed
      | true =>
          have same : owned (step d action) = owned d := by
            cases action with
            | loadContext =>
                rw [step_loadContext]
                exact (loadContext_sameMemory d).owned
            | callSend =>
                rw [step_callSend]
                exact callSend_owned d
            | initializeChannel _ _ => cases goesOn
            | exchangeActive => cases goesOn
            | stopChannel => cases goesOn
            | activated _ _ => cases goesOn
            | sendSamples _ _ => cases goesOn
            | destroy => cases goesOn
          rw [same]
          exact owns destroyed
  | false =>
      by_cases last : action = .destroy ∧ d.closing = none
      · obtain ⟨rfl, ready⟩ := last
        simp only [AudioStream.step, destroyed, ready, Option.isSome_none, Bool.false_and,
          Bool.false_eq_true, if_false]
        exact owned_destroy d
      · rw [step_alive destroyed last] at after
        cases after

/-- What a send has loaded is not left when the context is gone. -/
theorem context_not_left (sound : Sound (owned d ++ leaked) d) (attached : Attached d)
    {samples : Samples} {name : Nat} (sending : d.sending = some (.loaded samples name)) :
    name ∉ d.sourceFormat.toList ++ leaked := by
  obtain ⟨context, found, rfl⟩ := attached.loaded samples name sending
  have distinct := sound.holds.nodup
  rw [owned_of_some found] at distinct
  intro left
  exact (List.nodup_cons.mp distinct).1 (List.mem_append_right _ left)

/-- A stop or a destruction during a send makes the rest of it go wrong. -/
theorem not_safe_of_not_sendsOpen (sound : Sound (owned d ++ leaked) d) (attached : Attached d)
    {action : Action} (late : ¬SendsOpen d action) : ¬Safe (finishSend (step d action)) := by
  cases action with
  | stopChannel =>
      simp only [SendsOpen, Classical.not_imp] at late
      obtain ⟨alive, closing, sending⟩ := late
      obtain ⟨wasActive, closing⟩ := Option.isSome_iff_exists.mp closing
      have stepped : step d .stopChannel = stopChannel wasActive d := by
        simp only [AudioStream.step, alive, closing, Bool.false_and, Bool.false_eq_true, if_false]
      have kept := stopChannel_kept wasActive d
      have missing := stopChannel_context wasActive d
      have stopped := sound.stopChannel wasActive
      rw [owned_of_none missing, kept.sourceFormat] at stopped
      rw [stepped]
      apply not_safe_finishSend stopped missing
      · rw [kept.sending, Option.isSome_iff_ne_none]
        exact sending
      · intro samples name loaded
        exact context_not_left sound attached (kept.sending.symm.trans loaded)
  | destroy =>
      simp only [SendsOpen, Classical.not_imp] at late
      obtain ⟨alive, ready, sending⟩ := late
      have stepped : step d .destroy = destroy d := by
        simp only [AudioStream.step, alive, ready, Option.isSome_none, Bool.false_and,
          Bool.false_eq_true, if_false]
      have kept : (destroy d).sending = d.sending := by
        rw [destroy, free_eq]
        exact (close_kept d).sending
      have destroyed := sound.destroy
      rw [owned_destroy] at destroyed
      rw [stepped]
      apply not_safe_finishSend destroyed (destroy_context d)
      · rw [kept, Option.isSome_iff_ne_none]
        exact sending
      · intro samples name loaded left
        have absent := context_not_left sound attached (kept.symm.trans loaded)
        exact absent (List.mem_append_right _ left)
  | initializeChannel _ _ => exact absurd trivial late
  | exchangeActive => exact absurd trivial late
  | activated _ _ => exact absurd trivial late
  | sendSamples _ _ => exact absurd trivial late
  | loadContext => exact absurd trivial late
  | callSend => exact absurd trivial late

end Steps

/-! ### Every run -/

/-- What is known of a stream in a run that is open to every send. -/
structure Kept (d : Private) : Prop where
  sound : ∃ leaked, Sound (owned d ++ leaked) d
  attached : Attached d

section Runs

variable {d : Private}

theorem Kept.step (kept : Kept d) {action : Action} (sendsOpen : SendsOpen d action) :
    Kept (step d action) := by
  obtain ⟨⟨leaked, sound⟩, attached⟩ := kept
  exact ⟨⟨_, sound.step attached action⟩, attached.step sendsOpen⟩

theorem Kept.safe (kept : Kept d) : Safe d := by
  obtain ⟨leaked, sound⟩ := kept.sound
  exact ⟨kept.attached.notNull, _, sound.holds⟩

theorem Kept.finishSend (kept : Kept d) : Kept (finishSend d) := by
  have loaded : Kept (AudioStream.step d .loadContext) := kept.step trivial
  have sent : Kept (AudioStream.step (AudioStream.step d .loadContext) .callSend) :=
    loaded.step trivial
  exact sent

/-- Whatever is lost was overwritten, and nothing is overwritten exactly if every
opening finds no source format. -/
theorem Sound.run {leaked : List Nat} (sound : Sound (owned d ++ leaked) d)
    (attached : Attached d) {actions : List Action}
    (along : StepRun.Along AudioStream.step SendsOpen d actions) :
    ∃ lost, Sound (owned (StepRun.run AudioStream.step d actions) ++ (leaked ++ lost))
        (StepRun.run AudioStream.step d actions) ∧
      (lost = [] ↔ StepRun.Along AudioStream.step KeepsSource d actions) := by
  induction actions generalizing d leaked with
  | nil => exact ⟨[], by simpa using sound, by simp [StepRun.Along]⟩
  | cons action rest ih =>
      obtain ⟨lost, after, none⟩ := ih (sound.step attached action) (attached.step along.1) along.2
      refine ⟨overwritten d action ++ lost, ?_, ?_⟩
      · rwa [List.append_assoc] at after
      · rw [List.append_eq_nil_iff, none]
        exact Iff.rfl

end Runs

/-- Nothing is freed twice or used after it was freed, also by the rest of a send that
is under way, exactly if the stream is neither stopped nor destroyed during a send,
whichever calls fail.  A stream that was destroyed in such a run leaves nothing
allocated exactly if it never opened the channel again after it had allocated a source
format. -/
theorem memory_freed (actions : List Action) :
    (StepRun.Always step (fun d => Safe d ∧ Safe (finishSend d)) {} actions ↔
        StepRun.Along step SendsOpen {} actions) ∧
      (StepRun.Along step SendsOpen {} actions → (StepRun.run step {} actions).destroyed = true →
        (Custody.Holds (StepRun.run step {} actions).memory.log [] ↔
          StepRun.Along step KeepsSource {} actions)) := by
  have initial : Sound (owned {} ++ []) {} := Custody.Heap.sound_initial
  have idle : Attached {} := .of_idle rfl rfl
  constructor
  · refine StepRun.always_iff_along Kept actions ⟨⟨[], initial⟩, idle⟩ ?_ ?_ ?_
    · intro d action kept sendsOpen
      exact kept.step sendsOpen
    · intro d kept
      exact ⟨kept.safe, kept.finishSend.safe⟩
    · intro d action kept late safe
      obtain ⟨⟨leaked, sound⟩, attached⟩ := kept
      exact not_safe_of_not_sendsOpen sound attached late safe.2
  · intro along destroyed
    obtain ⟨lost, sound, none⟩ := initial.run idle along
    have nothing : owned (StepRun.run step {} actions) = [] :=
      StepRun.run_invariant (fun d : Private => d.destroyed = true → owned d = [])
        (fun impossible => by cases impossible)
        (fun d action owns => step_destroyed owns action) actions destroyed
    rw [← none]
    rw [nothing, List.nil_append, List.nil_append] at sound
    constructor
    · intro freed
      exact (sound.holds.unique freed).eq_nil
    · rintro rfl
      exact sound.holds

end AudioStream

end KRdp
