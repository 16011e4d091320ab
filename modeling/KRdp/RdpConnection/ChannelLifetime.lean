/-
No channel outlives the manager it was made with.

The names are listed by owner: the manager first, then the contexts in the order of
their channels.
-/

import KRdp.RdpConnection.Channels

namespace KRdp

namespace RdpConnection

namespace Channels

open StepRun

def names (channel : Option Channel) : List Nat := channel.toList.map Channel.context

def contexts (d : Private) : List Nat :=
  names d.displayControl ++ names d.audioStream ++ names d.clipboard ++ names d.videoStream

/-- What is allocated while the manager is. -/
def held (d : Private) : List Nat := d.virtualChannelManager.toList ++ contexts d

section Set

variable {kind : Kind} {channel : Option Channel} {d : Private}

@[simp] theorem set_memory : (set kind channel d).memory = d.memory := by cases kind <;> rfl

@[simp] theorem set_manager :
    (set kind channel d).virtualChannelManager = d.virtualChannelManager := by cases kind <;> rfl

@[simp] theorem set_phase : (set kind channel d).phase = d.phase := by cases kind <;> rfl

@[simp] theorem get_set : get kind (set kind channel d) = channel := by cases kind <;> rfl

theorem get_set_other {other : Kind} (different : other ≠ kind) :
    get other (set kind channel d) = get other d := by
  cases kind <;> cases other <;> first | rfl | exact absurd rfl different

theorem set_get (kind : Kind) (d : Private) : set kind (get kind d) d = d := by
  cases kind <;> rfl

theorem contexts_set (kind : Kind) (channel : Option Channel) (d : Private) :
    (contexts (set kind channel d)).Perm (names channel ++ contexts (set kind none d)) := by
  rw [List.perm_iff_count]
  intro name
  cases kind <;> simp only [contexts, set, names, Option.toList_none, List.map_nil,
    List.count_append, List.count_nil] <;> omega

/-- The context of one channel, and all the others. -/
theorem held_set (kind : Kind) (channel : Option Channel) (d : Private) :
    (held (set kind channel d)).Perm (names channel ++ held (set kind none d)) := by
  have perm := (contexts_set kind channel d).append_left d.virtualChannelManager.toList
  simp only [held, set_manager]
  exact perm.trans (List.perm_append_comm_assoc _ _ _)

theorem held_get {found : Channel} (isFound : get kind d = some found) :
    (held d).Perm (found.context :: held (set kind none d)) := by
  have perm := held_set kind (get kind d) d
  rw [set_get, isFound] at perm
  exact perm

end Set

/-- The states differ in their memory only. -/
structure SameChannels (before after : Private) : Prop where
  manager : after.virtualChannelManager = before.virtualChannelManager
  channels : ∀ kind, get kind after = get kind before
  phase : after.phase = before.phase

section SameChannels

variable {before after : Private}

theorem SameChannels.contexts (same : SameChannels before after) :
    contexts after = contexts before := by
  have displayControl := same.channels .displayControl
  have audioStream := same.channels .audioStream
  have clipboard := same.channels .clipboard
  have videoStream := same.channels .videoStream
  simp only [get] at displayControl audioStream clipboard videoStream
  simp only [Channels.contexts, displayControl, audioStream, clipboard, videoStream]

theorem SameChannels.held (same : SameChannels before after) : held after = held before := by
  rw [Channels.held, same.manager, same.contexts]
  rfl

theorem SameChannels.trans {last : Private} (first : SameChannels before after)
    (second : SameChannels after last) : SameChannels before last :=
  ⟨second.manager.trans first.manager,
    fun kind => (second.channels kind).trans (first.channels kind),
    second.phase.trans first.phase⟩

theorem SameChannels.set (same : SameChannels before after) (kind : Kind)
    (channel : Option Channel) :
    SameChannels (set kind channel before) (set kind channel after) := by
  refine ⟨?_, ?_, ?_⟩
  · rw [set_manager, set_manager, same.manager]
  · intro other
    by_cases own : other = kind
    · rw [own, get_set, get_set]
    · rw [get_set_other own, get_set_other own, same.channels]
  · rw [set_phase, set_phase, same.phase]

theorem sameChannels_memory (memory : Custody.Heap) (d : Private) :
    SameChannels d { d with memory := memory } :=
  ⟨rfl, fun kind => by cases kind <;> rfl, rfl⟩

theorem sameChannels_useContext (context : Nat) (d : Private) :
    SameChannels d (useContext context d) :=
  sameChannels_memory _ d

theorem sameChannels_useManager (d : Private) : SameChannels d (useManager d) := by
  unfold useManager
  split
  · exact sameChannels_memory _ d
  · exact ⟨rfl, fun _ => rfl, rfl⟩

theorem sameChannels_passManager (channel : Channel) (d : Private) :
    SameChannels d (passManager channel d) := by
  unfold passManager
  split
  · exact sameChannels_useManager d
  · exact ⟨rfl, fun _ => rfl, rfl⟩

end SameChannels

/-! ### One channel -/

/-- The names that an owner has are just those allocated. -/
def Sound (d : Private) : Prop := d.memory.Sound (held d)

section Sound

variable {kind : Kind} {channel : Channel} {d : Private}

theorem Sound.useManager (sound : Sound d) : Sound (useManager d) := by
  rw [Sound, (sameChannels_useManager d).held]
  unfold Channels.useManager
  split
  · rename_i manager found
    exact sound.use (List.mem_append_left _ (by rw [found]; exact List.mem_cons_self))
  · exact sound

theorem Sound.passManager (sound : Sound d) (channel : Channel) :
    Sound (passManager channel d) := by
  unfold Channels.passManager
  split
  · exact sound.useManager
  · exact sound

theorem Sound.useContext (sound : Sound d) (found : get kind d = some channel) :
    Sound (useContext channel.context d) := by
  rw [Sound, (sameChannels_useContext _ d).held]
  exact sound.use ((held_get found).mem_iff.mpr List.mem_cons_self)

/-- The context that is freed is the one the channel has. -/
theorem Sound.freeContext (sound : Sound d) {own : Channel} (found : get kind d = some own)
    (same : own.context = channel.context) : Sound (freeContext kind channel d) := by
  have passed := sound.passManager channel
  have found' := ((sameChannels_passManager channel d).channels kind).trans found
  unfold Channels.freeContext
  generalize Channels.passManager channel d = closed at passed found'
  have split := held_get found'
  rw [same] at split
  rw [Sound, set_memory, ((sameChannels_memory _ closed).set kind none).held]
  exact (passed.perm split).free

/-- The names do not depend on whether the channel is open. -/
theorem Sound.reopen (sound : Sound d) (found : get kind d = some channel) (opened : Bool) :
    Sound (set kind (some { channel with opened := opened }) d) := by
  rw [Sound, set_memory]
  have perm := held_set kind (some { channel with opened := opened }) d
  exact sound.perm ((held_get found).trans perm.symm)

theorem Sound.stop (sound : Sound d) (found : get kind d = some channel) :
    Sound (stop kind channel d) := by
  have passed := (sound.useContext found).passManager channel
  have same := (sameChannels_useContext channel.context d).trans
    (sameChannels_passManager channel _)
  exact passed.reopen ((same.channels kind).trans found) false

theorem Sound.useChannel (sound : Sound d) (kind : Kind) : Sound (useChannel kind d) := by
  unfold Channels.useChannel
  split
  · rename_i channel found
    exact (sound.useContext found).passManager channel
  · exact sound

theorem Sound.closeDisplayControl (sound : Sound d) : Sound (closeDisplayControl d) := by
  unfold Channels.closeDisplayControl
  split
  · rename_i channel found
    have own : get .displayControl d = some channel := found
    exact sound.freeContext own rfl
  · exact sound

theorem Sound.stopAndFree (sound : Sound d) (kind : Kind) : Sound (stopAndFree kind d) := by
  unfold Channels.stopAndFree
  split
  · rename_i channel found
    have stopped : get kind (Channels.stop kind channel d) =
        some { channel with opened := false } :=
      get_set
    exact (sound.stop found).freeContext stopped rfl
  · exact sound

theorem Sound.closeVideoStream (sound : Sound d) : Sound (closeVideoStream d) := by
  unfold Channels.closeVideoStream
  split
  · rename_i channel found
    have own : get .videoStream d = some channel := found
    exact sound.stop own
  · exact sound

theorem Sound.onClose (sound : Sound d) : Sound (onClose d) :=
  ((sound.closeDisplayControl.stopAndFree .audioStream).stopAndFree .clipboard).closeVideoStream

/-- A new context is one more name. -/
theorem Sound.newContext (sound : Sound d) (missing : get kind d = none) (succeeds : Bool) :
    Sound (newContext kind succeeds d) := by
  have passed := sound.useManager
  have missing' := ((sameChannels_useManager d).channels kind).trans missing
  unfold Channels.newContext
  generalize Channels.useManager d = used at passed missing'
  cases succeeds with
  | false => exact passed
  | true =>
      have same : set kind none used = used := by rw [← missing', set_get]
      have perm := held_set kind (some { context := used.memory.allocated }) used
      rw [same] at perm
      rw [if_pos rfl, Sound, set_memory, ((sameChannels_memory _ used).set kind _).held]
      exact (Custody.Heap.Sound.allocate passed).perm perm.symm

/-- Opening a channel uses its context and the manager. -/
theorem Sound.openChannel (sound : Sound d) (kind : Kind) (opens : Bool)
    {whenRefused : Private → Private} (keeps : ∀ d, Sound d → Sound (whenRefused d)) :
    Sound (openChannel kind opens whenRefused d).2 := by
  unfold Channels.openChannel
  split
  · exact sound
  · rename_i channel found
    have used := (sound.useContext found).useManager
    have same := (sameChannels_useContext channel.context d).trans (sameChannels_useManager _)
    dsimp only
    split
    · exact used.reopen ((same.channels kind).trans found) true
    · exact keeps _ used

theorem Sound.initializeDisplayControl (sound : Sound d) (outcome : Outcome) :
    Sound (initializeDisplayControl outcome d).2 := by
  unfold Channels.initializeDisplayControl
  split
  · exact sound
  · rename_i present
    have missing : get .displayControl d = none := Option.not_isSome_iff_eq_none.mp present
    have opened := (sound.newContext missing outcome.context).openChannel .displayControl
      outcome.opens fun _ sound => sound.closeDisplayControl
    have advertised := opened.useChannel .displayControl
    dsimp only
    split
    · exact opened
    · split
      · exact advertised
      · exact advertised.closeDisplayControl

theorem Sound.initializeAudioStream (sound : Sound d) (outcome : Outcome) :
    Sound (initializeAudioStream outcome d).2 := by
  unfold Channels.initializeAudioStream
  split
  · exact sound
  · rename_i present
    have missing : get .audioStream d = none := Option.not_isSome_iff_eq_none.mp present
    have made := sound.newContext missing outcome.context
    dsimp only
    split
    · exact made.stopAndFree .audioStream
    · exact made.openChannel .audioStream outcome.opens fun _ sound => sound.stopAndFree _

theorem Sound.initializeClipboard (sound : Sound d) (outcome : Outcome) :
    Sound (initializeClipboard outcome d).2 := by
  unfold Channels.initializeClipboard
  split
  · exact sound
  · rename_i present
    have missing : get .clipboard d = none := Option.not_isSome_iff_eq_none.mp present
    exact (sound.newContext missing outcome.context).openChannel .clipboard outcome.opens
      fun _ sound => sound

theorem Sound.initializeVideoStream (sound : Sound d) (outcome : Outcome) :
    Sound (initializeVideoStream outcome d).2 := by
  unfold Channels.initializeVideoStream
  split
  · exact sound
  · rename_i present
    have missing : get .videoStream d = none := Option.not_isSome_iff_eq_none.mp present
    exact (sound.newContext missing outcome.context).openChannel .videoStream outcome.opens
      fun _ sound => sound

/-- Every initialization keeps track of what it allocates. -/
theorem Sound.initializeMember (sound : Sound d) (kind : Kind) (outcome : Outcome) :
    Sound (initializeMember kind outcome d).2 := by
  cases kind with
  | displayControl => exact sound.initializeDisplayControl outcome
  | audioStream => exact sound.initializeAudioStream outcome
  | clipboard => exact sound.initializeClipboard outcome
  | videoStream => exact sound.initializeVideoStream outcome

end Sound

/-! ### Channels after a close -/

/-- All channels are closed, and only the graphics channel keeps its context. -/
structure Shut (d : Private) : Prop where
  displayControl : d.displayControl = none
  audioStream : d.audioStream = none
  clipboard : d.clipboard = none
  videoStream : ∀ channel ∈ d.videoStream, channel.opened = false

section Shut

variable {kind other : Kind} {channel : Channel} {d : Private}

theorem Shut.same (shut : Shut d) {after : Private} (same : SameChannels d after) : Shut after := by
  have videoStream : after.videoStream = d.videoStream := same.channels .videoStream
  refine ⟨(same.channels .displayControl).trans shut.displayControl,
    (same.channels .audioStream).trans shut.audioStream,
    (same.channels .clipboard).trans shut.clipboard, ?_⟩
  rw [videoStream]
  exact shut.videoStream

theorem sameChannels_useChannel (kind : Kind) (d : Private) :
    SameChannels d (useChannel kind d) := by
  unfold useChannel
  split
  · rename_i channel _
    exact (sameChannels_useContext channel.context d).trans (sameChannels_passManager channel _)
  · exact ⟨rfl, fun _ => rfl, rfl⟩

theorem freeContext_get (kind : Kind) (channel : Channel) (d : Private) :
    get kind (freeContext kind channel d) = none :=
  get_set

theorem freeContext_other (different : other ≠ kind) :
    get other (freeContext kind channel d) = get other d := by
  rw [freeContext, get_set_other different, (sameChannels_memory _ _).channels,
    (sameChannels_passManager channel d).channels]

theorem stop_other (different : other ≠ kind) : get other (stop kind channel d) = get other d := by
  rw [stop, get_set_other different, (sameChannels_passManager channel _).channels,
    (sameChannels_useContext _ d).channels]

theorem closeDisplayControl_get (d : Private) : (closeDisplayControl d).displayControl = none := by
  unfold closeDisplayControl
  split
  · exact freeContext_get .displayControl _ _
  · rename_i none
    exact none

theorem stopAndFree_get (kind : Kind) (d : Private) : get kind (stopAndFree kind d) = none := by
  unfold stopAndFree
  split
  · exact freeContext_get kind _ _
  · rename_i none
    exact none

theorem stopAndFree_other (different : other ≠ kind) :
    get other (stopAndFree kind d) = get other d := by
  unfold stopAndFree
  split
  · rw [freeContext_other different, stop_other different]
  · rfl

theorem closeVideoStream_other (different : other ≠ .videoStream) :
    get other (closeVideoStream d) = get other d := by
  unfold closeVideoStream
  split
  · exact stop_other different
  · rfl

theorem closeVideoStream_get (d : Private) :
    ∀ channel ∈ (closeVideoStream d).videoStream, channel.opened = false := by
  intro channel member
  unfold closeVideoStream at member
  split at member
  · rename_i own _
    have stopped : (stop .videoStream own d).videoStream = some { own with opened := false } := rfl
    rw [stopped] at member
    obtain rfl := Option.some.inj member
    rfl
  · rename_i none
    rw [none] at member
    cases member

theorem shut_onClose (d : Private) : Shut (onClose d) := by
  refine ⟨?_, ?_, ?_, closeVideoStream_get _⟩
  · change get .displayControl _ = none
    rw [onClose, closeVideoStream_other (by decide), closeClipboard, stopAndFree_other (by decide),
      closeAudioStream, stopAndFree_other (by decide)]
    exact closeDisplayControl_get d
  · change get .audioStream _ = none
    rw [onClose, closeVideoStream_other (by decide), closeClipboard, stopAndFree_other (by decide)]
    exact stopAndFree_get .audioStream _
  · change get .clipboard _ = none
    rw [onClose, closeVideoStream_other (by decide)]
    exact stopAndFree_get .clipboard _

/-- What is left of a connection when it is destroyed. -/
def left (freesContext : Bool) (d : Private) : List Nat :=
  if freesContext then [] else d.virtualChannelManager.toList

theorem sound_freePeer (sound : Sound d) (freesContext : Bool) :
    (freePeer freesContext d).memory.Sound (contexts d ++ left freesContext d) ∧
      SameChannels d (freePeer freesContext d) := by
  cases freesContext with
  | false => exact ⟨sound.perm List.perm_append_comm, ⟨rfl, fun _ => rfl, rfl⟩⟩
  | true =>
      change (freePeerContext d).memory.Sound (contexts d ++ []) ∧
        SameChannels d (freePeerContext d)
      rw [List.append_nil]
      unfold freePeerContext
      split
      · rename_i manager found
        rw [Sound, held, found] at sound
        exact ⟨sound.free, sameChannels_memory _ d⟩
      · rename_i none
        rw [Sound, held, none] at sound
        exact ⟨sound, ⟨rfl, fun _ => rfl, rfl⟩⟩

/-- Only the context of the graphics channel is left for the destructors. -/
theorem Shut.destroy (shut : Shut d) (sound : Sound d) (freesContext : Bool) :
    (destroy freesContext d).memory.Sound (left freesContext (destroy freesContext d)) ∧
      Shut (destroy freesContext d) := by
  obtain ⟨released, same⟩ := sound_freePeer sound freesContext
  have shut' := shut.same same
  have sameLeft : left freesContext (freePeer freesContext d) = left freesContext d := by
    rw [left, same.manager]
    rfl
  rw [← same.contexts, ← sameLeft] at released
  unfold Channels.destroy
  generalize freePeer freesContext d = peerless at released shut'
  have idle : closeClipboard (closeAudioStream (closeDisplayControl peerless)) = peerless := by
    simp only [closeDisplayControl, closeAudioStream, closeClipboard, stopAndFree, get,
      shut'.displayControl, shut'.audioStream, shut'.clipboard]
  have owned : contexts peerless = names peerless.videoStream := by
    simp [contexts, shut'.displayControl, shut'.audioStream, shut'.clipboard, names]
  simp only [idle]
  rw [owned] at released
  unfold freeVideoStream
  split
  · rename_i channel found
    have closed := shut'.videoStream channel found
    rw [found] at released
    have passed : passManager channel peerless = peerless := by
      rw [passManager, closed, if_neg Bool.false_ne_true]
    simp only [freeContext, passed]
    refine ⟨released.free, shut'.displayControl, shut'.audioStream, shut'.clipboard, ?_⟩
    intro other impossible
    cases impossible
  · rename_i none
    rw [none] at released
    exact ⟨released, shut'.displayControl, shut'.audioStream, shut'.clipboard, shut'.videoStream⟩

end Shut

/-! ### The phase -/

section Phase

variable {kind : Kind} {channel : Channel} {d : Private}

@[simp] theorem useManager_phase (d : Private) : (useManager d).phase = d.phase :=
  (sameChannels_useManager d).phase

@[simp] theorem useContext_phase (context : Nat) (d : Private) :
    (useContext context d).phase = d.phase :=
  rfl

@[simp] theorem useChannel_phase (kind : Kind) (d : Private) :
    (useChannel kind d).phase = d.phase :=
  (sameChannels_useChannel kind d).phase

@[simp] theorem freeContext_phase : (freeContext kind channel d).phase = d.phase := by
  rw [freeContext, set_phase]
  exact (sameChannels_passManager channel d).phase

@[simp] theorem stop_phase : (stop kind channel d).phase = d.phase := by
  rw [stop, set_phase]
  exact (sameChannels_passManager channel _).phase

@[simp] theorem closeDisplayControl_phase (d : Private) :
    (closeDisplayControl d).phase = d.phase := by
  unfold closeDisplayControl
  split
  · exact freeContext_phase
  · rfl

@[simp] theorem stopAndFree_phase (kind : Kind) (d : Private) :
    (stopAndFree kind d).phase = d.phase := by
  unfold stopAndFree
  split
  · rw [freeContext_phase, stop_phase]
  · rfl

@[simp] theorem newContext_phase (succeeds : Bool) :
    (newContext kind succeeds d).phase = d.phase := by
  unfold newContext
  dsimp only
  split
  · rw [set_phase]
    exact useManager_phase d
  · exact useManager_phase d

theorem openChannel_phase {opens : Bool} {whenRefused : Private → Private}
    (keeps : ∀ d, (whenRefused d).phase = d.phase) (d : Private) :
    (openChannel kind opens whenRefused d).2.phase = d.phase := by
  unfold openChannel
  split
  · rfl
  · dsimp only
    split
    · rw [set_phase, useManager_phase, useContext_phase]
    · rw [keeps, useManager_phase, useContext_phase]

theorem initializeDisplayControl_phase (outcome : Outcome) (d : Private) :
    (initializeDisplayControl outcome d).2.phase = d.phase := by
  have opened : (openChannel .displayControl outcome.opens closeDisplayControl
      (newContext .displayControl outcome.context d)).2.phase = d.phase :=
    (openChannel_phase closeDisplayControl_phase _).trans (newContext_phase _)
  unfold initializeDisplayControl
  dsimp only
  split
  · rfl
  · split
    · exact opened
    · split
      · rw [useChannel_phase, opened]
      · rw [closeDisplayControl_phase, useChannel_phase, opened]

theorem initializeAudioStream_phase (outcome : Outcome) (d : Private) :
    (initializeAudioStream outcome d).2.phase = d.phase := by
  unfold initializeAudioStream
  dsimp only
  split
  · rfl
  · split
    · exact (stopAndFree_phase _ _).trans (newContext_phase _)
    · exact (openChannel_phase (stopAndFree_phase _) _).trans (newContext_phase _)

theorem initializeMember_phase (kind : Kind) (outcome : Outcome) (d : Private) :
    (initializeMember kind outcome d).2.phase = d.phase := by
  cases kind with
  | displayControl => exact initializeDisplayControl_phase outcome d
  | audioStream => exact initializeAudioStream_phase outcome d
  | clipboard =>
      change (initializeClipboard outcome d).2.phase = d.phase
      unfold initializeClipboard
      split
      · rfl
      · exact (openChannel_phase (fun _ => rfl) _).trans (newContext_phase _)
  | videoStream =>
      change (initializeVideoStream outcome d).2.phase = d.phase
      unfold initializeVideoStream
      split
      · rfl
      · exact (openChannel_phase (fun _ => rfl) _).trans (newContext_phase _)

end Phase

/-! ### Every run -/

/-- While the thread runs the channels may be in any state. -/
structure Intact (freesContext : Bool) (d : Private) : Prop where
  sound : d.phase ≠ .destroyed → Sound d
  unmade : d.phase = .initial → d.virtualChannelManager = none
  shut : d.phase ≠ .running → Shut d
  freed : d.phase = .destroyed → d.memory.Sound (left freesContext d)

section Intact

variable {freesContext : Bool} {d : Private}

/-- In the thread only what is allocated has to be known. -/
theorem intact_running {after : Private} (running : after.phase = .running)
    (sound : Sound after) : Intact freesContext after := by
  refine ⟨fun _ => sound, ?_, fun other => absurd running other, ?_⟩
  · intro impossible
    rw [running] at impossible
    cases impossible
  · intro impossible
    rw [running] at impossible
    cases impossible

/-- The connection is initialized once, and makes the manager there. -/
theorem Intact.initializeConnection (intact : Intact freesContext d)
    (isInitial : d.phase = .initial) (contextNew : Bool) {phase : Phase}
    (started : phase = .running ∨ phase = .failed) :
    Intact freesContext { newPeerContext contextNew d with phase := phase } := by
  have sound : Sound d := intact.sound (by rw [isInitial]; decide)
  have shut : Shut d := intact.shut (by rw [isInitial]; decide)
  have made : Sound (newPeerContext contextNew d) ∧ Shut (newPeerContext contextNew d) := by
    cases contextNew with
    | false => exact ⟨sound, shut⟩
    | true =>
        rw [Sound, held, intact.unmade isInitial] at sound
        exact ⟨sound.allocate, shut.displayControl, shut.audioStream, shut.clipboard,
          shut.videoStream⟩
  refine ⟨fun _ => made.1, ?_, fun _ => ⟨made.2.displayControl, made.2.audioStream,
    made.2.clipboard, made.2.videoStream⟩, ?_⟩
  · rintro rfl
    rcases started with impossible | impossible <;> cases impossible
  · rintro rfl
    rcases started with impossible | impossible <;> cases impossible

theorem Intact.useChannel (intact : Intact freesContext d) (alive : d.phase ≠ .destroyed)
    (kind : Kind) : Intact freesContext (useChannel kind d) := by
  have same := sameChannels_useChannel kind d
  refine ⟨fun _ => (intact.sound alive).useChannel kind, ?_, ?_, ?_⟩
  · intro isInitial
    rw [same.manager]
    exact intact.unmade (same.phase.symm.trans isInitial)
  · intro stopped
    rw [same.phase] at stopped
    exact (intact.shut stopped).same same
  · intro destroyed
    exact absurd (same.phase.symm.trans destroyed) alive

theorem Intact.onClose (intact : Intact freesContext d) (running : d.phase = .running) :
    Intact freesContext { onClose d with phase := .closed } := by
  have sound := intact.sound (by rw [running]; decide)
  have shut := shut_onClose d
  refine ⟨fun _ => sound.onClose, ?_, fun _ => ⟨shut.displayControl, shut.audioStream,
    shut.clipboard, shut.videoStream⟩, ?_⟩
  · intro impossible
    cases impossible
  · intro impossible
    cases impossible

theorem Intact.destroy (intact : Intact freesContext d) (ended : d.phase ≠ .running)
    (alive : d.phase ≠ .destroyed) : Intact freesContext (destroy freesContext d) := by
  obtain ⟨released, shut⟩ := (intact.shut ended).destroy (intact.sound alive) freesContext
  refine ⟨fun other => absurd rfl other, ?_, fun _ => shut, fun _ => released⟩
  intro impossible
  cases impossible

theorem Intact.step (intact : Intact freesContext d) (action : Action) :
    Intact freesContext (step freesContext d action) := by
  cases action with
  | initializeConnection contextNew succeeds =>
      rw [Channels.step]
      by_cases isInitial : d.phase = .initial
      · rw [if_pos isInitial]
        refine intact.initializeConnection isInitial contextNew ?_
        cases contextNew && succeeds
        · exact .inr rfl
        · exact .inl rfl
      · rwa [if_neg isInitial]
  | initializeMember kind outcome =>
      rw [Channels.step]
      by_cases running : d.phase = .running
      · rw [if_pos running]
        have sound := intact.sound (by rw [running]; decide)
        refine intact_running ?_ (sound.initializeMember kind outcome)
        rw [initializeMember_phase, running]
      · rwa [if_neg running]
  | useChannel kind =>
      rw [Channels.step]
      by_cases destroyed : d.phase = .destroyed
      · rwa [if_pos destroyed]
      · rw [if_neg destroyed]
        exact intact.useChannel destroyed kind
  | onClose =>
      rw [Channels.step]
      by_cases running : d.phase = .running
      · rw [if_pos running]
        exact intact.onClose running
      · rwa [if_neg running]
  | destroy =>
      rw [Channels.step]
      by_cases stopped : d.phase = .running ∨ d.phase = .destroyed
      · rwa [if_pos stopped]
      · rw [if_neg stopped]
        obtain ⟨ended, alive⟩ := not_or.mp stopped
        exact intact.destroy ended alive

end Intact

end Channels

end RdpConnection

end KRdp
