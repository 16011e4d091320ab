/-
The channels of a connection in its communication loop.

The loop asks by a flag whether a channel is there, and the flag stands for a context.
Here an iteration is taken over the contexts, with what the calls for each channel come
to, and the flags of an iteration with the same calls say which contexts there are.
-/

import KRdp.RdpConnection.ChannelLifetime
import KRdp.RdpConnection.SuppressOutput

namespace KRdp

namespace RdpConnection

namespace Channels

/-- What the calls of one iteration come to.  The audio channel is opened by the login,
which is among the messages that an iteration reads. -/
structure Outcomes where
  postConnect : Bool
  audioStream : Outcome
  displayControl : Outcome
  videoStream : Outcome
  clipboard : Outcome
  deriving DecidableEq, Repr

/-- The iteration as it is seen over the flags. -/
def Outcomes.input (outcomes : Outcomes) (input : Iteration) : Iteration :=
  { input with
    displayControlOpens := outcomes.displayControl.context &&
      (outcomes.displayControl.opens && outcomes.displayControl.advertises)
    gfxContextNew := outcomes.videoStream.context
    gfxOpens := outcomes.videoStream.opens
    clipboardStarts := outcomes.clipboard.context && outcomes.clipboard.opens }

/-- A connection without audio goes on. -/
def checkFileDescriptor (outcomes : Outcomes) (d : Private) : Private :=
  if outcomes.postConnect then (initializeAudioStream outcomes.audioStream d).2 else d

/-- Whether a channel is joined is a question to the manager. -/
def askManager (input : Iteration) (d : Private) : Private :=
  if input.connected then useManager d else d

def setUpChannels (input : Iteration) (outcomes : Outcomes) (d : Private) : Bool × Private :=
  let asked := askManager input d
  if input.connected && input.drdynvcJoined then
    if input.drdynvcState == .ready then
      let control := initializeDisplayControl outcomes.displayControl asked
      if !control.1 then (false, control.2)
      else initializeVideoStream outcomes.videoStream control.2
    else (true, asked)
  else (true, asked)

def finishIteration (input : Iteration) (outcomes : Outcomes) (d : Private) : Bool × Private :=
  let checked := useManager d
  if channelManagerFails input then (false, checked)
  else if input.connected && input.cliprdrJoined then
    initializeClipboard outcomes.clipboard checked
  else (true, checked)

/-- One iteration over the contexts; the flag tells whether the loop goes on. -/
def iterate (input : Iteration) (outcomes : Outcomes) (d : Private) : Bool × Private :=
  if input.stopRequested then (false, d)
  else if input.handleCount ≤ 0 then (false, d)
  else
    let read := checkFileDescriptor outcomes d
    if !input.fileDescriptorOk then (false, read)
    else
      let channels := setUpChannels input outcomes read
      if channels.1 then finishIteration input outcomes channels.2 else (false, channels.2)

/-! ### What an iteration keeps -/

section Keeps

variable {d : Private}

/-- What the manager and every initialization keep, an iteration keeps. -/
theorem iterate_keeps (holds : Private → Prop) (manager : ∀ d, holds d → holds (useManager d))
    (members : ∀ kind outcome d, holds d → holds (initializeMember kind outcome d).2)
    (input : Iteration) (outcomes : Outcomes) (before : holds d) :
    holds (iterate input outcomes d).2 := by
  have read : holds (checkFileDescriptor outcomes d) := by
    unfold checkFileDescriptor
    split
    · exact members .audioStream outcomes.audioStream d before
    · exact before
  have channels : holds (setUpChannels input outcomes (checkFileDescriptor outcomes d)).2 := by
    generalize checkFileDescriptor outcomes d = d at read
    have asked : holds (askManager input d) := by
      unfold askManager
      split
      · exact manager d read
      · exact read
    have control := members .displayControl outcomes.displayControl _ asked
    unfold setUpChannels
    dsimp only
    split
    · split
      · split
        · exact control
        · exact members .videoStream outcomes.videoStream _ control
      · exact asked
    · exact asked
  have finished : holds (finishIteration input outcomes
      (setUpChannels input outcomes (checkFileDescriptor outcomes d)).2).2 := by
    have checked := manager _ channels
    unfold finishIteration
    dsimp only
    split
    · exact checked
    · split
      · exact members .clipboard outcomes.clipboard _ checked
      · exact checked
  unfold iterate
  dsimp only
  split
  · exact before
  · split
    · exact before
    · split
      · exact read
      · split
        · exact finished
        · exact channels

theorem iterate_phase (input : Iteration) (outcomes : Outcomes) (d : Private) :
    (iterate input outcomes d).2.phase = d.phase := by
  apply iterate_keeps fun after => after.phase = d.phase
  · intro after same
    exact (sameChannels_useManager after).phase.trans same
  · intro kind outcome after same
    exact (initializeMember_phase kind outcome after).trans same
  · rfl

theorem Sound.iterate (sound : Sound d) (input : Iteration) (outcomes : Outcomes) :
    Sound (Channels.iterate input outcomes d).2 :=
  iterate_keeps Sound (fun _ sound => sound.useManager)
    (fun kind outcome _ sound => sound.initializeMember kind outcome) input outcomes sound

end Keeps

/-! ### What an initialization comes to -/

/-- No channel but the named one is another. -/
def SameOthers (kind : Kind) (before after : Private) : Prop :=
  ∀ other, other ≠ kind → get other after = get other before

/-- Where a context is, its channel is open. -/
def AllOpen (d : Private) : Prop :=
  ∀ kind channel, get kind d = some channel → channel.opened = true

/-- The three ends of opening the channel of a new context. -/
inductive Opening (kind : Kind) (context opens : Bool) (whenRefused : Private → Private)
    (d : Private) : Bool × Private → Prop where
  | noContext {after : Private} (failed : context = false) (same : SameChannels d after) :
      Opening kind context opens whenRefused d (false, after)
  | refused {made : Private} {channel : Channel} (made_context : context = true)
      (failed : opens = false) (found : get kind made = some channel)
      (others : SameOthers kind d made) :
      Opening kind context opens whenRefused d (false, whenRefused made)
  | opened {after : Private} {channel : Channel} (made_context : context = true)
      (succeeded : opens = true) (found : get kind after = some channel)
      (isOpen : channel.opened = true) (others : SameOthers kind d after) :
      Opening kind context opens whenRefused d (true, after)

section Opening

variable {kind : Kind} {d : Private}

theorem SameChannels.sameOthers {after : Private} (same : SameChannels d after) :
    SameOthers kind d after :=
  fun other _ => same.channels other

theorem SameOthers.trans {middle after : Private} (first : SameOthers kind d middle)
    (second : SameOthers kind middle after) : SameOthers kind d after :=
  fun other different => (second other different).trans (first other different)

theorem sameOthers_set (channel : Option Channel) (d : Private) :
    SameOthers kind d (set kind channel d) :=
  fun _ different => get_set_other different

theorem newContext_true (kind : Kind) (d : Private) :
    get kind (newContext kind true d) = some { context := (useManager d).memory.allocated } ∧
      SameOthers kind d (newContext kind true d) := by
  refine ⟨get_set, ?_⟩
  have used : SameOthers kind d (useManager d) := (sameChannels_useManager d).sameOthers
  exact (used.trans (sameChannels_memory _ _).sameOthers).trans (sameOthers_set _ _)

theorem openChannel_opening (missing : get kind d = none) (context opens : Bool)
    (whenRefused : Private → Private) :
    Opening kind context opens whenRefused d
      (openChannel kind opens whenRefused (newContext kind context d)) := by
  cases context with
  | false =>
      have same : SameChannels d (newContext kind false d) := sameChannels_useManager d
      have none : get kind (newContext kind false d) = none := (same.channels kind).trans missing
      unfold openChannel
      rw [none]
      exact .noContext rfl same
  | true =>
      obtain ⟨found, others⟩ := newContext_true kind d
      generalize newContext kind true d = made at found others
      have used := (sameChannels_useContext _ made).trans
        (sameChannels_useManager (useContext (useManager d).memory.allocated made))
      unfold openChannel
      rw [found]
      cases opens with
      | false =>
          exact .refused rfl rfl ((used.channels kind).trans found) (others.trans used.sameOthers)
      | true =>
          exact .opened rfl rfl get_set rfl
            ((others.trans used.sameOthers).trans (sameOthers_set _ _))

end Opening

/-! ### The flags -/

/-- The flags say which contexts there are.  A clipboard whose channel does not open has a
context without the flag, but then the loop is left. -/
structure FlagsStand (goesOn : Bool) (connection : Connection) (d : Private) : Prop where
  displayControl : connection.displayControl = d.displayControl.isSome
  gfxContext : connection.videoStream.gfxContext = d.videoStream.isSome
  clipboard : goesOn = true → connection.clipboard = d.clipboard.isSome
  opened : goesOn = true → AllOpen d

/-- A part of an iteration goes the same way over the flags and over the contexts. -/
structure Agrees (flags : Bool × Connection) (channels : Bool × Private) : Prop where
  answer : channels.1 = flags.1
  stand : FlagsStand flags.1 flags.2 channels.2

section Agrees

variable {goesOn : Bool} {connection : Connection} {d : Private}

theorem AllOpen.same (all : AllOpen d) {after : Private}
    (same : ∀ kind, get kind after = get kind d) : AllOpen after := by
  intro kind channel found
  exact all kind channel ((same kind).symm.trans found)

theorem AllOpen.opened (all : AllOpen d) {kind : Kind} {after : Private}
    (others : SameOthers kind d after)
    (own : ∀ channel, get kind after = some channel → channel.opened = true) :
    AllOpen after := by
  intro other channel found
  by_cases same : other = kind
  · exact own channel (same ▸ found)
  · exact all other channel ((others other same).symm.trans found)

theorem FlagsStand.same (stand : FlagsStand goesOn connection d) {after : Private}
    (same : ∀ kind, get kind after = get kind d) : FlagsStand goesOn connection after where
  displayControl := stand.displayControl.trans
    (congrArg Option.isSome (same .displayControl).symm)
  gfxContext := stand.gfxContext.trans (congrArg Option.isSome (same .videoStream).symm)
  clipboard := fun stays => (stand.clipboard stays).trans
    (congrArg Option.isSome (same .clipboard).symm)
  opened := fun stays => (stand.opened stays).same same

theorem FlagsStand.agrees (stand : FlagsStand goesOn connection d) :
    Agrees (goesOn, connection) (goesOn, d) :=
  ⟨rfl, stand⟩

/-- What is left may be in any order. -/
theorem FlagsStand.left (stand : FlagsStand goesOn connection d) :
    Agrees (false, connection) (false, d) :=
  ⟨rfl, stand.displayControl, stand.gfxContext, Bool.noConfusion, Bool.noConfusion⟩

/-- One part after another, where the first may leave the loop. -/
theorem Agrees.andThen {flags : Bool × Connection} {channels : Bool × Private}
    (first : Agrees flags channels) {next : Connection → Bool × Connection}
    {nextChannels : Private → Bool × Private}
    (rest : ∀ connection d, FlagsStand true connection d →
      Agrees (next connection) (nextChannels d)) :
    Agrees (if flags.1 then next flags.2 else (false, flags.2))
      (if channels.1 then nextChannels channels.2 else (false, channels.2)) := by
  obtain ⟨goesOn, connection⟩ := flags
  obtain ⟨answer, stand⟩ := first
  rw [answer]
  cases goesOn with
  | false => exact stand.left
  | true => exact rest connection channels.2 stand

end Agrees

/-! ### The parts of an iteration -/

section Parts

variable {goesOn : Bool} {connection : Connection} {d : Private}

theorem closeDisplayControl_others (d : Private) :
    SameOthers .displayControl d (closeDisplayControl d) := by
  intro other different
  unfold closeDisplayControl
  split
  · exact freeContext_other different
  · rfl

theorem closeAudioStream_others (d : Private) :
    SameOthers .audioStream d (closeAudioStream d) :=
  fun _ different => stopAndFree_other different

theorem closeClipboard_others (d : Private) : SameOthers .clipboard d (closeClipboard d) :=
  fun _ different => stopAndFree_other different

/-- The flags of the channels that a part leaves alone. -/
theorem FlagsStand.others (stand : FlagsStand goesOn connection d) {kind : Kind} {after : Private}
    (others : SameOthers kind d after) :
    (kind ≠ .displayControl → connection.displayControl = after.displayControl.isSome) ∧
      (kind ≠ .videoStream → connection.videoStream.gfxContext = after.videoStream.isSome) ∧
      (kind ≠ .clipboard → goesOn = true → connection.clipboard = after.clipboard.isSome) := by
  refine ⟨?_, ?_, ?_⟩
  · intro different
    exact stand.displayControl.trans (congrArg Option.isSome (others _ different.symm).symm)
  · intro different
    exact stand.gfxContext.trans (congrArg Option.isSome (others _ different.symm).symm)
  · intro different stays
    exact (stand.clipboard stays).trans (congrArg Option.isSome (others _ different.symm).symm)

/-- A channel that is found open is there. -/
theorem AllOpen.found (all : AllOpen d) {kind : Kind} {after : Private} {channel : Channel}
    (others : SameOthers kind d after) (found : get kind after = some channel)
    (isOpen : channel.opened = true) : AllOpen after := by
  apply all.opened others
  intro other otherFound
  rw [found] at otherFound
  rw [← Option.some.inj otherFound]
  exact isOpen

/-- The display control is taken back when any of its calls fails. -/
theorem initializeDisplayControl_agrees (stand : FlagsStand true connection d) (input : Iteration)
    (outcomes : Outcomes) :
    Agrees (RdpConnection.initializeDisplayControl (outcomes.input input) connection)
      (initializeDisplayControl outcomes.displayControl d) := by
  unfold RdpConnection.initializeDisplayControl initializeDisplayControl
  rw [stand.displayControl]
  cases present : d.displayControl.isSome with
  | true => exact stand.agrees
  | false =>
      have missing : get .displayControl d = none :=
        Option.isNone_iff_eq_none.mp (Option.isSome_eq_false_iff.mp present)
      have closed : ∀ {after : Private}, SameOthers .displayControl d after →
          after.displayControl = none → Agrees (false, connection) (false, after) := by
        intro after others none
        refine ⟨rfl, ?_, (stand.others others).2.1 Kind.noConfusion, Bool.noConfusion,
          Bool.noConfusion⟩
        rw [none, stand.displayControl, present]
        rfl
      have opening := openChannel_opening missing outcomes.displayControl.context
        outcomes.displayControl.opens closeDisplayControl
      generalize openChannel .displayControl _ _ _ = opened at opening
      cases opening with
      | noContext failed same =>
          simp only [Outcomes.input, failed, Bool.false_and]
          exact closed same.sameOthers ((same.channels .displayControl).trans missing)
      | @refused made channel _ failed _ others =>
          simp only [Outcomes.input, failed, Bool.false_and, Bool.and_false]
          exact closed (others.trans (closeDisplayControl_others made))
            (closeDisplayControl_get made)
      | @opened after channel context succeeded found isOpen others =>
          have same := sameChannels_useChannel .displayControl after
          have advertisedOthers := others.trans same.sameOthers
          have advertisedFound := (same.channels .displayControl).trans found
          simp only [Outcomes.input, context, succeeded, Bool.true_and]
          cases outcomes.displayControl.advertises with
          | false =>
              exact closed (advertisedOthers.trans (closeDisplayControl_others _))
                (closeDisplayControl_get _)
          | true =>
              obtain ⟨_, gfxContext, clipboard⟩ := stand.others advertisedOthers
              refine ⟨rfl, ?_, gfxContext Kind.noConfusion, clipboard Kind.noConfusion, ?_⟩
              · exact (congrArg Option.isSome advertisedFound).symm
              · intro _
                exact (stand.opened rfl).found advertisedOthers advertisedFound isOpen

/-- The graphics channel keeps its context when it does not open. -/
theorem initializeVideoStream_agrees (stand : FlagsStand true connection d) (input : Iteration)
    (outcomes : Outcomes) :
    Agrees (RdpConnection.initializeVideoStream (outcomes.input input) connection)
      (initializeVideoStream outcomes.videoStream d) := by
  unfold RdpConnection.initializeVideoStream initializeVideoStream
  rw [stand.gfxContext]
  cases present : d.videoStream.isSome with
  | true => exact stand.agrees
  | false =>
      have missing : get .videoStream d = none :=
        Option.isNone_iff_eq_none.mp (Option.isSome_eq_false_iff.mp present)
      have opening := openChannel_opening missing outcomes.videoStream.context
        outcomes.videoStream.opens id
      generalize openChannel .videoStream _ _ _ = opened at opening
      cases opening with
      | noContext failed same =>
          simp only [Outcomes.input, failed]
          exact (stand.same same.channels).left
      | @refused made channel context failed found others =>
          simp only [Outcomes.input, context, failed]
          refine ⟨rfl, (stand.others others).1 Kind.noConfusion, ?_, Bool.noConfusion,
            Bool.noConfusion⟩
          exact (congrArg Option.isSome found).symm
      | @opened after channel context succeeded found isOpen others =>
          obtain ⟨displayControl, _, clipboard⟩ := stand.others others
          simp only [Outcomes.input, context, succeeded]
          refine ⟨rfl, displayControl Kind.noConfusion, ?_, clipboard Kind.noConfusion, ?_⟩
          · exact (congrArg Option.isSome found).symm
          · intro _
            exact (stand.opened rfl).found others found isOpen

theorem initializeClipboard_agrees (stand : FlagsStand true connection d) (input : Iteration)
    (outcomes : Outcomes) :
    Agrees (RdpConnection.initializeClipboard (outcomes.input input) connection)
      (initializeClipboard outcomes.clipboard d) := by
  unfold RdpConnection.initializeClipboard initializeClipboard
  rw [stand.clipboard rfl]
  cases present : d.clipboard.isSome with
  | true => exact stand.agrees
  | false =>
      have missing : get .clipboard d = none :=
        Option.isNone_iff_eq_none.mp (Option.isSome_eq_false_iff.mp present)
      have opening := openChannel_opening missing outcomes.clipboard.context
        outcomes.clipboard.opens id
      generalize openChannel .clipboard _ _ _ = opened at opening
      cases opening with
      | noContext failed same =>
          simp only [Outcomes.input, failed, Bool.false_and]
          exact (stand.same same.channels).left
      | @refused made channel context failed found others =>
          obtain ⟨displayControl, gfxContext, _⟩ := stand.others others
          simp only [Outcomes.input, failed, Bool.and_false]
          exact ⟨rfl, displayControl Kind.noConfusion, gfxContext Kind.noConfusion,
            Bool.noConfusion, Bool.noConfusion⟩
      | @opened after channel context succeeded found isOpen others =>
          obtain ⟨displayControl, gfxContext, _⟩ := stand.others others
          simp only [Outcomes.input, context, succeeded, Bool.and_self]
          refine ⟨rfl, displayControl Kind.noConfusion, gfxContext Kind.noConfusion, ?_, ?_⟩
          · intro _
            exact (congrArg Option.isSome found).symm
          · intro _
            exact (stand.opened rfl).found others found isOpen

theorem newContext_others (kind : Kind) (context : Bool) (d : Private) :
    SameOthers kind d (newContext kind context d) := by
  cases context with
  | false =>
      have same : SameChannels d (newContext kind false d) := sameChannels_useManager d
      exact same.sameOthers
  | true => exact (newContext_true kind d).2

/-- The audio channel has no flag, and is taken back when it does not open. -/
theorem FlagsStand.initializeAudioStream (stand : FlagsStand true connection d)
    (outcome : Outcome) : FlagsStand true connection (initializeAudioStream outcome d).2 := by
  have next : ∀ {after : Private}, SameOthers .audioStream d after → AllOpen after →
      FlagsStand true connection after := by
    intro after others all
    obtain ⟨displayControl, gfxContext, clipboard⟩ := stand.others others
    exact ⟨displayControl Kind.noConfusion, gfxContext Kind.noConfusion,
      clipboard Kind.noConfusion, fun _ => all⟩
  have closed : ∀ {after : Private}, SameOthers .audioStream d after →
      FlagsStand true connection (closeAudioStream after) := by
    intro after others
    have same := others.trans (closeAudioStream_others after)
    apply next same
    apply (stand.opened rfl).opened same
    intro channel found
    rw [closeAudioStream, stopAndFree_get] at found
    cases found
  unfold Channels.initializeAudioStream
  cases present : d.audioStream.isSome with
  | true => exact stand
  | false =>
      cases outcome.formats with
      | false => exact closed (newContext_others .audioStream outcome.context d)
      | true =>
          have missing : get .audioStream d = none :=
            Option.isNone_iff_eq_none.mp (Option.isSome_eq_false_iff.mp present)
          have opening := openChannel_opening missing outcome.context outcome.opens
            closeAudioStream
          dsimp only
          generalize openChannel .audioStream _ _ _ = opened at opening
          cases opening with
          | noContext failed same => exact stand.same same.channels
          | refused context failed found others => exact closed others
          | opened context succeeded found isOpen others =>
              exact next others ((stand.opened rfl).found others found isOpen)

/-- The connections have the same flags. -/
structure SameFlags (before after : Connection) : Prop where
  displayControl : after.displayControl = before.displayControl
  gfxContext : after.videoStream.gfxContext = before.videoStream.gfxContext
  clipboard : after.clipboard = before.clipboard

theorem SameFlags.stand {after : Connection} (same : SameFlags connection after)
    (stand : FlagsStand goesOn connection d) : FlagsStand goesOn after d where
  displayControl := same.displayControl.trans stand.displayControl
  gfxContext := same.gfxContext.trans stand.gfxContext
  clipboard := fun stays => same.clipboard.trans (stand.clipboard stays)
  opened := stand.opened

theorem sameFlags_checkFileDescriptor (input : Iteration) (connection : Connection) :
    SameFlags connection (RdpConnection.checkFileDescriptor input connection) :=
  have same := checkFileDescriptor_same input connection
  ⟨same.displayControl, same.gfxContext, same.clipboard⟩

theorem checkFileDescriptor_stand (stand : FlagsStand true connection d) (input : Iteration)
    (outcomes : Outcomes) :
    FlagsStand true (RdpConnection.checkFileDescriptor input connection)
      (checkFileDescriptor outcomes d) := by
  apply (sameFlags_checkFileDescriptor input connection).stand
  unfold checkFileDescriptor
  split
  · exact stand.initializeAudioStream outcomes.audioStream
  · exact stand

theorem sameChannels_askManager (input : Iteration) (d : Private) :
    SameChannels d (askManager input d) := by
  unfold askManager
  split
  · exact sameChannels_useManager d
  · exact ⟨rfl, fun _ => rfl, rfl⟩

theorem sameFlags_startStreaming (connection : Connection) :
    SameFlags connection (startStreaming connection) :=
  ⟨rfl, setEnabled_gfxContext true _, rfl⟩

theorem sameFlags_updateNetwork (input : Iteration) (connection : Connection) :
    SameFlags connection (updateNetwork input connection) :=
  ⟨rfl, rfl, rfl⟩

/-- What an iteration does with a connection that goes on is no matter for the contexts. -/
theorem Agrees.followed {flags : Bool × Connection} {channels : Bool × Private}
    (agrees : Agrees flags channels) {next : Connection → Connection}
    (same : ∀ connection, SameFlags connection (next connection)) :
    Agrees (if flags.1 then (true, next flags.2) else (false, flags.2)) channels := by
  obtain ⟨goesOn, connection⟩ := flags
  cases goesOn with
  | false => exact agrees
  | true => exact ⟨agrees.answer, (same connection).stand agrees.stand⟩

theorem setUpChannels_agrees (stand : FlagsStand true connection d) (input : Iteration)
    (outcomes : Outcomes) :
    Agrees (RdpConnection.setUpChannels (outcomes.input input) connection)
      (setUpChannels input outcomes d) := by
  have asked := stand.same (sameChannels_askManager input d).channels
  have control := initializeDisplayControl_agrees asked input outcomes
  have stream : ∀ connection d, FlagsStand true connection d → Agrees
      (if (RdpConnection.initializeVideoStream (outcomes.input input) connection).1 then
          (true, startStreaming
            (RdpConnection.initializeVideoStream (outcomes.input input) connection).2)
        else (false, (RdpConnection.initializeVideoStream (outcomes.input input) connection).2))
      (initializeVideoStream outcomes.videoStream d) := by
    intro connection d stand
    exact (initializeVideoStream_agrees stand input outcomes).followed sameFlags_startStreaming
  have both := control.andThen stream
  have joined : ((outcomes.input input).connected && (outcomes.input input).drdynvcJoined) =
      (input.connected && input.drdynvcJoined) := rfl
  have state : (outcomes.input input).drdynvcState = input.drdynvcState := rfl
  unfold RdpConnection.setUpChannels setUpChannels
  dsimp only
  rw [joined, state]
  by_cases isJoined : (input.connected && input.drdynvcJoined) = true
  · rw [if_pos isJoined, if_pos isJoined]
    by_cases ready : (input.drdynvcState == DrdynvcState.ready) = true
    · rw [if_pos ready, if_pos ready]
      simpa only [Bool.not_eq_true', ← Bool.not_eq_true, ite_not] using both
    · rw [if_neg ready, if_neg ready]
      exact asked.agrees
  · rw [if_neg isJoined, if_neg isJoined]
    exact asked.agrees

theorem finishIteration_agrees (stand : FlagsStand true connection d) (input : Iteration)
    (outcomes : Outcomes) :
    Agrees (RdpConnection.finishIteration (outcomes.input input) connection)
      (finishIteration input outcomes d) := by
  have checked := stand.same (sameChannels_useManager d).channels
  have network := sameFlags_updateNetwork (outcomes.input input)
  have fails : channelManagerFails (outcomes.input input) = channelManagerFails input := rfl
  have joined : ((outcomes.input input).connected && (outcomes.input input).cliprdrJoined) =
      (input.connected && input.cliprdrJoined) := rfl
  unfold RdpConnection.finishIteration finishIteration
  dsimp only
  rw [fails, joined]
  by_cases managerFails : channelManagerFails input = true
  · rw [if_pos managerFails, if_pos managerFails]
    exact checked.left
  · rw [if_neg managerFails, if_neg managerFails]
    by_cases isJoined : (input.connected && input.cliprdrJoined) = true
    · rw [if_pos isJoined, if_pos isJoined]
      exact (initializeClipboard_agrees checked input outcomes).followed network
    · rw [if_neg isJoined, if_neg isJoined]
      exact ((network connection).stand checked).agrees

/-- An iteration goes the same way over the flags and over the contexts. -/
theorem iterate_agrees (stand : FlagsStand true connection d) (input : Iteration)
    (outcomes : Outcomes) :
    Agrees (RdpConnection.iterate (outcomes.input input) connection)
      (iterate input outcomes d) := by
  have read := checkFileDescriptor_stand stand (outcomes.input input) outcomes
  have channels := setUpChannels_agrees read input outcomes
  have finished := channels.andThen fun _ _ stand => finishIteration_agrees stand input outcomes
  have stopRequested : (outcomes.input input).stopRequested = input.stopRequested := rfl
  have handleCount : (outcomes.input input).handleCount = input.handleCount := rfl
  have descriptor : (outcomes.input input).fileDescriptorOk = input.fileDescriptorOk := rfl
  unfold RdpConnection.iterate iterate
  dsimp only
  rw [stopRequested, handleCount, descriptor]
  by_cases stopped : input.stopRequested = true
  · rw [if_pos stopped, if_pos stopped]
    exact stand.left
  · rw [if_neg stopped, if_neg stopped]
    by_cases noHandles : input.handleCount ≤ 0
    · rw [if_pos noHandles, if_pos noHandles]
      exact stand.left
    · rw [if_neg noHandles, if_neg noHandles]
      by_cases failed : (!input.fileDescriptorOk) = true
      · rw [if_pos failed, if_pos failed]
        exact read.left
      · rw [if_neg failed, if_neg failed]
        exact finished

end Parts

/-! ### The end of the loop -/

theorem closeVideoStream_isSome (d : Private) :
    (closeVideoStream d).videoStream.isSome = d.videoStream.isSome := by
  unfold closeVideoStream
  split
  · rename_i channel found
    rw [found]
    rfl
  · rfl

/-- The graphics channel keeps its context when it is closed. -/
theorem onClose_videoStream (d : Private) :
    (onClose d).videoStream.isSome = d.videoStream.isSome := by
  have displayControl : (closeDisplayControl d).videoStream = d.videoStream :=
    closeDisplayControl_others d .videoStream Kind.noConfusion
  have audioStream := closeAudioStream_others (closeDisplayControl d) .videoStream Kind.noConfusion
  have clipboard := closeClipboard_others (closeAudioStream (closeDisplayControl d)) .videoStream
    Kind.noConfusion
  have closed := closeVideoStream_isSome (closeClipboard (closeAudioStream (closeDisplayControl d)))
  exact closed.trans (congrArg Option.isSome (clipboard.trans (audioStream.trans displayControl)))

end Channels

end RdpConnection

end KRdp
