/-
The channels of all connections of the server.

A connection is made, initialized, run and removed by the server and by its
communication thread, and its channels go with it: they are set up in the iterations of
the loop, closed when the loop is left and freed when the connection is removed.  The
steps of different connections come in any order.
-/

import KRdp.RdpConnection.ChannelLoop
import KRdp.Server.Startup

namespace KRdp

namespace ChannelMemory

open RdpConnection
open Channels (Private Kind Outcomes FlagsStand Intact Sound)
open Server (Session Thread InitializeFailure)

/-- The server, and the channels of each connection that it has ever had. -/
structure World where
  server : Server.World := {}
  channels : Nat → Private := fun _ => {}

/-- The channels are used by other threads as well, as long as the connection is there. -/
inductive Action where
  | server (action : Server.Action) (outcomes : Outcomes)
  | useChannel (session : Nat) (kind : Kind)

/-- A peer that is not made has no context, and the manager is made with the context. -/
def initializeConnection (failure : Option InitializeFailure) (d : Private) : Private :=
  { Channels.newPeerContext
      (failure != some .peerNew && failure != some .contextNew) d with
    phase := if failure = none then .running else .failed }

def onClose (d : Private) : Private :=
  { Channels.onClose d with phase := .closed }

/-- The channels after a step of one connection, which it makes when it is ready for it. -/
def change (id : Nat) (ready : Session → Bool) (next : Private → Private) (world : World) :
    Nat → Private :=
  match world.server.findSession id with
  | none => world.channels
  | some session =>
      if ready session then Function.update world.channels id (next (world.channels id))
      else world.channels

/-- What a step of the server does to the channels.  A connection that is told to be closed
is destroyed. -/
def channelsStep (freesContext : Bool) (outcomes : Outcomes) (world : World) :
    Server.Action → Nat → Private
  | .incomingConnection _ | .videoInitFailed _ | .sessionError _ => world.channels
  | .initializeConnection id failure =>
      change id (fun session => session.initialization = .queued) (initializeConnection failure)
        world
  | .runThread id =>
      change id (fun session => session.thread = .created) Channels.useManager world
  | .iteration id input =>
      change id (fun session => session.thread = .looping)
        (fun d => (Channels.iterate input outcomes d).2) world
  | .onClose id => change id (fun session => session.thread = .leaving) onClose world
  | .deliver =>
      match world.server.queue with
      | [] => world.channels
      | notification :: _ =>
          if notification.state = .closed then
            Function.update world.channels notification.session
              (Channels.destroy freesContext (world.channels notification.session))
          else world.channels

/-- The iterations of the server are those that the outcomes make of them. -/
def withOutcomes (outcomes : Outcomes) : Server.Action → Server.Action
  | .iteration id input => .iteration id (outcomes.input input)
  | action => action

def step (freesContext : Bool) (world : World) : Action → World
  | .server action outcomes =>
      { server := Server.step world.server (withOutcomes outcomes action)
        channels := channelsStep freesContext outcomes world action }
  | .useChannel id kind =>
      { world with
        channels := change id (fun _ => true) (Channels.useChannel kind) world }

/-! ### A connection and its channels -/

/-- The loop has not been left. -/
def goesOn : Thread → Bool
  | .notStarted | .created | .looping => true
  | .leaving | .finished => false

def threadPhase (session : Session) : Channels.Phase :=
  match session.thread with
  | .notStarted =>
      match session.initialization with
      | .queued => .initial
      | .returned _ => .failed
  | .created | .looping | .leaving => .running
  | .finished => .closed

structure Matches (session : Session) (d : Private) : Prop where
  phase : d.phase = threadPhase session
  flags : FlagsStand (goesOn session.thread) session.connection d

section Matches

variable {session : Session} {d : Private}

theorem matches_new (id : Nat) : Matches { id } {} := by
  refine ⟨rfl, rfl, rfl, fun _ => rfl, ?_⟩
  intro _ kind channel found
  cases kind <;> cases found

theorem Matches.same (same : Matches session d) {after : Private}
    (channels : Channels.SameChannels d after) : Matches session after :=
  ⟨channels.phase.trans same.phase, same.flags.same channels.channels⟩

theorem get_initializeConnection (failure : Option InitializeFailure) (d : Private) (kind : Kind) :
    Channels.get kind (initializeConnection failure d) =
      Channels.get kind d := by
  unfold initializeConnection Channels.newPeerContext
  split <;> cases kind <;> rfl

theorem Matches.initialized (same : Matches session d) (well : session.WellFormed)
    (queued : session.initialization = .queued) (failure : Option InitializeFailure) :
    Matches (session.initialized failure) (initializeConnection failure d) := by
  have thread := (well.of_queued queued).1
  have flags := same.flags
  rw [thread] at flags
  have channels := flags.same (get_initializeConnection failure d)
  cases failure with
  | none => exact ⟨rfl, channels.displayControl, channels.gfxContext, channels.clipboard,
      channels.opened⟩
  | some failure => exact ⟨rfl, channels.displayControl, channels.gfxContext, channels.clipboard,
      channels.opened⟩

theorem Matches.startRunning (same : Matches session d) (created : session.thread = .created) :
    Matches session.startRunning (Channels.useManager d) := by
  have used := same.same (Channels.sameChannels_useManager d)
  obtain ⟨samePhase, flags⟩ := used
  rw [threadPhase, created] at samePhase
  rw [created] at flags
  exact ⟨samePhase, flags.displayControl, flags.gfxContext, flags.clipboard, flags.opened⟩

theorem Matches.iterate (same : Matches session d) (looping : session.thread = .looping)
    (input : Iteration) (outcomes : Outcomes) :
    Matches (session.iterate (outcomes.input input))
      (Channels.iterate input outcomes d).2 := by
  obtain ⟨samePhase, flags⟩ := same
  rw [threadPhase, looping] at samePhase
  rw [looping] at flags
  have agrees := Channels.iterate_agrees flags input outcomes
  have running := (Channels.iterate_phase input outcomes d).trans samePhase
  unfold Session.iterate
  dsimp only
  generalize RdpConnection.iterate (outcomes.input input) session.connection = next at agrees
  obtain ⟨stays, connection⟩ := next
  cases stays with
  | true => exact ⟨running, agrees.stand⟩
  | false => exact ⟨running, agrees.stand⟩

/-- The graphics channel keeps its context and its flag. -/
theorem Matches.finish (same : Matches session d) : Matches session.finish (onClose d) := by
  have shut := Channels.shut_onClose d
  refine ⟨rfl, ?_, ?_, Bool.noConfusion, Bool.noConfusion⟩
  · exact (congrArg Option.isSome shut.displayControl).symm
  · exact same.flags.gfxContext.trans (Channels.onClose_videoStream d).symm

end Matches

/-! ### Every run -/

/-- A connection that is no longer in the list has been destroyed. -/
structure Kept (freesContext : Bool) (world : World) : Prop where
  orderly : Server.Orderly world.server
  intact : ∀ id, Intact freesContext (world.channels id)
  listed : ∀ session ∈ world.server.sessions, Matches session (world.channels session.id)
  fresh : ∀ id, world.server.created ≤ id → world.channels id = {}
  removed : ∀ id, id < world.server.created →
    (∀ session ∈ world.server.sessions, session.id ≠ id) → (world.channels id).phase = .destroyed

section Kept

variable {freesContext : Bool} {world : World} {session : Session} {server : Server.World}
  {d : Private} {id : Nat}

/-- The list and what has been made so far decide about the channels. -/
theorem Kept.sameSessions (kept : Kept freesContext world) (orderly : Server.Orderly server)
    (sessions : server.sessions = world.server.sessions)
    (created : server.created = world.server.created) :
    Kept freesContext { world with server := server } where
  orderly := orderly
  intact := kept.intact
  listed := by
    rw [sessions]
    exact kept.listed
  fresh := by
    rw [created]
    exact kept.fresh
  removed := by
    rw [sessions, created]
    exact kept.removed

/-- The channels of one connection change, and the connection may change or leave the list. -/
theorem Kept.changed (kept : Kept freesContext world) (orderly : Server.Orderly server)
    (below : id < world.server.created) (created : server.created = world.server.created)
    (intact : Intact freesContext d)
    (own : ∀ session ∈ server.sessions, session.id = id → Matches session d)
    (others : ∀ session, session.id ≠ id →
      (session ∈ server.sessions ↔ session ∈ world.server.sessions))
    (gone : (∀ session ∈ server.sessions, session.id ≠ id) → d.phase = .destroyed) :
    Kept freesContext { server, channels := Function.update world.channels id d } where
  orderly := orderly
  intact := by
    intro other
    dsimp only
    by_cases same : other = id
    · rw [same, Function.update_self]
      exact intact
    · rw [Function.update_of_ne same]
      exact kept.intact other
  listed := by
    intro session member
    dsimp only
    by_cases same : session.id = id
    · rw [same, Function.update_self]
      exact own session member same
    · rw [Function.update_of_ne same]
      exact kept.listed session ((others session same).mp member)
  fresh := by
    intro other above
    dsimp only at above ⊢
    rw [created] at above
    rw [Function.update_of_ne (Nat.ne_of_gt (Nat.lt_of_lt_of_le below above))]
    exact kept.fresh other above
  removed := by
    intro other otherBelow absent
    dsimp only at otherBelow absent ⊢
    by_cases same : other = id
    · rw [same, Function.update_self]
      exact gone (same ▸ absent)
    · rw [Function.update_of_ne same]
      rw [created] at otherBelow
      apply kept.removed other otherBelow
      intro session member sameId
      have apart : session.id ≠ id := sameId ▸ same
      exact absent session ((others session apart).mpr member) sameId

/-- A listed connection takes a step with its channels. -/
theorem Kept.advance (kept : Kept freesContext world) (next : Session)
    (orderly : Server.Orderly server) (member : session ∈ world.server.sessions)
    (sameId : next.id = session.id)
    (sessions : server.sessions = Registry.store Session.id next world.server.sessions)
    (created : server.created = world.server.created) (intact : Intact freesContext d)
    (same : Matches next d) :
    Kept freesContext { server, channels := Function.update world.channels session.id d } := by
  apply kept.changed orderly (kept.orderly.fresh session member) created intact
  · intro other otherMember otherId
    rw [sessions] at otherMember
    rcases Registry.mem_store otherMember with stored | unchanged
    · exact stored.1 ▸ same
    · exact absurd (otherId.trans sameId.symm) unchanged.2
  · intro other apart
    rw [sessions]
    constructor
    · intro otherMember
      rcases Registry.mem_store otherMember with stored | unchanged
      · exact absurd ((congrArg Session.id stored.1).trans sameId) apart
      · exact unchanged.1
    · intro otherMember
      exact Registry.mem_store_other otherMember (sameId ▸ apart)
  · intro absent
    rw [sessions] at absent
    exact absurd sameId (absent next (Registry.mem_store_self member sameId.symm))

theorem Kept.used (kept : Kept freesContext world) (member : session ∈ world.server.sessions)
    (intact : Intact freesContext d) (same : Matches session d) :
    Kept freesContext { world with channels := Function.update world.channels session.id d } := by
  apply kept.changed kept.orderly (kept.orderly.fresh session member) rfl intact
  · intro other otherMember otherId
    rw [Registry.eq_of_key kept.orderly.distinct otherMember member otherId]
    exact same
  · intro other _
    exact Iff.rfl
  · intro absent
    exact absurd rfl (absent session member)

/-- The channels of a new connection have not been touched. -/
theorem Kept.listNew (kept : Kept freesContext world) (orderly : Server.Orderly server)
    (sessions : server.sessions = world.server.listed.sessions)
    (created : server.created = world.server.created + 1) :
    Kept freesContext { world with server := server } where
  orderly := orderly
  intact := kept.intact
  listed := by
    intro session member
    dsimp only at member
    rw [sessions] at member
    rcases List.mem_append.mp member with earlier | latest
    · exact kept.listed session earlier
    · rw [List.mem_singleton.mp latest]
      change Matches _ (world.channels world.server.created)
      rw [kept.fresh _ (Nat.le_refl _)]
      exact matches_new _
  fresh := by
    intro id above
    dsimp only at above
    rw [created] at above
    exact kept.fresh id (Nat.le_of_succ_le above)
  removed := by
    intro id below absent
    dsimp only at below absent
    rw [created] at below
    rw [sessions] at absent
    have apart : id ≠ world.server.created := by
      rintro rfl
      exact absent _ (List.mem_append_right _ (List.mem_singleton_self _)) rfl
    apply kept.removed id (Nat.lt_of_le_of_ne (Nat.le_of_lt_succ below) apart)
    intro session member
    exact absent session (List.mem_append_left _ member)

/-! ### The steps of a connection -/

/-- A connection that is found and ready takes the step, and otherwise nothing changes. -/
theorem Kept.onSession (kept : Kept freesContext world) (id : Nat) {ready : Session → Prop}
    [DecidablePred ready] {serverStep : Session → Server.World → Server.World}
    (next : Private → Private)
    (steps : ∀ session ∈ world.server.sessions, ready session →
      Kept freesContext
        { server := serverStep session world.server
          channels := Function.update world.channels session.id
            (next (world.channels session.id)) }) :
    Kept freesContext
      { server :=
          match world.server.findSession id with
          | none => world.server
          | some session =>
              if ready session then serverStep session world.server else world.server
        channels := change id (fun session => ready session) next world } := by
  unfold change
  cases found : world.server.findSession id with
  | none => exact kept
  | some session =>
      obtain ⟨member, sameId⟩ := Server.findSession_some found
      dsimp only
      by_cases isReady : ready session
      · rw [if_pos isReady, if_pos (decide_eq_true isReady), ← sameId]
        exact steps session member isReady
      · rw [if_neg isReady, if_neg (by simpa using isReady)]
        exact kept

/-- While a connection has its thread, the channels are in the state of the thread. -/
theorem Kept.running (kept : Kept freesContext world) (member : session ∈ world.server.sessions)
    (thread : threadPhase session = .running) :
    (world.channels session.id).phase = .running ∧ Sound (world.channels session.id) := by
  have running := (kept.listed session member).phase.trans thread
  refine ⟨running, (kept.intact session.id).sound ?_⟩
  rw [running]
  decide

theorem Kept.initialized (kept : Kept freesContext world) (member : session ∈ world.server.sessions)
    (queued : session.initialization = .queued) (failure : Option InitializeFailure) :
    Kept freesContext
      { server := Server.initializeConnection failure session world.server
        channels := Function.update world.channels session.id
          (initializeConnection failure (world.channels session.id)) } := by
  have same := kept.listed session member
  have well := kept.orderly.wellFormed session member
  have isInitial : (world.channels session.id).phase = .initial := by
    rw [same.phase, threadPhase, (well.of_queued queued).1, queued]
  rw [Server.initializeConnection_eq]
  apply kept.advance (session.initialized failure)
    (kept.orderly.initialized member queued failure) member rfl rfl rfl
  · apply (kept.intact session.id).initializeConnection isInitial
    split
    · exact .inl rfl
    · exact .inr rfl
  · exact same.initialized well queued failure

theorem Kept.startRunning (kept : Kept freesContext world)
    (member : session ∈ world.server.sessions) (created : session.thread = .created) :
    Kept freesContext
      { server := Server.advance session session.startRunning world.server
        channels := Function.update world.channels session.id
          (Channels.useManager (world.channels session.id)) } := by
  have same := (kept.listed session member).startRunning created
  have sound := (kept.running member (by rw [threadPhase, created])).2.useManager
  apply kept.advance session.startRunning (kept.orderly.startRunning member created) member
    rfl rfl rfl _ same
  exact Channels.intact_running same.phase sound

theorem Kept.iterated (kept : Kept freesContext world) (member : session ∈ world.server.sessions)
    (looping : session.thread = .looping) (input : Iteration) (outcomes : Outcomes) :
    Kept freesContext
      { server := Server.advance session (session.iterate (outcomes.input input)) world.server
        channels := Function.update world.channels session.id
          (Channels.iterate input outcomes (world.channels session.id)).2 } := by
  have same := (kept.listed session member).iterate looping input outcomes
  obtain ⟨running, sound⟩ := kept.running member (by rw [threadPhase, looping])
  apply kept.advance (session.iterate (outcomes.input input))
    (kept.orderly.iterated member looping _) member rfl rfl rfl _ same
  exact Channels.intact_running ((Channels.iterate_phase input outcomes _).trans running)
    (sound.iterate input outcomes)

theorem Kept.finished (kept : Kept freesContext world) (member : session ∈ world.server.sessions)
    (leaving : session.thread = .leaving) :
    Kept freesContext
      { server := Server.advance session session.finish world.server
        channels := Function.update world.channels session.id
          (onClose (world.channels session.id)) } := by
  have running := (kept.running member (by rw [threadPhase, leaving])).1
  exact kept.advance session.finish (kept.orderly.finished member leaving) member rfl rfl rfl
    ((kept.intact session.id).onClose running) (kept.listed session member).finish

theorem Matches.alive (same : Matches session d) : d.phase ≠ .destroyed := by
  rw [same.phase]
  unfold threadPhase
  split
  · split <;> exact Channels.Phase.noConfusion
  all_goals exact Channels.Phase.noConfusion

theorem Kept.useChannel (kept : Kept freesContext world) (member : session ∈ world.server.sessions)
    (kind : Kind) :
    Kept freesContext
      { world with
        channels := Function.update world.channels session.id
          (Channels.useChannel kind (world.channels session.id)) } := by
  have same := kept.listed session member
  exact kept.used member ((kept.intact session.id).useChannel same.alive kind)
    (same.same (Channels.sameChannels_useChannel kind _))

theorem close_created (id : Nat) (reason : Server.CloseReason) (server : Server.World) :
    (Server.close id reason server).created = server.created := by
  unfold Server.close
  split <;> rfl

theorem onStateChanged_created (server : Server.World) (notification : Server.Notification) :
    (Server.onStateChanged server notification).created = server.created := by
  unfold Server.onStateChanged
  split
  · exact close_created _ _ _
  · rfl

/-- A connection is destroyed when its thread has closed the channels. -/
theorem Kept.removed_closed (kept : Kept freesContext world) {notification : Server.Notification}
    {rest : List Server.Notification} (queue : world.server.queue = notification :: rest)
    (isClosed : notification.state = .closed) :
    Kept freesContext
      { server := Server.onStateChanged { world.server with queue := rest } notification
        channels := Function.update world.channels notification.session
          (Channels.destroy freesContext (world.channels notification.session)) } := by
  have queued : notification ∈ world.server.queue := queue ▸ List.mem_cons_self
  obtain ⟨session, member, sameId, _⟩ := kept.orderly.closing notification queued isClosed
  have thread := kept.orderly.finished_of_queued queued isClosed member sameId
  have same := kept.listed session member
  have closed : (world.channels session.id).phase = .closed := by
    rw [same.phase, threadPhase, thread]
  have sessions := Server.onStateChanged_sessions { world.server with queue := rest } notification
  rw [if_pos isClosed] at sessions
  rw [sameId] at closed
  apply kept.changed (kept.orderly.deliver queue)
    (sameId ▸ kept.orderly.fresh session member) (onStateChanged_created _ notification)
  · exact (kept.intact notification.session).destroy (by rw [closed]; decide)
      (by rw [closed]; decide)
  · intro other otherMember otherId
    rw [sessions] at otherMember
    exact absurd otherId ((Registry.mem_remove_iff kept.orderly.distinct).mp otherMember).2
  · intro other apart
    rw [sessions]
    constructor
    · intro otherMember
      exact ((Registry.mem_remove_iff kept.orderly.distinct).mp otherMember).1
    · intro otherMember
      exact (Registry.mem_remove_iff kept.orderly.distinct).mpr ⟨otherMember, apart⟩
  · intro _
    rfl

theorem Kept.delivered (kept : Kept freesContext world) (outcomes : Outcomes) :
    Kept freesContext (step freesContext world (.server .deliver outcomes)) := by
  simp only [step, withOutcomes, channelsStep, Server.step]
  cases queue : world.server.queue with
  | nil => exact kept
  | cons notification rest =>
      dsimp only
      by_cases isClosed : notification.state = .closed
      · rw [if_pos isClosed]
        exact kept.removed_closed queue isClosed
      · have same : Server.onStateChanged { world.server with queue := rest } notification =
            { world.server with queue := rest } := if_neg isClosed
        rw [if_neg isClosed, same]
        exact kept.sameSessions (kept.orderly.dequeue queue) rfl rfl

/-- What the calls of close do is no matter for the channels. -/
theorem Kept.closes (kept : Kept freesContext world) (id : Nat) (reason : Server.CloseReason) :
    Kept freesContext { world with server := Server.close id reason world.server } :=
  kept.sameSessions (kept.orderly.close id reason) (Server.close_sessions id reason _)
    (close_created id reason _)

theorem Kept.incoming (kept : Kept freesContext world) (errorInStart : Bool) :
    Kept freesContext
      { world with server := Server.incomingConnection errorInStart world.server } := by
  cases errorInStart with
  | false => exact kept.listNew kept.orderly.listed rfl rfl
  | true =>
      exact kept.listNew (kept.orderly.listed.close _ _) (Server.close_sessions _ _ _)
        (close_created _ _ _)

theorem Kept.step (kept : Kept freesContext world) (action : Action) :
    Kept freesContext (step freesContext world action) := by
  cases action with
  | useChannel id kind =>
      simp only [ChannelMemory.step, change]
      split
      · exact kept
      · rename_i session found
        obtain ⟨member, sameId⟩ := Server.findSession_some found
        rw [if_true, ← sameId]
        exact kept.useChannel member kind
  | server action outcomes =>
      cases action with
      | incomingConnection errorInStart => exact kept.incoming errorInStart
      | initializeConnection id failure =>
          exact kept.onSession id (initializeConnection failure) fun session member queued =>
            kept.initialized member queued failure
      | runThread id =>
          exact kept.onSession id Channels.useManager fun session member created =>
            kept.startRunning member created
      | iteration id input =>
          exact kept.onSession id (fun d => (Channels.iterate input outcomes d).2)
            fun session member looping => kept.iterated member looping input outcomes
      | onClose id =>
          exact kept.onSession id onClose fun session member leaving =>
            kept.finished member leaving
      | videoInitFailed id =>
          simp only [ChannelMemory.step, withOutcomes, channelsStep, Server.step]
          split
          · exact kept
          · split
            · exact kept.closes id .videoInitFailed
            · exact kept
      | sessionError id => exact kept.closes id .none
      | deliver => exact kept.delivered outcomes

end Kept

/-- A listed connection has just what its channels are made of, and its flags say which
contexts there are.  One that the server has removed has freed everything, but the manager
only where the library frees the context of the peer. -/
structure Accounted (freesContext : Bool) (world : World) : Prop where
  held : ∀ session ∈ world.server.sessions,
    Custody.Holds (world.channels session.id).memory.log
      (Channels.held (world.channels session.id))
  flags : ∀ session ∈ world.server.sessions,
    FlagsStand (goesOn session.thread) session.connection (world.channels session.id)
  freed : ∀ id, id < world.server.created →
    (∀ session ∈ world.server.sessions, session.id ≠ id) →
      Custody.Holds (world.channels id).memory.log
        (if freesContext then [] else (world.channels id).virtualChannelManager.toList)

theorem Kept.accounted {freesContext : Bool} {world : World} (kept : Kept freesContext world) :
    Accounted freesContext world where
  held := by
    intro session member
    have alive := (kept.listed session member).alive
    exact ((kept.intact session.id).sound alive).holds
  flags := by
    intro session member
    exact (kept.listed session member).flags
  freed := by
    intro id below absent
    exact ((kept.intact id).freed (kept.removed id below absent)).holds

end ChannelMemory

end KRdp
