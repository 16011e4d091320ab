/-
The end of krdpserver.

What a client sends on the clipboard channel is handled in the main thread, and the
thread of the channel waits until it has been.  The communication thread stops the
channel when its connection closes, and the report that the connection has closed is the
last thing that it does.  When krdpserver quits, its main thread handles no more events,
and destroys the connections one after the other, each after its communication thread
has ended.

Whether the stop of a channel waits for the thread of the channel is left to the library.
-/

import KRdp.Server.Startup
import Mathlib.Algebra.Order.BigOperators.Group.List
import Mathlib.Algebra.Order.Group.Nat

namespace KRdp

namespace Quitting

open RdpConnection (Connection Iteration)
open Server (Session Thread Orderly)

/-- `calls` are the clipboard calls that the main thread still has to make, each for a
connection whose channel waits for it. -/
structure World where
  server : Server.World := {}
  calls : List Nat := []
  stopped : List Nat := []
  exiting : Bool := false

inductive Action where
  | server (action : Server.Action)
  | processInMainThread (session : Nat)
  | handleCall
  | stopClipboard (session : Nat)
  | exit
  | destroyNext

/-- The thread of the channel runs from the start of the clipboard to its stop. -/
def channelRuns (world : World) (session : Session) : Prop :=
  session.connection.clipboard = true ∧ session.id ∉ world.stopped

instance (world : World) (session : Session) : Decidable (channelRuns world session) :=
  inferInstanceAs (Decidable (_ ∧ _))

/-- The connection whose thread is asked to stop. -/
def World.destroying (world : World) : Option Nat :=
  if world.exiting then world.server.sessions.head?.map Session.id else none

/-- The main thread takes no more part once krdpserver quits; the communication thread
closes its connection after the channel is stopped. -/
def allowed (world : World) : Server.Action → Bool
  | .incomingConnection _ | .initializeConnection _ _ | .sessionError _ | .deliver =>
      !world.exiting
  | .runThread _ | .videoInitFailed _ => true
  | .iteration id input => input.stopRequested == decide (world.destroying = some id)
  | .onClose id =>
      match world.server.findSession id with
      | some session => decide (¬channelRuns world session)
      | none => true

/-- The calls of a connection go with it. -/
def World.withServer (server : Server.World) (world : World) : World :=
  { world with
    server
    calls := world.calls.filter fun id => (server.findSession id).isSome }

/-- A thread that was never started, or that has ended, is not waited for. -/
def joined (session : Session) : Prop :=
  session.thread = .notStarted ∨ session.thread = .finished

instance (session : Session) : Decidable (joined session) :=
  inferInstanceAs (Decidable (_ ∨ _))

def destroyNext (world : World) : World :=
  match world.server.sessions with
  | [] => world
  | session :: rest =>
      if joined session then world.withServer { world.server with sessions := rest } else world

def processInMainThread (id : Nat) (world : World) : World :=
  match world.server.findSession id with
  | some session =>
      if channelRuns world session ∧ id ∉ world.calls then
        { world with calls := world.calls ++ [id] }
      else world
  | none => world

/-- The communication thread of a connection that closes stops the channel. -/
def stopClipboard (stopWaits : Bool) (id : Nat) (world : World) : World :=
  match world.server.findSession id with
  | some session =>
      if session.thread = .leaving ∧ channelRuns world session ∧
          ¬(stopWaits = true ∧ id ∈ world.calls) then
        { world with stopped := id :: world.stopped }
      else world
  | none => world

def step (stopWaits : Bool) (world : World) : Action → World
  | .server action =>
      if allowed world action then world.withServer (Server.step world.server action) else world
  | .processInMainThread id => processInMainThread id world
  | .handleCall => if world.exiting then world else { world with calls := world.calls.tail }
  | .stopClipboard id => stopClipboard stopWaits id world
  | .exit => { world with exiting := true }
  | .destroyNext => if world.exiting then destroyNext world else world

/-- krdpserver has quit. -/
def Ended (world : World) : Prop := world.exiting = true ∧ world.server.sessions = []

/-- A channel waits for the main thread, which waits for the thread that stops the channel. -/
def Locked (stopWaits : Bool) (world : World) : Prop :=
  stopWaits = true ∧ world.exiting = true ∧ world.calls ≠ []

/-- When the end of a connection is delivered, its thread need not be waited for. -/
def RemovalsJoined (world : World) : Prop :=
  world.exiting = false →
    ∀ notification ∈ world.server.queue, notification.state = .closed →
      ∀ session ∈ world.server.sessions, session.id = notification.session → joined session

/-! ### The clipboard of a connection -/

/-- The clipboard is opened and closed by the loop. -/
def InLoop (session : Session) : Prop :=
  session.connection.clipboard = true → session.thread = .looping ∨ session.thread = .leaving

/-- The loop never closes the clipboard. -/
theorem clipboard_iterate (input : Iteration) {connection : Connection}
    (started : connection.clipboard = true) :
    (RdpConnection.iterate input connection).2.clipboard = true := by
  have read : (RdpConnection.checkFileDescriptor input connection).clipboard = true :=
    (RdpConnection.checkFileDescriptor_same input connection).clipboard.trans started
  have channels := (RdpConnection.setUpChannels_opens input _).clipboard.trans read
  have finished : ∀ opened : Connection, opened.clipboard = true →
      (RdpConnection.finishIteration input opened).2.clipboard = true := by
    intro opened isOpen
    simp only [RdpConnection.finishIteration, RdpConnection.initializeClipboard, isOpen, if_true]
    split
    · exact isOpen
    · split <;> exact isOpen
  simp only [RdpConnection.iterate]
  split
  · exact started
  · split
    · exact started
    · split
      · exact read
      · split
        · exact finished _ channels
        · exact channels

/-! ### The invariant -/

structure Sound (stopWaits : Bool) (world : World) : Prop where
  orderly : world.exiting = false → Orderly world.server
  distinct : (world.server.sessions.map Session.id).Nodup
  inLoop : ∀ session ∈ world.server.sessions, InLoop session
  awaited : stopWaits = true → ∀ id ∈ world.calls,
    ∃ session ∈ world.server.sessions, session.id = id ∧ channelRuns world session

section Steps

variable {stopWaits : Bool} {world : World} {session next : Session} {action : Server.Action}

/-- Connections come and go, and a session starts, in the main thread only. -/
theorem not_exiting (may : allowed world action = true)
    (main : (∃ error, action = .incomingConnection error) ∨
      (∃ id failure, action = .initializeConnection id failure) ∨ action = .deliver) :
    world.exiting = false := by
  rcases main with ⟨error, rfl⟩ | ⟨id, failure, rfl⟩ | rfl <;>
    exact Bool.not_eq_true' _ |>.mp may

/-- After the exit no connection comes or goes. -/
theorem ids_kept (quits : world.exiting = true) (may : allowed world action = true) :
    (Server.step world.server action).sessions.map Session.id =
      world.server.sessions.map Session.id := by
  have stays : world.exiting ≠ false := quits.trans_ne Bool.noConfusion
  have change := Server.step_change world.server action
  generalize Server.step world.server action = server at change ⊢
  cases change with
  | unchanged => rfl
  | listed => exact absurd (not_exiting may (.inl ⟨_, rfl⟩)) stays
  | listedWithError => exact absurd (not_exiting may (.inl ⟨_, rfl⟩)) stays
  | initialized => exact Registry.keys_store _ _
  | running => exact Registry.keys_store _ _
  | iterated => exact Registry.keys_store _ _
  | finished => exact Registry.keys_store _ _
  | videoFailed => rw [Server.close_sessions]
  | errorReported => rw [Server.close_sessions]
  | delivered => exact absurd (not_exiting may (.inr (.inr rfl))) stays

theorem Sound.inLoop_step (sound : Sound stopWaits world) (may : allowed world action = true) :
    ∀ session ∈ (Server.step world.server action).sessions, InLoop session := by
  have inLoop := sound.inLoop
  have change := Server.step_change world.server action
  generalize Server.step world.server action = server at change ⊢
  have stored : ∀ next : Session, InLoop next →
      ∀ session ∈ Registry.store Session.id next world.server.sessions, InLoop session := by
    intro next nextInLoop session member
    rcases Registry.mem_store member with new | kept
    · rw [new.1]
      exact nextInLoop
    · exact inLoop session kept.1
  have listed : ∀ session ∈ world.server.listed.sessions, InLoop session := by
    intro session member
    rcases List.mem_append.mp member with earlier | latest
    · exact inLoop session earlier
    · rw [List.mem_singleton.mp latest]
      intro started
      cases started
  cases change with
  | unchanged => exact inLoop
  | listed => exact listed
  | listedWithError =>
      rw [Server.close_sessions]
      exact listed
  | @initialized _ before found queued failure =>
      have member := (Server.findSession_some found).1
      have orderly := sound.orderly (not_exiting may (.inr (.inl ⟨_, _, rfl⟩)))
      have idle := ((orderly.wellFormed before member).of_queued queued).1
      apply stored
      intro started
      rcases inLoop before member started with looping | leaving
      · exact Thread.noConfusion (idle.symm.trans looping)
      · exact Thread.noConfusion (idle.symm.trans leaving)
  | @running _ before found created =>
      exact stored before.startRunning fun _ => .inl rfl
  | @iterated _ before found looping input =>
      exact stored (before.iterate input) fun _ => before.iterate_thread input
  | @finished _ before found leaving =>
      apply stored before.finish
      intro started
      cases started
  | videoFailed =>
      rw [Server.close_sessions]
      exact inLoop
  | errorReported =>
      rw [Server.close_sessions]
      exact inLoop
  | delivered =>
      rw [Server.onStateChanged_sessions]
      split
      · exact fun session member => inLoop session ((Registry.remove_sublist _ _).subset member)
      · exact inLoop

theorem Sound.distinct_step (sound : Sound stopWaits world) (may : allowed world action = true) :
    ((Server.step world.server action).sessions.map Session.id).Nodup := by
  cases exits : world.exiting with
  | false => exact ((sound.orderly exits).step action).distinct
  | true =>
      rw [ids_kept exits may]
      exact sound.distinct

/-- A clipboard stays open until its channel is stopped. -/
theorem Sound.clipboard_kept (sound : Sound stopWaits world) (may : allowed world action = true)
    (member : session ∈ world.server.sessions)
    (after : next ∈ (Server.step world.server action).sessions) (same : next.id = session.id)
    (runs : channelRuns world session) : next.connection.clipboard = true := by
  have change := Server.step_change world.server action
  generalize Server.step world.server action = server at change after
  have kept : ∀ other ∈ world.server.sessions, other.id = session.id →
      other.connection.clipboard = true := by
    intro other otherMember otherSame
    rw [Registry.eq_of_key sound.distinct otherMember member otherSame]
    exact runs.1
  have stored : ∀ {id : Nat} {before : Session}, world.server.findSession id = some before →
      ∀ changed : Session, changed.id = before.id →
        (before = session → changed.connection.clipboard = true) →
        next ∈ Registry.store Session.id changed world.server.sessions →
        next.connection.clipboard = true := by
    intro id before found changed named still stored
    rcases Registry.mem_store stored with new | old
    · rw [new.1] at same ⊢
      exact still (Registry.eq_of_key sound.distinct (Server.findSession_some found).1 member
        (named.symm.trans same))
    · exact kept next old.1 same
  have listed : world.exiting = false → next ∈ world.server.listed.sessions →
      next.connection.clipboard = true := by
    intro exits appended
    rcases List.mem_append.mp appended with earlier | latest
    · exact kept next earlier same
    · rw [List.mem_singleton.mp latest] at same
      exact absurd same.symm (Nat.ne_of_lt ((sound.orderly exits).fresh session member))
  cases change with
  | unchanged => exact kept next after same
  | listed => exact listed (not_exiting may (.inl ⟨_, rfl⟩)) after
  | listedWithError =>
      rw [Server.close_sessions] at after
      exact listed (not_exiting may (.inl ⟨_, rfl⟩)) after
  | @initialized _ before found queued failure =>
      exact stored found (before.initialized failure) rfl (fun equal => equal ▸ runs.1) after
  | @running _ before found created =>
      exact stored found before.startRunning rfl (fun equal => equal ▸ runs.1) after
  | @iterated _ before found looping input =>
      refine stored found (before.iterate input) rfl ?_ after
      intro equal
      exact clipboard_iterate input (equal ▸ runs.1)
  | @finished _ before found leaving =>
      refine stored found before.finish rfl ?_ after
      intro equal
      simp only [allowed, found, decide_eq_true_eq] at may
      exact absurd (equal ▸ runs) may
  | videoFailed =>
      rw [Server.close_sessions] at after
      exact kept next after same
  | errorReported =>
      rw [Server.close_sessions] at after
      exact kept next after same
  | delivered =>
      rw [Server.onStateChanged_sessions] at after
      split at after
      · exact kept next ((Registry.remove_sublist _ _).subset after) same
      · exact kept next after same

theorem mem_withServer {server : Server.World} {id : Nat}
    (waits : id ∈ (world.withServer server).calls) :
    id ∈ world.calls ∧ ∃ next ∈ server.sessions, next.id = id := by
  obtain ⟨earlier, found⟩ := List.mem_filter.mp waits
  obtain ⟨next, foundNext⟩ := Option.isSome_iff_exists.mp found
  exact ⟨earlier, next, Server.findSession_some foundNext⟩

theorem Sound.server (sound : Sound stopWaits world) (may : allowed world action = true) :
    Sound stopWaits (world.withServer (Server.step world.server action)) where
  orderly := fun exits => (sound.orderly exits).step action
  distinct := sound.distinct_step may
  inLoop := sound.inLoop_step may
  awaited := by
    intro waits id called
    obtain ⟨earlier, next, member, rfl⟩ := mem_withServer called
    obtain ⟨session, before, same, runs⟩ := sound.awaited waits next.id earlier
    refine ⟨next, member, rfl, ?_, ?_⟩
    · exact sound.clipboard_kept may before member same.symm runs
    · rw [← same]
      exact runs.2

theorem Sound.destroyNext (sound : Sound stopWaits world) (quits : world.exiting = true) :
    Sound stopWaits (destroyNext world) := by
  unfold Quitting.destroyNext
  split
  · exact sound
  · rename_i head rest listed
    split
    · have among : ∀ session ∈ rest, session ∈ world.server.sessions := by
        intro session member
        rw [listed]
        exact List.mem_cons_of_mem _ member
      have distinct := sound.distinct
      rw [listed, List.map_cons] at distinct
      refine
        { orderly := fun exits => absurd (quits.symm.trans exits) Bool.noConfusion
          distinct := distinct.tail
          inLoop := fun session member => sound.inLoop session (among session member)
          awaited := ?_ }
      intro waits id called
      obtain ⟨earlier, next, member, rfl⟩ := mem_withServer called
      obtain ⟨session, before, same, runs⟩ := sound.awaited waits next.id earlier
      rw [Registry.eq_of_key sound.distinct before (among next member) same] at runs
      exact ⟨next, member, rfl, runs⟩
    · exact sound

theorem Sound.processInMainThread (sound : Sound stopWaits world) (id : Nat) :
    Sound stopWaits (processInMainThread id world) := by
  unfold Quitting.processInMainThread
  split
  · rename_i session found
    split
    · rename_i posts
      refine { sound with awaited := ?_ }
      intro waits each called
      rcases List.mem_append.mp called with earlier | latest
      · exact sound.awaited waits each earlier
      · obtain ⟨member, named⟩ := Server.findSession_some found
        exact ⟨session, member, named.trans (List.mem_singleton.mp latest).symm, posts.1⟩
    · exact sound
  · exact sound

theorem Sound.stopClipboard (sound : Sound stopWaits world) (id : Nat) :
    Sound stopWaits (stopClipboard stopWaits id world) := by
  unfold Quitting.stopClipboard
  split
  · split
    · rename_i stops
      refine { sound with awaited := ?_ }
      intro waits each called
      obtain ⟨session, member, named, runs⟩ := sound.awaited waits each called
      refine ⟨session, member, named, runs.1, ?_⟩
      intro stopped
      rcases List.mem_cons.mp stopped with new | earlier
      · exact stops.2.2 ⟨waits, new ▸ named ▸ called⟩
      · exact runs.2 earlier
    · exact sound
  · exact sound

theorem Sound.step (sound : Sound stopWaits world) (action : Action) :
    Sound stopWaits (step stopWaits world action) := by
  cases action with
  | server action =>
      simp only [Quitting.step]
      split
      · exact sound.server ‹_›
      · exact sound
  | processInMainThread id => exact sound.processInMainThread id
  | handleCall =>
      simp only [Quitting.step]
      split
      · exact sound
      · exact { sound with
          awaited := fun waits id called => sound.awaited waits id (List.mem_of_mem_tail called) }
  | stopClipboard id => exact sound.stopClipboard id
  | exit => exact { sound with orderly := fun exits => absurd exits Bool.noConfusion }
  | destroyNext =>
      simp only [Quitting.step]
      split
      · exact sound.destroyNext ‹_›
      · exact sound

/-! ### Waiting for each other -/

theorem isSome_find {server : Server.World} (member : session ∈ server.sessions) :
    (server.findSession session.id).isSome = true := by
  obtain ⟨found, foundEq, _⟩ :
      ∃ found, server.findSession session.id = some found ∧ found.id = session.id :=
    Registry.find_of_mem member
  rw [foundEq]
  rfl

theorem calls_withServer {server : Server.World} (called : session.id ∈ world.calls)
    (member : session ∈ server.sessions) : (world.withServer server).calls ≠ [] := by
  apply List.ne_nil_of_mem
  exact List.mem_filter.mpr ⟨called, isSome_find member⟩

/-- A connection is not destroyed while its channel waits. -/
theorem Sound.not_joined (sound : Sound stopWaits world)
    (member : session ∈ world.server.sessions) (runs : channelRuns world session) :
    ¬joined session := by
  intro ended
  rcases sound.inLoop session member runs.1 with looping | leaving
  · rcases ended with idle | finished
    · exact Thread.noConfusion (looping.symm.trans idle)
    · exact Thread.noConfusion (looping.symm.trans finished)
  · rcases ended with idle | finished
    · exact Thread.noConfusion (leaving.symm.trans idle)
    · exact Thread.noConfusion (leaving.symm.trans finished)

theorem Sound.locked_server (sound : Sound stopWaits world) (locked : Locked stopWaits world)
    (may : allowed world action = true) :
    (world.withServer (Server.step world.server action)).calls ≠ [] := by
  obtain ⟨waits, quits, pending⟩ := locked
  obtain ⟨id, called⟩ := List.exists_mem_of_ne_nil _ pending
  obtain ⟨session, member, rfl, _⟩ := sound.awaited waits id called
  have listed : session.id ∈ (Server.step world.server action).sessions.map Session.id := by
    rw [ids_kept quits may]
    exact List.mem_map_of_mem member
  obtain ⟨next, nextMember, same⟩ := List.mem_map.mp listed
  exact calls_withServer (same ▸ called) nextMember

theorem Sound.locked_destroyNext (sound : Sound stopWaits world)
    (locked : Locked stopWaits world) : (Quitting.destroyNext world).calls ≠ [] := by
  obtain ⟨waits, _, pending⟩ := locked
  unfold Quitting.destroyNext
  split
  · exact pending
  · rename_i head rest listed
    split
    · rename_i ended
      obtain ⟨id, called⟩ := List.exists_mem_of_ne_nil _ pending
      obtain ⟨session, member, rfl, runs⟩ := sound.awaited waits id called
      have notJoined := sound.not_joined member runs
      rw [listed] at member
      rcases List.mem_cons.mp member with first | later
      · exact absurd (first ▸ ended) notJoined
      · exact calls_withServer called later
    · exact pending

/-- Nothing resolves the wait. -/
theorem Sound.locked_step (sound : Sound stopWaits world) (locked : Locked stopWaits world)
    (action : Action) : Locked stopWaits (Quitting.step stopWaits world action) := by
  have quits := locked.2.1
  cases action with
  | server action =>
      simp only [Quitting.step]
      split
      · exact ⟨locked.1, quits, sound.locked_server locked ‹_›⟩
      · exact locked
  | processInMainThread id =>
      simp only [Quitting.step, Quitting.processInMainThread]
      split
      · split
        · exact ⟨locked.1, quits, List.append_ne_nil_of_left_ne_nil locked.2.2 _⟩
        · exact locked
      · exact locked
  | handleCall =>
      simp only [Quitting.step, quits, if_true]
      exact locked
  | stopClipboard id =>
      simp only [Quitting.step, Quitting.stopClipboard]
      split
      · split <;> exact locked
      · exact locked
  | exit => exact ⟨locked.1, rfl, locked.2.2⟩
  | destroyNext =>
      simp only [Quitting.step, quits, if_true]
      refine ⟨locked.1, ?_, sound.locked_destroyNext locked⟩
      unfold Quitting.destroyNext
      split
      · exact quits
      · split <;> exact quits

theorem Sound.not_ended (sound : Sound stopWaits world) (locked : Locked stopWaits world) :
    ¬Ended world := by
  intro ended
  obtain ⟨id, called⟩ := List.exists_mem_of_ne_nil _ locked.2.2
  obtain ⟨session, member, _⟩ := sound.awaited locked.1 id called
  rw [ended.2] at member
  cases member

/-! ### The way to the end -/

/-- What a connection has before it, with its destruction. -/
def remaining (stopped : List Nat) (session : Session) : Nat :=
  match session.thread with
  | .notStarted | .finished => 1
  | .leaving => if session.connection.clipboard = true ∧ session.id ∉ stopped then 3 else 2
  | .looping => 4
  | .created => 5

def World.measure (world : World) : Nat :=
  world.calls.length + (!world.exiting).toNat +
    (world.server.sessions.map (remaining world.stopped)).sum

/-- Some action leads on towards the end. -/
def Advances (stopWaits : Bool) (world : World) : Prop :=
  ∃ action, ¬Locked stopWaits (step stopWaits world action) ∧
    (step stopWaits world action).measure < world.measure

theorem remaining_pos (stopped : List Nat) (session : Session) : 0 < remaining stopped session := by
  unfold remaining
  split
  all_goals try split
  all_goals decide

theorem remaining_stop (id : Nat) (stopped : List Nat) (session : Session) :
    remaining (id :: stopped) session ≤ remaining stopped session := by
  unfold remaining
  cases session.thread with
  | notStarted | created | looping | finished => exact le_rfl
  | leaving =>
      dsimp only
      split
      · rename_i running
        rw [if_pos ⟨running.1, fun stopped => running.2 (List.mem_cons_of_mem _ stopped)⟩]
      · split <;> decide

theorem calls_withServer_le (server : Server.World) (world : World) :
    (world.withServer server).calls.length ≤ world.calls.length :=
  List.length_filter_le _ _

/-- The channel of the connection at the front is stopped. -/
theorem measure_stop {rest : List Session} (listed : world.server.sessions = session :: rest)
    (leaving : session.thread = .leaving) (runs : channelRuns world session) :
    { world with stopped := session.id :: world.stopped }.measure < world.measure := by
  have others : (rest.map (remaining (session.id :: world.stopped))).sum ≤
      (rest.map (remaining world.stopped)).sum :=
    List.sum_le_sum fun each _ => remaining_stop session.id world.stopped each
  have first : remaining (session.id :: world.stopped) session = 2 := by
    simp [remaining, leaving]
  have before : remaining world.stopped session = 3 := by
    simp only [remaining, leaving]
    exact if_pos runs
  unfold World.measure
  rw [listed, List.map_cons, List.map_cons, List.sum_cons, List.sum_cons, first, before]
  dsimp only
  omega

/-- The connection at the front gets on. -/
theorem measure_advance {server : Server.World} {rest : List Session}
    (before : world.server.sessions = session :: rest)
    (after : server.sessions = next :: rest)
    (lower : remaining world.stopped next < remaining world.stopped session) :
    (world.withServer server).measure < world.measure := by
  have calls := calls_withServer_le server world
  have sum : (server.sessions.map (remaining world.stopped)).sum <
      (world.server.sessions.map (remaining world.stopped)).sum := by
    rw [before, after, List.map_cons, List.map_cons, List.sum_cons, List.sum_cons]
    omega
  unfold World.measure
  dsimp only [World.withServer] at calls ⊢
  omega

/-- Without pending calls, or if the stop of a channel does not wait for them, krdpserver
is not locked. -/
theorem not_locked_of_subset {after : World}
    (free : ¬Locked stopWaits world) (quits : world.exiting = true)
    (fewer : after.calls ⊆ world.calls) : ¬Locked stopWaits after := by
  intro locked
  refine free ⟨locked.1, quits, ?_⟩
  intro none
  exact locked.2.2 (List.subset_nil.mp (none ▸ fewer))

theorem withServer_subset (server : Server.World) (world : World) :
    (world.withServer server).calls ⊆ world.calls :=
  List.filter_subset_self _

/-- A step of the server at the front of its list. -/
theorem progress_server {rest : List Session} (quits : world.exiting = true)
    (free : ¬Locked stopWaits world) (before : world.server.sessions = session :: rest)
    (may : allowed world action = true)
    (after : (Server.step world.server action).sessions = next :: rest)
    (lower : remaining world.stopped next < remaining world.stopped session) :
    Advances stopWaits world := by
  refine ⟨.server action, ?_⟩
  rw [step, if_pos may]
  exact ⟨not_locked_of_subset free quits (withServer_subset _ world),
    measure_advance before after lower⟩

theorem Sound.front (sound : Sound stopWaits world) {rest : List Session}
    (listed : world.server.sessions = session :: rest) (next : Session)
    (same : next.id = session.id) :
    world.server.findSession session.id = some session ∧
      Registry.store Session.id next world.server.sessions = next :: rest := by
  have distinct := sound.distinct
  rw [listed] at distinct
  rw [Server.World.findSession, listed]
  exact ⟨Registry.find_head session rest, Registry.store_head distinct same⟩

theorem Sound.progress_exiting (sound : Sound stopWaits world) (quits : world.exiting = true)
    (free : ¬Locked stopWaits world) {rest : List Session}
    (listed : world.server.sessions = session :: rest) :
    Advances stopWaits world := by
  have destroys : joined session → Advances stopWaits world := by
    intro ended
    refine ⟨.destroyNext, ?_⟩
    simp only [Quitting.step, quits, if_true, Quitting.destroyNext, listed, if_pos ended]
    refine ⟨not_locked_of_subset free quits (withServer_subset _ world), ?_⟩
    have calls := calls_withServer_le { world.server with sessions := rest } world
    have positive := remaining_pos world.stopped session
    unfold World.measure
    dsimp only [World.withServer] at calls ⊢
    rw [listed, List.map_cons, List.sum_cons]
    omega
  cases thread : session.thread with
  | notStarted => exact destroys (.inl thread)
  | finished => exact destroys (.inr thread)
  | created =>
      obtain ⟨found, stored⟩ := sound.front listed session.startRunning rfl
      have after : (Server.step world.server (.runThread session.id)).sessions =
          session.startRunning :: rest := by
        simp only [Server.step, found, thread, if_true]
        exact stored
      refine progress_server quits free listed rfl after ?_
      simp only [remaining, thread, Session.startRunning]
      decide
  | looping =>
      let stop : Iteration := { stopRequested := true }
      obtain ⟨found, stored⟩ := sound.front listed (session.iterate stop) rfl
      have after : (Server.step world.server (.iteration session.id stop)).sessions =
          session.iterate stop :: rest := by
        simp only [Server.step, found, thread, if_true]
        exact stored
      refine progress_server quits free listed ?_ after ?_
      · simp [allowed, stop, World.destroying, quits, listed]
      · have leaves : (session.iterate stop).thread = .leaving := rfl
        simp only [remaining, thread, leaves]
        split <;> decide
  | leaving =>
      obtain ⟨found, stored⟩ := sound.front listed session.finish rfl
      by_cases runs : channelRuns world session
      · have stops : session.thread = .leaving ∧ channelRuns world session ∧
            ¬(stopWaits = true ∧ session.id ∈ world.calls) :=
          ⟨thread, runs, fun waits => free ⟨waits.1, quits, List.ne_nil_of_mem waits.2⟩⟩
        refine ⟨.stopClipboard session.id, ?_⟩
        simp only [Quitting.step, Quitting.stopClipboard, found, if_pos stops]
        exact ⟨free, measure_stop listed thread runs⟩
      · have after : (Server.step world.server (.onClose session.id)).sessions =
            session.finish :: rest := by
          simp only [Server.step, found, thread, if_true]
          exact stored
        refine progress_server quits free listed ?_ after ?_
        · simp only [allowed, found, runs, not_false_eq_true, decide_true]
        · have ended : session.finish.thread = .finished := rfl
          simp only [remaining, thread, ended]
          split <;> decide

/-- The main thread handles the pending calls, then quits. -/
theorem Sound.progress (sound : Sound stopWaits world) (free : ¬Locked stopWaits world)
    (running : ¬Ended world) :
    Advances stopWaits world := by
  cases exits : world.exiting with
  | true =>
      cases listed : world.server.sessions with
      | nil => exact absurd ⟨exits, listed⟩ running
      | cons session rest => exact sound.progress_exiting exits free listed
  | false =>
      cases pending : world.calls with
      | nil =>
          refine ⟨.exit, fun locked => locked.2.2 pending, ?_⟩
          simp only [Quitting.step, World.measure, exits, Bool.not_false, Bool.not_true,
            Bool.toNat_true, Bool.toNat_false]
          omega
      | cons first later =>
          refine ⟨.handleCall, ?_, ?_⟩
          · intro locked
            simp only [Quitting.step, Locked, exits] at locked
            exact Bool.noConfusion locked.2.1
          · simp only [Quitting.step, exits, World.measure, pending, List.tail_cons,
              List.length_cons, if_false, Bool.false_eq_true]
            omega

theorem Sound.removalsJoined (sound : Sound stopWaits world) : RemovalsJoined world := by
  intro exits notification queued isClosed session member same
  exact .inr ((sound.orderly exits).finished_of_queued queued isClosed member same)

end Steps

theorem Sound.initial (stopWaits : Bool) : Sound stopWaits {} where
  orderly := fun _ => Orderly.initial
  distinct := List.nodup_nil
  inLoop := List.forall_mem_nil _
  awaited := fun _ => List.forall_mem_nil _

theorem sound_run (stopWaits : Bool) (actions : List Action) :
    Sound stopWaits (StepRun.run (step stopWaits) {} actions) :=
  StepRun.run_invariant (Sound stopWaits) (Sound.initial stopWaits)
    (fun _ action sound => sound.step action) actions

/-- In every run a connection that has closed is destroyed without waiting, and krdpserver
can come to its end unless it quits while a clipboard channel waits for its main thread. -/
theorem can_end_iff (stopWaits : Bool) (actions : List Action) :
    let world := StepRun.run (step stopWaits) {} actions
    RemovalsJoined world ∧
      ((∃ more, Ended (StepRun.run (step stopWaits) world more)) ↔
        ¬(stopWaits = true ∧ world.exiting = true ∧ world.calls ≠ [])) := by
  have sound := sound_run stopWaits actions
  refine ⟨sound.removalsJoined, ?_⟩
  apply StepRun.exists_run_iff (Sound stopWaits) (Locked stopWaits) Ended World.measure
  · exact fun _ action sound => sound.step action
  · exact fun _ action sound locked => sound.locked_step locked action
  · exact fun _ sound locked => sound.not_ended locked
  · exact fun _ sound free running => sound.progress free running
  · exact sound

/-- A message of a client comes as krdpserver quits. -/
example :
    let world := StepRun.run (step true) {}
      [.server (.incomingConnection false), .server (.initializeConnection 0 none),
        .server (.runThread 0), .server (.iteration 0 { cliprdrJoined := true }),
        .processInMainThread 0, .exit]
    world.exiting = true ∧ world.calls = [0] := by
  decide

end Quitting

end KRdp
