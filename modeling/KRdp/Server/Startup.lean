/-
Connections that fail to start.

A failing initialisation returns early: no thread runs for the connection, so
nothing reports its end and the server keeps it.  The peer is created by the
initialisation, and an error of the session can come before it.
-/

import KRdp.Server.LifeCycle

namespace KRdp

namespace Server

open RdpConnection (State)

/-- The server is told every signal that waits in the queue. -/
def settle (world : World) : World :=
  world.queue.foldl onStateChanged { world with queue := [] }

/-- The initialisation has returned, no thread was started, and the end of the
connection was not reported. -/
def LeftBehind (world : World) (session : Session) : Prop :=
  session.initialization ≠ .queued ∧ session.thread = .notStarted ∧
    closedNotification session.id ∉ world.emitted

def NoneLeftBehind (world : World) : Prop :=
  ∀ session ∈ world.sessions, ¬LeftBehind world session

/-- The action does not fail the initialisation of a connection. -/
def InitializeSucceeds (world : World) : Action → Prop
  | .initializeConnection id failure =>
      ∀ session, world.findSession id = some session →
        session.initialization = .queued → failure = none
  | .incomingConnection _ | .runThread _ | .iteration _ _ | .onClose _ | .videoInitFailed _
  | .sessionError _ | .deliver => True

/-! ### The sessions after a step -/

section Steps

variable {world : World} {session other : Session}

theorem settled_subset (notifications : List Notification) :
    ∀ session ∈ (notifications.foldl onStateChanged world).sessions, session ∈ world.sessions := by
  induction notifications generalizing world with
  | nil =>
      intro session member
      exact member
  | cons head rest ih =>
      intro session member
      have earlier := ih session member
      rw [onStateChanged_sessions] at earlier
      split at earlier
      · exact (Registry.remove_sublist _ _).subset earlier
      · exact earlier

theorem settled_emitted (notifications : List Notification) (world : World) :
    (notifications.foldl onStateChanged world).emitted = world.emitted := by
  induction notifications generalizing world with
  | nil => rfl
  | cons head rest ih =>
      rw [List.foldl_cons, ih]
      unfold onStateChanged
      split
      · unfold close
        split <;> rfl
      · rfl

theorem settled_keeps {notifications : List Notification}
    (distinct : (world.sessions.map Session.id).Nodup) (member : session ∈ world.sessions)
    (unreported : closedNotification session.id ∉ notifications) :
    session ∈ (notifications.foldl onStateChanged world).sessions := by
  induction notifications generalizing world with
  | nil => exact member
  | cons head rest ih =>
      rw [List.mem_cons, not_or] at unreported
      have next := onStateChanged_sessions world head
      apply ih _ _ unreported.2
      · rw [next]
        split
        · exact distinct.sublist ((Registry.remove_sublist _ _).map _)
        · exact distinct
      · rw [next]
        by_cases isClosed : head.state = .closed
        · rw [if_pos isClosed]
          refine (Registry.mem_remove_iff distinct).mpr ⟨member, ?_⟩
          intro same
          apply unreported.1
          cases head
          rw [same]
          exact congrArg _ isClosed.symm
        · rw [if_neg isClosed]
          exact member

/-- A connection without a thread is told to the server as closed by nobody. -/
theorem Orderly.not_reported (orderly : Orderly world) (member : session ∈ world.sessions)
    (notClosed : session.connection.state ≠ .closed) :
    closedNotification session.id ∉ world.emitted := by
  intro reported
  have bound : State.closed.rank ≤ session.connection.state.rank :=
    orderly.bounded session member _ reported rfl
  apply notClosed
  cases state : session.connection.state with
  | closed => rfl
  | initial | starting | running | streaming =>
      rw [state] at bound
      exact absurd bound (by decide)

theorem update_session (next : Session) (started : next.thread ≠ .notStarted)
    (member : other ∈ Registry.store Session.id next world.sessions) :
    other ∈ world.sessions ∨ other.thread ≠ .notStarted := by
  rcases Registry.mem_store member with stored | kept
  · rw [stored.1]
    exact .inr started
  · exact .inl kept.1

/-- Where the connections of a step come from. -/
theorem step_session {action : Action} (member : session ∈ (step world action).sessions) :
    (session ∈ world.sessions ∨ session.thread ≠ .notStarted) ∨
      session.initialization = .queued ∨
      ∃ id failure before, action = .initializeConnection id failure ∧
        world.findSession id = some before ∧ before.initialization = .queued ∧
        session = before.initialized failure := by
  have change := step_change world action
  generalize step world action = next at change member
  have listed : session ∈ world.listed.sessions →
      session ∈ world.sessions ∨ session.initialization = .queued := by
    intro appended
    rcases List.mem_append.mp appended with earlier | latest
    · exact .inl earlier
    · rw [List.mem_singleton.mp latest]
      exact .inr rfl
  cases change with
  | unchanged => exact .inl (.inl member)
  | listed =>
      rcases listed member with earlier | queued
      · exact .inl (.inl earlier)
      · exact .inr (.inl queued)
  | listedWithError =>
      rw [close_sessions] at member
      rcases listed member with earlier | queued
      · exact .inl (.inl earlier)
      · exact .inr (.inl queued)
  | initialized found queued failure =>
      rcases Registry.mem_store member with stored | kept
      · exact .inr (.inr ⟨_, failure, _, rfl, found, queued, stored.1⟩)
      · exact .inl (.inl kept.1)
  | @running _ before found created =>
      exact .inl (update_session before.startRunning Thread.noConfusion member)
  | @iterated _ before found looping input =>
      have started : (before.iterate input).thread ≠ .notStarted := by
        rcases before.iterate_thread input with stays | leaves
        · exact stays.trans_ne Thread.noConfusion
        · exact leaves.trans_ne Thread.noConfusion
      exact .inl (update_session (before.iterate input) started member)
  | @finished _ before found leaving =>
      exact .inl (update_session before.finish Thread.noConfusion member)
  | videoFailed =>
      rw [close_sessions] at member
      exact .inl (.inl member)
  | errorReported =>
      rw [close_sessions] at member
      exact .inl (.inl member)
  | delivered =>
      rw [onStateChanged_sessions] at member
      split at member
      · exact .inl (.inl ((Registry.remove_sublist _ _).subset member))
      · exact .inl (.inl member)

/-- A failed initialisation leaves the connection behind, whatever is delivered. -/
theorem leftBehind_of_failure (orderly : Orderly world) {id : Nat}
    {failure : InitializeFailure} (found : world.findSession id = some session)
    (queued : session.initialization = .queued) :
    let next := step world (.initializeConnection id (some failure))
    session.initialized (some failure) ∈ (settle next).sessions ∧
      LeftBehind (settle next) (session.initialized (some failure)) := by
  intro next
  have nextEq : next = world.update session (session.initialized (some failure)) := by
    simp only [next, step, found, queued, if_true, initializeConnection_eq]
  have nextOrderly : Orderly next := orderly.step _
  have listed : session.initialized (some failure) ∈ next.sessions := by
    rw [nextEq]
    exact Registry.mem_store_self (findSession_some found).1 rfl
  have unreported : closedNotification (session.initialized (some failure)).id ∉ next.emitted :=
    nextOrderly.not_reported listed State.noConfusion
  constructor
  · unfold settle
    refine settled_keeps nextOrderly.distinct listed ?_
    intro queuedMember
    exact unreported (nextOrderly.queueEmitted.subset queuedMember)
  · refine ⟨Initialization.noConfusion, rfl, ?_⟩
    rw [settle, settled_emitted]
    exact unreported

/-- The connection has failed to start: its initialisation gave up. -/
def Session.Failed (session : Session) : Prop :=
  session.thread = .notStarted ∧ session.initialization ≠ .queued

/-- Changing another connection leaves this one in the list. -/
theorem mem_update (next : Session) (orderly : Orderly world) (member : session ∈ world.sessions)
    (otherMember : other ∈ world.sessions) (different : session ≠ other)
    (sameId : next.id = other.id) : session ∈ (world.update other next).sessions := by
  apply Registry.mem_store_other member
  intro same
  exact different
    (Registry.eq_of_key orderly.distinct member otherMember (same.trans sameId))

theorem Session.Failed.ne_of_thread (failed : session.Failed)
    (started : other.thread ≠ .notStarted) : session ≠ other := by
  intro same
  exact started (same ▸ failed.1)

/-- Nothing in the server ever removes a connection that has failed to start. -/
theorem failed_step (orderly : Orderly world) (member : session ∈ world.sessions)
    (failed : session.Failed) (action : Action) : session ∈ (step world action).sessions := by
  have change := step_change world action
  generalize step world action = next at change ⊢
  have listed : session ∈ world.listed.sessions := List.mem_append_left _ member
  cases change with
  | unchanged => exact member
  | listed => exact listed
  | listedWithError =>
      rw [close_sessions]
      exact listed
  | @initialized _ other found queued failure =>
      have different : session ≠ other := fun same => failed.2 (same ▸ queued)
      exact mem_update _ orderly member (findSession_some found).1 different rfl
  | @running _ other found created =>
      have different : session ≠ other :=
        failed.ne_of_thread (created.trans_ne Thread.noConfusion)
      exact mem_update other.startRunning orderly member (findSession_some found).1 different rfl
  | @iterated _ other found looping input =>
      have different : session ≠ other :=
        failed.ne_of_thread (looping.trans_ne Thread.noConfusion)
      exact mem_update (other.iterate input) orderly member (findSession_some found).1
        different rfl
  | @finished _ other found leaving =>
      have different : session ≠ other :=
        failed.ne_of_thread (leaving.trans_ne Thread.noConfusion)
      exact mem_update other.finish orderly member (findSession_some found).1 different rfl
  | videoFailed =>
      rw [close_sessions]
      exact member
  | errorReported =>
      rw [close_sessions]
      exact member
  | delivered queue =>
      rw [onStateChanged_sessions]
      split
      · rename_i isClosed
        refine (Registry.mem_remove_iff orderly.distinct).mpr ⟨member, ?_⟩
        intro same
        have finished := orderly.finished_of_queued (queue ▸ List.mem_cons_self ..) isClosed
          member same
        exact Thread.noConfusion (failed.1.symm.trans finished)
      · exact member

theorem failed_stays (orderly : Orderly world) (member : session ∈ world.sessions)
    (failed : session.Failed) (actions : List Action) :
    session ∈ (StepRun.run step world actions).sessions := by
  have both : Orderly (StepRun.run step world actions) ∧
      session ∈ (StepRun.run step world actions).sessions := by
    apply StepRun.run_invariant fun state => Orderly state ∧ session ∈ state.sessions
    · exact ⟨orderly, member⟩
    · intro state action before
      exact ⟨before.1.step action, failed_step before.1 before.2 failed action⟩
  exact both.2

end Steps

/-! ### Failing to start -/

/-- Every connection whose initialisation has returned got its thread. -/
structure AllStarted (world : World) : Prop where
  orderly : Orderly world
  started : ∀ session ∈ world.sessions,
    session.initialization ≠ .queued → session.thread ≠ .notStarted

theorem AllStarted.step {world : World} {action : Action} (all : AllStarted world)
    (succeeds : InitializeSucceeds world action) : AllStarted (Server.step world action) where
  orderly := all.orderly.step action
  started := by
    intro session member returned
    rcases step_session member with (earlier | started) | queued | initialized
    · exact all.started session earlier returned
    · exact started
    · exact absurd queued returned
    · obtain ⟨id, failure, before, rfl, found, queued, rfl⟩ := initialized
      rw [succeeds before found queued]
      exact Thread.noConfusion

/-- In every run no connection is left behind once the signals are delivered
exactly when no initialisation fails. -/
theorem noneLeftBehind_iff (actions : List Action) :
    StepRun.Always step (fun world => NoneLeftBehind (settle world)) {} actions ↔
      StepRun.Along step InitializeSucceeds {} actions := by
  apply StepRun.always_iff_along AllStarted
  · refine ⟨Orderly.initial, ?_⟩
    intro session member
    cases member
  · intro world action all succeeds
    exact all.step succeeds
  · intro world all session member leftBehind
    have listed := settled_subset world.queue session member
    exact all.started session listed leftBehind.1 leftBehind.2.1
  · intro world action all fails none
    cases action with
    | initializeConnection id failure =>
        apply fails
        intro session found queued
        cases failure with
        | none => rfl
        | some failure =>
            obtain ⟨listed, leftBehind⟩ := leftBehind_of_failure all.orderly found queued
            exact absurd leftBehind (none _ listed)
    | incomingConnection _ | runThread _ | iteration _ _ | onClose _ | videoInitFailed _
    | sessionError _ | deliver => exact fails trivial

/-- A connection whose certificate cannot be read stays in the list. -/
theorem noneLeftBehind_fails :
    let world := StepRun.run step {}
      [.incomingConnection false, .initializeConnection 0 (some .certificate)]
    world.queue = [] ∧ (settle world).sessions.map Session.id = [0] ∧
      ¬NoneLeftBehind (settle world) ∧
      ∀ actions : List Action,
        ∃ session ∈ (StepRun.run step world actions).sessions,
          session.id = 0 ∧ session.connection.state = .starting ∧
            session.samFileCreated = true := by
  intro world
  have orderly : Orderly world := orderly_run _
  let stuck : Session := Session.initialized (some .certificate) { id := 0 }
  have listed : stuck ∈ world.sessions := List.mem_singleton_self _
  refine ⟨rfl, rfl, ?_, ?_⟩
  · intro none
    have unreported : closedNotification stuck.id ∉ world.emitted :=
      orderly.not_reported listed State.noConfusion
    exact none stuck listed ⟨Initialization.noConfusion, rfl, unreported⟩
  · intro actions
    have stays := failed_stays orderly listed ⟨rfl, Initialization.noConfusion⟩ actions
    exact ⟨stuck, stays, rfl, rfl, rfl⟩

end Server

end KRdp
