/-
The peer of a connection that is closed.

The peer is created by the queued initialisation.  A close by the removal or for
the graphics capabilities comes from the communication thread and so after it; a
close for an error of the session can come at any time.
-/

import KRdp.Server.LifeCycle

namespace KRdp

namespace Server

open RdpConnection (State)

/-- Every call of close has found a peer. -/
def ClosesHavePeer (world : World) : Prop :=
  ∀ call ∈ world.closes, call.peer = true

/-- The initialisation of the connection has returned, and it was not the
creation of the peer that failed. -/
def Session.PastPeerNew (session : Session) : Prop :=
  ∃ failure, session.initialization = .returned failure ∧ failure ≠ some .peerNew

/-- The action reports no error of a session before the peer is created. -/
def ErrorInTime (world : World) : Action → Prop
  | .incomingConnection errorInStart => errorInStart = false
  | .sessionError id =>
      ∀ session, world.findSession id = some session → session.PastPeerNew
  | .initializeConnection _ _ | .runThread _ | .iteration _ _ | .onClose _ | .videoInitFailed _
  | .deliver => True

section Facts

variable {world : World} {session : Session} {call : CloseCall} {id : Nat} {reason : CloseReason}

theorem Session.WellFormed.peer_iff (well : session.WellFormed) :
    session.peer = true ↔ session.PastPeerNew := by
  unfold Session.WellFormed at well
  unfold Session.PastPeerNew
  split at well
  · cases initialization : session.initialization with
    | queued =>
        simp only [initialization] at well
        simp [well.2.2]
    | returned failure =>
        simp only [initialization] at well
        rw [well.2.2.2, bne_iff_ne]
        constructor
        · intro other
          exact ⟨failure, rfl, other⟩
        · intro past
          obtain ⟨same, returned, other⟩ := past
          cases returned
          exact other
  all_goals
    simp only [well.2.1, true_iff]
    exact ⟨none, well.1, (Option.some_ne_none _).symm⟩

theorem Session.WellFormed.peer_of_thread (well : session.WellFormed)
    (started : session.thread ≠ .notStarted) : session.peer = true := by
  unfold Session.WellFormed at well
  split at well
  · rename_i thread
    exact absurd thread started
  all_goals exact well.2.1

theorem Session.WellFormed.peer_of_gfxContext (well : session.WellFormed)
    (opened : session.connection.videoStream.gfxContext = true) : session.peer = true := by
  apply well.peer_of_thread
  intro thread
  simp only [Session.WellFormed, thread, opened] at well
  exact Bool.noConfusion well.1

theorem mem_close_closes (member : call ∈ (close id reason world).closes) :
    call ∈ world.closes ∨
      ∃ session, world.findSession id = some session ∧ call.peer = session.peer := by
  unfold close at member
  split at member
  · exact .inl member
  · rename_i session found
    rcases List.mem_append.mp member with earlier | latest
    · exact .inl earlier
    · rw [List.mem_singleton.mp latest]
      exact .inr ⟨session, found, rfl⟩

theorem close_called (reason : CloseReason) (found : world.findSession id = some session) :
    { session := id, reason, peer := session.peer } ∈ (close id reason world).closes := by
  unfold close
  rw [found]
  exact List.mem_append_right _ (List.mem_singleton_self _)

theorem ClosesHavePeer.close (closes : ClosesHavePeer world)
    (peer : ∀ session, world.findSession id = some session → session.peer = true) :
    ClosesHavePeer (Server.close id reason world) := by
  intro call member
  rcases mem_close_closes member with earlier | latest
  · exact closes call earlier
  · obtain ⟨session, found, samePeer⟩ := latest
    rw [samePeer]
    exact peer session found

/-- The new connection is the one that the closing call finds. -/
theorem findSession_listed (orderly : Orderly world) :
    world.listed.findSession world.created = some { id := world.created } := by
  unfold World.findSession World.listed Registry.find
  rw [List.find?_append]
  have absent : world.sessions.find? (fun each => decide (each.id = world.created)) = none := by
    apply List.find?_eq_none.mpr
    intro each member
    simpa using Nat.ne_of_lt (orderly.fresh each member)
  rw [absent]
  simp

end Facts

/-- The state of a run in which every error has come in time. -/
structure AllPeers (world : World) : Prop where
  orderly : Orderly world
  closes : ClosesHavePeer world

theorem AllPeers.step {world : World} {action : Action} (all : AllPeers world)
    (inTime : ErrorInTime world action) : AllPeers (Server.step world action) := by
  refine ⟨all.orderly.step action, ?_⟩
  have unchanged := all.closes
  have well : ∀ {id session}, world.findSession id = some session → session.WellFormed :=
    fun found => all.orderly.wellFormed _ (findSession_some found).1
  have change := step_change world action
  generalize Server.step world action = next at change ⊢
  cases change with
  | unchanged | listed | initialized | running | iterated | finished => exact unchanged
  | listedWithError => exact Bool.noConfusion inTime
  | @videoFailed _ session found opened =>
      apply unchanged.close
      intro other otherFound
      have same : session = other := Option.some.inj (found.symm.trans otherFound)
      exact same ▸ (well found).peer_of_gfxContext opened
  | errorReported =>
      apply unchanged.close
      intro session found
      exact (well found).peer_iff.mpr (inTime session found)
  | @delivered notification rest queue =>
      unfold onStateChanged
      split
      · rename_i isClosed
        have dequeued : ClosesHavePeer { world with queue := rest } := unchanged
        apply dequeued.close
        intro session found
        obtain ⟨member, same⟩ := findSession_some found
        apply (well found).peer_of_thread
        rw [all.orderly.finished_of_queued (queue ▸ List.mem_cons_self ..) isClosed member same]
        exact Thread.noConfusion
      · exact unchanged

/-- An error that comes too early closes a connection without a peer. -/
theorem AllPeers.violated {world : World} {action : Action} (all : AllPeers world)
    (early : ¬ErrorInTime world action) : ¬ClosesHavePeer (Server.step world action) := by
  intro closes
  cases action with
  | incomingConnection errorInStart =>
      cases errorInStart with
      | false => exact early rfl
      | true =>
          have found := findSession_listed all.orderly
          exact Bool.noConfusion (closes _ (close_called .none found))
  | sessionError id =>
      apply early
      intro session found
      exact (all.orderly.wellFormed session (findSession_some found).1).peer_iff.mp
        (closes _ (close_called .none found))
  | initializeConnection _ _ | runThread _ | iteration _ _ | onClose _ | videoInitFailed _
  | deliver => exact early trivial

/-- In every run each close finds a peer exactly when every error of a session
comes after the peer of its connection was created. -/
theorem closesHavePeer_iff (actions : List Action) :
    StepRun.Always step ClosesHavePeer {} actions ↔
      StepRun.Along step ErrorInTime {} actions := by
  apply StepRun.always_iff_along AllPeers
  · refine ⟨Orderly.initial, ?_⟩
    intro call member
    cases member
  · intro world action all inTime
    exact all.step inTime
  · intro world all
    exact all.closes
  · intro world action all early
    exact all.violated early

/-- The start of the session of the first connection reports an error. -/
theorem closesHavePeer_fails :
    let world := StepRun.run step {} [.incomingConnection true]
    world.closes = [{ session := 0, reason := .none, peer := false }] ∧
      ¬ClosesHavePeer world := by
  intro world
  have closesEq : world.closes = [{ session := 0, reason := .none, peer := false }] := by decide
  refine ⟨closesEq, ?_⟩
  intro closes
  have member : { session := 0, reason := .none, peer := false } ∈ world.closes := by
    rw [closesEq]
    exact List.mem_singleton_self _
  exact Bool.noConfusion (closes _ member)

end Server

end KRdp
