/-
Which sessions of the portal are closed again.

A session is closed under the path that the portal has answered with.  One that is
destroyed before that answer closes nothing, and the answer then finds nobody.
-/

import KRdp.Session.PortalStartup

namespace KRdp

namespace PortalSession

/-- What the portal has opened is closed by the time the session is gone. -/
def Closed (session : Session) : Prop :=
  session.destroyed = true → ∀ handle ∈ session.opened, Call.close handle ∈ session.calls

/-- The portal opens a session for one that is destroyed. -/
def Orphans (session : Session) : Action → Prop
  | .response _ request code results _ =>
      session.destroyed = true ∧ session.requests[request]? = some .onCreateSession ∧
        code = 0 ∧ results.sessionHandle ≠ []
  | .newConnection _ _ _ | .pipeWireFinished _ _ _ | .closed _ | .destroy _ => False

def AnsweredAlive (world : World) (action : Action) : Prop :=
  ∀ session ∈ target world action, ¬Orphans session action

/-- The path of a live session is that of the portal, and is empty until the answer. -/
structure Keeps (session : Session) : Prop where
  follows : Follows session
  single : session.requests.length ≤ 1
  unanswered : .onCreateSession ∈ session.requests →
    session.opened = none ∧ session.sessionPath = []
  named : ∀ handle ∈ session.opened, session.destroyed = false → session.sessionPath = handle
  farewell : session.destroyed = true → .close session.sessionPath ∈ session.calls
  closed : Closed session

section Keeps

variable {session : Session}

theorem close_mem_farewell (path : Clipboard.QString) : .close path ∈ farewell path := by
  simp [farewell]

/-- Only the path that a session has is ever closed. -/
theorem Follows.close_mem (follows : Follows session) {handle : Clipboard.QString}
    (member : .close handle ∈ session.calls) : handle = session.sessionPath := by
  obtain ⟨token, count, calls, _⟩ := follows.calls
  rw [calls] at member
  rcases List.mem_append.mp member with early | late
  · have never : Call.close handle ∉ handshake session token := by
      unfold handshake selectSourcesCall
      cases session.virtualMonitor <;> simp
    exact absurd (List.mem_of_mem_take early) never
  · unfold goodbye at late
    split at late
    · simpa [PortalSession.farewell] using late
    · cases late

/-- Nothing but requests changes, and none of them waits for a new session. -/
structure SamePath (before after : Session) : Prop where
  sessionPath : after.sessionPath = before.sessionPath
  opened : after.opened = before.opened
  destroyed : after.destroyed = before.destroyed
  requests : .onCreateSession ∈ after.requests → .onCreateSession ∈ before.requests

theorem Keeps.same {after : Session} (keeps : Keeps session) (alive : session.destroyed = false)
    (follows : Follows after) (same : SamePath session after) : Keeps after := by
  have alive' : after.destroyed = false := same.destroyed.trans alive
  refine ⟨follows, ?_, ?_, ?_, ?_, ?_⟩
  · have one := follows.outcomes alive'
    unfold outcomes at one
    omega
  · intro waiting
    rw [same.opened, same.sessionPath]
    exact keeps.unanswered (same.requests waiting)
  · intro handle opened _
    rw [same.sessionPath]
    exact keeps.named handle (same.opened ▸ opened) alive
  · intro impossible
    cases alive'.symm.trans impossible
  · intro impossible
    cases alive'.symm.trans impossible

theorem request_samePath (call : Call) {name : Callback} (other : name ≠ .onCreateSession)
    (replied : Bool) (session : Session) :
    SamePath session (request call name replied session) := by
  cases replied with
  | true =>
      refine ⟨rfl, rfl, rfl, ?_⟩
      intro member
      rcases List.mem_append.mp member with earlier | new
      · exact earlier
      · exact absurd (List.mem_singleton.mp new).symm other
  | false => exact ⟨rfl, rfl, rfl, id⟩

theorem callback_samePath {name : Callback} {code : UInt32}
    (other : name ≠ .onCreateSession ∨ code ≠ 0) (results : Results) (replied : Bool)
    (session : Session) (config : Config) :
    SamePath session (callback name code results replied session config).1 := by
  by_cases failed : code ≠ 0
  · rw [callback_failed failed]
    exact ⟨rfl, rfl, rfl, id⟩
  · cases name with
    | onCreateSession => exact absurd rfl (other.resolve_right failed)
    | onDevicesSelected =>
        simp only [callback, onDevicesSelected, if_neg failed]
        exact request_samePath _ (by decide) replied session
    | onSourcesSelected =>
        simp only [callback, onSourcesSelected, if_neg failed]
        exact request_samePath _ (by decide) replied session
    | onSessionStarted =>
        simp only [callback, onSessionStarted, if_neg failed]
        split
        · exact ⟨rfl, rfl, rfl, id⟩
        · split
          · exact ⟨rfl, rfl, rfl, id⟩
          · exact ⟨rfl, rfl, rfl, id⟩

theorem pipeWireFinished_samePath (streams : List Stream) (fd : Option Int32) (session : Session) :
    SamePath session (pipeWireFinished streams fd session) := by
  cases fd with
  | none => exact ⟨rfl, rfl, rfl, id⟩
  | some fd =>
      simp only [pipeWireFinished, pipeWireOpened]
      rw [chooseStream_eq]
      split
      · exact ⟨rfl, rfl, rfl, id⟩
      · exact ⟨rfl, rfl, rfl, id⟩

/-- The answer to a live session names its path. -/
theorem onCreateSession_keeps {results : Results} {replied : Bool} {config : Config}
    (alive : session.destroyed = false) (idle : session.requests = [])
    (opened : session.opened = some results.sessionHandle)
    (follows : Follows (onCreateSession 0 results replied session config).1) :
    Keeps (onCreateSession 0 results replied session config).1 := by
  have failed : ¬(0 : UInt32) ≠ 0 := not_not_intro rfl
  simp only [onCreateSession, if_neg failed] at follows ⊢
  have other : Callback.onDevicesSelected ≠ .onCreateSession := by decide
  have same := request_samePath
    (selectDevicesCall { session with sessionPath := results.sessionHandle } config) other
    replied { session with sessionPath := results.sessionHandle }
  refine ⟨follows, ?_, ?_, ?_, ?_, ?_⟩
  · have one := follows.outcomes (same.destroyed.trans alive)
    unfold outcomes at one
    omega
  · intro waiting
    have before := same.requests waiting
    rw [idle] at before
    cases before
  · intro handle named _
    rw [same.opened, opened] at named
    rw [same.sessionPath]
    exact Option.some.inj named
  · intro impossible
    cases (same.destroyed.trans alive).symm.trans impossible
  · intro impossible
    cases (same.destroyed.trans alive).symm.trans impossible

theorem start_keeps (virtualMonitor : Option VirtualMonitor) (monitorIndex : Option Int32)
    (replied : Bool) : Keeps (start replied (makeSession virtualMonitor monitorIndex)) := by
  have follows := start_follows virtualMonitor monitorIndex replied
  have fresh : (start replied (makeSession virtualMonitor monitorIndex)).opened = none ∧
      (start replied (makeSession virtualMonitor monitorIndex)).sessionPath = [] ∧
      (start replied (makeSession virtualMonitor monitorIndex)).destroyed = false := by
    cases virtualMonitor <;> cases replied <;> exact ⟨rfl, rfl, rfl⟩
  obtain ⟨opened, path, alive⟩ := fresh
  refine ⟨follows, ?_, fun _ => ⟨opened, path⟩, ?_, ?_, ?_⟩
  · have one := follows.outcomes alive
    unfold outcomes at one
    omega
  · intro handle named
    rw [opened] at named
    cases named
  · intro impossible
    cases alive.symm.trans impossible
  · intro impossible
    cases alive.symm.trans impossible

theorem eraseIdx_single {requests : List Callback} {index : Nat} {name : Callback}
    (single : requests.length ≤ 1) (found : requests[index]? = some name) :
    requests = [name] ∧ requests.eraseIdx index = [] := by
  have inside := (List.getElem?_eq_some_iff.mp found).1
  obtain rfl : index = 0 := by omega
  obtain ⟨other, rfl⟩ := List.length_eq_one_iff.mp (show requests.length = 1 by omega)
  obtain rfl : other = name := Option.some.inj found
  exact ⟨rfl, rfl⟩

/-- A session that is gone only loses its requests, and what the portal opens for it is
under the empty path. -/
theorem Keeps.act_destroyed (keeps : Keeps session) (destroyed : session.destroyed = true)
    {action : Action} (answered : ¬Orphans session action) (config : Config) :
    Keeps (act action session config).1 := by
  have follows := keeps.follows.act action config
  cases action with
  | response index request code results replied =>
      cases found : session.requests[request]? with
      | none =>
          dsimp only [act]
          rw [found]
          exact keeps
      | some name =>
          obtain ⟨only, erased⟩ := eraseIdx_single keeps.single found
          have after : (act (.response index request code results replied) session config).1 =
              { session with
                requests := []
                opened := if name = .onCreateSession ∧ code = 0 then some results.sessionHandle
                  else session.opened } := by
            simp only [act, found, onFinished, erased]
            rw [if_pos destroyed]
          rw [after] at follows ⊢
          refine ⟨follows, Nat.zero_le _, ?_, ?_, keeps.farewell, ?_⟩
          · intro impossible
            cases impossible
          · intro handle _ impossible
            cases destroyed.symm.trans impossible
          · intro _ handle opened
            dsimp only at opened
            split at opened
            · rename_i created
              have empty : results.sessionHandle = [] := by
                by_contra some
                exact answered ⟨destroyed, created.1 ▸ found, created.2, some⟩
              have path := (keeps.unanswered (by rw [only, created.1]; exact List.mem_cons_self)).2
              have last := keeps.farewell destroyed
              rw [← Option.some.inj opened, empty, ← path]
              exact last
            · exact keeps.closed destroyed handle opened
  | newConnection _ _ _ => exact keeps
  | pipeWireFinished _ _ _ =>
      simp only [act, if_pos destroyed]
      exact keeps
  | closed _ =>
      have deaf : (session.listening && !session.destroyed) = false := by
        rw [destroyed, Bool.not_true, Bool.and_false]
      simp only [act, deaf, Bool.false_eq_true, if_false]
      exact keeps
  | destroy _ =>
      simp only [act, if_pos destroyed]
      exact keeps

theorem Keeps.act (keeps : Keeps session) {action : Action} (answered : ¬Orphans session action)
    (config : Config) : Keeps (act action session config).1 := by
  cases destroyed : session.destroyed with
  | true => exact keeps.act_destroyed destroyed answered config
  | false =>
      have living : ¬session.destroyed = true := by rw [destroyed]; exact Bool.false_ne_true
      have follows := keeps.follows.act action config
      cases action with
      | newConnection _ _ _ => exact keeps
      | response index request code results replied =>
          cases found : session.requests[request]? with
          | none =>
              dsimp only [PortalSession.act]
              rw [found]
              exact keeps
          | some name =>
              obtain ⟨only, erased⟩ := eraseIdx_single keeps.single found
              simp only [PortalSession.act, found, onFinished, if_neg living] at follows ⊢
              by_cases created : name = .onCreateSession ∧ code = 0
              · obtain ⟨rfl, rfl⟩ := created
                exact onCreateSession_keeps destroyed erased rfl follows
              · have other := (not_and_or.mp created)
                have same := callback_samePath other results replied
                  { session with
                    requests := session.requests.eraseIdx request
                    opened := session.opened } config
                rw [if_neg created] at follows ⊢
                refine keeps.same destroyed follows
                  ⟨same.sessionPath, same.opened, same.destroyed, ?_⟩
                intro waiting
                have before := same.requests waiting
                rw [erased] at before
                cases before
      | pipeWireFinished index watcher fd =>
          cases found : session.watchers[watcher]? with
          | none =>
              simp only [PortalSession.act, if_neg living, found]
              exact keeps
          | some streams =>
              simp only [PortalSession.act, if_neg living, found] at follows ⊢
              have same := pipeWireFinished_samePath streams fd
                { session with watchers := session.watchers.eraseIdx watcher }
              exact keeps.same destroyed follows
                ⟨same.sessionPath, same.opened, same.destroyed, same.requests⟩
      | closed index =>
          dsimp only [PortalSession.act] at follows ⊢
          split at follows
          · rename_i listening
            rw [if_pos listening]
            exact keeps.same destroyed follows ⟨rfl, rfl, rfl, id⟩
          · rename_i deaf
            rw [if_neg deaf]
            exact keeps
      | destroy index =>
          simp only [PortalSession.act, if_neg living] at follows ⊢
          have last : Call.close session.sessionPath ∈ (destroy session).calls :=
            List.mem_append_right _ (close_mem_farewell _)
          refine ⟨follows, keeps.single, keeps.unanswered, ?_, fun _ => last, ?_⟩
          · intro handle _ impossible
            cases impossible
          · intro _ handle opened
            rw [← keeps.named handle opened destroyed]
            exact last

/-- The session that the portal opens for one that is gone is never closed. -/
theorem Keeps.orphaned (keeps : Keeps session) {action : Action} (orphans : Orphans session action)
    (config : Config) : ¬Closed (PortalSession.act action session config).1 := by
  cases action with
  | response index request code results replied =>
      obtain ⟨destroyed, found, rfl, some⟩ := orphans
      obtain ⟨only, _⟩ := eraseIdx_single keeps.single found
      have path := (keeps.unanswered (by rw [only]; exact List.mem_cons_self)).2
      simp only [PortalSession.act, found, onFinished, if_pos destroyed]
      intro closed
      have last := closed destroyed results.sessionHandle rfl
      exact some ((keeps.follows.close_mem last).trans path)
  | newConnection _ _ _ => exact orphans.elim
  | pipeWireFinished _ _ _ => exact orphans.elim
  | closed _ => exact orphans.elim
  | destroy _ => exact orphans.elim

end Keeps

/-- Every session that the portal has opened is closed by the time its owner is gone,
exactly if no owner is destroyed before it is told the handle of its session. -/
theorem sessions_closed_iff (actions : List Action) :
    StepRun.Always step (fun world => ∀ session ∈ world.sessions, Closed session) {} actions ↔
      StepRun.Along step AnsweredAlive {} actions := by
  refine StepRun.always_iff_along (fun world => ∀ session ∈ world.sessions, Keeps session) actions
    ?_ ?_ ?_ ?_
  · exact fun session impossible => absurd impossible List.not_mem_nil
  · intro world action all answered
    refine step_invariant (fun action session => ¬Orphans session action) start_keeps ?_
      world action all answered
    intro action session config keeps answered
    exact keeps.act answered config
  · intro world all session member
    exact (all session member).closed
  · intro world action all late closed
    obtain ⟨session, aimed, orphans⟩ : ∃ session ∈ target world action, Orphans session action := by
      simpa [AnsweredAlive] using late
    obtain ⟨member, after⟩ := mem_step aimed
    exact (all session member).orphaned orphans world.config (closed _ after)

end PortalSession

end KRdp
