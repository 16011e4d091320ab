/-
What every session of the portal does until it streams.

The start is a chain of calls, each made when the one before has succeeded.  A live
session waits for one answer, or has started, or has reported an error.
-/

import KRdp.Session.Portal

namespace KRdp

namespace PortalSession

open Clipboard (QString)

/-- The calls of a whole start. -/
def handshake (session : Session) (token : Option QString) : List Call :=
  [.createSession,
    .selectDevices session.sessionPath allDevices permissionsPersistUntilExplicitlyRevoked token,
    selectSourcesCall session,
    .start session.sessionPath,
    .openPipeWireRemote session.sessionPath]

/-! ### Phases -/

inductive Phase where
  | waiting (name : Callback)
  | opening (streams : List Stream)
  | started (source : Source)
  | failed

namespace Phase

def requests : Phase → List Callback
  | waiting name => [name]
  | opening _ | started _ | failed => []

def watchers : Phase → List (List Stream)
  | opening streams => [streams]
  | waiting _ | started _ | failed => []

def sources : Phase → List Source
  | started source => [source]
  | waiting _ | opening _ | failed => []

/-- A started session may report an error any time later. -/
def Errors : Phase → Nat → Prop
  | waiting _, errors | opening _, errors => errors = 0
  | started _, _ => True
  | failed, errors => errors = 1

end Phase

def Callback.position : Callback → Nat
  | onCreateSession => 1
  | onDevicesSelected => 2
  | onSourcesSelected => 3
  | onSessionStarted => 4

/-- How many calls of the start are made. -/
def Phase.Made : Phase → Nat → Prop
  | waiting name, count => count = name.position
  | opening streams, count => count = 5 ∧ streams ≠ []
  | started _, count => count = 5
  | failed, _ => True

structure InPhase (phase : Phase) (session : Session) : Prop where
  requests : session.requests = phase.requests
  watchers : session.watchers = phase.watchers
  sources : session.sources = phase.sources
  errors : phase.Errors session.errors
  listening : session.listening = true → ∃ source, phase = .started source

/-- No assertion has failed, and none will in `setActiveStream`. -/
structure Sane (session : Session) : Prop where
  valid : session.valid = true
  exclusive : session.virtualMonitor = none ∨ session.activeStream = none

def goodbye (session : Session) : List Call :=
  if session.destroyed then farewell session.sessionPath else []

structure Follows (session : Session) : Prop where
  sane : Sane session
  calls : ∃ token count, session.calls = (handshake session token).take count ++ goodbye session ∧
    (session.destroyed = false → ∃ phase : Phase, phase.Made count ∧ InPhase phase session)

section Follows

variable {session : Session}

/-- A live session in some phase, with what it has called. -/
structure Stands (phase : Phase) (token : Option QString) (count : Nat) (session : Session) :
    Prop where
  sane : Sane session
  alive : session.destroyed = false
  calls : session.calls = (handshake session token).take count
  made : phase.Made count
  phase : InPhase phase session

theorem Stands.follows {phase : Phase} {token : Option QString} {count : Nat}
    (stands : Stands phase token count session) : Follows session := by
  refine ⟨stands.sane, token, count, ?_, fun _ => ⟨phase, stands.made, stands.phase⟩⟩
  rw [stands.calls, goodbye, stands.alive]
  exact (List.append_nil _).symm

theorem Follows.stands (follows : Follows session) (alive : session.destroyed = false) :
    ∃ phase token count, Stands phase token count session := by
  obtain ⟨token, count, calls, phases⟩ := follows.calls
  obtain ⟨phase, made, inPhase⟩ := phases alive
  refine ⟨phase, token, count, follows.sane, alive, ?_, made, inPhase⟩
  rw [calls, goodbye, alive]
  exact List.append_nil _

/-- The session waits for nothing and has neither started nor failed. -/
structure Between (token : Option QString) (count : Nat) (session : Session) : Prop where
  sane : Sane session
  alive : session.destroyed = false
  calls : session.calls = (handshake session token).take count
  requests : session.requests = []
  watchers : session.watchers = []
  sources : session.sources = []
  errors : session.errors = 0
  listening : session.listening = false

theorem Between.emitError {token : Option QString} {count : Nat}
    (between : Between token count session) : Follows (emitError session) := by
  refine Stands.follows (?_ : Stands .failed token count _)
  refine ⟨⟨between.sane.valid, between.sane.exclusive⟩, between.alive, between.calls, trivial, ?_⟩
  refine ⟨between.requests, between.watchers, between.sources, ?_, ?_⟩
  · exact congrArg Nat.succ between.errors
  · intro listening
    cases between.listening.symm.trans listening

theorem Between.request {token : Option QString} {count : Nat}
    (between : Between token count session) {call : Call} {name : Callback}
    (next : (handshake session token)[count]? = some call) (position : name.position = count + 1)
    (replied : Bool) : Follows (request call name replied session) := by
  have grown : session.calls ++ [call] = (handshake session token).take (count + 1) := by
    rw [between.calls, List.take_add_one, next]
    rfl
  cases replied with
  | true =>
      refine Stands.follows (?_ : Stands (.waiting name) token (count + 1) _)
      refine ⟨⟨between.sane.valid, between.sane.exclusive⟩, between.alive, grown, position.symm, ?_⟩
      refine ⟨?_, between.watchers, between.sources, between.errors, ?_⟩
      · change session.requests ++ [name] = [name]
        rw [between.requests, List.nil_append]
      · intro listening
        cases between.listening.symm.trans listening
  | false =>
      have called : Between token (count + 1) { session with calls := session.calls ++ [call] } :=
        ⟨⟨between.sane.valid, between.sane.exclusive⟩, between.alive, grown, between.requests,
          between.watchers, between.sources, between.errors, between.listening⟩
      exact called.emitError

theorem start_follows (virtualMonitor : Option VirtualMonitor) (monitorIndex : Option Int32)
    (replied : Bool) : Follows (start replied (makeSession virtualMonitor monitorIndex)) := by
  have between : Between none 0 (makeSession virtualMonitor monitorIndex) := by
    cases virtualMonitor with
    | some virtualMonitor => exact ⟨⟨rfl, .inr rfl⟩, rfl, rfl, rfl, rfl, rfl, rfl, rfl⟩
    | none => exact ⟨⟨rfl, .inl rfl⟩, rfl, rfl, rfl, rfl, rfl, rfl, rfl⟩
  exact between.request rfl rfl replied

/-- The one request of a waiting session is taken away. -/
theorem Stands.answered {phase : Phase} {token : Option QString} {count index : Nat}
    (stands : Stands phase token count session) {name : Callback}
    (found : session.requests[index]? = some name) (opened : Option QString) :
    Between token name.position
      { session with requests := session.requests.eraseIdx index, opened := opened } := by
  rw [stands.phase.requests] at found
  cases phase with
  | waiting awaited =>
      have first : index = 0 := by
        have inside := (List.getElem?_eq_some_iff.mp found).1
        exact Nat.lt_one_iff.mp inside
      subst first
      obtain rfl : awaited = name := Option.some.inj found
      have idle : session.listening = false := by
        by_contra listening
        obtain ⟨source, impossible⟩ := stands.phase.listening (Bool.of_not_eq_false listening)
        cases impossible
      refine ⟨⟨stands.sane.valid, stands.sane.exclusive⟩, stands.alive, ?_, ?_,
        stands.phase.watchers, stands.phase.sources, stands.phase.errors, idle⟩
      · obtain rfl := stands.made
        exact stands.calls
      · change session.requests.eraseIdx 0 = []
        rw [stands.phase.requests]
        rfl
  | opening streams => cases found
  | started source => cases found
  | failed => cases found

theorem Between.callback {token : Option QString} {name : Callback}
    (between : Between token name.position session) (code : UInt32) (results : Results)
    (replied : Bool) (config : Config) :
    Follows (callback name code results replied session config).1 := by
  by_cases failed : code ≠ 0
  · rw [callback_failed failed]
    exact between.emitError
  · cases name with
    | onCreateSession =>
        simp only [PortalSession.callback, onCreateSession, if_neg failed]
        have named : Between (if restoreToken config = [] then none else some (restoreToken config))
            1 { session with sessionPath := results.sessionHandle } :=
          ⟨⟨between.sane.valid, between.sane.exclusive⟩, between.alive, between.calls,
            between.requests, between.watchers, between.sources, between.errors,
            between.listening⟩
        exact named.request rfl rfl replied
    | onDevicesSelected =>
        simp only [PortalSession.callback, onDevicesSelected, if_neg failed]
        exact between.request rfl rfl replied
    | onSourcesSelected =>
        simp only [PortalSession.callback, onSourcesSelected, if_neg failed]
        exact between.request rfl rfl replied
    | onSessionStarted =>
        simp only [PortalSession.callback, onSessionStarted, if_neg failed]
        split
        · exact between.emitError
        · split
          · exact between.emitError
          · rename_i nonempty
            refine Stands.follows (?_ : Stands (.opening results.streams) token 5 _)
            refine ⟨⟨between.sane.valid, between.sane.exclusive⟩, between.alive, ?_,
              ⟨rfl, nonempty⟩, ?_⟩
            · change session.calls ++ _ = _
              rw [between.calls]
              rfl
            · refine ⟨between.requests, ?_, between.sources, between.errors, ?_⟩
              · change session.watchers ++ [results.streams] = [results.streams]
                rw [between.watchers, List.nil_append]
              · intro listening
                cases between.listening.symm.trans listening

/-! ### The stream of the session -/

/-- Only an index past the streams is set to 0, which asks for the same sources. -/
theorem chooseStream_handshake {streams : List Stream} (nonempty : streams ≠ [])
    (token : Option QString) : handshake (chooseStream streams session) token =
      handshake session token := by
  unfold chooseStream
  split
  · rename_i past
    have positive : 0 < streams.length := List.length_pos_of_ne_nil nonempty
    have same : selectSourcesCall (setActiveStream 0 session) = selectSourcesCall session := by
      have before : 0 ≤ (activeStream session).toInt := by omega
      have after : 0 ≤ (activeStream (setActiveStream 0 session)).toInt := Int.le_refl 0
      simp only [selectSourcesCall, decide_eq_true before, decide_eq_true after]
      rfl
    simp only [handshake, same]
    rfl
  · rfl

theorem chooseStream_sane (sane : Sane session) (streams : List Stream) :
    Sane (chooseStream streams session) := by
  unfold chooseStream
  split
  · rename_i past
    have physical : session.virtualMonitor = none := by
      rcases sane.exclusive with physical | unset
      · exact physical
      · rw [activeStream, unset] at past
        exact absurd past (by
          have := Int.natCast_nonneg streams.length
          change ¬((streams.length : Int) ≤ -1)
          omega)
    refine ⟨?_, .inl physical⟩
    simp only [setActiveStream, sane.valid, physical, Option.isNone_none, Bool.and_self]
  · exact sane

theorem chooseStream_index (session : Session) {streams : List Stream} (nonempty : streams ≠ []) :
    streamIndex (chooseStream streams session) < streams.length := by
  have positive : 0 < streams.length := List.length_pos_of_ne_nil nonempty
  unfold chooseStream
  split
  · exact positive
  · unfold streamIndex
    omega

theorem chooseStream_eq (streams : List Stream) (session : Session) :
    chooseStream streams session =
      { session with
        activeStream := (chooseStream streams session).activeStream
        valid := (chooseStream streams session).valid } := by
  unfold chooseStream
  split <;> rfl

theorem Between.chooseStream {token : Option QString} {count : Nat}
    (between : Between token count session) {streams : List Stream} (nonempty : streams ≠ []) :
    Between token count (chooseStream streams session) := by
  have sane := chooseStream_sane between.sane streams
  have calls := between.calls
  rw [← chooseStream_handshake nonempty] at calls
  refine ⟨sane, ?_, ?_, ?_, ?_, ?_, ?_, ?_⟩
  · rw [chooseStream_eq]
    exact between.alive
  · exact (congrArg Session.calls (chooseStream_eq streams session)).trans calls
  · rw [chooseStream_eq]
    exact between.requests
  · rw [chooseStream_eq]
    exact between.watchers
  · rw [chooseStream_eq]
    exact between.sources
  · rw [chooseStream_eq]
    exact between.errors
  · rw [chooseStream_eq]
    exact between.listening

theorem Between.pipeWireFinished {token : Option QString} {streams : List Stream}
    (between : Between token 5 session) (nonempty : streams ≠ []) (fd : Option Int32) :
    Follows (pipeWireFinished streams fd session) := by
  cases fd with
  | none => exact between.emitError
  | some fd =>
      have inside := chooseStream_index session nonempty
      have chosen := between.chooseStream nonempty
      simp only [PortalSession.pipeWireFinished, pipeWireOpened, List.getElem?_eq_getElem inside]
      generalize streams[streamIndex (PortalSession.chooseStream streams session)] = stream
      generalize PortalSession.chooseStream streams session = chosenSession at chosen
      refine Stands.follows (?_ : Stands (.started ⟨stream.nodeId, fd, stream.size⟩) token 5 _)
      refine ⟨⟨chosen.sane.valid, chosen.sane.exclusive⟩, chosen.alive, chosen.calls, rfl, ?_⟩
      refine ⟨chosen.requests, chosen.watchers, ?_, trivial, fun _ => ⟨_, rfl⟩⟩
      change chosenSession.sources ++ _ = _
      rw [chosen.sources]
      rfl

/-- A session that waits for the remote has made all its calls. -/
theorem Stands.opened {phase : Phase} {token : Option QString} {count index : Nat}
    (stands : Stands phase token count session) {streams : List Stream}
    (found : session.watchers[index]? = some streams) :
    streams ≠ [] ∧
      Between token 5 { session with watchers := session.watchers.eraseIdx index } := by
  rw [stands.phase.watchers] at found
  cases phase with
  | opening awaited =>
      have first : index = 0 := by
        have inside := (List.getElem?_eq_some_iff.mp found).1
        exact Nat.lt_one_iff.mp inside
      subst first
      obtain rfl : awaited = streams := Option.some.inj found
      have idle : session.listening = false := by
        by_contra listening
        obtain ⟨source, impossible⟩ := stands.phase.listening (Bool.of_not_eq_false listening)
        cases impossible
      obtain ⟨rfl, nonempty⟩ := stands.made
      refine ⟨nonempty, ⟨stands.sane.valid, stands.sane.exclusive⟩, stands.alive, stands.calls,
        stands.phase.requests, ?_, stands.phase.sources, stands.phase.errors, idle⟩
      change session.watchers.eraseIdx 0 = []
      rw [stands.phase.watchers]
      rfl
  | waiting name => cases found
  | started source => cases found
  | failed => cases found

/-! ### Every action -/

/-- A destroyed session is not called back. -/
theorem act_destroyed (destroyed : session.destroyed = true) (action : Action) (config : Config) :
    ∃ requests opened, act action session config =
      ({ session with requests := requests, opened := opened }, config) := by
  cases action with
  | newConnection _ _ _ => exact ⟨_, _, rfl⟩
  | response _ request code results replied =>
      dsimp only [act]
      split
      · dsimp only [onFinished]
        rw [if_pos destroyed]
        exact ⟨_, _, rfl⟩
      · exact ⟨_, _, rfl⟩
  | pipeWireFinished _ watcher fd =>
      dsimp only [act]
      rw [if_pos destroyed]
      exact ⟨_, _, rfl⟩
  | closed _ =>
      dsimp only [act]
      have deaf : (session.listening && !session.destroyed) = false := by
        rw [destroyed, Bool.not_true, Bool.and_false]
      rw [deaf, if_neg Bool.false_ne_true]
      exact ⟨_, _, rfl⟩
  | destroy _ =>
      dsimp only [act]
      rw [if_pos destroyed]
      exact ⟨_, _, rfl⟩

theorem Follows.act (follows : Follows session) (action : Action) (config : Config) :
    Follows (act action session config).1 := by
  cases destroyed : session.destroyed with
  | true =>
      obtain ⟨requests, opened, after⟩ := act_destroyed destroyed action config
      rw [after]
      obtain ⟨token, count, calls, _⟩ := follows.calls
      refine ⟨⟨follows.sane.valid, follows.sane.exclusive⟩, token, count, calls, ?_⟩
      intro impossible
      cases destroyed.symm.trans impossible
  | false =>
      obtain ⟨phase, token, count, stands⟩ := follows.stands destroyed
      cases action with
      | newConnection _ _ _ => exact follows
      | response _ request code results replied =>
          dsimp only [PortalSession.act]
          split
          · rename_i name found
            dsimp only [onFinished]
            rw [if_neg (by rw [destroyed]; exact Bool.false_ne_true)]
            exact (stands.answered found _).callback code results replied config
          · exact follows
      | pipeWireFinished _ watcher fd =>
          dsimp only [PortalSession.act]
          rw [if_neg (by rw [destroyed]; exact Bool.false_ne_true)]
          split
          · rename_i streams found
            obtain ⟨nonempty, between⟩ := stands.opened found
            exact between.pipeWireFinished nonempty fd
          · exact follows
      | closed _ =>
          dsimp only [PortalSession.act]
          split
          · rename_i open'
            obtain ⟨source, rfl⟩ :=
              stands.phase.listening (Bool.and_eq_true_iff.mp open').1
            refine Stands.follows (?_ : Stands (.started source) token count _)
            exact ⟨⟨stands.sane.valid, stands.sane.exclusive⟩, stands.alive, stands.calls,
              stands.made, stands.phase.requests, stands.phase.watchers, stands.phase.sources,
              trivial, fun _ => ⟨source, rfl⟩⟩
          · exact follows
      | destroy _ =>
          dsimp only [PortalSession.act]
          rw [if_neg (by rw [destroyed]; exact Bool.false_ne_true)]
          refine ⟨⟨follows.sane.valid, follows.sane.exclusive⟩, token, count, ?_, ?_⟩
          · change session.calls ++ farewell session.sessionPath = _
            rw [stands.calls]
            rfl
          · intro impossible
            cases impossible

end Follows

/-! ### One call after another -/

/-- A new session makes its first call.  Another call of a session is made by the answer
with the code 0 to the request of its last call, or by its destruction. -/
structure InTurn (world : World) (action : Action) : Prop where
  first : ∀ session ∈ (step world action).sessions.drop world.sessions.length,
    session.calls = [.createSession]
  further : ∀ index session after, world.sessions[index]? = some session →
    (step world action).sessions[index]? = some after → after.calls ≠ session.calls →
      action = .destroy index ∨
        ∃ request name results replied, action = .response index request 0 results replied ∧
          session.requests[request]? = some name ∧ name.position = session.calls.length ∧
            ∃ call, after.calls = session.calls ++ [call]

theorem request_calls (call : Call) (name : Callback) (replied : Bool) (session : Session) :
    (request call name replied session).calls = session.calls ++ [call] := by
  cases replied <;> rfl

theorem start_calls (virtualMonitor : Option VirtualMonitor) (monitorIndex : Option Int32)
    (replied : Bool) :
    (start replied (makeSession virtualMonitor monitorIndex)).calls = [.createSession] := by
  rw [start, request_calls]
  cases virtualMonitor <;> rfl

theorem callback_calls (name : Callback) (code : UInt32) (results : Results) (replied : Bool)
    (session : Session) (config : Config) :
    (callback name code results replied session config).1.calls = session.calls ∨
      code = 0 ∧ ∃ call,
        (callback name code results replied session config).1.calls = session.calls ++ [call] := by
  by_cases failed : code ≠ 0
  · rw [callback_failed failed]
    exact .inl rfl
  · have succeeded := Classical.not_not.mp failed
    cases name with
    | onCreateSession =>
        simp only [callback, onCreateSession, if_neg failed]
        exact .inr ⟨succeeded, _, request_calls ..⟩
    | onDevicesSelected =>
        simp only [callback, onDevicesSelected, if_neg failed]
        exact .inr ⟨succeeded, _, request_calls ..⟩
    | onSourcesSelected =>
        simp only [callback, onSourcesSelected, if_neg failed]
        exact .inr ⟨succeeded, _, request_calls ..⟩
    | onSessionStarted =>
        simp only [callback, onSessionStarted, if_neg failed]
        split
        · exact .inl rfl
        · split
          · exact .inl rfl
          · exact .inr ⟨succeeded, .openPipeWireRemote session.sessionPath, rfl⟩

theorem pipeWireFinished_calls (streams : List Stream) (fd : Option Int32) (session : Session) :
    (pipeWireFinished streams fd session).calls = session.calls := by
  cases fd with
  | none => rfl
  | some fd =>
      have chosen : (chooseStream streams session).calls = session.calls := by
        rw [chooseStream_eq]
      simp only [pipeWireFinished, pipeWireOpened]
      split <;> exact chosen

/-- What a request waits for is the last call of a session that is still there. -/
theorem Follows.position {session : Session} (follows : Follows session)
    (alive : session.destroyed = false) {index : Nat} {name : Callback}
    (found : session.requests[index]? = some name) : name.position = session.calls.length := by
  obtain ⟨phase, token, count, stands⟩ := follows.stands alive
  have between := stands.answered found session.opened
  have calls : session.calls = (handshake session token).take name.position := between.calls
  rw [calls, List.length_take]
  cases name <;> rfl

/-- Where the session a step is about comes from. -/
theorem step_session {world : World} {action : Action} {index : Nat} {session after : Session}
    (before : world.sessions[index]? = some session)
    (found : (step world action).sessions[index]? = some after) :
    after = session ∨
      action.session = some index ∧ after = (act action session world.config).1 := by
  have inside := (List.getElem?_eq_some_iff.mp before).1
  have acts : ∀ other, action.session = some other →
      (actOn other action world).sessions[index]? = some after →
        after = session ∨
          action.session = some index ∧ after = (act action session world.config).1 := by
    intro other about found
    unfold actOn at found
    split at found
    · rename_i target aimed
      by_cases same : other = index
      · subst same
        rw [List.getElem?_set_self inside] at found
        obtain rfl : session = target := Option.some.inj (before.symm.trans aimed)
        exact .inr ⟨about, (Option.some.inj found).symm⟩
      · rw [List.getElem?_set_ne same, before] at found
        exact .inl (Option.some.inj found).symm
    · rw [before] at found
      exact .inl (Option.some.inj found).symm
  cases action with
  | newConnection virtualMonitor monitorIndex replied =>
      simp only [step] at found
      rw [List.getElem?_append_left inside, before] at found
      exact .inl (Option.some.inj found).symm
  | response other _ _ _ _ => exact acts other rfl found
  | pipeWireFinished other _ _ => exact acts other rfl found
  | closed other => exact acts other rfl found
  | destroy other => exact acts other rfl found

/-- What makes a session call, apart from its destruction. -/
theorem Follows.act_calls {session : Session} (follows : Follows session) {action : Action}
    {index : Nat} (about : action.session = some index) (config : Config)
    (called : (PortalSession.act action session config).1.calls ≠ session.calls) :
    action = .destroy index ∨
      ∃ request name results replied, action = .response index request 0 results replied ∧
        session.requests[request]? = some name ∧ name.position = session.calls.length ∧
          ∃ call, (PortalSession.act action session config).1.calls = session.calls ++ [call] := by
  cases destroyed : session.destroyed with
  | true =>
      obtain ⟨requests, opened, same⟩ := act_destroyed destroyed action config
      rw [same] at called
      exact absurd rfl called
  | false =>
      cases action with
      | newConnection _ _ _ => cases about
      | response other request code results replied =>
          cases about
          refine .inr ?_
          cases found : session.requests[request]? with
          | none =>
              simp only [PortalSession.act, found, ne_eq, not_true_eq_false] at called
          | some name =>
              have position := follows.position destroyed found
              simp only [PortalSession.act, found, onFinished, destroyed, Bool.false_eq_true,
                if_false] at called ⊢
              rcases callback_calls name code results replied _ config with
                same | ⟨rfl, call, grown⟩
              · exact absurd same called
              · exact ⟨request, name, results, replied, rfl, found, position, call, grown⟩
      | pipeWireFinished other watcher fd =>
          dsimp only [PortalSession.act] at called
          rw [destroyed, if_neg Bool.false_ne_true] at called
          split at called
          · rw [pipeWireFinished_calls] at called
            exact absurd rfl called
          · exact absurd rfl called
      | closed other =>
          dsimp only [PortalSession.act] at called
          split at called
          · exact absurd rfl called
          · exact absurd rfl called
      | destroy other =>
          cases about
          exact .inl rfl

theorem actOn_length (index : Nat) (action : Action) (world : World) :
    (actOn index action world).sessions.length = world.sessions.length := by
  rcases actOn_cases index action world with unchanged | ⟨session, _, changed⟩
  · rw [unchanged]
  · rw [changed]
    exact List.length_set

theorem inTurn {world : World} (all : ∀ session ∈ world.sessions, Follows session)
    (action : Action) : InTurn world action := by
  constructor
  · intro session new
    have nothing : ∀ index, session ∉ (actOn index action world).sessions.drop
        world.sessions.length := by
      intro index impossible
      rw [List.drop_eq_nil_of_le (actOn_length index action world).le] at impossible
      cases impossible
    cases action with
    | newConnection virtualMonitor monitorIndex replied =>
        simp only [step, List.drop_left, List.mem_singleton] at new
        rw [new, start_calls]
    | response other _ _ _ _ => exact absurd new (nothing other)
    | pipeWireFinished other _ _ => exact absurd new (nothing other)
    | closed other => exact absurd new (nothing other)
    | destroy other => exact absurd new (nothing other)
  · intro index session after before found called
    rcases step_session before found with rfl | ⟨about, rfl⟩
    · exact absurd rfl called
    · exact (all session (List.mem_of_getElem? before)).act_calls about world.config called

/-! ### Every run -/

/-- What a live session waits for, what it has started and whether it has failed before
that add up to one. -/
def outcomes (session : Session) : Nat :=
  session.requests.length + session.watchers.length + session.sources.length +
    if session.sources = [] then session.errors else 0

theorem Follows.outcomes {session : Session} (follows : Follows session)
    (alive : session.destroyed = false) : outcomes session = 1 := by
  obtain ⟨phase, token, count, stands⟩ := follows.stands alive
  have errors := stands.phase.errors
  rw [PortalSession.outcomes, stands.phase.requests, stands.phase.watchers, stands.phase.sources]
  cases phase with
  | waiting name => exact congrArg (1 + ·) errors
  | opening streams => exact congrArg (1 + ·) errors
  | started source => rfl
  | failed => exact congrArg (0 + ·) errors

theorem follows_step (world : World) (action : Action)
    (all : ∀ session ∈ world.sessions, Follows session) :
    ∀ session ∈ (step world action).sessions, Follows session := by
  refine step_invariant (fun _ _ => True) start_follows ?_ world action all fun _ _ => trivial
  intro action session config follows _
  exact follows.act action config

/-- Whatever the portal answers and in whatever order, every session calls it in the
order of the start, each time after the call before has succeeded, and then only when it
is destroyed; until then it waits for one answer, or has started once, or has reported one
error; and it never picks a stream that is not there. -/
theorem startup_in_order (actions : List Action) :
    StepRun.Always step (fun world => ∀ session ∈ world.sessions,
      session.valid = true ∧
        (∃ token count, session.calls = (handshake session token).take count ++ goodbye session) ∧
        (session.destroyed = false → outcomes session = 1)) {} actions ∧
      StepRun.Along step InTurn {} actions := by
  have none : ∀ session ∈ ({} : World).sessions, Follows session :=
    fun session impossible => absurd impossible List.not_mem_nil
  constructor
  · refine StepRun.always_of_invariant (fun world => ∀ session ∈ world.sessions, Follows session)
      none ?_ ?_ actions
    · intro world action all
      exact follows_step world action all
    · intro world all session member
      have follows := all session member
      obtain ⟨token, count, calls, _⟩ := follows.calls
      exact ⟨follows.sane.valid, ⟨token, count, calls⟩, follows.outcomes⟩
  · refine StepRun.along_of_invariant (fun world => ∀ session ∈ world.sessions, Follows session)
      none ?_ ?_ actions
    · intro world action all
      exact follows_step world action all
    · intro world action all
      exact inTurn all action

end PortalSession

end KRdp
