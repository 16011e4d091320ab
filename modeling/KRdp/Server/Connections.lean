/-
The connections of krdpserver, from the socket to their removal.

A connection is put into the list of the server and its session is started at
once; its initialisation is a queued call.  The communication thread reports each
change of the state, and the server, which lives in another thread, is told later
and in order.  It removes a connection when it is told that it has closed.
-/

import KRdp.Library.Registry
import KRdp.Library.Run
import KRdp.RdpConnection.Loop

namespace KRdp

def RdpConnection.State.rank : RdpConnection.State → Nat
  | .initial => 0
  | .starting => 1
  | .running => 2
  | .streaming => 3
  | .closed => 4

namespace Server

open RdpConnection (State Connection Iteration iterate onClose)

/-- The steps at which the initialisation of a connection gives up. -/
inductive InitializeFailure where
  | peerNew
  | contextNew
  | samFile
  | certificate
  | key
  | peerInitialize
  deriving DecidableEq, Repr

inductive Initialization where
  | queued
  | returned (failure : Option InitializeFailure)
  deriving DecidableEq, Repr

/-- Where the communication thread is; it leaves the loop before it closes the
connection. -/
inductive Thread where
  | notStarted
  | created
  | looping
  | leaving
  | finished
  deriving DecidableEq, Repr

inductive CloseReason where
  | none
  | videoInitFailed
  deriving DecidableEq, Repr

/-- A connection of the server; the number of its socket names it. -/
structure Session where
  id : Nat
  connection : Connection := { state := .initial }
  initialization : Initialization := .queued
  peer : Bool := false
  samFileCreated : Bool := false
  thread : Thread := .notStarted

/-- The signal that a connection has changed its state. -/
structure Notification where
  session : Nat
  state : State
  deriving DecidableEq, Repr

/-- A call of close, and whether the connection had a peer. -/
structure CloseCall where
  session : Nat
  reason : CloseReason
  peer : Bool
  deriving DecidableEq, Repr

/-- The handling of a closed connection, with the list before it and after it. -/
structure Removal where
  session : Nat
  before : List Session
  after : List Session

/-- The server; the last three fields observe it. -/
structure World where
  sessions : List Session := []
  created : Nat := 0
  queue : List Notification := []
  emitted : List Notification := []
  closes : List CloseCall := []
  removals : List Removal := []

inductive Action where
  | incomingConnection (errorInStart : Bool)
  | initializeConnection (session : Nat) (failure : Option InitializeFailure)
  | runThread (session : Nat)
  | iteration (session : Nat) (input : Iteration)
  | onClose (session : Nat)
  | videoInitFailed (session : Nat)
  | sessionError (session : Nat)
  | deliver

/-! ### The server and the start of a session -/

def World.findSession (id : Nat) (world : World) : Option Session :=
  Registry.find Session.id id world.sessions

def close (id : Nat) (reason : CloseReason) (world : World) : World :=
  match world.findSession id with
  | none => world
  | some session =>
      { world with
        closes := world.closes ++ [{ session := id, reason, peer := session.peer }] }

@[simp] theorem close_sessions (id : Nat) (reason : CloseReason) (world : World) :
    (close id reason world).sessions = world.sessions := by
  unfold close
  split <;> rfl

@[simp] theorem close_queue (id : Nat) (reason : CloseReason) (world : World) :
    (close id reason world).queue = world.queue := by
  unfold close
  split <;> rfl

/-- What the server does when a connection tells its state. -/
def onStateChanged (world : World) (notification : Notification) : World :=
  if notification.state = .closed then
    let closed := close notification.session .none world
    let sessions := Registry.remove Session.id notification.session closed.sessions
    { closed with
      sessions
      removals := closed.removals ++
        [{ session := notification.session, before := closed.sessions, after := sessions }] }
  else world

theorem onStateChanged_sessions (world : World) (notification : Notification) :
    (onStateChanged world notification).sessions =
      if notification.state = .closed then
        Registry.remove Session.id notification.session world.sessions
      else world.sessions := by
  unfold onStateChanged
  split
  · simp only [close_sessions]
  · rfl

@[simp] theorem onStateChanged_queue (world : World) (notification : Notification) :
    (onStateChanged world notification).queue = world.queue := by
  unfold onStateChanged
  split
  · exact close_queue _ _ _
  · rfl

def World.listed (world : World) : World :=
  { world with
    sessions := world.sessions ++ [{ id := world.created }]
    created := world.created + 1 }

/-- The session of the new connection may report an error before its start
returns, as it does when the screencast protocol is missing. -/
def incomingConnection (errorInStart : Bool) (world : World) : World :=
  if errorInStart then close world.created .none world.listed else world.listed

/-! ### A connection -/

/-- The signal of setState, when the state is another one. -/
def stateChanged (session next : Session) : List Notification :=
  if next.connection.state = session.connection.state then []
  else [{ session := session.id, state := next.connection.state }]

def World.update (session next : Session) (world : World) : World :=
  { world with
    sessions := Registry.store Session.id next world.sessions
    emitted := world.emitted ++ stateChanged session next }

def World.post (notifications : List Notification) (world : World) : World :=
  { world with queue := world.queue ++ notifications }

def Session.initialized (failure : Option InitializeFailure) (session : Session) : Session :=
  { session with
    connection := { session.connection with state := .starting }
    initialization := .returned failure
    peer := failure != some .peerNew
    samFileCreated := failure != some .peerNew && failure != some .contextNew
    thread := if failure = none then .created else .notStarted }

/-- The initialisation runs in the thread of the server, which is told at once. -/
def initializeConnection (failure : Option InitializeFailure) (session : Session)
    (world : World) : World :=
  let next := session.initialized failure
  (stateChanged session next).foldl onStateChanged (world.update session next)

/-- The communication thread changes its connection and leaves the signal in the
queue of the server. -/
def advance (session next : Session) (world : World) : World :=
  (world.update session next).post (stateChanged session next)

def Session.startRunning (session : Session) : Session :=
  { session with
    connection := { session.connection with state := .running }
    thread := .looping }

/-- One iteration of the loop, which a break leaves. -/
def Session.iterate (input : Iteration) (session : Session) : Session :=
  let outcome := RdpConnection.iterate input session.connection
  { session with
    connection := outcome.2
    thread := if outcome.1 then .looping else .leaving }

def Session.finish (session : Session) : Session :=
  { session with
    connection := onClose session.connection
    thread := .finished }

def step (world : World) : Action → World
  | .incomingConnection errorInStart => incomingConnection errorInStart world
  | .initializeConnection id failure =>
      match world.findSession id with
      | none => world
      | some session =>
          if session.initialization = .queued then initializeConnection failure session world
          else world
  | .runThread id =>
      match world.findSession id with
      | none => world
      | some session =>
          if session.thread = .created then advance session session.startRunning world else world
  | .iteration id input =>
      match world.findSession id with
      | none => world
      | some session =>
          if session.thread = .looping then advance session (session.iterate input) world
          else world
  | .onClose id =>
      match world.findSession id with
      | none => world
      | some session =>
          if session.thread = .leaving then advance session session.finish world else world
  | .videoInitFailed id =>
      match world.findSession id with
      | none => world
      | some session =>
          if session.connection.videoStream.gfxContext then close id .videoInitFailed world
          else world
  | .sessionError id => close id .none world
  | .deliver =>
      match world.queue with
      | [] => world
      | notification :: rest => onStateChanged { world with queue := rest } notification

/-! ### What a step does -/

/-- The changes of the server, each with the guard it has passed. -/
inductive Change (world : World) : Action → World → Prop where
  | unchanged (action : Action) : Change world action world
  | listed : Change world (.incomingConnection false) world.listed
  | listedWithError :
      Change world (.incomingConnection true) (close world.created .none world.listed)
  | initialized {id : Nat} {session : Session} (found : world.findSession id = some session)
      (queued : session.initialization = .queued) (failure : Option InitializeFailure) :
      Change world (.initializeConnection id failure)
        (world.update session (session.initialized failure))
  | running {id : Nat} {session : Session} (found : world.findSession id = some session)
      (created : session.thread = .created) :
      Change world (.runThread id) (advance session session.startRunning world)
  | iterated {id : Nat} {session : Session} (found : world.findSession id = some session)
      (looping : session.thread = .looping) (input : Iteration) :
      Change world (.iteration id input) (advance session (session.iterate input) world)
  | finished {id : Nat} {session : Session} (found : world.findSession id = some session)
      (leaving : session.thread = .leaving) :
      Change world (.onClose id) (advance session session.finish world)
  | videoFailed {id : Nat} {session : Session} (found : world.findSession id = some session)
      (opened : session.connection.videoStream.gfxContext = true) :
      Change world (.videoInitFailed id) (close id .videoInitFailed world)
  | errorReported (id : Nat) : Change world (.sessionError id) (close id .none world)
  | delivered {notification : Notification} {rest : List Notification}
      (queue : world.queue = notification :: rest) :
      Change world .deliver (onStateChanged { world with queue := rest } notification)

theorem foldl_onStateChanged {notifications : List Notification}
    (notClosed : ∀ each ∈ notifications, each.state ≠ .closed) (world : World) :
    notifications.foldl onStateChanged world = world := by
  induction notifications with
  | nil => rfl
  | cons head rest ih =>
      rw [List.foldl_cons, onStateChanged, if_neg (notClosed head (List.mem_cons_self ..))]
      exact ih fun each member => notClosed each (List.mem_cons_of_mem _ member)

theorem mem_stateChanged {session next : Session} {each : Notification}
    (member : each ∈ stateChanged session next) :
    next.connection.state ≠ session.connection.state ∧
      each = { session := session.id, state := next.connection.state } := by
  unfold stateChanged at member
  by_cases same : next.connection.state = session.connection.state
  · rw [if_pos same] at member
    cases member
  · rw [if_neg same] at member
    exact ⟨same, List.mem_singleton.mp member⟩

/-- What the server is told at once does not concern it. -/
theorem initializeConnection_eq (failure : Option InitializeFailure) (session : Session)
    (world : World) :
    initializeConnection failure session world =
      world.update session (session.initialized failure) := by
  apply foldl_onStateChanged
  intro each changed isClosed
  rw [(mem_stateChanged changed).2] at isClosed
  cases isClosed

theorem step_change (world : World) (action : Action) :
    Change world action (step world action) := by
  cases action with
  | incomingConnection errorInStart =>
      cases errorInStart with
      | false => exact .listed
      | true => exact .listedWithError
  | initializeConnection id failure =>
      simp only [step]
      split
      · exact .unchanged _
      · rename_i session found
        split
        · rename_i queued
          rw [initializeConnection_eq]
          exact .initialized found queued failure
        · exact .unchanged _
  | runThread id =>
      simp only [step]
      split
      · exact .unchanged _
      · rename_i session found
        split
        · rename_i created
          exact .running found created
        · exact .unchanged _
  | iteration id input =>
      simp only [step]
      split
      · exact .unchanged _
      · rename_i session found
        split
        · rename_i looping
          exact .iterated found looping input
        · exact .unchanged _
  | onClose id =>
      simp only [step]
      split
      · exact .unchanged _
      · rename_i session found
        split
        · rename_i leaving
          exact .finished found leaving
        · exact .unchanged _
  | videoInitFailed id =>
      simp only [step]
      split
      · exact .unchanged _
      · rename_i session found
        split
        · rename_i opened
          exact .videoFailed found opened
        · exact .unchanged _
  | sessionError id => exact .errorReported id
  | deliver =>
      simp only [step]
      split
      · exact .unchanged _
      · rename_i notification rest queue
        exact .delivered queue

/-! ### The positions of a connection -/

/-- What holds of a connection at each position of its thread. -/
def Session.WellFormed (session : Session) : Prop :=
  match session.thread with
  | .notStarted =>
      session.connection.videoStream.gfxContext = false ∧
        match session.initialization with
        | .queued => session.connection.state = .initial ∧ session.peer = false
        | .returned failure =>
            session.connection.state = .starting ∧ failure ≠ none ∧
              session.peer = (failure != some .peerNew)
  | .created =>
      session.initialization = .returned none ∧ session.peer = true ∧
        session.connection.state = .starting
  | .looping | .leaving =>
      session.initialization = .returned none ∧ session.peer = true ∧
        (session.connection.state = .running ∨ session.connection.state = .streaming)
  | .finished =>
      session.initialization = .returned none ∧ session.peer = true ∧
        session.connection.state = .closed

theorem Session.iterate_thread (input : Iteration) (session : Session) :
    (session.iterate input).thread = .looping ∨ (session.iterate input).thread = .leaving := by
  simp only [Session.iterate]
  split
  · exact .inl rfl
  · exact .inr rfl

theorem finishIteration_state (input : Iteration) (connection : Connection) :
    (RdpConnection.finishIteration input connection).2.state = connection.state := by
  have clipboard : (RdpConnection.initializeClipboard input connection).2.state =
      connection.state := by
    unfold RdpConnection.initializeClipboard
    split
    · rfl
    · split <;> rfl
  simp only [RdpConnection.finishIteration]
  split
  · rfl
  · split
    · split
      · exact clipboard
      · exact clipboard
    · rfl

/-- An iteration leaves the state or goes to streaming. -/
theorem iterate_state (input : Iteration) (connection : Connection) :
    (iterate input connection).2.state = connection.state ∨
      (iterate input connection).2.state = .streaming := by
  have read := (RdpConnection.checkFileDescriptor_same input connection).state
  have channels := (RdpConnection.setUpChannels_opens input
    (RdpConnection.checkFileDescriptor input connection)).state
  rw [read] at channels
  simp only [iterate]
  split
  · exact .inl rfl
  · split
    · exact .inl rfl
    · split
      · exact .inl read
      · split
        · rw [finishIteration_state]
          exact channels
        · exact channels

end Server

end KRdp
