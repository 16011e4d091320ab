/-
The start of the sessions of the desktop portal.

Every call names a callback for its response.  The reply to the call itself is waited
for, and an error there is the callback's with the code -1.  The responses arrive in
any order over the sessions, also at one that is destroyed in the meantime, and all
sessions share one restore token.
-/

import KRdp.Library.Run
import KRdp.Session.VirtualMonitor

namespace KRdp

namespace PortalSession

open Clipboard (QString)

/-- `PortalSessionStream`, with the size of its map. -/
structure Stream where
  nodeId : UInt32
  size : QSize := {}
  deriving DecidableEq, Repr

/-- A value that a response lacks is read as its default. -/
structure Results where
  sessionHandle : QString := []
  devices : UInt32 := 0
  restoreToken : QString := []
  streams : List Stream := []
  deriving DecidableEq, Repr

inductive Call where
  | createSession
  | selectDevices (session : QString) (types persistMode : UInt32) (restoreToken : Option QString)
  | selectSources (session : QString) (types : UInt32) (multiple : Option Bool)
  | start (session : QString)
  | openPipeWireRemote (session : QString)
  | notifyKeyboardKeycode (session : QString) (keycode state : UInt32)
  | close (session : QString)
  deriving DecidableEq, Repr

/-- The callback of a `PortalRequest`. -/
inductive Callback where
  | onCreateSession
  | onDevicesSelected
  | onSourcesSelected
  | onSessionStarted
  deriving DecidableEq, Repr

/-- What the encoder and the session are told when the session starts. -/
structure Source where
  nodeId : UInt32
  fd : Int32
  logicalSize : QSize
  deriving DecidableEq, Repr

/-- `requests` are those that wait for their response, and `watchers` those of
`OpenPipeWireRemote`, each with the streams it has captured.  `opened` is the session that
the portal has, and `valid` goes with a failed assertion or an index out of range. -/
structure Session where
  virtualMonitor : Option VirtualMonitor := none
  activeStream : Option Int32 := none
  sessionPath : QString := []
  requests : List Callback := []
  watchers : List (List Stream) := []
  sources : List Source := []
  errors : Nat := 0
  listening : Bool := false
  destroyed : Bool := false
  valid : Bool := true
  calls : List Call := []
  opened : Option QString := none
  deriving DecidableEq

inductive TokenEvent where
  | passed (token : QString)
  | granted (token : QString)
  deriving DecidableEq, Repr

/-- The state file, and the token of an older version in `krdp-serverrc`. -/
structure Config where
  restorationToken : QString := []
  legacyToken : QString := []
  log : List TokenEvent := []
  deriving DecidableEq, Repr

/-! ### What both sessions have -/

def activeStream (session : Session) : Int32 := session.activeStream.getD (-1)

def setActiveStream (stream : Int32) (session : Session) : Session :=
  { session with
    activeStream := some stream
    valid := session.valid && session.virtualMonitor.isNone }

def setVirtualMonitor (virtualMonitor : VirtualMonitor) (session : Session) : Session :=
  { session with
    virtualMonitor := some virtualMonitor
    valid := session.valid && session.activeStream.isNone }

def emitError (session : Session) : Session := { session with errors := session.errors + 1 }

/-! ### The steps of the start -/

def allDevices : UInt32 := 7

def permissionsPersistUntilExplicitlyRevoked : UInt32 := 2

def sourceTypeMonitor : UInt32 := 1

def sourceTypeVirtual : UInt32 := 4

/-- A call with no reply fails with the code -1, for which every callback reports an error. -/
def request (call : Call) (callback : Callback) (replied : Bool) (session : Session) : Session :=
  let session := { session with calls := session.calls ++ [call] }
  if replied then { session with requests := session.requests ++ [callback] }
  else emitError session

def start (replied : Bool) (session : Session) : Session :=
  request .createSession .onCreateSession replied session

/-- The token of the state file, or that of the older version. -/
def restoreToken (config : Config) : QString :=
  if config.restorationToken = [] then config.legacyToken else config.restorationToken

def passToken (config : Config) : Config :=
  if restoreToken config = [] then config
  else { config with log := config.log ++ [.passed (restoreToken config)] }

def grantToken (token : QString) (config : Config) : Config :=
  { config with
    restorationToken := token
    log := config.log ++ [.granted token] }

def selectDevicesCall (session : Session) (config : Config) : Call :=
  .selectDevices session.sessionPath allDevices permissionsPersistUntilExplicitlyRevoked
    (if restoreToken config = [] then none else some (restoreToken config))

def onCreateSession (code : UInt32) (results : Results) (replied : Bool) (session : Session)
    (config : Config) : Session × Config :=
  if code ≠ 0 then (emitError session, config)
  else
    let session := { session with sessionPath := results.sessionHandle }
    (request (selectDevicesCall session config) .onDevicesSelected replied session,
      passToken config)

def selectSourcesCall (session : Session) : Call :=
  match session.virtualMonitor with
  | some _ => .selectSources session.sessionPath sourceTypeVirtual none
  | none =>
      .selectSources session.sessionPath sourceTypeMonitor (some (0 ≤ (activeStream session).toInt))

def onDevicesSelected (code : UInt32) (replied : Bool) (session : Session) : Session :=
  if code ≠ 0 then emitError session
  else request (selectSourcesCall session) .onSourcesSelected replied session

def onSourcesSelected (code : UInt32) (replied : Bool) (session : Session) : Session :=
  if code ≠ 0 then emitError session
  else request (.start session.sessionPath) .onSessionStarted replied session

/-- The token is stored before the streams are looked at. -/
def onSessionStarted (code : UInt32) (results : Results) (session : Session) (config : Config) :
    Session × Config :=
  if code ≠ 0 then (emitError session, config)
  else if results.devices = 0 then (emitError session, config)
  else
    let config := grantToken results.restoreToken config
    if results.streams = [] then (emitError session, config)
    else
      ({ session with
          calls := session.calls ++ [.openPipeWireRemote session.sessionPath]
          watchers := session.watchers ++ [results.streams] },
        config)

/-- The monitor that was asked for, or the first one where there are fewer. -/
def chooseStream (streams : List Stream) (session : Session) : Session :=
  if streams.length ≤ (activeStream session).toInt then setActiveStream 0 session else session

def streamIndex (session : Session) : Nat := (max 0 (activeStream session).toInt).toNat

def pipeWireOpened (streams : List Stream) (fd : Int32) (session : Session) : Session :=
  let session := chooseStream streams session
  match streams[streamIndex session]? with
  | some stream =>
      { session with
        sources := session.sources ++ [{ nodeId := stream.nodeId, fd, logicalSize := stream.size }]
        listening := true }
  | none => { session with valid := false }

def pipeWireFinished (streams : List Stream) (fd : Option Int32) (session : Session) : Session :=
  match fd with
  | some fd => pipeWireOpened streams fd session
  | none => emitError session

def onSessionClosed (session : Session) : Session := emitError session

def modifierKeys : List UInt32 := [29, 97, 42, 54, 56, 100, 125, 126]

def farewell (path : QString) : List Call :=
  modifierKeys.map (fun keycode => .notifyKeyboardKeycode path keycode 0) ++ [.close path]

def destroy (session : Session) : Session :=
  { session with
    calls := session.calls ++ farewell session.sessionPath
    destroyed := true }

/-! ### Runs -/

structure World where
  sessions : List Session := []
  config : Config := {}
  deriving DecidableEq

inductive Action where
  | newConnection (virtualMonitor : Option VirtualMonitor) (monitorIndex : Option Int32)
      (replied : Bool)
  | response (session request : Nat) (code : UInt32) (results : Results) (replied : Bool)
  | pipeWireFinished (session watcher : Nat) (fd : Option Int32)
  | closed (session : Nat)
  | destroy (session : Nat)
  deriving DecidableEq

def makeSession (virtualMonitor : Option VirtualMonitor) (monitorIndex : Option Int32) : Session :=
  match virtualMonitor with
  | some virtualMonitor => setVirtualMonitor virtualMonitor {}
  | none => setActiveStream (monitorIndex.getD (-1)) {}

def callback (name : Callback) (code : UInt32) (results : Results) (replied : Bool)
    (session : Session) (config : Config) : Session × Config :=
  match name with
  | .onCreateSession => onCreateSession code results replied session config
  | .onDevicesSelected => (onDevicesSelected code replied session, config)
  | .onSourcesSelected => (onSourcesSelected code replied session, config)
  | .onSessionStarted => onSessionStarted code results session config

/-- A request is done with its response, and calls back if its session is still there. -/
def onFinished (index : Nat) (name : Callback) (code : UInt32) (results : Results)
    (replied : Bool) (session : Session) (config : Config) : Session × Config :=
  let session :=
    { session with
      requests := session.requests.eraseIdx index
      opened := if name = .onCreateSession ∧ code = 0 then some results.sessionHandle
        else session.opened }
  if session.destroyed then (session, config)
  else callback name code results replied session config

/-- What an action does to the session it is about. -/
def act (action : Action) (session : Session) (config : Config) : Session × Config :=
  match action with
  | .newConnection _ _ _ => (session, config)
  | .response _ request code results replied =>
      match session.requests[request]? with
      | some name => onFinished request name code results replied session config
      | none => (session, config)
  | .pipeWireFinished _ watcher fd =>
      if session.destroyed then (session, config)
      else
        match session.watchers[watcher]? with
        | some streams =>
            (pipeWireFinished streams fd
              { session with watchers := session.watchers.eraseIdx watcher }, config)
        | none => (session, config)
  | .closed _ =>
      if session.listening && !session.destroyed then (onSessionClosed session, config)
      else (session, config)
  | .destroy _ => if session.destroyed then (session, config) else (destroy session, config)

def actOn (index : Nat) (action : Action) (world : World) : World :=
  match world.sessions[index]? with
  | some session =>
      let after := act action session world.config
      { sessions := world.sessions.set index after.1, config := after.2 }
  | none => world

def step (world : World) (action : Action) : World :=
  match action with
  | .newConnection virtualMonitor monitorIndex replied =>
      { world with
        sessions := world.sessions ++ [start replied (makeSession virtualMonitor monitorIndex)] }
  | .response session _ _ _ _ | .pipeWireFinished session _ _ | .closed session
  | .destroy session => actOn session action world

def Action.session : Action → Option Nat
  | .newConnection _ _ _ => none
  | .response session _ _ _ _ | .pipeWireFinished session _ _ | .closed session
  | .destroy session => some session

/-- The session that an action is about. -/
def target (world : World) (action : Action) : Option Session :=
  action.session.bind fun index => world.sessions[index]?

/-- A callback does nothing but report a code other than 0. -/
theorem callback_failed {code : UInt32} (failed : code ≠ 0) (name : Callback) (results : Results)
    (replied : Bool) (session : Session) (config : Config) :
    callback name code results replied session config = (emitError session, config) := by
  cases name with
  | onCreateSession => simp only [callback, onCreateSession, if_pos failed]
  | onDevicesSelected => simp only [callback, onDevicesSelected, if_pos failed]
  | onSourcesSelected => simp only [callback, onSourcesSelected, if_pos failed]
  | onSessionStarted => simp only [callback, onSessionStarted, if_pos failed]

theorem actOn_cases (index : Nat) (action : Action) (world : World) :
    actOn index action world = world ∨
      ∃ session, world.sessions[index]? = some session ∧
        actOn index action world =
          { sessions := world.sessions.set index (act action session world.config).1
            config := (act action session world.config).2 } := by
  unfold actOn
  cases found : world.sessions[index]? with
  | none => exact .inl rfl
  | some session => exact .inr ⟨session, rfl, rfl⟩

/-- An action makes a new session, or changes one session and what all of them share. -/
theorem step_invariant {each : Session → Prop} (met : Action → Session → Prop)
    (initial : ∀ virtualMonitor monitorIndex replied,
      each (start replied (makeSession virtualMonitor monitorIndex)))
    (keeps : ∀ action session config, each session → met action session →
      each (act action session config).1)
    (world : World) (action : Action) (before : ∀ session ∈ world.sessions, each session)
    (condition : ∀ session ∈ target world action, met action session) :
    ∀ session ∈ (step world action).sessions, each session := by
  have acts : ∀ index, action.session = some index →
      ∀ session ∈ (actOn index action world).sessions, each session := by
    intro index about other member
    rcases actOn_cases index action world with unchanged | ⟨session, found, changed⟩
    · exact before other (unchanged ▸ member)
    · rw [changed] at member
      rcases List.mem_or_eq_of_mem_set member with old | rfl
      · exact before other old
      · have aimed : session ∈ target world action := by
          rw [target, about]
          exact found
        exact keeps action session world.config (before session (List.mem_of_getElem? found))
          (condition session aimed)
  cases action with
  | newConnection virtualMonitor monitorIndex replied =>
      intro session member
      rcases List.mem_append.mp member with old | new
      · exact before session old
      · rw [List.mem_singleton.mp new]
        exact initial virtualMonitor monitorIndex replied
  | response index _ _ _ _ => exact acts index rfl
  | pipeWireFinished index _ _ => exact acts index rfl
  | closed index => exact acts index rfl
  | destroy index => exact acts index rfl

/-- The session that an action is about is among the sessions before and changed after. -/
theorem mem_step {world : World} {action : Action} {session : Session}
    (aimed : session ∈ target world action) :
    session ∈ world.sessions ∧
      (act action session world.config).1 ∈ (step world action).sessions := by
  obtain ⟨index, about, found⟩ := Option.bind_eq_some_iff.mp aimed
  have acts : (act action session world.config).1 ∈ (actOn index action world).sessions := by
    unfold actOn
    rw [found]
    have inside := (List.getElem?_eq_some_iff.mp found).1
    exact List.mem_set inside _
  refine ⟨List.mem_of_getElem? found, ?_⟩
  cases action with
  | newConnection _ _ _ => cases about
  | response _ _ _ _ _ =>
      cases about
      exact acts
  | pipeWireFinished _ _ _ =>
      cases about
      exact acts
  | closed _ =>
      cases about
      exact acts
  | destroy _ =>
      cases about
      exact acts

end PortalSession

end KRdp
