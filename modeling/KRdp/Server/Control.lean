/-
Who controls the sessions of krdpserver.

Each connection has an input handler of its own and a wrapper that sends the
handler's events to the session.  Handlers start disabled; the login of a user is
signalled, and nothing in the server is connected to that signal.
-/

import KRdp.Library.Run
import KRdp.Input.Handler
import KRdp.RdpConnection.PostConnect

namespace KRdp

namespace SessionController

open Clipboard (QString)
open Input (KeyMaps ClientInput QInputEvent InputHandler)
open RdpConnection (Identity Login onPostConnect)

structure Connection where
  id : Nat
  inputHandler : InputHandler := {}
  login : Login := {}

/-- The connection has emitted authenticated for a user who may control. -/
def Connection.authorised (connection : Connection) : Bool :=
  connection.login.authenticated.any fun reported => !reported.readOnly

/-- A session and the connection whose input it gets. -/
structure SessionWrapper where
  connection : Nat
  sentEvents : List QInputEvent := []

/-- An input event of the client, as it was handled. -/
structure Handled where
  connection : Nat
  authorised : Bool
  forwarded : Bool
  deriving DecidableEq, Repr

structure World where
  connections : List Connection := []
  wrappers : List SessionWrapper := []
  created : Nat := 0
  handled : List Handled := []

inductive Action where
  | connect
  | authenticate (connection : Nat) (identity : Identity) (peerAddress : QString)
  | input (connection : Nat) (input : ClientInput)
  | disconnect (connection : Nat)

/-- Keyboard, unicode, mouse and extended mouse events; the synchronisation of
the lock keys is none. -/
def isControl : ClientInput → Bool
  | .synchronize _ => false
  | .mouse _ _ _ | .extendedMouse _ _ _ | .keyboard _ _ | .unicodeKeyboard _ _ => true

def onNewConnection (world : World) : World :=
  { world with
    connections := world.connections ++ [{ id := world.created }]
    wrappers := world.wrappers ++ [{ connection := world.created }]
    created := world.created + 1 }

def postConnect (equalUpToCase : QString → QString → Bool) (users : List User)
    (connection : Nat) (identity : Identity) (peerAddress : QString) (world : World) : World :=
  { world with
    connections := world.connections.map fun each =>
      if each.id = connection then
        { each with login := (onPostConnect equalUpToCase users identity peerAddress each.login).2 }
      else each }

def SessionWrapper.sendEvent (connection : Nat) (event : QInputEvent)
    (wrapper : SessionWrapper) : SessionWrapper :=
  if wrapper.connection = connection then
    { wrapper with sentEvents := wrapper.sentEvents ++ [event] }
  else wrapper

def emitInputEvent (connection : Nat) (event : Option QInputEvent)
    (wrappers : List SessionWrapper) : List SessionWrapper :=
  match event with
  | some event => wrappers.map (SessionWrapper.sendEvent connection event)
  | none => wrappers

def reachesSession (connection : Nat) (event : Option QInputEvent)
    (wrappers : List SessionWrapper) : Bool :=
  event.isSome && wrappers.any fun wrapper => wrapper.connection == connection

def receiveInput (maps : KeyMaps) (connection : Nat) (input : ClientInput) (world : World) :
    World :=
  match world.connections.find? fun each => each.id == connection with
  | none => world
  | some sender =>
      let event := (sender.inputHandler.receive maps input).2
      { world with
        wrappers := emitInputEvent connection event world.wrappers
        handled :=
          if isControl input then
            world.handled ++
              [{ connection
                 authorised := sender.authorised
                 forwarded := reachesSession connection event world.wrappers }]
          else world.handled }

def onConnectionDestroyed (connection : Nat) (world : World) : World :=
  { world with
    connections := world.connections.filter fun each => each.id != connection
    wrappers := world.wrappers.filter fun wrapper => wrapper.connection != connection }

def step (maps : KeyMaps) (equalUpToCase : QString → QString → Bool) (users : List User)
    (world : World) : Action → World
  | .connect => onNewConnection world
  | .authenticate connection identity peerAddress =>
      postConnect equalUpToCase users connection identity peerAddress world
  | .input connection input => receiveInput maps connection input world
  | .disconnect connection => onConnectionDestroyed connection world

/-- An event was forwarded to the session exactly when its connection was
authorised before. -/
def ControlFollows (world : World) : Prop :=
  ∀ handled ∈ world.handled, handled.forwarded = true ↔ handled.authorised = true

/-- The action is no input event of a connection that may control. -/
def NotByController (world : World) : Action → Prop
  | .input connection input =>
      isControl input = true → ∀ sender,
        world.connections.find? (fun each => each.id == connection) = some sender →
          sender.authorised = false
  | .connect | .authenticate _ _ _ | .disconnect _ => True

/-! ### Nothing is forwarded -/

def AllDisabled (world : World) : Prop :=
  ∀ connection ∈ world.connections, connection.inputHandler.enabled = false

section Steps

variable {maps : KeyMaps} {equalUpToCase : QString → QString → Bool} {users : List User}
  {world : World}

theorem AllDisabled.step (disabled : AllDisabled world) (action : Action) :
    AllDisabled (step maps equalUpToCase users world action) := by
  cases action with
  | connect =>
      intro connection member
      rcases List.mem_append.mp member with earlier | latest
      · exact disabled connection earlier
      · rw [List.mem_singleton.mp latest]
  | authenticate connection identity peerAddress =>
      intro each member
      obtain ⟨before, beforeMember, rfl⟩ := List.mem_map.mp member
      have beforeDisabled := disabled before beforeMember
      split <;> exact beforeDisabled
  | input connection input =>
      simp only [SessionController.step, receiveInput]
      split
      · exact disabled
      · exact disabled
  | disconnect connection =>
      intro each member
      exact disabled each (List.mem_of_mem_filter member)

/-- What one action adds to the record of handled events. -/
def handledBy (maps : KeyMaps) (world : World) : Action → List Handled
  | .input connection input =>
      match world.connections.find? fun each => each.id == connection with
      | none => []
      | some sender =>
          if isControl input then
            [{ connection
               authorised := sender.authorised
               forwarded := reachesSession connection (sender.inputHandler.receive maps input).2
                 world.wrappers }]
          else []
  | .connect | .authenticate _ _ _ | .disconnect _ => []

theorem step_handled (action : Action) :
    (step maps equalUpToCase users world action).handled =
      world.handled ++ handledBy maps world action := by
  cases action with
  | connect => exact (List.append_nil _).symm
  | authenticate connection identity peerAddress => exact (List.append_nil _).symm
  | disconnect connection => exact (List.append_nil _).symm
  | input connection input =>
      simp only [SessionController.step, receiveInput, handledBy]
      split
      · exact (List.append_nil _).symm
      · by_cases control : isControl input = true
        · simp only [if_pos control]
        · simp only [if_neg control, List.append_nil]

theorem AllDisabled.not_forwarded (disabled : AllDisabled world) {action : Action}
    {handled : Handled} (member : handled ∈ handledBy maps world action) :
    handled.forwarded = false := by
  cases action with
  | connect => cases member
  | authenticate connection identity peerAddress => cases member
  | disconnect connection => cases member
  | input connection input =>
      simp only [handledBy] at member
      split at member
      · cases member
      · rename_i sender found
        split at member
        · rw [List.mem_singleton.mp member]
          have silent := InputHandler.receive_disabled
            (disabled sender (List.mem_of_find?_eq_some found)) maps input
          simp only [reachesSession, silent, Option.isSome_none, Bool.false_and]
        · cases member

theorem handledBy_authorised_iff (action : Action) :
    (∀ handled ∈ handledBy maps world action, handled.authorised = false) ↔
      NotByController world action := by
  cases action with
  | connect => simp [handledBy, NotByController]
  | authenticate connection identity peerAddress => simp [handledBy, NotByController]
  | disconnect connection => simp [handledBy, NotByController]
  | input connection input =>
      simp only [handledBy, NotByController]
      cases world.connections.find? fun each => each.id == connection with
      | none => simp
      | some sender =>
          by_cases control : isControl input = true
          · simp [control]
          · simp [control]

end Steps

/-- The state of a run that has met the condition so far. -/
structure Uncontrolled (world : World) : Prop where
  disabled : AllDisabled world
  handled : ∀ handled ∈ world.handled,
    handled.forwarded = false ∧ handled.authorised = false

/-- Over every run, control follows authorisation in every state exactly when no
input event comes from a connection that may control. -/
theorem controlFollows_iff (maps : KeyMaps) (equalUpToCase : QString → QString → Bool)
    (users : List User) (actions : List Action) :
    StepRun.Always (step maps equalUpToCase users) ControlFollows {} actions ↔
      StepRun.Along (step maps equalUpToCase users) NotByController {} actions := by
  apply StepRun.always_iff_along Uncontrolled
  · constructor
    · intro connection member
      cases member
    · intro handled member
      cases member
  · intro world action uncontrolled condition
    constructor
    · exact uncontrolled.disabled.step action
    · rw [step_handled]
      intro handled member
      rcases List.mem_append.mp member with earlier | latest
      · exact uncontrolled.handled handled earlier
      · exact ⟨uncontrolled.disabled.not_forwarded latest,
          (handledBy_authorised_iff action).mpr condition handled latest⟩
  · intro world uncontrolled handled member
    obtain ⟨kept, unauthorised⟩ := uncontrolled.handled handled member
    rw [kept, unauthorised]
  · intro world action uncontrolled missed follows
    apply missed
    have unauthorised : (∀ handled ∈ handledBy maps world action, handled.authorised = false) →
        NotByController world action := (handledBy_authorised_iff action).mp
    apply unauthorised
    intro handled latest
    have member : handled ∈ (step maps equalUpToCase users world action).handled := by
      rw [step_handled]
      exact List.mem_append_right _ latest
    have kept := uncontrolled.disabled.not_forwarded latest
    cases authorised : handled.authorised with
    | false => rfl
    | true =>
        rw [(follows handled member).mpr authorised] at kept
        cases kept

/-! ### A user who may control presses a key -/

def deafMaps : KeyMaps :=
  { virtualKeyCodeFromVirtualScanCode := fun scanCode => scanCode
    keycodeFromVirtualKeyCode := fun virtualCode => virtualCode
    utf32ToKeysym := fun code => code }

def aliceTypes : List Action :=
  [.connect, .authenticate 0 (.ofName RdpConnection.capitalAlice.name) [],
    .input 0 (.keyboard 0 0x1E)]

/-- The user may control the session, and the key never gets there. -/
theorem controlFollows_fails :
    let world := StepRun.run
      (step deafMaps RdpConnection.equalLatin [RdpConnection.capitalAlice]) {} aliceTypes
    world.handled = [{ connection := 0, authorised := true, forwarded := false }] ∧
      ¬ControlFollows world := by
  intro world
  have handledEq : world.handled =
      [{ connection := 0, authorised := true, forwarded := false }] := by decide
  refine ⟨handledEq, ?_⟩
  intro follows
  have kept := (follows { connection := 0, authorised := true, forwarded := false }
    (by rw [handledEq]; exact List.mem_singleton_self _)).mpr rfl
  cases kept

end SessionController

end KRdp
