/-
Keys and buttons held at the compositor.

Events of the client pass two gates on their way to the portal: the input of the
connection is enabled and the encoded stream is active.  The model keeps what the
client holds down next to what the compositor has been told, and decides exactly
when the second stays within the first.
-/

import KRdp.Library.Run
import KRdp.Library.Cover
import KRdp.Input.Handler

namespace KRdp

namespace Input

/-! ### The portal -/

def btnLeft : UInt32 := 0x110

def btnRight : UInt32 := 0x111

def btnMiddle : UInt32 := 0x112

/-- The calls of the remote desktop portal.  The position of a motion is the one
before it is scaled to the logical size. -/
inductive PortalCall where
  | notifyPointerButton (button state : UInt32)
  | notifyPointerMotionAbsolute (x y : UInt16)
  | notifyPointerAxisDiscrete (axis : UInt32) (steps : Int)
  | notifyKeyboardKeycode (keycode state : UInt32)
  | notifyKeyboardKeysym (keysym state : UInt32)
  deriving DecidableEq, Repr

def portalButton : MouseButton → Option UInt32
  | .leftButton => some btnLeft
  | .middleButton => some btnMiddle
  | .rightButton => some btnRight
  | .noButton | .backButton | .forwardButton => none

def pointerButton (button : MouseButton) (state : UInt32) : Option PortalCall :=
  (portalButton button).map fun button => .notifyPointerButton button state

def keyboardKey (nativeScanCode nativeVirtualKey state : UInt32) : PortalCall :=
  if nativeScanCode ≠ 0 then .notifyKeyboardKeycode nativeScanCode state
  else .notifyKeyboardKeysym nativeVirtualKey state

def sendEvent (active : Bool) (event : QInputEvent) : Option PortalCall :=
  if !active then none
  else
    match event with
    | .mouse .mouseButtonPress _ _ button => pointerButton button 1
    | .mouse .mouseButtonRelease _ _ button => pointerButton button 0
    | .mouse .mouseMove x y _ => some (.notifyPointerMotionAbsolute x y)
    | .wheel _ _ angleDelta => some (.notifyPointerAxisDiscrete 0 (angleDelta.tdiv 120))
    | .key .keyPress nativeScanCode nativeVirtualKey =>
        some (keyboardKey nativeScanCode nativeVirtualKey 1)
    | .key .keyRelease nativeScanCode nativeVirtualKey =>
        some (keyboardKey nativeScanCode nativeVirtualKey 0)

inductive HostItem where
  | button (code : UInt32)
  | keycode (code : UInt32)
  | keysym (code : UInt32)
  deriving DecidableEq, Repr

/-- What the compositor holds down after a call. -/
def PortalCall.holding (held : HostItem → Bool) : PortalCall → HostItem → Bool
  | .notifyPointerButton button state => Function.update held (.button button) (state != 0)
  | .notifyKeyboardKeycode keycode state => Function.update held (.keycode keycode) (state != 0)
  | .notifyKeyboardKeysym keysym state => Function.update held (.keysym keysym) (state != 0)
  | .notifyPointerMotionAbsolute _ _ | .notifyPointerAxisDiscrete _ _ => held

/-! ### The client -/

inductive PointerButton where
  | button1
  | button2
  | button3
  | xButton1
  | xButton2
  deriving DecidableEq, Repr

def PointerButton.flag : PointerButton → UInt16
  | .button1 => ptrFlagsButton1
  | .button2 => ptrFlagsButton2
  | .button3 => ptrFlagsButton3
  | .xButton1 => ptrXFlagsButton1
  | .xButton2 => ptrXFlagsButton2

def kbdFlagsExtended1 : UInt16 := 0x0200

/-- The flags that belong to the identity of a key. -/
def keyIdentityMask : UInt16 := kbdFlagsExtended ||| kbdFlagsExtended1

inductive ClientItem where
  | key (code : UInt8) (identity : UInt16)
  | character (code : UInt16)
  | pointer (button : PointerButton)
  deriving DecidableEq, Repr

/-- The buttons of a list that the flags of an event name. -/
def namedButtons (flags : UInt16) (buttons : List PointerButton) : List ClientItem :=
  (buttons.filter fun button => hasFlag flags button.flag).map .pointer

namespace ClientInput

/-- The keys and buttons that an event of the client presses or releases. -/
def items : ClientInput → List ClientItem
  | .synchronize _ => []
  | .mouse flags _ _ => namedButtons flags [.button1, .button2, .button3]
  | .extendedMouse flags _ _ => namedButtons flags [.xButton1, .xButton2]
  | .keyboard flags code => [.key code (flags &&& keyIdentityMask)]
  | .unicodeKeyboard _ code => [.character code]

def down : ClientInput → Bool
  | .synchronize _ => false
  | .mouse flags _ _ => hasFlag flags ptrFlagsDown
  | .extendedMouse flags _ _ => hasFlag flags ptrXFlagsDown
  | .keyboard flags _ | .unicodeKeyboard flags _ => !hasFlag flags kbdFlagsRelease

/-- The handler looks at the first button only, and at none in a turn of the wheel
or a motion. -/
def reported (input : ClientInput) : Option ClientItem :=
  match input with
  | .mouse flags _ _ =>
      if takenAsWheel flags || takenAsMotion flags then none else input.items.head?
  | .extendedMouse flags _ _ => if hasFlag flags ptrFlagsMove then none else input.items.head?
  | .synchronize _ | .keyboard _ _ | .unicodeKeyboard _ _ => input.items.head?

end ClientInput

/-- The host key or button that a client item stands for, if the server supports
it. -/
def ClientItem.host (maps : KeyMaps) : ClientItem → Option HostItem
  | .key code identity =>
      let keycode := InputHandler.scanCodeKeycode maps code.toUInt16 identity
      some (if keycode ≠ 0 then .keycode keycode else .keysym 0)
  | .character code =>
      let keysym := maps.utf32ToKeysym (InputHandler.toUcs4 code)
      if keysym = 0 then none else some (.keysym keysym)
  | .pointer .button1 => some (.button btnLeft)
  | .pointer .button2 => some (.button btnRight)
  | .pointer .button3 => some (.button btnMiddle)
  | .pointer .xButton1 | .pointer .xButton2 => none

/-! ### Both sides together -/

structure World where
  handler : InputHandler := {}
  active : Bool := false
  compositor : HostItem → Bool := fun _ => false
  client : ClientItem → Bool := fun _ => false

inductive Action where
  | event (input : ClientInput)
  | setEnabled (enabled : Bool)
  | setActive (active : Bool)
  deriving DecidableEq, Repr

/-- The portal call that an event of the client leads to. -/
def forward (maps : KeyMaps) (input : ClientInput) (world : World) : Option PortalCall :=
  (world.handler.receive maps input).2.bind (sendEvent world.active)

def holdingAfter (held : HostItem → Bool) : Option PortalCall → HostItem → Bool
  | some call => call.holding held
  | none => held

def step (maps : KeyMaps) (world : World) : Action → World
  | .event input =>
      { world with
        compositor := holdingAfter world.compositor (forward maps input world)
        client := holdAll world.client input.items input.down }
  | .setEnabled enabled => { world with handler := world.handler.setEnabled enabled }
  | .setActive active => { world with active := active }

/-- What the compositor holds, the client holds too; so once the client has
released everything, the compositor holds nothing. -/
def NothingStuck (maps : KeyMaps) (world : World) : Prop :=
  Covers (ClientItem.host maps) world.client world.compositor ∧
  ((∀ item, world.client item = false) → ∀ host, world.compositor host = false)

def GatesOpen (world : World) : Prop := world.handler.enabled = true ∧ world.active = true

instance (world : World) : Decidable (GatesOpen world) := inferInstanceAs (Decidable (_ ∧ _))

/-- The host key or button that the portal is told of. -/
def reportedHost (maps : KeyMaps) (world : World) (input : ClientInput) : Option HostItem :=
  if GatesOpen world then input.reported.bind (ClientItem.host maps) else none

/-- A release that the portal is not told of concerns nothing that the compositor
holds, or the client still holds another item for it. -/
def ReleaseHarmless (maps : KeyMaps) (world : World) : Action → Prop
  | .event input =>
      input.down = false → ∀ item ∈ input.items, ∀ host, item.host maps = some host →
        world.compositor host = true → reportedHost maps world input ≠ some host →
          ∃ other, other ∉ input.items ∧ world.client other = true ∧ other.host maps = some host
  | .setEnabled _ | .setActive _ => True

/-! ### One event -/

theorem hasFlag_keyIdentity (flags : UInt16) :
    hasFlag (flags &&& keyIdentityMask) kbdFlagsExtended = hasFlag flags kbdFlagsExtended := by
  have maskEq : keyIdentityMask &&& kbdFlagsExtended = kbdFlagsExtended := by decide
  unfold hasFlag
  rw [UInt16.and_assoc, maskEq]

theorem scanCodeKeycode_identity (maps : KeyMaps) (code flags : UInt16) :
    InputHandler.scanCodeKeycode maps code (flags &&& keyIdentityMask) =
      InputHandler.scanCodeKeycode maps code flags := by
  unfold InputHandler.scanCodeKeycode
  rw [hasFlag_keyIdentity]

theorem forward_closed {maps : KeyMaps} {world : World} (closed : ¬GatesOpen world)
    (input : ClientInput) : forward maps input world = none := by
  unfold forward
  cases enabled : world.handler.enabled with
  | false =>
      rw [InputHandler.receive_disabled enabled]
      rfl
  | true =>
      have inactive : world.active = false := by
        cases active : world.active with
        | false => rfl
        | true => exact absurd ⟨enabled, active⟩ closed
      cases (world.handler.receive maps input).2 <;> simp [sendEvent, inactive]

def keyState (down : Bool) : UInt32 := if down then 1 else 0

theorem sendEvent_key (flags : UInt16) (nativeScanCode nativeVirtualKey : UInt32) :
    sendEvent true (.key (InputHandler.keyEventType flags) nativeScanCode nativeVirtualKey) =
      some (keyboardKey nativeScanCode nativeVirtualKey
        (keyState (!hasFlag flags kbdFlagsRelease))) := by
  unfold InputHandler.keyEventType
  cases hasFlag flags kbdFlagsRelease <;> rfl

theorem sendEvent_button (button : MouseButton) (x y : UInt16) (down : Bool) :
    sendEvent true (.mouse (if down then .mouseButtonPress else .mouseButtonRelease) x y button) =
      pointerButton button (keyState down) := by
  cases down <;> rfl

theorem keyState_ne_zero (down : Bool) : (keyState down != 0) = down := by
  cases down <;> rfl

theorem keyboardKey_holding (held : HostItem → Bool) (nativeScanCode nativeVirtualKey : UInt32)
    (down : Bool) :
    holdingAfter held (some (keyboardKey nativeScanCode nativeVirtualKey (keyState down))) =
      holdAll held
        [if nativeScanCode ≠ 0 then .keycode nativeScanCode else .keysym nativeVirtualKey]
        down := by
  rw [holdAll_singleton]
  unfold keyboardKey
  split <;> simp only [holdingAfter, PortalCall.holding, keyState_ne_zero]

theorem pointerButton_holding (held : HostItem → Bool) (button : MouseButton) (down : Bool) :
    holdingAfter held (pointerButton button (keyState down)) =
      holdAll held ((portalButton button).map .button).toList down := by
  unfold pointerButton
  cases portalButton button with
  | none => rfl
  | some code =>
      rw [Option.map_some, Option.map_some, Option.toList_some, holdAll_singleton]
      simp only [holdingAfter, PortalCall.holding, keyState_ne_zero]

/-- The host button of the first button that the flags name is the one that the
session knows for the button of the event. -/
theorem firstNamed_host (maps : KeyMaps) (flags : UInt16) :
    (namedButtons flags [.button1, .button2, .button3]).head?.bind (ClientItem.host maps) =
      (portalButton (InputHandler.pressedButton flags)).map .button := by
  unfold namedButtons InputHandler.pressedButton
  cases first : hasFlag flags ptrFlagsButton1 with
  | true => simp [PointerButton.flag, first, ClientItem.host, portalButton]
  | false =>
      cases second : hasFlag flags ptrFlagsButton2 with
      | true => simp [PointerButton.flag, first, second, ClientItem.host, portalButton]
      | false =>
          cases third : hasFlag flags ptrFlagsButton3 <;>
            simp [PointerButton.flag, first, second, third, ClientItem.host, portalButton]

theorem xButtons_host (maps : KeyMaps) (flags : UInt16) :
    (namedButtons flags [.xButton1, .xButton2]).head?.bind (ClientItem.host maps) = none := by
  unfold namedButtons
  cases first : hasFlag flags ptrXFlagsButton1 <;> cases second : hasFlag flags ptrXFlagsButton2 <;>
    simp [PointerButton.flag, first, second, ClientItem.host]

section Open

variable {maps : KeyMaps} {world : World}

theorem holdingAfter_mouse (gates : GatesOpen world) (flags x y : UInt16) :
    holdingAfter world.compositor (forward maps (.mouse flags x y) world) =
      holdAll world.compositor
        ((ClientInput.mouse flags x y).reported.bind (ClientItem.host maps)).toList
        (hasFlag flags ptrFlagsDown) := by
  obtain ⟨enabled, active⟩ := gates
  simp only [forward, InputHandler.receive, ClientInput.reported, ClientInput.items, active]
  cases wheel : takenAsWheel flags with
  | true =>
      rw [InputHandler.mouseEvent_of_wheel enabled wheel]
      rfl
  | false =>
      cases motion : takenAsMotion flags with
      | true =>
          rw [InputHandler.mouseEvent_of_motion enabled wheel motion]
          rfl
      | false =>
          rw [InputHandler.mouseEvent_of_button enabled wheel motion, Option.bind_some,
            sendEvent_button, pointerButton_holding, Bool.false_or, if_neg Bool.false_ne_true,
            firstNamed_host]

/-- The session has no call for the buttons of an extended event. -/
theorem holdingAfter_extendedMouse (gates : GatesOpen world) (flags x y : UInt16) :
    holdingAfter world.compositor (forward maps (.extendedMouse flags x y) world) =
      world.compositor := by
  obtain ⟨enabled, active⟩ := gates
  simp only [forward, InputHandler.receive, InputHandler.extendedMouseEvent, enabled, active]
  cases hasFlag flags ptrFlagsMove with
  | true =>
      have wheel : takenAsWheel ptrFlagsMove = false := by decide
      have motion : takenAsMotion ptrFlagsMove = true := by decide
      simp only [Bool.not_true, Bool.false_eq_true, if_false, if_true]
      rw [InputHandler.mouseEvent_of_motion enabled wheel motion]
      rfl
  | false =>
      cases hasFlag flags ptrXFlagsButton1 <;> cases hasFlag flags ptrXFlagsButton2 <;>
        cases hasFlag flags ptrXFlagsDown <;> rfl

theorem extendedMouse_host (maps : KeyMaps) (flags x y : UInt16) :
    (ClientInput.extendedMouse flags x y).reported.bind (ClientItem.host maps) = none := by
  simp only [ClientInput.reported, ClientInput.items]
  cases hasFlag flags ptrFlagsMove with
  | true => rfl
  | false => exact xButtons_host maps flags

/-- With both gates open, the compositor hears of the event for the host key of the
reported item. -/
theorem holdingAfter_open (gates : GatesOpen world) (input : ClientInput) :
    holdingAfter world.compositor (forward maps input world) =
      holdAll world.compositor (input.reported.bind (ClientItem.host maps)).toList
        input.down := by
  cases input with
  | synchronize flags =>
      have sent : forward maps (.synchronize flags) world = none := by
        simp [forward, InputHandler.receive, InputHandler.synchronizeEvent]
      rw [sent]
      rfl
  | mouse flags x y => exact holdingAfter_mouse gates flags x y
  | extendedMouse flags x y =>
      rw [holdingAfter_extendedMouse gates, extendedMouse_host]
      rfl
  | keyboard flags code =>
      obtain ⟨enabled, active⟩ := gates
      have sent : forward maps (.keyboard flags code) world =
          some (keyboardKey (InputHandler.scanCodeKeycode maps code.toUInt16 flags) 0
            (keyState (!hasFlag flags kbdFlagsRelease))) := by
        simp [forward, InputHandler.receive, InputHandler.keyboardEvent, enabled, active,
          sendEvent_key]
      rw [sent, keyboardKey_holding]
      simp only [ClientInput.reported, ClientInput.items, ClientInput.down, List.head?_cons,
        Option.bind_some, ClientItem.host, Option.toList_some, scanCodeKeycode_identity]
  | unicodeKeyboard flags code =>
      obtain ⟨enabled, active⟩ := gates
      simp only [ClientInput.reported, ClientInput.items, ClientInput.down, List.head?_cons,
        Option.bind_some, ClientItem.host]
      by_cases unknown : maps.utf32ToKeysym (InputHandler.toUcs4 code) = 0
      · have sent : forward maps (.unicodeKeyboard flags code) world = none := by
          simp [forward, InputHandler.receive, InputHandler.unicodeKeyboardEvent, enabled,
            unknown]
        rw [sent, if_pos unknown]
        rfl
      · have sent : forward maps (.unicodeKeyboard flags code) world =
            some (keyboardKey 0 (maps.utf32ToKeysym (InputHandler.toUcs4 code))
              (keyState (!hasFlag flags kbdFlagsRelease))) := by
          simp [forward, InputHandler.receive, InputHandler.unicodeKeyboardEvent, enabled,
            active, unknown, sendEvent_key]
        rw [sent, if_neg unknown, keyboardKey_holding]
        rfl

end Open

theorem holdingAfter_eq (maps : KeyMaps) (world : World) (input : ClientInput) :
    holdingAfter world.compositor (forward maps input world) =
      holdAll world.compositor (reportedHost maps world input).toList input.down := by
  unfold reportedHost
  by_cases gates : GatesOpen world
  · rw [holdingAfter_open gates, if_pos gates]
  · rw [forward_closed gates, if_neg gates]
    rfl

theorem reported_mem {input : ClientInput} {item : ClientItem}
    (reported : input.reported = some item) : item ∈ input.items := by
  have first : input.items.head? = some item := by
    cases input with
    | mouse flags x y =>
        simp only [ClientInput.reported] at reported
        split at reported
        · cases reported
        · exact reported
    | extendedMouse flags x y =>
        simp only [ClientInput.reported] at reported
        split at reported
        · cases reported
        · exact reported
    | synchronize flags => exact reported
    | keyboard flags code => exact reported
    | unicodeKeyboard flags code => exact reported
  exact List.mem_of_head? first

theorem reportedHost_source {maps : KeyMaps} {world : World} {input : ClientInput}
    {host : HostItem} (reported : reportedHost maps world input = some host) :
    ∃ item ∈ input.items, item.host maps = some host := by
  unfold reportedHost at reported
  split at reported
  · obtain ⟨item, itemReported, hostEq⟩ := Option.bind_eq_some_iff.mp reported
    exact ⟨item, reported_mem itemReported, hostEq⟩
  · cases reported

/-! ### Runs -/

theorem nothingStuck_iff_covers (maps : KeyMaps) (world : World) :
    NothingStuck maps world ↔
      Covers (ClientItem.host maps) world.client world.compositor := by
  constructor
  · intro nothing
    exact nothing.1
  · intro covers
    refine ⟨covers, ?_⟩
    intro released host
    cases held : world.compositor host with
    | false => rfl
    | true =>
        obtain ⟨item, itemHeld, _⟩ := covers host held
        rw [released item] at itemHeld
        cases itemHeld

theorem step_covers_iff {maps : KeyMaps} {world : World}
    (covers : Covers (ClientItem.host maps) world.client world.compositor) (action : Action) :
    Covers (ClientItem.host maps) (step maps world action).client
        (step maps world action).compositor ↔
      ReleaseHarmless maps world action := by
  cases action with
  | setEnabled enabled => exact iff_of_true covers trivial
  | setActive active => exact iff_of_true covers trivial
  | event input =>
      simp only [step, ReleaseHarmless, holdingAfter_eq]
      cases input.down with
      | true =>
          apply iff_of_true
          · apply covers.press
            intro host reported
            exact reportedHost_source (Option.mem_toList.mp reported)
          · intro released
            cases released
      | false =>
          simp only [forall_const, covers.release_iff, Option.mem_toList, ne_eq]

/-- Over every interleaving, nothing is stuck at the compositor in any state
exactly when every release that the portal is not told of is harmless. -/
theorem nothingStuck_iff (maps : KeyMaps) (enabled active : Bool) (actions : List Action) :
    let start : World := { handler := { enabled }, active }
    StepRun.Always (step maps) (NothingStuck maps) start actions ↔
      StepRun.Along (step maps) (ReleaseHarmless maps) start actions := by
  intro start
  apply StepRun.always_iff_along
    (fun world => Covers (ClientItem.host maps) world.client world.compositor)
  · intro host held
    cases held
  · intro world action covers harmless
    exact (step_covers_iff covers action).mpr harmless
  · intro world covers
    exact (nothingStuck_iff_covers maps world).mpr covers
  · intro world action covers harmful stuck
    exact harmful ((step_covers_iff covers action).mp ((nothingStuck_iff_covers _ _).mp stuck))

/-! ### A release while the window is minimised -/

/-- The codes of the key A; other keys are left out. -/
def keyA : KeyMaps :=
  { virtualKeyCodeFromVirtualScanCode := fun scanCode => if scanCode = 0x1E then 0x41 else 0
    keycodeFromVirtualKeyCode := fun virtualCode => if virtualCode = 0x41 then 30 else 0
    utf32ToKeysym := fun code => code }

def minimisedWhileHeld : List Action :=
  [.event (.keyboard 0 0x1E), .setActive false, .event (.keyboard kbdFlagsRelease 0x1E),
    .setActive true]

/-- The release of the key is swallowed, and the compositor keeps holding it. -/
theorem nothingStuck_fails :
    let start : World := { handler := { enabled := true }, active := true }
    (StepRun.run (step keyA) start minimisedWhileHeld).compositor (.keycode 30) = true ∧
      ¬StepRun.Always (step keyA) (NothingStuck keyA) start minimisedWhileHeld := by
  intro start
  have held : (StepRun.run (step keyA) start minimisedWhileHeld).compositor (.keycode 30) =
      true := by decide
  refine ⟨held, ?_⟩
  intro always
  have released : ∀ item,
      (StepRun.run (step keyA) start minimisedWhileHeld).client item = false := by
    intro item
    change holdAll (holdAll (fun _ => false) [ClientItem.key 0x1E 0] true)
      [ClientItem.key 0x1E 0] false item = false
    by_cases member : item ∈ [ClientItem.key 0x1E 0]
    · exact holdAll_of_mem false member
    · rw [holdAll_of_not_mem false member, holdAll_of_not_mem true member]
  rw [always.at_end.2 released (.keycode 30)] at held
  cases held

end Input

end KRdp
