/-
Input of the client as Qt events.

Each handler drops its event while the input of the connection is disabled, and
otherwise translates the wire flags into one event.  The tables behind the key
codes and the key symbols belong to other libraries and are a parameter.
-/

import Mathlib.Data.Nat.Notation

namespace KRdp

namespace Input

/-! ### Wire flags -/

def ptrFlagsWheelNegative : UInt16 := 0x0100

def ptrFlagsWheel : UInt16 := 0x0200

def ptrFlagsMove : UInt16 := 0x0800

def ptrFlagsButton1 : UInt16 := 0x1000

def ptrFlagsButton2 : UInt16 := 0x2000

def ptrFlagsButton3 : UInt16 := 0x4000

def ptrFlagsDown : UInt16 := 0x8000

def wheelRotationMask : UInt16 := 0x01FF

def ptrXFlagsButton1 : UInt16 := 0x0001

def ptrXFlagsButton2 : UInt16 := 0x0002

def ptrXFlagsDown : UInt16 := 0x8000

def kbdFlagsExtended : UInt16 := 0x0100

def kbdFlagsRelease : UInt16 := 0x8000

def kbdExt : UInt32 := 0x0100

def hasFlag (flags mask : UInt16) : Bool := flags &&& mask != 0

/-- The test for a wheel event. -/
def takenAsWheel (flags : UInt16) : Bool :=
  hasFlag flags ptrFlagsWheel || hasFlag flags ptrFlagsWheelNegative

def takenAsMotion (flags : UInt16) : Bool :=
  !hasFlag flags ptrFlagsDown && hasFlag flags ptrFlagsMove

/-! ### Events -/

structure KeyMaps where
  virtualKeyCodeFromVirtualScanCode : UInt32 → UInt32
  keycodeFromVirtualKeyCode : UInt32 → UInt32
  utf32ToKeysym : UInt32 → UInt32

inductive MouseButton where
  | noButton
  | leftButton
  | rightButton
  | middleButton
  | backButton
  | forwardButton
  deriving DecidableEq, Repr

inductive MouseEventType where
  | mouseButtonPress
  | mouseMove
  | mouseButtonRelease
  deriving DecidableEq, Repr

inductive KeyEventType where
  | keyPress
  | keyRelease
  deriving DecidableEq, Repr

inductive QInputEvent where
  | mouse (type : MouseEventType) (x y : UInt16) (button : MouseButton)
  | wheel (x y : UInt16) (angleDelta : Int)
  | key (type : KeyEventType) (nativeScanCode nativeVirtualKey : UInt32)
  deriving DecidableEq, Repr

/-- The calls that FreeRDP makes for input of the client. -/
inductive ClientInput where
  | synchronize (flags : UInt32)
  | mouse (flags x y : UInt16)
  | extendedMouse (flags x y : UInt16)
  | keyboard (flags : UInt16) (code : UInt8)
  | unicodeKeyboard (flags code : UInt16)
  deriving DecidableEq, Repr

/-! ### The handler -/

structure InputHandler where
  enabled : Bool := false
  deriving DecidableEq, Repr

namespace InputHandler

def setEnabled (enabled : Bool) (handler : InputHandler) : InputHandler :=
  { handler with enabled := enabled }

def synchronizeEvent (_flags : UInt32) (handler : InputHandler) : Bool × Option QInputEvent :=
  if !handler.enabled then (true, none) else (true, none)

def pressedButton (flags : UInt16) : MouseButton :=
  if hasFlag flags ptrFlagsButton1 then .leftButton
  else if hasFlag flags ptrFlagsButton2 then .rightButton
  else if hasFlag flags ptrFlagsButton3 then .middleButton
  else .noButton

/-- The rotation is a nine-bit two's complement; the sign is turned around. -/
def wheelAxis (flags : UInt16) : Int :=
  let axis := flags &&& wheelRotationMask
  let axis : Int :=
    if hasFlag axis ptrFlagsWheelNegative then (~~~axis &&& wheelRotationMask).toNat + 1
    else axis.toNat
  axis * (if hasFlag flags ptrFlagsWheelNegative then 1 else -1)

def mouseEvent (x y flags : UInt16) (handler : InputHandler) : Bool × Option QInputEvent :=
  if !handler.enabled then (true, none)
  else
    let button := pressedButton flags
    if hasFlag flags ptrFlagsWheel || hasFlag flags ptrFlagsWheelNegative then
      (true, some (.wheel x y (wheelAxis flags)))
    else if hasFlag flags ptrFlagsDown then (true, some (.mouse .mouseButtonPress x y button))
    else if hasFlag flags ptrFlagsMove then (true, some (.mouse .mouseMove x y button))
    else (true, some (.mouse .mouseButtonRelease x y button))

def extendedMouseEvent (x y flags : UInt16) (handler : InputHandler) :
    Bool × Option QInputEvent :=
  if !handler.enabled then (true, none)
  else if hasFlag flags ptrFlagsMove then mouseEvent x y ptrFlagsMove handler
  else
    let button : Option MouseButton :=
      if hasFlag flags ptrXFlagsButton1 then some .backButton
      else if hasFlag flags ptrXFlagsButton2 then some .forwardButton
      else none
    match button with
    | none => (false, none)
    | some button =>
        if hasFlag flags ptrXFlagsDown then (true, some (.mouse .mouseButtonPress x y button))
        else (true, some (.mouse .mouseButtonRelease x y button))

def keyEventType (flags : UInt16) : KeyEventType :=
  if hasFlag flags kbdFlagsRelease then .keyRelease else .keyPress

def scanCodeKeycode (maps : KeyMaps) (code flags : UInt16) : UInt32 :=
  let extended := hasFlag flags kbdFlagsExtended
  let virtualCode := maps.virtualKeyCodeFromVirtualScanCode
    (if extended then code.toUInt32 ||| kbdExt else code.toUInt32)
  maps.keycodeFromVirtualKeyCode (if extended then virtualCode ||| kbdExt else virtualCode)

def keyboardEvent (maps : KeyMaps) (code flags : UInt16) (handler : InputHandler) :
    Bool × Option QInputEvent :=
  if !handler.enabled then (true, none)
  else (true, some (.key (keyEventType flags) (scanCodeKeycode maps code flags) 0))

/-- The code point of a text of one unit; a lone surrogate is replaced. -/
def toUcs4 (unit : UInt16) : UInt32 :=
  if 0xD800 ≤ unit ∧ unit ≤ 0xDFFF then 0xFFFD else unit.toUInt32

def unicodeKeyboardEvent (maps : KeyMaps) (code flags : UInt16) (handler : InputHandler) :
    Bool × Option QInputEvent :=
  if !handler.enabled then (true, none)
  else
    let keysym := maps.utf32ToKeysym (toUcs4 code)
    if keysym = 0 then (true, none)
    else (true, some (.key (keyEventType flags) 0 keysym))

def receive (maps : KeyMaps) (input : ClientInput) (handler : InputHandler) :
    Bool × Option QInputEvent :=
  match input with
  | .synchronize flags => handler.synchronizeEvent flags
  | .mouse flags x y => handler.mouseEvent x y flags
  | .extendedMouse flags x y => handler.extendedMouseEvent x y flags
  | .keyboard flags code => handler.keyboardEvent maps code.toUInt16 flags
  | .unicodeKeyboard flags code => handler.unicodeKeyboardEvent maps code flags

theorem receive_disabled {handler : InputHandler} (disabled : handler.enabled = false)
    (maps : KeyMaps) (input : ClientInput) : (handler.receive maps input).2 = none := by
  cases input <;>
    simp [receive, synchronizeEvent, mouseEvent, extendedMouseEvent, keyboardEvent,
      unicodeKeyboardEvent, disabled]

section Mouse

variable {flags : UInt16} {handler : InputHandler}

theorem mouseEvent_of_wheel (enabled : handler.enabled = true)
    (wheel : takenAsWheel flags = true) (x y : UInt16) :
    (handler.mouseEvent x y flags).2 = some (.wheel x y (wheelAxis flags)) := by
  unfold takenAsWheel at wheel
  simp [mouseEvent, enabled, wheel]

theorem mouseEvent_of_motion (enabled : handler.enabled = true)
    (wheel : takenAsWheel flags = false) (motion : takenAsMotion flags = true) (x y : UInt16) :
    (handler.mouseEvent x y flags).2 = some (.mouse .mouseMove x y (pressedButton flags)) := by
  unfold takenAsWheel at wheel
  simp only [takenAsMotion, Bool.and_eq_true, Bool.not_eq_true'] at motion
  simp [mouseEvent, enabled, wheel, motion]

/-- Any other event is a press or a release. -/
theorem mouseEvent_of_button (enabled : handler.enabled = true)
    (wheel : takenAsWheel flags = false) (motion : takenAsMotion flags = false) (x y : UInt16) :
    (handler.mouseEvent x y flags).2 =
      some (.mouse (if hasFlag flags ptrFlagsDown then .mouseButtonPress else .mouseButtonRelease)
        x y (pressedButton flags)) := by
  unfold takenAsWheel at wheel
  unfold takenAsMotion at motion
  cases down : hasFlag flags ptrFlagsDown with
  | true => simp [mouseEvent, enabled, wheel, down]
  | false =>
      rw [down, Bool.not_false, Bool.true_and] at motion
      simp [mouseEvent, enabled, wheel, down, motion]

end Mouse

end InputHandler

end Input

end KRdp
