/-
Input events of the Plasma session.

Events go to the fake input interface of the compositor, once the interface is
active and both sizes are known.  A key symbol is typed by its key code on the
current keymap, with the modifier of its level pressed or released first.
-/

import KRdp.Input.PortalSession
import KRdp.Plasma.Keymap
import KRdp.Qt.Geometry
import Mathlib.Algebra.Order.Ring.Unbundled.Rat

namespace KRdp

namespace Plasma

open Input

def keyLeftShift : UInt32 := 42

def keyRightAlt : UInt32 := 100

/-- The requests of the fake input interface. -/
inductive FakeInputCall where
  | button (button state : UInt32)
  | pointerMotionAbsolute (x y : Rat)
  | axis (axis : UInt32) (value : Int)
  | keyboardKey (key state : UInt32)
  deriving DecidableEq, Repr

/-- What the session looks at before it forwards anything. -/
structure Gate where
  active : Bool := false
  size : QSize := {}
  logicalSize : QSize := {}
  deriving DecidableEq, Repr

def Gate.passes (gate : Gate) : Bool :=
  gate.active && !gate.size.isEmpty && !gate.logicalSize.isEmpty

/-- The position in the logical coordinates of the captured area. -/
def Gate.logicalPosition (gate : Gate) (x y : UInt16) : Rat × Rat :=
  (((x.toNat : Rat) / gate.size.width.toInt) * gate.logicalSize.width.toInt,
    ((y.toNat : Rat) / gate.size.height.toInt) * gate.logicalSize.height.toInt)

def keyState : KeyEventType → UInt32
  | .keyPress => 1
  | .keyRelease => 0

/-- The keys that are sent before the key of a symbol; higher levels are not
supported. -/
def levelModifiers : Nat → List UInt32
  | 1 => [keyLeftShift]
  | 2 => [keyRightAlt]
  | _ => []

def symbolKeys (code : Code) : List UInt32 := levelModifiers code.level ++ [code.code]

/-- No keymap has been compiled where `xkb` is missing. -/
def lookup (xkb : Option Xkb) (keysym : UInt32) : Option Code :=
  xkb.bind fun xkb => xkb.keycodeFromKeysym keysym

def keyCalls (xkb : Option Xkb) (type : KeyEventType)
    (nativeScanCode nativeVirtualKey : UInt32) : List FakeInputCall :=
  if nativeScanCode ≠ 0 then [.keyboardKey nativeScanCode (keyState type)]
  else
    match lookup xkb nativeVirtualKey with
    | none => []
    | some code => (symbolKeys code).map fun key => .keyboardKey key (keyState type)

def buttonCalls (button : MouseButton) (state : UInt32) : List FakeInputCall :=
  match portalButton button with
  | none => []
  | some code => [.button code state]

def sendEvent (gate : Gate) (xkb : Option Xkb) (event : QInputEvent) : List FakeInputCall :=
  if !gate.passes then []
  else
    match event with
    | .mouse .mouseButtonPress _ _ button => buttonCalls button 1
    | .mouse .mouseButtonRelease _ _ button => buttonCalls button 0
    | .mouse .mouseMove x y _ =>
        [.pointerMotionAbsolute (gate.logicalPosition x y).1 (gate.logicalPosition x y).2]
    | .wheel _ _ angleDelta => [.axis 0 (angleDelta.tdiv 120)]
    | .key type nativeScanCode nativeVirtualKey =>
        keyCalls xkb type nativeScanCode nativeVirtualKey

/-! ### The compositor -/

/-- What the compositor holds down after a request. -/
def FakeInputCall.holding (held : UInt32 → Bool) : FakeInputCall → UInt32 → Bool
  | .keyboardKey key state => Function.update held key (state != 0)
  | .button _ _ | .pointerMotionAbsolute _ _ | .axis _ _ => held

def holdingAfter (held : UInt32 → Bool) (calls : List FakeInputCall) : UInt32 → Bool :=
  calls.foldl FakeInputCall.holding held

theorem sendEvent_closed {gate : Gate} (closed : gate.passes = false) (xkb : Option Xkb)
    (event : QInputEvent) : sendEvent gate xkb event = [] := by
  unfold sendEvent
  rw [closed, Bool.not_false, if_pos rfl]

theorem sendEvent_symbol {gate : Gate} (passes : gate.passes = true) (xkb : Option Xkb)
    (type : KeyEventType) (keysym : UInt32) :
    sendEvent gate xkb (.key type 0 keysym) =
      match lookup xkb keysym with
      | none => []
      | some code => (symbolKeys code).map fun key => .keyboardKey key (keyState type) := by
  simp [sendEvent, passes, keyCalls]

/-- Keys sent with one state are held, or not, and no other key changes. -/
theorem holdingAfter_keys (held : UInt32 → Bool) (keys : List UInt32) (state key : UInt32) :
    holdingAfter held (keys.map fun key => .keyboardKey key state) key =
      if key ∈ keys then state != 0 else held key := by
  induction keys generalizing held with
  | nil => simp [holdingAfter]
  | cons head tail ih =>
      have step : holdingAfter held ((head :: tail).map fun key => .keyboardKey key state) =
          holdingAfter (Function.update held head (state != 0))
            (tail.map fun key => .keyboardKey key state) := rfl
      rw [step, ih]
      by_cases inTail : key ∈ tail
      · rw [if_pos inTail, if_pos (List.mem_cons_of_mem head inTail)]
      · rw [if_neg inTail]
        by_cases same : key = head
        · rw [same, Function.update_self, if_pos List.mem_cons_self]
        · rw [Function.update_of_ne same, if_neg (by simp [same, inTail])]

end Plasma

end KRdp
