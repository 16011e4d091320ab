/-
Scrolling through the handler and the portal.

The handler turns the sign of the rotation around and the session divides by the
120 units of a notch, so every vertical wheel event loses the remainder of its
rotation.  The negative flag alone also makes a wheel event, whichever wheel the
client turned, and a horizontal event without it falls through to the buttons.
-/

import KRdp.Input.PortalSession
import Mathlib.Algebra.BigOperators.Group.List.Basic
import Mathlib.Algebra.Ring.Int.Defs
import Mathlib.Data.Nat.Bitwise

namespace KRdp

namespace Input

def ptrFlagsHWheel : UInt16 := 0x0400

structure MousePdu where
  flags : UInt16
  x : UInt16
  y : UInt16
  deriving DecidableEq, Repr

/-- Strictly less than a full notch in either direction. -/
def WithinNotch (units : Int) : Prop := -120 < units ∧ units < 120

instance (units : Int) : Decidable (WithinNotch units) := inferInstanceAs (Decidable (_ ∧ _))

/-- The signed rotation is a nine-bit two's complement. -/
def wheelRotation (flags : UInt16) : Int := (flags.toBitVec.setWidth 9).toInt

namespace MousePdu

def vertical (pdu : MousePdu) : Bool := hasFlag pdu.flags ptrFlagsWheel

def horizontal (pdu : MousePdu) : Bool := hasFlag pdu.flags ptrFlagsHWheel

/-- What the enabled handler emits. -/
def event (pdu : MousePdu) : Option QInputEvent :=
  (InputHandler.mouseEvent pdu.x pdu.y pdu.flags { enabled := true }).2

/-- What the session with an active stream passes on. -/
def call (pdu : MousePdu) : Option PortalCall := pdu.event.bind (sendEvent true)

/-- The vertical axis is the one with number zero. -/
def steps (pdu : MousePdu) : Int :=
  match pdu.call with
  | some (.notifyPointerAxisDiscrete axis steps) => if axis = 0 then steps else 0
  | _ => 0

def rotation (pdu : MousePdu) : Int := if pdu.vertical then wheelRotation pdu.flags else 0

def emitsButton (pdu : MousePdu) : Bool :=
  match pdu.event with
  | some (.mouse .mouseButtonPress _ _ _) => true
  | some (.mouse .mouseButtonRelease _ _ _) => true
  | _ => false

def callsButton (pdu : MousePdu) : Bool :=
  match pdu.call with
  | some (.notifyPointerButton _ _) => true
  | _ => false

end MousePdu

def scrolled (pdus : List MousePdu) : Int := (pdus.map MousePdu.steps).sum

def rotated (pdus : List MousePdu) : Int := (pdus.map MousePdu.rotation).sum

/-- After every event the steps account for the rotations up to less than one
notch, and the horizontal wheel neither scrolls vertically nor acts as a button. -/
structure Conserved (actsAsButton : MousePdu → Bool) (pdus : List MousePdu) : Prop where
  bounded : ∀ handled, handled <+: pdus → WithinNotch (120 * scrolled handled + rotated handled)
  noSteps : ∀ pdu ∈ pdus, pdu.horizontal = true → pdu.steps = 0
  noButton : ∀ pdu ∈ pdus, pdu.horizontal = true → actsAsButton pdu = false

/-! ### What is lost -/

/-- The remainder that a vertical event loses, or what another event with the
negative flag scrolls. -/
def MousePdu.drift (pdu : MousePdu) : Int :=
  if pdu.vertical then (wheelRotation pdu.flags).tmod 120
  else if takenAsWheel pdu.flags then 120 * (-wheelRotation pdu.flags).tdiv 120
  else 0

def driftOf (pdus : List MousePdu) : Int := (pdus.map MousePdu.drift).sum

/-- The drift never reaches a notch, and a horizontal event is either a small
turn that is taken for the vertical wheel or else harmless. -/
structure LossFree (harmless : MousePdu → Bool) (pdus : List MousePdu) : Prop where
  drifted : ∀ handled, handled <+: pdus → WithinNotch (driftOf handled)
  small : ∀ pdu ∈ pdus, pdu.horizontal = true → takenAsWheel pdu.flags = true →
    WithinNotch (wheelRotation pdu.flags)
  harmlessElse : ∀ pdu ∈ pdus, pdu.horizontal = true → takenAsWheel pdu.flags = false →
    harmless pdu = true

/-! ### The rotation of one event -/

theorem toNat_rotationMask (flags : UInt16) :
    (flags &&& wheelRotationMask).toNat = flags.toNat % 512 := by
  rw [UInt16.toNat_and]
  exact Nat.and_two_pow_sub_one_eq_mod flags.toNat 9

theorem hasFlag_negative_iff (flags : UInt16) :
    hasFlag flags ptrFlagsWheelNegative = true ↔ 256 ≤ flags.toNat % 512 := by
  have masked : (flags &&& ptrFlagsWheelNegative).toNat = (flags.toNat.testBit 8).toNat * 256 := by
    rw [UInt16.toNat_and]
    exact Nat.and_two_pow flags.toNat 8
  have bit : flags.toNat.testBit 8 = decide (flags.toNat / 256 % 2 = 1) :=
    Nat.testBit_eq_decide_div_mod_eq
  rw [hasFlag, bne_iff_ne, Ne, ← UInt16.toNat_inj, masked, bit]
  by_cases odd : flags.toNat / 256 % 2 = 1
  · simp only [odd, decide_true, Bool.toNat_true]
    constructor
    · omega
    · exact fun _ => by decide
  · simp only [odd, decide_false, Bool.toNat_false]
    constructor
    · intro nonzero
      exact absurd rfl nonzero
    · omega

theorem wheelRotation_eq (flags : UInt16) :
    wheelRotation flags =
      if hasFlag flags ptrFlagsWheelNegative then (flags.toNat % 512 : Int) - 512
      else flags.toNat % 512 := by
  have low : (flags.toBitVec.setWidth 9).toNat = flags.toNat % 512 := BitVec.toNat_setWidth _ _
  rw [wheelRotation, BitVec.toInt_eq_toNat_cond, low]
  by_cases negative : hasFlag flags ptrFlagsWheelNegative = true
  · rw [if_pos negative]
    rw [hasFlag_negative_iff] at negative
    rw [if_neg (by omega)]
    omega
  · rw [if_neg negative]
    rw [hasFlag_negative_iff] at negative
    rw [if_pos (by omega)]
    omega

/-- The handler turns the rotation around. -/
theorem wheelAxis_eq (flags : UInt16) : InputHandler.wheelAxis flags = -wheelRotation flags := by
  have axisNat := toNat_rotationMask flags
  have signBit : hasFlag (flags &&& wheelRotationMask) ptrFlagsWheelNegative =
      hasFlag flags ptrFlagsWheelNegative := by
    have mask : wheelRotationMask &&& ptrFlagsWheelNegative = ptrFlagsWheelNegative := by decide
    unfold hasFlag
    rw [UInt16.and_assoc, mask]
  rw [wheelRotation_eq]
  unfold InputHandler.wheelAxis
  simp only [signBit]
  by_cases negative : hasFlag flags ptrFlagsWheelNegative = true
  · have complement : (~~~(flags &&& wheelRotationMask) &&& wheelRotationMask).toNat =
        511 - flags.toNat % 512 := by
      rw [toNat_rotationMask, UInt16.toNat_not, axisNat]
      have size : UInt16.size = 65536 := rfl
      omega
    simp only [if_pos negative, complement]
    omega
  · simp only [if_neg negative, axisNat]
    omega

/-! ### One event -/

theorem event_of_wheel {pdu : MousePdu} (wheel : takenAsWheel pdu.flags = true) :
    pdu.event = some (.wheel pdu.x pdu.y (-wheelRotation pdu.flags)) := by
  rw [← wheelAxis_eq]
  exact InputHandler.mouseEvent_of_wheel rfl wheel pdu.x pdu.y

theorem event_of_not_wheel {pdu : MousePdu} (wheel : takenAsWheel pdu.flags = false) :
    ∃ type, pdu.event = some (.mouse type pdu.x pdu.y (InputHandler.pressedButton pdu.flags)) ∧
      (type = .mouseMove ↔ takenAsMotion pdu.flags = true) := by
  cases motion : takenAsMotion pdu.flags with
  | true =>
      exact ⟨.mouseMove, InputHandler.mouseEvent_of_motion rfl wheel motion pdu.x pdu.y,
        iff_of_true rfl rfl⟩
  | false =>
      refine ⟨_, InputHandler.mouseEvent_of_button rfl wheel motion pdu.x pdu.y, ?_⟩
      cases hasFlag pdu.flags ptrFlagsDown <;> decide

theorem steps_of_wheel {pdu : MousePdu} (wheel : takenAsWheel pdu.flags = true) :
    pdu.steps = (-wheelRotation pdu.flags).tdiv 120 := by
  simp only [MousePdu.steps, MousePdu.call, event_of_wheel wheel, Option.bind_some, sendEvent,
    Bool.not_true, Bool.false_eq_true, if_false, if_true]

theorem steps_of_not_wheel {pdu : MousePdu} (wheel : takenAsWheel pdu.flags = false) :
    pdu.steps = 0 := by
  obtain ⟨type, eventEq, _⟩ := event_of_not_wheel wheel
  unfold MousePdu.steps MousePdu.call
  rw [eventEq]
  cases type with
  | mouseMove => rfl
  | mouseButtonPress =>
      cases InputHandler.pressedButton pdu.flags <;> rfl
  | mouseButtonRelease =>
      cases InputHandler.pressedButton pdu.flags <;> rfl

theorem takenAsWheel_of_vertical {pdu : MousePdu} (vertical : pdu.vertical = true) :
    takenAsWheel pdu.flags = true := by
  unfold MousePdu.vertical at vertical
  rw [takenAsWheel, vertical, Bool.true_or]

/-- A vertical event accounts for its rotation up to the remainder; any other
event adds what it scrolls. -/
theorem steps_add_rotation (pdu : MousePdu) : 120 * pdu.steps + pdu.rotation = pdu.drift := by
  unfold MousePdu.rotation MousePdu.drift
  by_cases vertical : pdu.vertical = true
  · rw [if_pos vertical, if_pos vertical, steps_of_wheel (takenAsWheel_of_vertical vertical),
      Int.neg_tdiv]
    have division := Int.mul_tdiv_add_tmod (wheelRotation pdu.flags) 120
    omega
  · rw [if_neg vertical, if_neg vertical]
    cases wheel : takenAsWheel pdu.flags with
    | true => rw [steps_of_wheel wheel, if_pos rfl, Int.add_zero]
    | false => rw [steps_of_not_wheel wheel, if_neg Bool.false_ne_true, Int.mul_zero, Int.add_zero]

theorem steps_eq_zero_iff {pdu : MousePdu} (wheel : takenAsWheel pdu.flags = true) :
    pdu.steps = 0 ↔ WithinNotch (wheelRotation pdu.flags) := by
  rw [steps_of_wheel wheel, Int.neg_tdiv, Int.neg_eq_zero]
  have division := Int.mul_tdiv_add_tmod (wheelRotation pdu.flags) 120
  have below := Int.tmod_lt_of_pos (wheelRotation pdu.flags) (b := 120) (by decide)
  have above := Int.lt_tmod_of_pos (wheelRotation pdu.flags) (b := 120) (by decide)
  constructor
  · intro zero
    rw [zero] at division
    exact ⟨by omega, by omega⟩
  · rintro ⟨low, high⟩
    rcases Int.le_total 0 (wheelRotation pdu.flags) with upward | downward
    · exact Int.tdiv_eq_zero_of_lt upward high
    · have turned := Int.tdiv_eq_zero_of_lt (a := -wheelRotation pdu.flags) (b := 120)
        (by omega) (by omega)
      rw [Int.neg_tdiv] at turned
      omega

theorem quiet_of_wheel {pdu : MousePdu} (wheel : takenAsWheel pdu.flags = true) :
    pdu.emitsButton = false ∧ pdu.callsButton = false := by
  simp [MousePdu.emitsButton, MousePdu.callsButton, MousePdu.call, event_of_wheel wheel, sendEvent]

theorem emitsButton_of_not_wheel {pdu : MousePdu} (wheel : takenAsWheel pdu.flags = false) :
    pdu.emitsButton = !takenAsMotion pdu.flags := by
  obtain ⟨type, eventEq, motion⟩ := event_of_not_wheel wheel
  unfold MousePdu.emitsButton
  rw [eventEq]
  cases type with
  | mouseMove => rw [motion.mp rfl, Bool.not_true]
  | mouseButtonPress =>
      rw [Bool.eq_false_iff.mpr fun moved => absurd (motion.mpr moved) (by decide), Bool.not_false]
  | mouseButtonRelease =>
      rw [Bool.eq_false_iff.mpr fun moved => absurd (motion.mpr moved) (by decide), Bool.not_false]

def noButtonFlag (flags : UInt16) : Bool := InputHandler.pressedButton flags == .noButton

theorem pressedButton_cases (flags : UInt16) :
    InputHandler.pressedButton flags = .leftButton ∨
      InputHandler.pressedButton flags = .rightButton ∨
        InputHandler.pressedButton flags = .middleButton ∨
          InputHandler.pressedButton flags = .noButton := by
  unfold InputHandler.pressedButton
  by_cases first : hasFlag flags ptrFlagsButton1 = true
  · simp [first]
  · by_cases second : hasFlag flags ptrFlagsButton2 = true
    · simp [first, second]
    · by_cases third : hasFlag flags ptrFlagsButton3 = true
      · simp [first, second, third]
      · simp [first, second, third]

theorem pressedButton_supported {flags : UInt16} (flagged : noButtonFlag flags = false) :
    ∃ code, portalButton (InputHandler.pressedButton flags) = some code := by
  unfold noButtonFlag at flagged
  rcases pressedButton_cases flags with isLeft | isRight | isMiddle | isNone
  · exact ⟨btnLeft, by rw [isLeft, portalButton]⟩
  · exact ⟨btnRight, by rw [isRight, portalButton]⟩
  · exact ⟨btnMiddle, by rw [isMiddle, portalButton]⟩
  · rw [isNone] at flagged
    exact absurd flagged (by decide)

/-- The session ignores an event without a button. -/
theorem callsButton_of_not_wheel {pdu : MousePdu} (wheel : takenAsWheel pdu.flags = false) :
    pdu.callsButton = !(takenAsMotion pdu.flags || noButtonFlag pdu.flags) := by
  obtain ⟨type, eventEq, motion⟩ := event_of_not_wheel wheel
  unfold MousePdu.callsButton MousePdu.call
  rw [eventEq]
  cases moved : takenAsMotion pdu.flags with
  | true =>
      rw [motion.mpr moved]
      rfl
  | false =>
      have notMove : type ≠ .mouseMove := fun isMove => by simp [motion.mp isMove] at moved
      cases flagged : noButtonFlag pdu.flags with
      | true =>
          have none : InputHandler.pressedButton pdu.flags = .noButton := eq_of_beq flagged
          rw [none]
          cases type with
          | mouseMove => exact absurd rfl notMove
          | mouseButtonPress => rfl
          | mouseButtonRelease => rfl
      | false =>
          obtain ⟨code, supported⟩ := pressedButton_supported flagged
          cases type with
          | mouseMove => exact absurd rfl notMove
          | mouseButtonPress => simp [sendEvent, pointerButton, supported]
          | mouseButtonRelease => simp [sendEvent, pointerButton, supported]

/-! ### Sequences of events -/

theorem scrolled_add_rotated (pdus : List MousePdu) :
    120 * scrolled pdus + rotated pdus = driftOf pdus := by
  unfold scrolled rotated driftOf
  induction pdus with
  | nil => rfl
  | cons pdu rest ih =>
      have one := steps_add_rotation pdu
      simp only [List.map_cons, List.sum_cons]
      omega

theorem conserved_iff {actsAsButton harmless : MousePdu → Bool}
    (quiet : ∀ pdu : MousePdu, takenAsWheel pdu.flags = true → actsAsButton pdu = false)
    (loud : ∀ pdu : MousePdu, takenAsWheel pdu.flags = false →
      actsAsButton pdu = !harmless pdu) (pdus : List MousePdu) :
    Conserved actsAsButton pdus ↔ LossFree harmless pdus := by
  constructor
  · intro conserved
    refine ⟨?_, ?_, ?_⟩
    · intro handled isPrefix
      rw [← scrolled_add_rotated]
      exact conserved.bounded handled isPrefix
    · intro pdu member horizontal wheel
      exact (steps_eq_zero_iff wheel).mp (conserved.noSteps pdu member horizontal)
    · intro pdu member horizontal wheel
      have silent := conserved.noButton pdu member horizontal
      rw [loud pdu wheel, Bool.not_eq_false'] at silent
      exact silent
  · intro lossFree
    refine ⟨?_, ?_, ?_⟩
    · intro handled isPrefix
      rw [scrolled_add_rotated]
      exact lossFree.drifted handled isPrefix
    · intro pdu member horizontal
      cases wheel : takenAsWheel pdu.flags with
      | true => exact (steps_eq_zero_iff wheel).mpr (lossFree.small pdu member horizontal wheel)
      | false => exact steps_of_not_wheel wheel
    · intro pdu member horizontal
      cases wheel : takenAsWheel pdu.flags with
      | true => exact quiet pdu wheel
      | false =>
          rw [loud pdu wheel, lossFree.harmlessElse pdu member horizontal wheel, Bool.not_true]

/-- Scrolling is conserved exactly when the lost remainders stay below a notch
and every horizontal event is small or harmless.  A button is an event of the
handler in the first part and a call of the portal in the second. -/
theorem scrolling_conserved_iff (pdus : List MousePdu) :
    (Conserved MousePdu.emitsButton pdus ↔
      LossFree (fun pdu => takenAsMotion pdu.flags) pdus) ∧
    (Conserved MousePdu.callsButton pdus ↔
      LossFree (fun pdu => takenAsMotion pdu.flags || noButtonFlag pdu.flags) pdus) :=
  ⟨conserved_iff (fun _ wheel => (quiet_of_wheel wheel).1)
      (fun _ wheel => emitsButton_of_not_wheel wheel) pdus,
    conserved_iff (fun _ wheel => (quiet_of_wheel wheel).2)
      (fun _ wheel => callsButton_of_not_wheel wheel) pdus⟩

/-- A vertical wheel that turns by whole notches loses nothing. -/
theorem lossFree_of_notches (harmless : MousePdu → Bool) {pdus : List MousePdu}
    (verticalOnly : ∀ pdu ∈ pdus, pdu.vertical = true ∧ pdu.horizontal = false)
    (notches : ∀ pdu ∈ pdus, (wheelRotation pdu.flags).tmod 120 = 0) :
    LossFree harmless pdus := by
  have noDrift : ∀ pdu ∈ pdus, pdu.drift = 0 := by
    intro pdu member
    rw [MousePdu.drift, if_pos (verticalOnly pdu member).1, notches pdu member]
  have neverHorizontal : ∀ pdu ∈ pdus, pdu.horizontal ≠ true := by
    intro pdu member
    rw [(verticalOnly pdu member).2]
    exact Bool.false_ne_true
  refine ⟨?_, ?_, ?_⟩
  · intro handled isPrefix
    have allZero : handled.map MousePdu.drift = handled.map fun _ => 0 :=
      List.map_congr_left fun pdu member => noDrift pdu (isPrefix.subset member)
    have still : driftOf handled = 0 := by
      rw [driftOf, allZero]
      simp
    rw [still]
    decide
  · intro pdu member horizontal
    exact absurd horizontal (neverHorizontal pdu member)
  · intro pdu member horizontal
    exact absurd horizontal (neverHorizontal pdu member)

theorem two_halves_not_conserved (actsAsButton : MousePdu → Bool) :
    ¬Conserved actsAsButton [⟨0x0200 ||| 60, 0, 0⟩, ⟨0x0200 ||| 60, 0, 0⟩] := by
  intro conserved
  have bounded := conserved.bounded _ (List.prefix_refl _)
  exact absurd bounded (by decide)

/-- Two half notches scroll by nothing, and a full notch of the horizontal wheel
scrolls vertically in one direction and releases a button in the other. -/
theorem half_notches_lost :
    ¬Conserved MousePdu.emitsButton [⟨0x0200 ||| 60, 0, 0⟩, ⟨0x0200 ||| 60, 0, 0⟩] ∧
    ¬Conserved MousePdu.callsButton [⟨0x0200 ||| 60, 0, 0⟩, ⟨0x0200 ||| 60, 0, 0⟩] ∧
    (MousePdu.mk (0x0400 ||| 0x0188) 0 0).steps = 1 ∧
    (MousePdu.mk (0x0400 ||| 120) 0 0).emitsButton = true :=
  ⟨two_halves_not_conserved _, two_halves_not_conserved _, by decide, by decide⟩

end Input

end KRdp
