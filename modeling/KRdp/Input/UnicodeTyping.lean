/-
Typing by unicode keyboard events.

The client sends a text one UTF-16 code unit at a time, and the handler looks up
a key symbol for every unit on its own.  Each half of a surrogate pair is looked
up as the replacement character, so a text arrives exactly when it stays in the
basic plane or uses only characters without a key symbol.
-/

import KRdp.Input.Handler
import KRdp.Library.Pieces
import KRdp.Library.Utf16

namespace KRdp

namespace Input

open Utf16

structure UnicodePress where
  flags : UInt16
  unit : UInt16
  pressed : hasFlag flags kbdFlagsRelease = false

def UnicodePress.input (press : UnicodePress) : ClientInput :=
  .unicodeKeyboard press.flags press.unit

/-- The events that the handler emits for a sequence of presses. -/
def emitted (maps : KeyMaps) (handler : InputHandler) (presses : List UnicodePress) :
    List QInputEvent :=
  presses.filterMap fun press => (handler.receive maps press.input).2

def keysymPress (keysym : UInt32) : Option QInputEvent :=
  if keysym = 0 then none else some (.key .keyPress 0 keysym)

/-- The key presses that stand for a text. -/
def typed (maps : KeyMaps) (text : List Char) : List QInputEvent :=
  text.filterMap fun scalar => keysymPress (maps.utf32ToKeysym scalar.val)

/-- Neither the characters outside the basic plane nor the replacement character
have a key symbol, or the text stays in the basic plane. -/
def Typable (maps : KeyMaps) (text : List Char) : Prop :=
  ∀ scalar ∈ text, Supplementary scalar →
    maps.utf32ToKeysym scalar.val = 0 ∧ maps.utf32ToKeysym 0xFFFD = 0

instance (maps : KeyMaps) (text : List Char) : Decidable (Typable maps text) :=
  List.decidableBAll (fun _ => _ → _ ∧ _) text

/-! ### One unit -/

theorem isSurrogate_iff (unit : UInt16) :
    IsSurrogate unit ↔ 0xD800 ≤ unit ∧ unit ≤ 0xDFFF := by
  rw [UInt16.le_iff_toNat_le, UInt16.le_iff_toNat_le]
  unfold IsSurrogate
  exact and_congr Iff.rfl Nat.lt_succ_iff

theorem toUcs4_surrogate {unit : UInt16} (surrogate : IsSurrogate unit) :
    InputHandler.toUcs4 unit = 0xFFFD := by
  rw [InputHandler.toUcs4, if_pos ((isSurrogate_iff unit).mp surrogate)]

theorem toUcs4_unit {scalar : Char} (basic : ¬Supplementary scalar) :
    InputHandler.toUcs4 (.ofNat scalar.toNat) = scalar.val := by
  have notSurrogate := not_isSurrogate_unit basic
  rw [isSurrogate_iff] at notSurrogate
  rw [InputHandler.toUcs4, if_neg notSurrogate]
  apply UInt32.toNat_inj.mp
  rw [UInt16.toNat_toUInt32, toNat_unit basic]
  rfl

/-- What the handler types for one code unit. -/
def unitEvent (maps : KeyMaps) (unit : UInt16) : Option QInputEvent :=
  keysymPress (maps.utf32ToKeysym (InputHandler.toUcs4 unit))

theorem receive_press {handler : InputHandler} (enabled : handler.enabled = true)
    (maps : KeyMaps) (press : UnicodePress) :
    (handler.receive maps press.input).2 = unitEvent maps press.unit := by
  have isPress : InputHandler.keyEventType press.flags = .keyPress := by
    rw [InputHandler.keyEventType, press.pressed, if_neg Bool.false_ne_true]
  simp only [InputHandler.receive, UnicodePress.input, InputHandler.unicodeKeyboardEvent, enabled,
    Bool.not_true, Bool.false_eq_true, if_false, isPress, unitEvent, keysymPress]
  split <;> rfl

theorem emitted_eq {handler : InputHandler} (enabled : handler.enabled = true)
    (maps : KeyMaps) (presses : List UnicodePress) :
    emitted maps handler presses = (presses.map UnicodePress.unit).filterMap (unitEvent maps) := by
  rw [List.filterMap_map]
  exact List.filterMap_congr fun press _ => receive_press enabled maps press

/-! ### One character -/

def charEvents (maps : KeyMaps) (scalar : Char) : List QInputEvent :=
  (encodeChar scalar).filterMap (unitEvent maps)

theorem encode_events (maps : KeyMaps) (text : List Char) :
    (encode text).filterMap (unitEvent maps) = text.flatMap (charEvents maps) :=
  List.filterMap_flatMap

theorem typed_eq (maps : KeyMaps) (text : List Char) :
    typed maps text =
      text.flatMap fun scalar => (keysymPress (maps.utf32ToKeysym scalar.val)).toList :=
  List.filterMap_eq_flatMap_toList _ _

theorem charEvents_basic (maps : KeyMaps) {scalar : Char} (basic : ¬Supplementary scalar) :
    charEvents maps scalar = (keysymPress (maps.utf32ToKeysym scalar.val)).toList := by
  unfold charEvents encodeChar
  rw [if_neg basic, List.filterMap_cons, unitEvent, toUcs4_unit basic]
  cases keysymPress (maps.utf32ToKeysym scalar.val) <;> rfl

/-- The two halves of a pair type the replacement character twice. -/
theorem charEvents_supplementary (maps : KeyMaps) {scalar : Char}
    (supplementary : Supplementary scalar) :
    charEvents maps scalar =
      (keysymPress (maps.utf32ToKeysym 0xFFFD)).toList ++
        (keysymPress (maps.utf32ToKeysym 0xFFFD)).toList := by
  have high := toUcs4_surrogate (highSurrogate_isHigh supplementary).isSurrogate
  have low := toUcs4_surrogate (lowSurrogate_isLow scalar).isSurrogate
  unfold charEvents encodeChar
  rw [if_pos supplementary, List.filterMap_cons, List.filterMap_cons, unitEvent, unitEvent, high,
    low]
  cases keysymPress (maps.utf32ToKeysym 0xFFFD) <;> rfl

theorem keysymPress_zero : keysymPress 0 = none := by rw [keysymPress, if_pos rfl]

theorem keysymPress_eq_none_iff (keysym : UInt32) : keysymPress keysym = none ↔ keysym = 0 := by
  unfold keysymPress
  by_cases zero : keysym = 0
  · simp [zero]
  · simp [zero]

theorem length_toList_le_one {α : Type} (value : Option α) : value.toList.length ≤ 1 := by
  cases value <;> simp

/-! ### A whole text -/

theorem charEvents_eq_of_typable {maps : KeyMaps} {text : List Char}
    (typable : Typable maps text) {scalar : Char} (member : scalar ∈ text) :
    charEvents maps scalar = (keysymPress (maps.utf32ToKeysym scalar.val)).toList := by
  by_cases supplementary : Supplementary scalar
  · obtain ⟨noKeysym, noReplacement⟩ := typable scalar member supplementary
    rw [charEvents_supplementary maps supplementary, noKeysym, noReplacement, keysymPress_zero]
    rfl
  · exact charEvents_basic maps supplementary

theorem typable_of_flatMap_eq {maps : KeyMaps} {text : List Char}
    (same : text.flatMap (charEvents maps) =
      text.flatMap fun scalar => (keysymPress (maps.utf32ToKeysym scalar.val)).toList) :
    Typable maps text := by
  have lengths := congrArg List.length same
  intro scalar member supplementary
  have one := length_toList_le_one (keysymPress (maps.utf32ToKeysym scalar.val))
  by_cases noReplacement : maps.utf32ToKeysym 0xFFFD = 0
  · -- the halves of a pair type nothing, so nothing must have been expected either
    have ordered : ∀ other ∈ text, (charEvents maps other).length ≤
        (keysymPress (maps.utf32ToKeysym other.val)).toList.length := by
      intro other _
      by_cases high : Supplementary other
      · simp [charEvents_supplementary maps high, noReplacement, keysymPress_zero]
      · rw [charEvents_basic maps high]
    have equal := Pieces.length_eq_of_flatMap_eq ordered lengths scalar member
    rw [charEvents_supplementary maps supplementary, noReplacement, keysymPress_zero] at equal
    refine ⟨?_, noReplacement⟩
    rw [← keysymPress_eq_none_iff, ← Option.toList_eq_nil_iff]
    exact List.length_eq_zero_iff.mp equal.symm
  · -- a pair types two characters where one is expected at most
    have replaced : (keysymPress (maps.utf32ToKeysym 0xFFFD)).toList.length = 1 := by
      rw [keysymPress, if_neg noReplacement]
      rfl
    have ordered : ∀ other ∈ text, (keysymPress (maps.utf32ToKeysym other.val)).toList.length ≤
        (charEvents maps other).length := by
      intro other _
      by_cases high : Supplementary other
      · rw [charEvents_supplementary maps high, List.length_append, replaced]
        have := length_toList_le_one (keysymPress (maps.utf32ToKeysym other.val))
        omega
      · rw [charEvents_basic maps high]
    have equal := Pieces.length_eq_of_flatMap_eq ordered lengths.symm scalar member
    rw [charEvents_supplementary maps supplementary, List.length_append, replaced] at equal
    omega

/-- A text arrives exactly when no character of it is written as a pair, unless
neither that character nor the replacement character has a key symbol. -/
theorem emitted_eq_typed_iff (maps : KeyMaps) (handler : InputHandler)
    (enabled : handler.enabled = true) (text : List Char) (presses : List UnicodePress)
    (sent : presses.map UnicodePress.unit = encode text) :
    emitted maps handler presses = typed maps text ↔ Typable maps text := by
  rw [emitted_eq enabled, sent, encode_events, typed_eq]
  constructor
  · exact typable_of_flatMap_eq
  · intro typable
    exact List.flatMap_congr fun scalar member => charEvents_eq_of_typable typable member

/-- Every character is its own key symbol. -/
def directKeymap : KeyMaps where
  virtualKeyCodeFromVirtualScanCode code := code
  keycodeFromVirtualKeyCode code := code
  utf32ToKeysym scalar := scalar

def plainPress (unit : UInt16) : UnicodePress := ⟨0, unit, rfl⟩

theorem basic_text_typed :
    emitted directKeymap { enabled := true } [plainPress 0x61, plainPress 0x20AC] =
      typed directKeymap ['a', '€'] :=
  (emitted_eq_typed_iff directKeymap { enabled := true } rfl ['a', '€']
    [plainPress 0x61, plainPress 0x20AC] (by decide)).mpr (by decide)

/-- The pair of one emoji types the replacement character twice. -/
theorem emoji_not_typed :
    [plainPress 0xD83D, plainPress 0xDE00].map UnicodePress.unit = encode ['😀'] ∧
    emitted directKeymap { enabled := true } [plainPress 0xD83D, plainPress 0xDE00] =
      [.key .keyPress 0 0xFFFD, .key .keyPress 0 0xFFFD] ∧
    typed directKeymap ['😀'] = [.key .keyPress 0 0x1F600] ∧
    emitted directKeymap { enabled := true } [plainPress 0xD83D, plainPress 0xDE00] ≠
      typed directKeymap ['😀'] := by
  decide

end Input

end KRdp
