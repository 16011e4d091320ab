/-
Modifiers for the typed symbols.

The session presses Shift or AltGr together with the key of a symbol and releases
both together, each time by the keymap it has then, and counts nothing.  The model
keeps the symbols that are pressed next to the keys that the compositor holds, and
decides exactly which runs give every symbol its modifiers and leave nothing held.
-/

import KRdp.Library.Run
import KRdp.Plasma.Session

namespace KRdp

namespace Plasma

open Input StepRun

def wlKeyboardKeymapFormatXkbV1 : UInt32 := 1

/-- An announced keymap: the mapping of its file fails, or the text compiles to a
keymap or to nothing.  A new state has the first layout in effect. -/
def keyboardKeymap (format : UInt32) (mapped : Option (Option Keymap)) (xkb : Option Xkb) :
    Option Xkb :=
  if format ≠ wlKeyboardKeymapFormatXkbV1 then xkb
  else
    match mapped with
    | none => xkb
    | some compiled => compiled.map fun keymap => { keymap := keymap, layout := 0 }

@[ext]
structure Keyboard where
  xkb : Option Xkb
  held : UInt32 → Bool := fun _ => false
  pressed : UInt32 → Bool := fun _ => false

inductive KeyboardAction where
  | key (type : KeyEventType) (keysym : UInt32)
  | keymap (format : UInt32) (mapped : Option (Option Keymap))

def symbolCalls (gate : Gate) (keyboard : Keyboard) (type : KeyEventType) (keysym : UInt32) :
    List FakeInputCall :=
  sendEvent gate keyboard.xkb (.key type 0 keysym)

def keyboardStep (gate : Gate) (keyboard : Keyboard) : KeyboardAction → Keyboard
  | .key type keysym =>
      { keyboard with
        held := holdingAfter keyboard.held (symbolCalls gate keyboard type keysym)
        pressed := Function.update keyboard.pressed keysym (type == .keyPress) }
  | .keymap format mapped => { keyboard with xkb := keyboardKeymap format mapped keyboard.xkb }

@[simp] theorem xkb_key (gate : Gate) (keyboard : Keyboard) (type : KeyEventType)
    (keysym : UInt32) : (keyboardStep gate keyboard (.key type keysym)).xkb = keyboard.xkb := rfl

@[simp] theorem held_key (gate : Gate) (keyboard : Keyboard) (type : KeyEventType)
    (keysym : UInt32) :
    (keyboardStep gate keyboard (.key type keysym)).held =
      holdingAfter keyboard.held (symbolCalls gate keyboard type keysym) := rfl

@[simp] theorem pressed_key (gate : Gate) (keyboard : Keyboard) (type : KeyEventType)
    (keysym : UInt32) :
    (keyboardStep gate keyboard (.key type keysym)).pressed =
      Function.update keyboard.pressed keysym (type == .keyPress) := rfl

/-! ### What is wanted -/

/-- Level one is selected by Shift, level two by AltGr and level three by both. -/
def ModifiersMatch (level : Nat) (held : UInt32 → Bool) : Prop :=
  (held keyLeftShift = true ↔ level = 1 ∨ level = 3) ∧
    (held keyRightAlt = true ↔ level = 2 ∨ level = 3)

/-- There is a keymap, and the symbol lies on the first four levels. -/
def LevelsSupported (keyboard : Keyboard) : KeyboardAction → Prop
  | .key _ keysym =>
      keyboard.xkb.isSome = true ∧
        ∀ code, lookup keyboard.xkb keysym = some code → code.level ≤ 3
  | .keymap _ _ => True

/-- The key of a pressed symbol goes down last, with the modifiers of its level
held before it. -/
def KeyDownRight (gate : Gate) (keyboard : Keyboard) : KeyboardAction → Prop
  | .key .keyPress keysym =>
      ∀ code, lookup keyboard.xkb keysym = some code →
        (symbolCalls gate keyboard .keyPress keysym).getLast? =
            some (.keyboardKey code.code 1) ∧
          ModifiersMatch code.level
            (holdingAfter keyboard.held (symbolCalls gate keyboard .keyPress keysym).dropLast)
  | .key .keyRelease _ | .keymap _ _ => True

def AllReleased (keyboard : Keyboard) : Prop :=
  (∀ keysym, keyboard.pressed keysym = false) → ∀ key, keyboard.held key = false

/-! ### When it is so -/

/-- What must be held before a symbol of the level is pressed; level three presses
no modifier of its own. -/
def HeldFits (held : UInt32 → Bool) : Nat → Prop
  | 0 => held keyLeftShift = false ∧ held keyRightAlt = false
  | 1 => held keyRightAlt = false
  | 2 => held keyLeftShift = false
  | _ => held keyLeftShift = true ∧ held keyRightAlt = true

def PressFits (keyboard : Keyboard) : KeyboardAction → Prop
  | .key .keyPress keysym =>
      ∀ code, lookup keyboard.xkb keysym = some code → HeldFits keyboard.held code.level
  | .key .keyRelease _ | .keymap _ _ => True

/-- The release of the last pressed symbol finds on the current keymap every key
that is held. -/
def ReleaseComplete (keyboard : Keyboard) : KeyboardAction → Prop
  | .key .keyRelease keysym =>
      (∀ other, other ≠ keysym → keyboard.pressed other = false) →
        ∀ key, keyboard.held key = true →
          ∃ code, lookup keyboard.xkb keysym = some code ∧ key ∈ symbolKeys code
  | .key .keyPress _ | .keymap _ _ => True

/-! ### One event -/

theorem holdingAfter_symbol {gate : Gate} (passes : gate.passes = true) (keyboard : Keyboard)
    (type : KeyEventType) (keysym key : UInt32) :
    holdingAfter keyboard.held (symbolCalls gate keyboard type keysym) key = true ↔
      (∃ code, lookup keyboard.xkb keysym = some code ∧ key ∈ symbolKeys code ∧
          type = .keyPress) ∨
        keyboard.held key = true ∧
          ∀ code, lookup keyboard.xkb keysym = some code → key ∉ symbolKeys code := by
  rw [symbolCalls, sendEvent_symbol passes]
  cases found : lookup keyboard.xkb keysym with
  | none => simp [holdingAfter]
  | some code =>
      simp only [holdingAfter_keys, Option.some_inj, exists_eq_left', forall_eq']
      by_cases touched : key ∈ symbolKeys code
      · cases type <;> simp [touched, keyState]
      · simp [touched]

theorem symbolCalls_press {gate : Gate} (passes : gate.passes = true) {keyboard : Keyboard}
    {keysym : UInt32} {code : Code} (found : lookup keyboard.xkb keysym = some code) :
    symbolCalls gate keyboard .keyPress keysym =
      (levelModifiers code.level).map (fun key => .keyboardKey key 1) ++
        [.keyboardKey code.code 1] := by
  rw [symbolCalls, sendEvent_symbol passes, found]
  simp only [symbolKeys, List.map_append, List.map_cons, List.map_nil, keyState]

/-- With its own modifier pressed, a symbol has the modifiers of its level exactly
when the others were held as the level wants them. -/
theorem modifiersMatch_iff {level : Nat} (supported : level ≤ 3) (held : UInt32 → Bool) :
    ModifiersMatch level (holdingAfter held
        ((levelModifiers level).map fun key => .keyboardKey key 1)) ↔
      HeldFits held level := by
  have different : keyLeftShift ≠ keyRightAlt := by decide
  unfold ModifiersMatch
  rw [holdingAfter_keys, holdingAfter_keys]
  match level, supported with
  | 0, _ => simp [levelModifiers, HeldFits]
  | 1, _ => simp [levelModifiers, HeldFits, different.symm]
  | 2, _ => simp [levelModifiers, HeldFits, different]
  | 3, _ => simp [levelModifiers, HeldFits]

theorem keyDownRight_iff {gate : Gate} (passes : gate.passes = true) (keyboard : Keyboard)
    (action : KeyboardAction) (supported : LevelsSupported keyboard action) :
    KeyDownRight gate keyboard action ↔ PressFits keyboard action := by
  match action with
  | .keymap _ _ => exact Iff.rfl
  | .key .keyRelease _ => exact Iff.rfl
  | .key .keyPress keysym =>
      refine forall_congr' fun code => forall_congr' fun found => ?_
      rw [symbolCalls_press passes found, List.getLast?_concat, List.dropLast_concat,
        modifiersMatch_iff (supported.2 code found)]
      exact and_iff_right rfl

theorem allReleased_step_iff {gate : Gate} (passes : gate.passes = true) {keyboard : Keyboard}
    (released : AllReleased keyboard) (action : KeyboardAction) :
    AllReleased (keyboardStep gate keyboard action) ↔ ReleaseComplete keyboard action := by
  match action with
  | .keymap _ _ => exact iff_of_true released trivial
  | .key .keyPress keysym =>
      refine iff_of_true ?_ trivial
      intro nonePressed
      have still := nonePressed keysym
      rw [pressed_key, Function.update_self] at still
      cases still
  | .key .keyRelease keysym =>
      have pressedAfter : (∀ other, (keyboardStep gate keyboard
          (.key .keyRelease keysym)).pressed other = false) ↔
            ∀ other, other ≠ keysym → keyboard.pressed other = false := by
        constructor
        · intro none other different
          rw [← none other, pressed_key, Function.update_of_ne different]
        · intro none other
          by_cases same : other = keysym
          · rw [same, pressed_key, Function.update_self]
            rfl
          · rw [pressed_key, Function.update_of_ne same, none other same]
      refine imp_congr pressedAfter (forall_congr' fun key => ?_)
      rw [held_key, ← Bool.not_eq_true, holdingAfter_symbol passes]
      simp only [reduceCtorEq, and_false, exists_false, false_or, not_and, not_forall, not_not,
        exists_prop]

/-! ### Whole runs -/

def idle (xkb : Option Xkb) : Keyboard := { xkb := xkb }

theorem idle_allReleased (xkb : Option Xkb) : AllReleased (idle xkb) := fun _ _ => rfl

theorem keyDownRight_along_iff {gate : Gate} (passes : gate.passes = true) (start : Keyboard)
    {actions : List KeyboardAction}
    (supported : Along (keyboardStep gate) LevelsSupported start actions) :
    Along (keyboardStep gate) (KeyDownRight gate) start actions ↔
      Along (keyboardStep gate) PressFits start actions :=
  along_iff_along (fun _ => True) trivial supported (fun _ _ _ _ _ => trivial)
    fun keyboard action _ levels => keyDownRight_iff passes keyboard action levels

theorem allReleased_always_iff {gate : Gate} (passes : gate.passes = true) {start : Keyboard}
    (released : AllReleased start) (actions : List KeyboardAction) :
    Always (keyboardStep gate) AllReleased start actions ↔
      Along (keyboardStep gate) ReleaseComplete start actions :=
  always_iff_along AllReleased actions released
    (fun _ action still complete => (allReleased_step_iff passes still action).mpr complete)
    (fun _ still => still)
    (fun _ action still incomplete next =>
      incomplete ((allReleased_step_iff passes still action).mp next))

/-- Every symbol is typed with its modifiers and nothing stays held exactly when
every press finds the other modifiers as its level wants them and every last
release finds all that is held. -/
theorem modifiers_match_iff {gate : Gate} (passes : gate.passes = true) (xkb : Option Xkb)
    {actions : List KeyboardAction}
    (supported : Along (keyboardStep gate) LevelsSupported (idle xkb) actions) :
    Along (keyboardStep gate) (KeyDownRight gate) (idle xkb) actions ∧
        Always (keyboardStep gate) AllReleased (idle xkb) actions ↔
      Along (keyboardStep gate)
        (fun keyboard action => PressFits keyboard action ∧ ReleaseComplete keyboard action)
        (idle xkb) actions := by
  rw [along_and, keyDownRight_along_iff passes _ supported,
    allReleased_always_iff passes (idle_allReleased xkb)]

/-! ### Keymaps that keep the pressed symbols in place -/

/-- A new keymap has the symbols that are pressed where the old one has them. -/
def KeepsPressed (keyboard : Keyboard) : KeyboardAction → Prop
  | .key _ _ => True
  | .keymap format mapped =>
      ∀ keysym, keyboard.pressed keysym = true →
        lookup (keyboardKeymap format mapped keyboard.xkb) keysym = lookup keyboard.xkb keysym

/-- Every held key belongs to a pressed symbol. -/
def Accounted (keyboard : Keyboard) : Prop :=
  ∀ key, keyboard.held key = true →
    ∃ keysym, keyboard.pressed keysym = true ∧
      ∃ code, lookup keyboard.xkb keysym = some code ∧ key ∈ symbolKeys code

theorem accounted_step {gate : Gate} (passes : gate.passes = true) {keyboard : Keyboard}
    (accounted : Accounted keyboard) (action : KeyboardAction)
    (keeps : KeepsPressed keyboard action) : Accounted (keyboardStep gate keyboard action) := by
  match action with
  | .keymap format mapped =>
      intro key held
      obtain ⟨keysym, pressed, code, found, member⟩ := accounted key held
      exact ⟨keysym, pressed, code, (keeps keysym pressed).trans found, member⟩
  | .key .keyPress keysym =>
      intro key held
      rw [held_key, holdingAfter_symbol passes] at held
      rw [xkb_key, pressed_key]
      rcases held with ⟨code, found, member, _⟩ | ⟨before, _⟩
      · exact ⟨keysym, Function.update_self .., code, found, member⟩
      · obtain ⟨other, pressed, code, found, member⟩ := accounted key before
        refine ⟨other, ?_, code, found, member⟩
        by_cases same : other = keysym
        · rw [same, Function.update_self]
          rfl
        · rw [Function.update_of_ne same, pressed]
  | .key .keyRelease keysym =>
      intro key held
      rw [held_key, holdingAfter_symbol passes] at held
      rw [xkb_key, pressed_key]
      rcases held with ⟨_, _, _, isPress⟩ | ⟨before, untouched⟩
      · cases isPress
      · obtain ⟨other, pressed, code, found, member⟩ := accounted key before
        refine ⟨other, ?_, code, found, member⟩
        -- the keys of the released symbol have just been released
        have different : other ≠ keysym := by
          rintro rfl
          exact untouched code found member
        rw [Function.update_of_ne different, pressed]

theorem releaseComplete_of_accounted {keyboard : Keyboard} (accounted : Accounted keyboard)
    (action : KeyboardAction) : ReleaseComplete keyboard action := by
  match action with
  | .keymap _ _ => trivial
  | .key .keyPress _ => trivial
  | .key .keyRelease keysym =>
      intro nonePressed key held
      obtain ⟨other, pressed, code, found, member⟩ := accounted key held
      by_cases same : other = keysym
      · rw [same] at found
        exact ⟨code, found, member⟩
      · rw [nonePressed other same] at pressed
        cases pressed

/-- Nothing stays held while every new keymap keeps the pressed symbols in place. -/
theorem releaseComplete_of_keepsPressed {gate : Gate} (passes : gate.passes = true)
    (xkb : Option Xkb) {actions : List KeyboardAction}
    (keeps : Along (keyboardStep gate) KeepsPressed (idle xkb) actions) :
    Along (keyboardStep gate) ReleaseComplete (idle xkb) actions := by
  have initial : Accounted (idle xkb) := fun _ held => by cases held
  exact along_of_guarded Accounted initial keeps
    (fun _ action accounted kept => accounted_step passes accounted action kept)
    (fun _ action accounted _ => releaseComplete_of_accounted accounted action)

/-! ### One symbol at a time -/

def tap (keysym : UInt32) : List KeyboardAction :=
  [.key .keyPress keysym, .key .keyRelease keysym]

theorem run_tap {gate : Gate} (passes : gate.passes = true) (xkb : Option Xkb)
    (keysym : UInt32) : run (keyboardStep gate) (idle xkb) (tap keysym) = idle xkb := by
  have nothingHeld : (run (keyboardStep gate) (idle xkb) (tap keysym)).held = fun _ => false := by
    funext key
    rw [← Bool.not_eq_true]
    unfold tap
    rw [run_cons, run_cons, run_nil, held_key, holdingAfter_symbol passes, held_key,
      holdingAfter_symbol passes]
    rintro (⟨_, _, _, isPress⟩ | ⟨⟨code, found, member, _⟩ | ⟨before, _⟩, untouched⟩)
    · cases isPress
    · exact untouched code found member
    · cases before
  have nonePressed : (run (keyboardStep gate) (idle xkb) (tap keysym)).pressed =
      fun _ => false := by
    unfold tap
    rw [run_cons, run_cons, run_nil, pressed_key, pressed_key, Function.update_idem]
    exact Function.update_eq_self keysym (fun _ => false)
  exact Keyboard.ext rfl nothingHeld nonePressed

/-- Symbols without level three that are pressed and released one after the other
always fit. -/
theorem taps_fit {gate : Gate} (passes : gate.passes = true) (xkb : Option Xkb)
    {keysyms : List UInt32}
    (levels : ∀ keysym ∈ keysyms, ∀ code, lookup xkb keysym = some code → code.level ≤ 2) :
    Along (keyboardStep gate) PressFits (idle xkb) (keysyms.flatMap tap) := by
  induction keysyms with
  | nil => trivial
  | cons keysym rest ih =>
      rw [List.flatMap_cons, along_append, run_tap passes]
      refine ⟨⟨?_, trivial, trivial⟩, ih fun other member => levels other (by simp [member])⟩
      intro code found
      have low := levels keysym List.mem_cons_self code found
      match code.level, low with
      | 0, _ => exact ⟨rfl, rfl⟩
      | 1, _ => rfl
      | 2, _ => rfl

/-! ### Runs that miss their modifiers -/

def openGate : Gate := { active := true, size := ⟨1, 1⟩, logicalSize := ⟨1, 1⟩ }

/-- Four symbols on the key of A, two on the key of B, and the highest key unused. -/
def letterKeymap : Keymap where
  minKeycode := 38
  maxKeycode := 57
  levels keycode _ :=
    if keycode = 38 then [[0x61], [0x41], [0xE6], [0xC6]]
    else if keycode = 56 then [[0x62], [0x42]]
    else []

def capitalKeymap : Keymap where
  minKeycode := 38
  maxKeycode := 57
  levels keycode _ := if keycode = 38 then [[0x41]] else []

def letters : Option Xkb := some { keymap := letterKeymap, layout := 0 }

theorem letters_capital : lookup letters 0x41 = some ⟨1, 30⟩ := by decide +kernel

theorem letters_small : lookup letters 0x62 = some ⟨0, 48⟩ := by decide +kernel

theorem letters_third : lookup letters 0xC6 = some ⟨3, 30⟩ := by decide +kernel

def capitals : Option Xkb := some { keymap := capitalKeymap, layout := 0 }

theorem capitals_capital : lookup capitals 0x41 = some ⟨0, 30⟩ := by decide +kernel

theorem level_le_three {xkb : Option Xkb} {keysym : UInt32} {known : Code}
    (found : lookup xkb keysym = some known) (low : known.level ≤ 3) :
    ∀ code, lookup xkb keysym = some code → code.level ≤ 3 := by
  intro code same
  rw [found, Option.some_inj] at same
  rw [← same]
  exact low

theorem tap_supported : Along (keyboardStep openGate) LevelsSupported (idle letters) (tap 0x41) :=
  ⟨⟨rfl, level_le_three letters_capital (by decide)⟩,
    ⟨rfl, level_le_three letters_capital (by decide)⟩, trivial⟩

theorem modifiers_match_tap :
    Along (keyboardStep openGate) (KeyDownRight openGate) (idle letters) (tap 0x41) ∧
      Always (keyboardStep openGate) AllReleased (idle letters) (tap 0x41) := by
  have passes : openGate.passes = true := rfl
  refine (modifiers_match_iff passes letters tap_supported).mpr ?_
  rw [along_and]
  constructor
  · have levels : ∀ keysym ∈ [(0x41 : UInt32)], ∀ code,
        lookup letters keysym = some code → code.level ≤ 2 := by
      intro keysym member code found
      rw [List.mem_singleton.mp member, letters_capital, Option.some_inj] at found
      rw [← found]
      decide
    exact taps_fit passes letters levels
  · exact releaseComplete_of_keepsPressed rfl letters ⟨trivial, trivial, trivial⟩

def overlapped : List KeyboardAction := [.key .keyPress 0x41, .key .keyPress 0x62]

def remapped : List KeyboardAction :=
  [.key .keyPress 0x41, .keymap wlKeyboardKeymapFormatXkbV1 (some (some capitalKeymap)),
    .key .keyRelease 0x41]

theorem remapped_shift_held :
    (run (keyboardStep openGate) (idle letters) remapped).held keyLeftShift = true := by
  have pressed : (keyboardStep openGate (idle letters) (.key .keyPress 0x41)).held
      keyLeftShift = true := by
    rw [held_key, holdingAfter_symbol rfl]
    exact Or.inl ⟨⟨1, 30⟩, letters_capital, by decide, rfl⟩
  unfold remapped
  rw [run_cons, run_cons, run_cons, run_nil, held_key, holdingAfter_symbol rfl]
  right
  refine ⟨pressed, fun code found => ?_⟩
  have same : some code = some ⟨0, 30⟩ := found.symm.trans capitals_capital
  rw [Option.some_inj] at same
  rw [same]
  decide

/-- A small letter pressed while a capital is held is typed with Shift, a symbol of
level three is typed without modifiers, and a keymap that comes between a press
and its release leaves Shift held. -/
theorem modifiers_missed :
    (Along (keyboardStep openGate) LevelsSupported (idle letters) overlapped ∧
      ¬Along (keyboardStep openGate) (KeyDownRight openGate) (idle letters) overlapped) ∧
    (Along (keyboardStep openGate) LevelsSupported (idle letters) [.key .keyPress 0xC6] ∧
      ¬Along (keyboardStep openGate) (KeyDownRight openGate) (idle letters)
        [.key .keyPress 0xC6]) ∧
    (Along (keyboardStep openGate) LevelsSupported (idle letters) remapped ∧
      ¬Always (keyboardStep openGate) AllReleased (idle letters) remapped) := by
  refine ⟨⟨?_, ?_⟩, ⟨?_, ?_⟩, ?_, ?_⟩
  · exact ⟨⟨rfl, level_le_three letters_capital (by decide)⟩,
      ⟨rfl, level_le_three letters_small (by decide)⟩, trivial⟩
  · rintro ⟨_, second, _⟩
    obtain ⟨_, shift, _⟩ := second ⟨0, 48⟩ letters_small
    exact absurd (shift.mp (by decide +kernel)) (by decide)
  · exact ⟨⟨rfl, level_le_three letters_third (by decide)⟩, trivial⟩
  · rintro ⟨first, _⟩
    obtain ⟨_, shift, _⟩ := first ⟨3, 30⟩ letters_third
    exact absurd (shift.mpr (Or.inr rfl)) (by decide +kernel)
  · exact ⟨⟨rfl, level_le_three letters_capital (by decide)⟩, trivial,
      ⟨rfl, level_le_three capitals_capital (by decide)⟩, trivial⟩
  · intro always
    have nonePressed : ∀ keysym,
        (run (keyboardStep openGate) (idle letters) remapped).pressed keysym = false := by
      have cleared : (run (keyboardStep openGate) (idle letters) remapped).pressed =
          fun _ => false := by
        unfold remapped
        rw [run_cons, run_cons, run_cons, run_nil, pressed_key]
        show Function.update (Function.update (fun _ => false) 0x41 true) 0x41 false = _
        rw [Function.update_idem]
        exact Function.update_eq_self _ (fun _ => false)
      exact fun keysym => congrFun cleared keysym
    have held := always.at_end nonePressed keyLeftShift
    rw [remapped_shift_held] at held
    cases held

end Plasma

end KRdp
