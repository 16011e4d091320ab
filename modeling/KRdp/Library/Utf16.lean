/-
UTF-16 texts.

A character outside the basic plane is written as a high and a low surrogate.
The decoder joins such a pair and marks every other surrogate as missing, so that
decoding a written text gives back its characters.
-/

import Mathlib.Data.Char

namespace Utf16

def IsHigh (unit : UInt16) : Prop := 0xD800 ≤ unit.toNat ∧ unit.toNat < 0xDC00

def IsLow (unit : UInt16) : Prop := 0xDC00 ≤ unit.toNat ∧ unit.toNat < 0xE000

def IsSurrogate (unit : UInt16) : Prop := 0xD800 ≤ unit.toNat ∧ unit.toNat < 0xE000

instance (unit : UInt16) : Decidable (IsHigh unit) := inferInstanceAs (Decidable (_ ∧ _))

instance (unit : UInt16) : Decidable (IsLow unit) := inferInstanceAs (Decidable (_ ∧ _))

instance (unit : UInt16) : Decidable (IsSurrogate unit) := inferInstanceAs (Decidable (_ ∧ _))

def Supplementary (scalar : Char) : Prop := 0x10000 ≤ scalar.toNat

instance (scalar : Char) : Decidable (Supplementary scalar) := inferInstanceAs (Decidable (_ ≤ _))

def highSurrogate (scalar : Char) : UInt16 := .ofNat (0xD800 + (scalar.toNat - 0x10000) / 0x400)

def lowSurrogate (scalar : Char) : UInt16 := .ofNat (0xDC00 + (scalar.toNat - 0x10000) % 0x400)

def encodeChar (scalar : Char) : List UInt16 :=
  if Supplementary scalar then [highSurrogate scalar, lowSurrogate scalar]
  else [.ofNat scalar.toNat]

def encode (text : List Char) : List UInt16 := text.flatMap encodeChar

def ofPair (high low : UInt16) : Char :=
  .ofNat (0x10000 + (high.toNat - 0xD800) * 0x400 + (low.toNat - 0xDC00))

def ofUnit (unit : UInt16) : Option Char :=
  if IsSurrogate unit then none else some (.ofNat unit.toNat)

/-- A surrogate outside a pair decodes to nothing. -/
def decode : List UInt16 → List (Option Char)
  | [] => []
  | [unit] => [ofUnit unit]
  | first :: second :: rest =>
      if IsHigh first ∧ IsLow second then some (ofPair first second) :: decode rest
      else ofUnit first :: decode (second :: rest)

/-! ### The units of one character -/

theorem toNat_ofNat {number : Nat} (valid : number.isValidChar) :
    (Char.ofNat number).toNat = number := by
  rw [Char.ofNat, dif_pos valid]
  rfl

theorem toNat_range (scalar : Char) :
    scalar.toNat < 0xD800 ∨ 0xE000 ≤ scalar.toNat ∧ scalar.toNat < 0x110000 := by
  rcases scalar.valid with low | ⟨above, below⟩
  · exact Or.inl low
  · exact Or.inr ⟨above, below⟩

theorem toNat_highSurrogate {scalar : Char} (supplementary : Supplementary scalar) :
    (highSurrogate scalar).toNat = 0xD800 + (scalar.toNat - 0x10000) / 0x400 := by
  have range := toNat_range scalar
  unfold Supplementary at supplementary
  exact UInt16.toNat_ofNat_of_lt' (show _ < 2 ^ 16 by omega)

theorem toNat_lowSurrogate (scalar : Char) :
    (lowSurrogate scalar).toNat = 0xDC00 + (scalar.toNat - 0x10000) % 0x400 :=
  UInt16.toNat_ofNat_of_lt' (show _ < 2 ^ 16 by omega)

theorem highSurrogate_isHigh {scalar : Char} (supplementary : Supplementary scalar) :
    IsHigh (highSurrogate scalar) := by
  have range := toNat_range scalar
  unfold IsHigh
  rw [toNat_highSurrogate supplementary]
  unfold Supplementary at supplementary
  omega

theorem lowSurrogate_isLow (scalar : Char) : IsLow (lowSurrogate scalar) := by
  unfold IsLow
  rw [toNat_lowSurrogate]
  omega

theorem IsHigh.isSurrogate {unit : UInt16} (high : IsHigh unit) : IsSurrogate unit :=
  ⟨high.1, Nat.lt_trans high.2 (by decide)⟩

theorem IsLow.isSurrogate {unit : UInt16} (low : IsLow unit) : IsSurrogate unit :=
  ⟨Nat.le_trans (by decide) low.1, low.2⟩

theorem toNat_unit {scalar : Char} (basic : ¬Supplementary scalar) :
    (UInt16.ofNat scalar.toNat).toNat = scalar.toNat := by
  unfold Supplementary at basic
  exact UInt16.toNat_ofNat_of_lt' (show _ < 2 ^ 16 by omega)

theorem not_isSurrogate_unit {scalar : Char} (basic : ¬Supplementary scalar) :
    ¬IsSurrogate (UInt16.ofNat scalar.toNat) := by
  have range := toNat_range scalar
  unfold IsSurrogate
  rw [toNat_unit basic]
  unfold Supplementary at basic
  omega

theorem ofUnit_unit {scalar : Char} (basic : ¬Supplementary scalar) :
    ofUnit (.ofNat scalar.toNat) = some scalar := by
  rw [ofUnit, if_neg (not_isSurrogate_unit basic), toNat_unit basic, Char.ofNat_toNat]

theorem ofPair_surrogates {scalar : Char} (supplementary : Supplementary scalar) :
    ofPair (highSurrogate scalar) (lowSurrogate scalar) = scalar := by
  rw [ofPair, toNat_highSurrogate supplementary, toNat_lowSurrogate]
  unfold Supplementary at supplementary
  have joined : 0x10000 + (0xD800 + (scalar.toNat - 0x10000) / 0x400 - 0xD800) * 0x400 +
      (0xDC00 + (scalar.toNat - 0x10000) % 0x400 - 0xDC00) = scalar.toNat := by omega
  rw [joined, Char.ofNat_toNat]

/-! ### Decoding -/

theorem decode_pair {first second : UInt16} (pair : IsHigh first ∧ IsLow second)
    (rest : List UInt16) :
    decode (first :: second :: rest) = some (ofPair first second) :: decode rest := by
  rw [decode, if_pos pair]

theorem decode_unpaired {first second : UInt16} (notPair : ¬(IsHigh first ∧ IsLow second))
    (rest : List UInt16) :
    decode (first :: second :: rest) = ofUnit first :: decode (second :: rest) := by
  rw [decode, if_neg notPair]

theorem decode_cons_of_not_isHigh {unit : UInt16} (notHigh : ¬IsHigh unit)
    (rest : List UInt16) : decode (unit :: rest) = ofUnit unit :: decode rest := by
  cases rest with
  | nil => rfl
  | cons second rest => exact decode_unpaired (fun pair => notHigh pair.1) rest

theorem decode_encodeChar_append (scalar : Char) (rest : List UInt16) :
    decode (encodeChar scalar ++ rest) = some scalar :: decode rest := by
  unfold encodeChar
  by_cases supplementary : Supplementary scalar
  · rw [if_pos supplementary]
    have pair := And.intro (highSurrogate_isHigh supplementary) (lowSurrogate_isLow scalar)
    rw [List.cons_append, List.cons_append, List.nil_append, decode_pair pair,
      ofPair_surrogates supplementary]
  · rw [if_neg supplementary, List.cons_append, List.nil_append]
    have notHigh : ¬IsHigh (.ofNat scalar.toNat) :=
      fun high => not_isSurrogate_unit supplementary high.isSurrogate
    rw [decode_cons_of_not_isHigh notHigh, ofUnit_unit supplementary]

theorem decode_encode (text : List Char) : decode (encode text) = text.map some := by
  induction text with
  | nil => rfl
  | cons scalar text ih =>
      have split : encode (scalar :: text) = encodeChar scalar ++ encode text := rfl
      rw [split, decode_encodeChar_append, ih, List.map_cons]

/-! ### Single units in a text -/

theorem toNat_ofNat_unit {unit : UInt16} (single : ¬IsSurrogate unit) :
    (Char.ofNat unit.toNat).toNat = unit.toNat := by
  have bound := unit.toNat_lt
  have valid : unit.toNat.isValidChar := by
    unfold IsSurrogate at single
    unfold Nat.isValidChar
    omega
  exact toNat_ofNat valid

theorem supplementary_ofPair {high low : UInt16} (isHigh : IsHigh high) (isLow : IsLow low) :
    Supplementary (ofPair high low) := by
  unfold IsHigh at isHigh
  unfold IsLow at isLow
  have valid : (0x10000 + (high.toNat - 0xD800) * 0x400 + (low.toNat - 0xDC00)).isValidChar := by
    unfold Nat.isValidChar
    omega
  rw [Supplementary, ofPair, toNat_ofNat valid]
  omega

theorem not_supplementary_unit {unit : UInt16} (single : ¬IsSurrogate unit) :
    ¬Supplementary (Char.ofNat unit.toNat) := by
  have bound := unit.toNat_lt
  rw [Supplementary, toNat_ofNat_unit single]
  omega

theorem ofUnit_eq_iff {unit other : UInt16} (single : ¬IsSurrogate unit) :
    ofUnit other = some (.ofNat unit.toNat) ↔ other = unit := by
  unfold ofUnit
  by_cases surrogate : IsSurrogate other
  · rw [if_pos surrogate]
    constructor
    · intro impossible
      cases impossible
    · rintro rfl
      exact absurd surrogate single
  · rw [if_neg surrogate, Option.some_inj]
    constructor
    · intro same
      have numbers := congrArg Char.toNat same
      rw [toNat_ofNat_unit surrogate, toNat_ofNat_unit single] at numbers
      exact UInt16.toNat_inj.mp numbers
    · rintro rfl
      rfl

/-- A unit outside the surrogates is decoded wherever it stands. -/
theorem mem_decode_iff {unit : UInt16} (single : ¬IsSurrogate unit) (text : List UInt16) :
    some (Char.ofNat unit.toNat) ∈ decode text ↔ unit ∈ text := by
  induction text using decode.induct with
  | case1 => simp [decode]
  | case2 other =>
      rw [decode, List.mem_singleton, List.mem_singleton, eq_comm, ofUnit_eq_iff single, eq_comm]
  | case3 first second rest pair ih =>
      rw [decode_pair pair, List.mem_cons, List.mem_cons, List.mem_cons, ih]
      have notPair : some (Char.ofNat unit.toNat) ≠ some (ofPair first second) := by
        intro same
        have supplementary := supplementary_ofPair pair.1 pair.2
        rw [← Option.some_inj.mp same] at supplementary
        exact not_supplementary_unit single supplementary
      have notFirst : unit ≠ first := by
        rintro rfl
        exact single pair.1.isSurrogate
      have notSecond : unit ≠ second := by
        rintro rfl
        exact single pair.2.isSurrogate
      simp [notPair, notFirst, notSecond]
  | case4 first second rest notPair ih =>
      rw [decode_unpaired notPair, List.mem_cons, ih, eq_comm, ofUnit_eq_iff single, eq_comm]
      exact List.mem_cons.symm

theorem none_not_mem_decode {text : List UInt16} (single : ∀ unit ∈ text, ¬IsSurrogate unit) :
    none ∉ decode text := by
  induction text with
  | nil => simp [decode]
  | cons unit rest ih =>
      have unitSingle := single unit List.mem_cons_self
      have notHigh : ¬IsHigh unit := fun high => unitSingle high.isSurrogate
      have decoded : ofUnit unit = some (.ofNat unit.toNat) := (ofUnit_eq_iff unitSingle).mpr rfl
      rw [decode_cons_of_not_isHigh notHigh, decoded, List.mem_cons, not_or]
      constructor
      · intro impossible
        cases impossible
      · exact ih fun other member => single other (List.mem_cons_of_mem unit member)

/-- A unit outside the surrogates parts a text. -/
theorem decode_append_cons {unit : UInt16} (single : ¬IsSurrogate unit)
    (first rest : List UInt16) :
    decode (first ++ unit :: rest) = decode first ++ decode (unit :: rest) := by
  induction first using decode.induct with
  | case1 => rfl
  | case2 other => exact decode_unpaired (fun pair => single pair.2.isSurrogate) rest
  | case3 high low others pair ih =>
      rw [List.cons_append, List.cons_append, decode_pair pair, ih, decode_pair pair,
        List.cons_append]
  | case4 high low others notPair ih =>
      rw [List.cons_append, List.cons_append, decode_unpaired notPair, ← List.cons_append, ih,
        decode_unpaired notPair, List.cons_append]

/-! ### Texts without missing characters -/

theorem encodeChar_ofPair {high low : UInt16} (isHigh : IsHigh high) (isLow : IsLow low) :
    encodeChar (ofPair high low) = [high, low] := by
  have supplementary := supplementary_ofPair isHigh isLow
  have highEq := toNat_highSurrogate supplementary
  have lowEq := toNat_lowSurrogate (ofPair high low)
  unfold IsHigh at isHigh
  unfold IsLow at isLow
  have valid : (0x10000 + (high.toNat - 0xD800) * 0x400 + (low.toNat - 0xDC00)).isValidChar := by
    unfold Nat.isValidChar
    omega
  have value : (ofPair high low).toNat =
      0x10000 + (high.toNat - 0xD800) * 0x400 + (low.toNat - 0xDC00) := toNat_ofNat valid
  rw [value] at highEq lowEq
  have sameHigh : highSurrogate (ofPair high low) = high := UInt16.toNat_inj.mp (by omega)
  have sameLow : lowSurrogate (ofPair high low) = low := UInt16.toNat_inj.mp (by omega)
  rw [encodeChar, if_pos supplementary, sameHigh, sameLow]

theorem encodeChar_unit {unit : UInt16} (single : ¬IsSurrogate unit) :
    encodeChar (.ofNat unit.toNat) = [unit] := by
  rw [encodeChar, if_neg (not_supplementary_unit single), toNat_ofNat_unit single,
    UInt16.ofNat_toNat]

/-- A text is written from characters if and only if every surrogate has its partner. -/
theorem none_not_mem_decode_iff (text : List UInt16) :
    none ∉ decode text ↔ ∃ characters, text = encode characters := by
  constructor
  · intro complete
    induction text using decode.induct with
    | case1 => exact ⟨[], rfl⟩
    | case2 unit =>
        have single : ¬IsSurrogate unit := by
          intro surrogate
          simp [decode, ofUnit, surrogate] at complete
        refine ⟨[.ofNat unit.toNat], ?_⟩
        rw [encode, List.flatMap_singleton, encodeChar_unit single]
    | case3 first second rest pair ih =>
        rw [decode_pair pair, List.mem_cons, not_or] at complete
        obtain ⟨characters, rfl⟩ := ih complete.2
        refine ⟨ofPair first second :: characters, ?_⟩
        rw [encode, encode, List.flatMap_cons, encodeChar_ofPair pair.1 pair.2]
        rfl
    | case4 first second rest notPair ih =>
        rw [decode_unpaired notPair, List.mem_cons, not_or] at complete
        have single : ¬IsSurrogate first := by
          intro surrogate
          exact complete.1 (if_pos surrogate).symm
        obtain ⟨characters, written⟩ := ih complete.2
        refine ⟨.ofNat first.toNat :: characters, ?_⟩
        rw [written, encode, encode, List.flatMap_cons, encodeChar_unit single]
        rfl
  · rintro ⟨characters, rfl⟩ missing
    rw [decode_encode] at missing
    obtain ⟨scalar, _, impossible⟩ := List.mem_map.mp missing
    cases impossible

end Utf16
