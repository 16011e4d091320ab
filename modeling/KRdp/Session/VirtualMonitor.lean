/-
The virtual monitor of the command line.

The argument is documented as a width, an `x`, a height, an `@` and a scale.  The
program looks for these anywhere in the text and converts what it finds; it does not
ask whether the text goes on, nor whether a conversion fails, and a failed conversion
gives zero.
-/

import KRdp.Clipboard.TextCodec
import KRdp.Library.Binary64
import KRdp.Library.Pattern
import KRdp.Library.Pieces
import KRdp.Library.Utf16
import KRdp.Qt.Geometry

namespace KRdp

open Binary64 (Double)
open Clipboard (QString)

structure VirtualMonitor where
  name : QString
  size : QSize
  dpr : Double
  deriving DecidableEq

namespace CommandLine

/-! ### Numbers in texts -/

def letterX : UInt16 := 0x78

def atSign : UInt16 := 0x40

def point : UInt16 := 0x2E

def isDigit (unit : UInt16) : Bool := 0x30 ≤ unit && unit ≤ 0x39

def isDigitOrPoint (unit : UInt16) : Bool := isDigit unit || unit == point

def number (digits : QString) : Nat :=
  digits.foldl (fun value digit => value * 10 + (digit.toNat - 0x30)) 0

/-- `QStringView::toInt` of digits: zero if the number does not fit. -/
def toInt (digits : QString) : Int32 :=
  if number digits < 2 ^ 31 then .ofNat (number digits) else 0

/-- The number that digits and points are, if they are one. -/
def readDecimal (text : QString) : Option ℚ :=
  match text.splitOn point with
  | [whole] => if whole = [] then none else some (number whole)
  | [whole, fraction] =>
      if whole ++ fraction = [] then none
      else some (number whole + number fraction / 10 ^ fraction.length)
  | _ => none

/-- `QStringView::toDouble` of digits and points: zero if they are no number. -/
def toDouble (text : QString) : Double :=
  match readDecimal text with
  | some value => Binary64.round value
  | none => .finite 0

/-! ### The argument -/

/-- `(\d+)x(\d+)@([\d.]+)` -/
def rx : List (Pattern.Item UInt16) :=
  [.captured isDigit, .literal letterX, .captured isDigit, .literal atSign,
    .captured isDigitOrPoint]

def WellFormed (text : QString) : Prop := none ∉ Utf16.decode text

instance (text : QString) : Decidable (WellFormed text) := inferInstanceAs (Decidable (_ ∉ _))

/-- A text that is no UTF-16 does not match. -/
def rxMatch (text : QString) : Option (List QString) :=
  if WellFormed text then Pattern.search rx text else none

/-- The virtual monitor, or nothing where the program ends with an error. -/
def virtualMonitor (vmData : QString) : Option VirtualMonitor :=
  (rxMatch vmData).map fun captured =>
    { name := vmData
      size := { width := toInt (captured.getD 0 []), height := toInt (captured.getD 1 []) }
      dpr := toDouble (captured.getD 2 []) }

/-! ### The documented grammar -/

structure Integer (digits : QString) (value : Nat) : Prop where
  nonempty : digits ≠ []
  isDigits : ∀ unit ∈ digits, isDigit unit = true
  value_eq : number digits = value
  positive : 1 ≤ value
  fits : value ≤ 2 ^ 31 - 1

/-- Digits with at most one point before, between or after them. -/
inductive Decimal : QString → ℚ → Prop
  | whole {digits : QString} :
      digits ≠ [] → (∀ unit ∈ digits, isDigit unit = true) → Decimal digits (number digits)
  | point {whole fraction : QString} :
      whole ++ fraction ≠ [] → (∀ unit ∈ whole, isDigit unit = true) →
        (∀ unit ∈ fraction, isDigit unit = true) →
          Decimal (whole ++ point :: fraction)
            (number whole + number fraction / 10 ^ fraction.length)

/-- The text is WIDTHxHEIGHT@SCALE with these numbers. -/
def Documented (text : QString) (width height : Nat) (scale : ℚ) : Prop :=
  ∃ widthText heightText scaleText,
    text = widthText ++ letterX :: (heightText ++ atSign :: scaleText) ∧
      Integer widthText width ∧ Integer heightText height ∧ Decimal scaleText scale ∧ 0 < scale

/-- Just the documented texts are accepted, with the numbers that they show. -/
structure ParsesAsDocumented (text : QString) : Prop where
  accepted_iff : (virtualMonitor text).isSome = true ↔
    ∃ width height scale, Documented text width height scale
  exact : ∀ vm, virtualMonitor text = some vm → ∃ width height scale,
    Documented text width height scale ∧ vm.name = text ∧ vm.size.width.toInt = width ∧
      vm.size.height.toInt = height ∧ vm.dpr = Binary64.round scale ∧ vm.dpr ≠ .infinite
  nonzero : ∀ vm, virtualMonitor text = some vm →
    vm.size.width ≠ 0 ∧ vm.size.height ≠ 0 ∧ vm.dpr ≠ .finite 0

/-- The scale is neither too small nor too large for a double. -/
def InDoubleRange (scale : ℚ) : Prop :=
  2 ^ (-1075 : Int) < scale ∧ scale < 2 ^ (1024 : Int) - 2 ^ (970 : Int)

/-! ### Conversions -/

theorem toInt_of_integer {digits : QString} {value : Nat} (integer : Integer digits value) :
    (toInt digits).toInt = value := by
  have fits := integer.fits
  have small : value < 2 ^ 31 := by omega
  rw [toInt, integer.value_eq, if_pos small, Int32.toInt_ofNat_of_lt small]

theorem point_not_mem {digits : QString} (isDigits : ∀ unit ∈ digits, isDigit unit = true) :
    point ∉ digits := by
  intro member
  exact absurd (isDigits point member) (by decide)

theorem readDecimal_of_decimal {text : QString} {value : ℚ} (decimal : Decimal text value) :
    readDecimal text = some value := by
  cases decimal with
  | whole nonempty isDigits =>
      rw [readDecimal, Pieces.splitOn_of_not_mem (point_not_mem isDigits)]
      exact if_neg nonempty
  | point nonempty wholeDigits fractionDigits =>
      rw [readDecimal, Pieces.splitOn_append_cons,
        Pieces.splitOn_of_not_mem (point_not_mem wholeDigits),
        Pieces.splitOn_of_not_mem (point_not_mem fractionDigits)]
      exact if_neg nonempty

theorem toDouble_of_decimal {text : QString} {value : ℚ} (decimal : Decimal text value) :
    toDouble text = Binary64.round value := by
  rw [toDouble, readDecimal_of_decimal decimal]

/-! ### Documented texts -/

/-- The units of the grammar. -/
def IsGrammar (unit : UInt16) : Prop :=
  isDigitOrPoint unit = true ∨ unit = letterX ∨ unit = atSign

theorem IsGrammar.not_isSurrogate {unit : UInt16} (grammar : IsGrammar unit) :
    ¬Utf16.IsSurrogate unit := by
  have ascii : unit.toNat < 0x80 := by
    rcases grammar with digitOrPoint | rfl | rfl
    · rw [isDigitOrPoint, Bool.or_eq_true, beq_iff_eq] at digitOrPoint
      rcases digitOrPoint with digit | rfl
      · rw [isDigit, Bool.and_eq_true, decide_eq_true_eq, decide_eq_true_eq,
          UInt16.le_iff_toNat_le, UInt16.le_iff_toNat_le] at digit
        exact Nat.lt_of_le_of_lt digit.2 (by decide)
      · decide
    · decide
    · decide
  unfold Utf16.IsSurrogate
  omega

theorem isDigitOrPoint_of_isDigit {unit : UInt16} (digit : isDigit unit = true) :
    isDigitOrPoint unit = true := by
  rw [isDigitOrPoint, digit, Bool.true_or]

theorem Decimal.nonempty {text : QString} {value : ℚ} (decimal : Decimal text value) :
    text ≠ [] := by
  cases decimal with
  | whole nonempty _ => exact nonempty
  | point _ _ _ => simp

theorem Decimal.isDigitOrPoint {text : QString} {value : ℚ} (decimal : Decimal text value) :
    ∀ unit ∈ text, isDigitOrPoint unit = true := by
  intro unit member
  cases decimal with
  | whole _ isDigits => exact isDigitOrPoint_of_isDigit (isDigits unit member)
  | point _ wholeDigits fractionDigits =>
      rcases List.mem_append.mp member with inWhole | inRest
      · exact isDigitOrPoint_of_isDigit (wholeDigits unit inWhole)
      · rcases List.mem_cons.mp inRest with rfl | inFraction
        · rfl
        · exact isDigitOrPoint_of_isDigit (fractionDigits unit inFraction)

theorem Documented.isGrammar {text : QString} {width height : Nat} {scale : ℚ}
    (documented : Documented text width height scale) : ∀ unit ∈ text, IsGrammar unit := by
  obtain ⟨widthText, heightText, scaleText, rfl, isWidth, isHeight, isScale, _⟩ := documented
  intro unit member
  rw [List.mem_append, List.mem_cons, List.mem_append, List.mem_cons] at member
  rcases member with inWidth | rfl | inHeight | rfl | inScale
  · exact Or.inl (isDigitOrPoint_of_isDigit (isWidth.isDigits unit inWidth))
  · exact Or.inr (Or.inl rfl)
  · exact Or.inl (isDigitOrPoint_of_isDigit (isHeight.isDigits unit inHeight))
  · exact Or.inr (Or.inr rfl)
  · exact Or.inl (isScale.isDigitOrPoint unit inScale)

theorem Documented.wellFormed {text : QString} {width height : Nat} {scale : ℚ}
    (documented : Documented text width height scale) : WellFormed text :=
  Utf16.none_not_mem_decode fun unit member =>
    (documented.isGrammar unit member).not_isSurrogate

theorem Documented.scale_pos {text : QString} {width height : Nat} {scale : ℚ}
    (documented : Documented text width height scale) : 0 < scale := by
  obtain ⟨_, _, _, _, _, _, _, positive⟩ := documented
  exact positive

theorem Documented.dimensions_pos {text : QString} {width height : Nat} {scale : ℚ}
    (documented : Documented text width height scale) : 1 ≤ width ∧ 1 ≤ height := by
  obtain ⟨_, _, _, _, isWidth, isHeight, _⟩ := documented
  exact ⟨isWidth.positive, isHeight.positive⟩

/-- The match in a documented text is all of it. -/
theorem search_documented {widthText heightText scaleText : QString} {width height : Nat}
    {scale : ℚ} (isWidth : Integer widthText width) (isHeight : Integer heightText height)
    (isScale : Decimal scaleText scale) :
    Pattern.search rx (widthText ++ letterX :: (heightText ++ atSign :: scaleText)) =
      some [widthText, heightText, scaleText] := by
  have scaleMatch : Pattern.matchAt [.captured isDigitOrPoint] scaleText = some [scaleText] := by
    have whole : Pattern.matchAt ([] : List (Pattern.Item UInt16)) [] = some [] := rfl
    have captured := Pattern.matchAt_captured isScale.nonempty isScale.isDigitOrPoint rfl whole
    rw [List.append_nil] at captured
    exact captured
  apply Pattern.search_of_matchAt
  apply Pattern.matchAt_captured isWidth.nonempty isWidth.isDigits
  · exact List.takeWhile_cons_of_neg (by decide)
  rw [Pattern.matchAt_literal]
  apply Pattern.matchAt_captured isHeight.nonempty isHeight.isDigits
  · exact List.takeWhile_cons_of_neg (by decide)
  rw [Pattern.matchAt_literal]
  exact scaleMatch

/-- A documented text is accepted with the numbers that it shows. -/
theorem virtualMonitor_documented {text : QString} {width height : Nat} {scale : ℚ}
    (documented : Documented text width height scale) :
    ∃ vm, virtualMonitor text = some vm ∧ vm.name = text ∧ vm.size.width.toInt = width ∧
      vm.size.height.toInt = height ∧ vm.dpr = Binary64.round scale := by
  have wellFormed := documented.wellFormed
  obtain ⟨widthText, heightText, scaleText, rfl, isWidth, isHeight, isScale, _⟩ := documented
  rw [virtualMonitor, rxMatch, if_pos wellFormed, search_documented isWidth isHeight isScale,
    Option.map_some]
  exact ⟨_, rfl, rfl, toInt_of_integer isWidth, toInt_of_integer isHeight,
    toDouble_of_decimal isScale⟩

theorem virtualMonitor_isSome_iff (text : QString) :
    (virtualMonitor text).isSome = true ↔ WellFormed text ∧ Pattern.Occurs rx text := by
  rw [virtualMonitor, Option.isSome_map, rxMatch, ← Pattern.search_isSome_iff]
  by_cases wellFormed : WellFormed text
  · rw [if_pos wellFormed]
    exact (and_iff_right wellFormed).symm
  · rw [if_neg wellFormed]
    exact iff_of_false Bool.false_ne_true fun both => wellFormed both.1

/-! ### The exact condition -/

theorem inDoubleRange_iff {scale : ℚ} (positive : 0 < scale) :
    InDoubleRange scale ↔
      Binary64.round scale ≠ .finite 0 ∧ Binary64.round scale ≠ .infinite := by
  rw [Ne, Ne, Binary64.round_eq_zero_iff positive.le, Binary64.round_eq_infinite_iff positive.le,
    not_le, not_le]
  rfl

theorem ne_zero_of_toInt {value : Int32} {count : Nat} (shown : value.toInt = count)
    (positive : 1 ≤ count) : value ≠ 0 := by
  rintro rfl
  have zero : (0 : Int32).toInt = 0 := by decide
  omega

theorem parsesAsDocumented_of_rejected {text : QString}
    (rejected : ¬(virtualMonitor text).isSome = true) : ParsesAsDocumented text := by
  have nothing : virtualMonitor text = none := Option.not_isSome_iff_eq_none.mp rejected
  constructor
  · apply iff_of_false rejected
    rintro ⟨width, height, scale, documented⟩
    obtain ⟨vm, result, _⟩ := virtualMonitor_documented documented
    rw [nothing] at result
    cases result
  · intro vm result
    rw [nothing] at result
    cases result
  · intro vm result
    rw [nothing] at result
    cases result

theorem parsesAsDocumented_of_inDoubleRange {text : QString} {width height : Nat} {scale : ℚ}
    (documented : Documented text width height scale) (inRange : InDoubleRange scale) :
    ParsesAsDocumented text := by
  obtain ⟨vm, result, name, widthEq, heightEq, dpr⟩ := virtualMonitor_documented documented
  have positive := documented.dimensions_pos
  obtain ⟨nonzero, finite⟩ := (inDoubleRange_iff documented.scale_pos).mp inRange
  rw [← dpr] at nonzero finite
  have only : ∀ other, virtualMonitor text = some other → vm = other := by
    intro other otherResult
    exact Option.some_inj.mp (result.symm.trans otherResult)
  constructor
  · apply iff_of_true
    · rw [result]
      rfl
    · exact ⟨width, height, scale, documented⟩
  · intro other otherResult
    rw [← only other otherResult]
    exact ⟨width, height, scale, documented, name, widthEq, heightEq, dpr, finite⟩
  · intro other otherResult
    rw [← only other otherResult]
    exact ⟨ne_zero_of_toInt widthEq positive.1, ne_zero_of_toInt heightEq positive.2, nonzero⟩

/-- The argument is handled as documented exactly when nothing in it matches, or it is
a documented text whose scale a double can show. -/
theorem virtual_monitor_argument_iff (text : QString) :
    ParsesAsDocumented text ↔
      ¬(WellFormed text ∧ Pattern.Occurs rx text) ∨
        ∃ width height scale, Documented text width height scale ∧ InDoubleRange scale := by
  rw [← virtualMonitor_isSome_iff]
  constructor
  · intro parses
    by_cases accepted : (virtualMonitor text).isSome = true
    · right
      obtain ⟨vm, result⟩ := Option.isSome_iff_exists.mp accepted
      obtain ⟨width, height, scale, documented, _, _, _, dpr, finite⟩ := parses.exact vm result
      have nonzero := (parses.nonzero vm result).2.2
      rw [dpr] at nonzero finite
      have inRange := (inDoubleRange_iff documented.scale_pos).mpr ⟨nonzero, finite⟩
      exact ⟨width, height, scale, documented, inRange⟩
    · exact Or.inl accepted
  · rintro (rejected | ⟨width, height, scale, documented, inRange⟩)
    · exact parsesAsDocumented_of_rejected rejected
    · exact parsesAsDocumented_of_inDoubleRange documented inRange

def surroundedText : QString := Utf16.encode ['a', '1', 'x', '1', '@', '1', ' ', 'b']

def wideText : QString :=
  Utf16.encode ['2', '1', '4', '7', '4', '8', '3', '6', '4', '8', 'x', '1', '@', '1']

def threePartText : QString := Utf16.encode ['1', 'x', '1', '@', '1', '.', '2', '.', '3']

/-- Surrounding text is accepted, a width of 2^31 becomes zero, and so does a scale
with two points. -/
theorem unchecked_arguments :
    ((virtualMonitor surroundedText).isSome = true ∧ ¬ParsesAsDocumented surroundedText) ∧
    ((virtualMonitor wideText).map VirtualMonitor.size = some ⟨0, 1⟩ ∧
      ¬ParsesAsDocumented wideText) ∧
    ((virtualMonitor threePartText).map VirtualMonitor.dpr = some (.finite 0) ∧
      ¬ParsesAsDocumented threePartText) := by
  have surrounded : (virtualMonitor surroundedText).isSome = true := by decide +kernel
  have wide : (virtualMonitor wideText).map VirtualMonitor.size = some ⟨0, 1⟩ := by
    decide +kernel
  have threePart : (virtualMonitor threePartText).map VirtualMonitor.dpr = some (.finite 0) := by
    decide +kernel
  refine ⟨⟨surrounded, ?_⟩, ⟨wide, ?_⟩, ⟨threePart, ?_⟩⟩
  · intro parses
    obtain ⟨width, height, scale, documented⟩ := parses.accepted_iff.mp surrounded
    have letter := documented.isGrammar 0x61 (by decide)
    revert letter
    unfold IsGrammar
    decide
  · intro parses
    obtain ⟨vm, result, size⟩ := Option.map_eq_some_iff.mp wide
    apply (parses.nonzero vm result).1
    rw [size]
  · intro parses
    obtain ⟨vm, result, dpr⟩ := Option.map_eq_some_iff.mp threePart
    exact (parses.nonzero vm result).2.2 dpr

end CommandLine

end KRdp
