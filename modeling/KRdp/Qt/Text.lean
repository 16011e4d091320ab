/-
Texts of Qt as UTF-8.

`QString` keeps UTF-16 code units.  Its conversion to UTF-8 writes a question mark
for a surrogate without its partner; every other ASCII byte of the result comes from
the same character of the text.
-/

import KRdp.Clipboard.TextCodec
import KRdp.Library.Utf16

namespace KRdp

open Clipboard (QString QByteArray)
open Utf16

/-- The bytes of a character, or of a surrogate that has no partner. -/
def scalarBytes : Option Char → List UInt8
  | some scalar => String.utf8EncodeChar scalar
  | none => [0x3F]

def toUtf8 (text : QString) : QByteArray := (decode text).flatMap scalarBytes

theorem toUtf8_encode (text : List Char) :
    toUtf8 (encode text) = text.flatMap String.utf8EncodeChar := by
  rw [toUtf8, decode_encode, List.flatMap_map]
  rfl

/-! ### ASCII -/

def IsAscii (unit : UInt16) : Prop := unit.toNat < 0x80

instance (unit : UInt16) : Decidable (IsAscii unit) := inferInstanceAs (Decidable (_ < _))

theorem IsAscii.not_isSurrogate {unit : UInt16} (ascii : IsAscii unit) : ¬IsSurrogate unit := by
  unfold IsAscii at ascii
  unfold IsSurrogate
  omega

theorem toNat_toUInt8 {unit : UInt16} (ascii : IsAscii unit) :
    unit.toUInt8.toNat = unit.toNat := by
  unfold IsAscii at ascii
  rw [UInt16.toNat_toUInt8]
  omega

/-- Only the character itself is written with an ASCII byte. -/
theorem mem_utf8EncodeChar_iff {byte : UInt8} (ascii : byte.toNat < 0x80) (scalar : Char) :
    byte ∈ String.utf8EncodeChar scalar ↔ scalar.toNat = byte.toNat := by
  have value : scalar.toNat = scalar.val.toNat := rfl
  rw [value]
  fun_cases String.utf8EncodeChar scalar
  · rename_i short
    rw [List.mem_singleton, ← UInt8.toNat_inj, UInt8.toNat_ofNat']
    omega
  all_goals
    simp only [List.mem_cons, List.not_mem_nil, or_false, ← UInt8.toNat_inj, UInt8.toNat_ofNat']
    omega

theorem utf8EncodeChar_ascii {unit : UInt16} (ascii : IsAscii unit) :
    String.utf8EncodeChar (.ofNat unit.toNat) = [unit.toUInt8] := by
  have value : (Char.ofNat unit.toNat).val.toNat = unit.toNat :=
    toNat_ofNat_unit ascii.not_isSurrogate
  have short : unit.toNat ≤ 0x7F := Nat.le_of_lt_succ ascii
  simp only [String.utf8EncodeChar, value, if_pos short]
  congr 1

theorem toUtf8_append_cons {unit : UInt16} (ascii : IsAscii unit) (first rest : QString) :
    toUtf8 (first ++ unit :: rest) = toUtf8 first ++ unit.toUInt8 :: toUtf8 rest := by
  have single := ascii.not_isSurrogate
  have decoded : ofUnit unit = some (.ofNat unit.toNat) := (ofUnit_eq_iff single).mpr rfl
  have notHigh : ¬IsHigh unit := fun high => single high.isSurrogate
  rw [toUtf8, decode_append_cons single, decode_cons_of_not_isHigh notHigh, List.flatMap_append,
    List.flatMap_cons, decoded, scalarBytes, utf8EncodeChar_ascii ascii]
  rfl

theorem toUtf8_append_ascii {ascii : QString} (all : ∀ unit ∈ ascii, IsAscii unit)
    (first : QString) : toUtf8 (first ++ ascii) = toUtf8 first ++ ascii.map UInt16.toUInt8 := by
  induction ascii generalizing first with
  | nil => rw [List.append_nil, List.map_nil, List.append_nil]
  | cons unit rest ih =>
      have restAscii : ∀ other ∈ rest, IsAscii other :=
        fun other member => all other (List.mem_cons_of_mem unit member)
      have restBytes := ih restAscii []
      rw [List.nil_append] at restBytes
      rw [toUtf8_append_cons (all unit List.mem_cons_self), restBytes]
      rfl

/-- A text has an ASCII byte other than the replacement exactly where it has the
character. -/
theorem mem_toUtf8_iff {unit : UInt16} (ascii : IsAscii unit) (notReplacement : unit ≠ 0x3F)
    (text : QString) : unit.toUInt8 ∈ toUtf8 text ↔ unit ∈ text := by
  have short : unit.toUInt8.toNat < 0x80 := by
    rw [toNat_toUInt8 ascii]
    exact ascii
  rw [← mem_decode_iff ascii.not_isSurrogate, toUtf8, List.mem_flatMap]
  constructor
  · rintro ⟨decoded, member, written⟩
    cases decoded with
    | none =>
        have same := congrArg UInt8.toNat (List.mem_singleton.mp written)
        rw [toNat_toUInt8 ascii] at same
        exact absurd (UInt16.toNat_inj.mp same) notReplacement
    | some scalar =>
        rw [scalarBytes, mem_utf8EncodeChar_iff short, toNat_toUInt8 ascii] at written
        rw [← written, Char.ofNat_toNat]
        exact member
  · intro member
    refine ⟨_, member, ?_⟩
    rw [scalarBytes, utf8EncodeChar_ascii ascii]
    exact List.mem_singleton_self _

end KRdp
