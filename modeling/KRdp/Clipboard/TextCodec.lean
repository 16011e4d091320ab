/-
Clipboard text on the wire.

A text is a list of UTF-16 code units.  The 8-bit conversions depend on the
locale of the host and are a parameter; the UTF-16 conversions copy code units,
except that the decoder drops one leading byte order mark.
-/

import Mathlib.Data.List.DropRight

namespace KRdp

namespace Clipboard

abbrev QString : Type := List UInt16

abbrev QByteArray : Type := List UInt8

def cfText : UInt32 := 1

def cfOemText : UInt32 := 7

def cfUnicodeText : UInt32 := 13

def maximumClipboardTextBytes : Nat := 16 * 1024 * 1024

structure Locale where
  toLocal8Bit : QString → QByteArray
  fromLocal8Bit : QByteArray → QString

/-! ### UTF-16 -/

def utf16LeEncode (text : QString) : QByteArray :=
  text.flatMap fun unit : UInt16 => [unit.toUInt8, (unit >>> 8).toUInt8]

def utf16LeUnits : QByteArray → QString
  | low :: high :: rest => (low.toUInt16 ||| high.toUInt16 <<< 8) :: utf16LeUnits rest
  | _ => []

def utf16LeDecode (data : QByteArray) : QString :=
  match utf16LeUnits data with
  | 0xFEFF :: rest => rest
  | units => units

/-! ### The codec -/

def encodeClipboardText (locale : Locale) (text : QString) (format : UInt32) : QByteArray :=
  if format = cfUnicodeText then utf16LeEncode text ++ [0, 0]
  else if format = cfText ∨ format = cfOemText then locale.toLocal8Bit text ++ [0]
  else []

/-- The data is missing when the pointer to it is null. -/
def decodeClipboardText (locale : Locale) (data : Option QByteArray) (format : UInt32) :
    Option QString :=
  match data with
  | none => none
  | some data =>
      if maximumClipboardTextBytes < data.length then none
      else if format = cfUnicodeText then
        if data.length % 2 ≠ 0 then none
        else some ((utf16LeDecode data).rdropWhile (· == 0))
      else if format = cfText ∨ format = cfOemText then
        some ((locale.fromLocal8Bit data).rdropWhile (· == 0))
      else none

theorem decodeClipboardText_zero (locale : Locale) (data : Option QByteArray) :
    decodeClipboardText locale data 0 = none := by
  cases data with
  | none => rfl
  | some data =>
      simp only [decodeClipboardText]
      split <;> rfl

end Clipboard

end KRdp
