/-
Clipboard text through the codec and back.

A text in UTF-16 comes back without a leading byte order mark and without the null
units at its end, unless it is too long.  What is accepted from a client never
ends in a null unit and does not grow when it is encoded again.
-/

import KRdp.Clipboard.TextCodec
import Mathlib.Tactic.NormNum

namespace KRdp

namespace Clipboard

/-! ### The units of a text -/

private theorem join_bytes (number : Nat) :
    number % 2 ^ 8 ||| (number / 2 ^ 8) <<< 8 = number := by
  have low : number % 2 ^ 8 < 2 ^ 8 := Nat.mod_lt _ (by norm_num)
  rw [Nat.or_comm, ← Nat.shiftLeft_add_eq_or_of_lt low, Nat.shiftLeft_eq]
  omega

theorem unit_of_bytes (unit : UInt16) :
    unit.toUInt8.toUInt16 ||| (unit >>> 8).toUInt8.toUInt16 <<< 8 = unit := by
  have inside := unit.toNat_lt
  have high : unit.toNat >>> 8 % 2 ^ 8 = unit.toNat / 2 ^ 8 := by
    rw [Nat.shiftRight_eq_div_pow]
    omega
  have shifted : (unit.toNat / 2 ^ 8) <<< 8 % 2 ^ 16 = (unit.toNat / 2 ^ 8) <<< 8 := by
    rw [Nat.shiftLeft_eq]
    omega
  apply UInt16.toNat_inj.mp
  rw [UInt16.toNat_or, UInt16.toNat_shiftLeft, UInt8.toNat_toUInt16, UInt8.toNat_toUInt16,
    UInt16.toNat_toUInt8, UInt16.toNat_toUInt8, UInt16.toNat_shiftRight]
  change unit.toNat % 2 ^ 8 ||| (unit.toNat >>> 8 % 2 ^ 8) <<< 8 % 2 ^ 16 = unit.toNat
  rw [high, shifted, join_bytes]

theorem length_utf16LeEncode (text : QString) :
    (utf16LeEncode text).length = 2 * text.length := by
  induction text with
  | nil => rfl
  | cons unit rest ih =>
      rw [utf16LeEncode, List.flatMap_cons, List.length_append, ← utf16LeEncode, ih,
        List.length_cons]
      simp only [List.length_cons, List.length_nil]
      omega

/-- The null unit that the encoder appends is one more unit. -/
theorem utf16LeUnits_encode (text rest : QString) :
    utf16LeUnits (utf16LeEncode text ++ utf16LeEncode rest) =
      text ++ utf16LeUnits (utf16LeEncode rest) := by
  induction text with
  | nil => rfl
  | cons unit text ih =>
      have first : utf16LeEncode (unit :: text) =
          unit.toUInt8 :: (unit >>> 8).toUInt8 :: utf16LeEncode text := rfl
      rw [first, List.cons_append, List.cons_append, utf16LeUnits, ih, unit_of_bytes,
        List.cons_append]

theorem length_utf16LeUnits_le (data : QByteArray) :
    2 * (utf16LeUnits data).length ≤ data.length := by
  induction data using utf16LeUnits.induct with
  | case1 low high rest ih =>
      rw [utf16LeUnits, List.length_cons, List.length_cons, List.length_cons]
      omega
  | case2 data short =>
      have none : utf16LeUnits data = [] := by
        unfold utf16LeUnits
        split
        · rename_i low high rest
          exact absurd rfl (short low high rest)
        · rfl
      rw [none]
      exact Nat.zero_le _

/-! ### Marks and nulls -/

def withoutMark (text : QString) : QString :=
  if text.head? = some 0xFEFF then text.tail else text

theorem utf16LeDecode_eq (data : QByteArray) :
    utf16LeDecode data = withoutMark (utf16LeUnits data) := by
  unfold utf16LeDecode withoutMark
  split
  · rename_i rest units
    rw [units]
    rfl
  · rename_i other
    by_cases marked : (utf16LeUnits data).head? = some 0xFEFF
    · obtain ⟨rest, units⟩ := List.head?_eq_some_iff.mp marked
      exact absurd units (other rest)
    · rw [if_neg marked]

theorem length_utf16LeDecode_le (data : QByteArray) :
    2 * (utf16LeDecode data).length ≤ data.length := by
  have units := length_utf16LeUnits_le data
  have marked : (withoutMark (utf16LeUnits data)).length ≤ (utf16LeUnits data).length := by
    unfold withoutMark
    split
    · rw [List.length_tail]
      exact Nat.sub_le _ _
    · exact Nat.le_refl _
  rw [utf16LeDecode_eq]
  omega

/-- The text is the kept part and then nulls, and the kept part does not end in one. -/
def WithoutTrailingNulls (text kept : QString) : Prop :=
  kept.getLast? ≠ some 0 ∧ ∃ nulls, text = kept ++ List.replicate nulls 0

theorem withoutTrailingNulls_rdropWhile (text : QString) :
    WithoutTrailingNulls text (text.rdropWhile (· == 0)) := by
  constructor
  · intro last
    have nonempty : text.rdropWhile (· == 0) ≠ [] := by
      intro none
      rw [none] at last
      cases last
    rw [List.getLast?_eq_some_getLast nonempty] at last
    have notNull := List.rdropWhile_last_not (· == 0) text nonempty
    rw [Option.some.inj last] at notNull
    exact notNull (beq_self_eq_true 0)
  · refine ⟨(text.rtakeWhile (· == 0)).length, ?_⟩
    have nulls : text.rtakeWhile (· == 0) =
        List.replicate (text.rtakeWhile (· == 0)).length 0 := by
      apply List.eq_replicate_of_mem
      intro unit member
      have null := List.mem_rtakeWhile_imp member
      exact beq_iff_eq.mp null
    rw [← nulls, List.rdropWhile_append_rtakeWhile]

theorem withoutMark_append (text : QString) (unit : UInt16) (plain : unit ≠ 0xFEFF) :
    withoutMark (text ++ [unit]) = withoutMark text ++ [unit] := by
  cases text with
  | nil => simp [withoutMark, plain]
  | cons first rest =>
      unfold withoutMark
      by_cases marked : first = 0xFEFF
      · simp [marked]
      · simp [marked]

/-! ### There and back -/

theorem encodeClipboardText_unicode (locale : Locale) (text : QString) :
    encodeClipboardText locale text cfUnicodeText = utf16LeEncode text ++ utf16LeEncode [0] :=
  if_pos rfl

theorem length_encodeClipboardText (locale : Locale) (text : QString) :
    (encodeClipboardText locale text cfUnicodeText).length = 2 * text.length + 2 := by
  rw [encodeClipboardText_unicode, List.length_append, length_utf16LeEncode,
    length_utf16LeEncode, List.length_singleton]

theorem decode_encode (locale : Locale) (text : QString) :
    decodeClipboardText locale (some (encodeClipboardText locale text cfUnicodeText))
        cfUnicodeText =
      if maximumClipboardTextBytes < 2 * text.length + 2 then none
      else some ((withoutMark text).rdropWhile (· == 0)) := by
  have even : ¬(2 * text.length + 2) % 2 ≠ 0 := by omega
  have units : utf16LeUnits (encodeClipboardText locale text cfUnicodeText) = text ++ [0] := by
    rw [encodeClipboardText_unicode, utf16LeUnits_encode]
    rfl
  have decoded : (utf16LeDecode (encodeClipboardText locale text cfUnicodeText)).rdropWhile
      (· == 0) = (withoutMark text).rdropWhile (· == 0) := by
    rw [utf16LeDecode_eq, units, withoutMark_append text 0 (by decide)]
    exact List.rdropWhile_concat_pos _ _ _ (beq_self_eq_true 0)
  simp only [decodeClipboardText, length_encodeClipboardText, even, if_true, if_false, decoded]

theorem decoded_of_accepted {locale : Locale} {data : QByteArray} {text : QString}
    (accepted : decodeClipboardText locale (some data) cfUnicodeText = some text) :
    (utf16LeDecode data).rdropWhile (· == 0) = text := by
  unfold decodeClipboardText at accepted
  dsimp only at accepted
  by_cases tooLong : maximumClipboardTextBytes < data.length
  · rw [if_pos tooLong] at accepted
    cases accepted
  · rw [if_neg tooLong, if_pos rfl] at accepted
    by_cases odd : data.length % 2 ≠ 0
    · rw [if_pos odd] at accepted
      cases accepted
    · rw [if_neg odd] at accepted
      exact Option.some.inj accepted

/-- The value is the text itself if neither a mark nor a null goes. -/
theorem kept_eq_self_iff {text kept : QString}
    (without : WithoutTrailingNulls (withoutMark text) kept) :
    kept = text ↔ text.head? ≠ some 0xFEFF ∧ text.getLast? ≠ some 0 := by
  obtain ⟨notNull, nulls, split⟩ := without
  constructor
  · rintro rfl
    refine ⟨?_, notNull⟩
    intro marked
    obtain ⟨rest, units⟩ := List.head?_eq_some_iff.mp marked
    have lengths := congrArg List.length split
    rw [withoutMark, if_pos marked, units, List.length_append] at lengths
    simp only [List.tail_cons, List.length_cons] at lengths
    omega
  · rintro ⟨unmarked, ends⟩
    rw [withoutMark, if_neg unmarked] at split
    cases nulls with
    | zero =>
        rw [List.replicate_zero, List.append_nil] at split
        exact split.symm
    | succ nulls =>
        rw [List.replicate_succ', ← List.append_assoc] at split
        rw [split] at ends
        exact absurd List.getLast?_concat ends

/-- A text comes back exactly as far as the format allows, and a text that is
accepted does not end in a null and does not get longer. -/
theorem unicode_round_trip (locale : Locale) :
    (∀ text : QString,
      let decoded := decodeClipboardText locale
        (some (encodeClipboardText locale text cfUnicodeText)) cfUnicodeText
      (decoded = none ↔ maximumClipboardTextBytes < 2 * text.length + 2) ∧
        (∀ kept, decoded = some kept → WithoutTrailingNulls (withoutMark text) kept) ∧
        (decoded = some text ↔ 2 * text.length + 2 ≤ maximumClipboardTextBytes ∧
          text.head? ≠ some 0xFEFF ∧ text.getLast? ≠ some 0)) ∧
      ∀ data text, decodeClipboardText locale (some data) cfUnicodeText = some text →
        text.getLast? ≠ some 0 ∧
          (encodeClipboardText locale text cfUnicodeText).length ≤ data.length + 2 := by
  constructor
  · intro text decoded
    have without := withoutTrailingNulls_rdropWhile (withoutMark text)
    by_cases tooLong : maximumClipboardTextBytes < 2 * text.length + 2
    · have none : decoded = none := (decode_encode locale text).trans (if_pos tooLong)
      rw [none]
      refine ⟨by simp [tooLong], by simp, ?_⟩
      exact iff_of_false (by simp) fun inside => absurd tooLong (not_lt.mpr inside.1)
    · have some : decoded = some ((withoutMark text).rdropWhile (· == 0)) :=
        (decode_encode locale text).trans (if_neg tooLong)
      rw [some]
      refine ⟨by simp [tooLong], ?_, ?_⟩
      · intro kept same
        rw [← Option.some.inj same]
        exact without
      · rw [Option.some_inj, kept_eq_self_iff without]
        exact (and_iff_right (not_lt.mp tooLong)).symm
  · intro data text accepted
    rw [← decoded_of_accepted accepted]
    refine ⟨(withoutTrailingNulls_rdropWhile _).1, ?_⟩
    rw [length_encodeClipboardText]
    have chopped := (List.rdropWhile_prefix (· == 0) (utf16LeDecode data)).length_le
    have decoded := length_utf16LeDecode_le data
    omega

end Clipboard

end KRdp
