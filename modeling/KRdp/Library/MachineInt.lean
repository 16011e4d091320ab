/-
Exact readings of wrapped 32-bit arithmetic.

The arithmetic of `Int32` wraps modulo 2^32.  Where the exact result lies in
the range of the type, the wrapped operation returns it; conversions between
the signed and the unsigned type keep the value under the corresponding
bounds.
-/

import Mathlib.Algebra.Group.Int.Defs
import Mathlib.Algebra.Group.Nat.Defs

namespace MachineInt

def FitsInt32 (value : Int) : Prop := -2 ^ 31 ≤ value ∧ value < 2 ^ 31

instance (value : Int) : Decidable (FitsInt32 value) :=
  inferInstanceAs (Decidable (_ ∧ _))

theorem fitsInt32_toInt (value : Int32) : FitsInt32 value.toInt :=
  ⟨value.le_toInt, value.toInt_lt⟩

theorem bmod_eq_of_fits {value : Int} (fits : FitsInt32 value) :
    value.bmod (2 ^ 32) = value := by
  obtain ⟨low, high⟩ := fits
  exact Int.bmod_eq_of_le (by omega) (by omega)

theorem toInt_add_of_fits {first second : Int32}
    (fits : FitsInt32 (first.toInt + second.toInt)) :
    (first + second).toInt = first.toInt + second.toInt := by
  rw [Int32.toInt_add, bmod_eq_of_fits fits]

theorem toInt_sub_of_fits {first second : Int32}
    (fits : FitsInt32 (first.toInt - second.toInt)) :
    (first - second).toInt = first.toInt - second.toInt := by
  rw [Int32.toInt_sub, bmod_eq_of_fits fits]

theorem toInt_sub_one_of_fits {value : Int32} (fits : FitsInt32 (value.toInt - 1)) :
    (value - 1).toInt = value.toInt - 1 :=
  @toInt_sub_of_fits value 1 fits

theorem toInt_add_one_of_fits {value : Int32} (fits : FitsInt32 (value.toInt + 1)) :
    (value + 1).toInt = value.toInt + 1 :=
  @toInt_add_of_fits value 1 fits

theorem toInt_min (first second : Int32) :
    (min first second).toInt = min first.toInt second.toInt := by
  rw [show min first second = if first ≤ second then first else second from rfl, Int.min_def]
  simp only [Int32.le_iff_toInt_le]
  split <;> rfl

theorem toInt_max (first second : Int32) :
    (max first second).toInt = max first.toInt second.toInt := by
  rw [show max first second = if first ≤ second then second else first from rfl, Int.max_def]
  simp only [Int32.le_iff_toInt_le]
  split <;> rfl

theorem toInt_toInt32_of_lt {value : UInt32} (small : value.toNat < 2 ^ 31) :
    value.toInt32.toInt = value.toNat := by
  have signed : value.toInt32.toInt = value.toBitVec.toInt := rfl
  have unsigned : value.toBitVec.toNat = value.toNat := rfl
  rw [signed, BitVec.toInt_eq_toNat_of_lt (by omega), unsigned]

theorem toNat_toUInt32_of_nonneg {value : Int32} (nonneg : 0 ≤ value.toInt) :
    (value.toUInt32.toNat : Int) = value.toInt := by
  rw [Int32.toNat_toUInt32_of_le (Int32.le_iff_toInt_le.mpr nonneg), Int32.toNatClampNeg,
    Int.toNat_of_nonneg nonneg]

theorem toNat_toUInt16_of_lt {value : Int32} (nonneg : 0 ≤ value.toInt)
    (small : value.toInt < 2 ^ 16) :
    (value.toUInt32.toUInt16.toNat : Int) = value.toInt := by
  have wide := toNat_toUInt32_of_nonneg nonneg
  have narrow : value.toUInt32.toUInt16.toNat = value.toUInt32.toNat % 2 ^ 16 :=
    UInt32.toNat_toUInt16 _
  omega

theorem toNat_ofInt (value : Int) : ((UInt32.ofInt value).toNat : Int) = value % 2 ^ 32 := by
  have small : (value % 2 ^ 32).toNat < 2 ^ 32 := by omega
  rw [UInt32.ofInt, UInt32.toNat_ofNat_of_lt' small]
  omega

/-- So what holds of the 256 numbers holds of every byte. -/
theorem exists_ofNat (byte : UInt8) : ∃ number < 256, byte = .ofNat number :=
  ⟨byte.toNat, byte.toNat_lt, UInt8.ofNat_toNat.symm⟩

end MachineInt
