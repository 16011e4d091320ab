/-
Windows over stamped samples, and the integer mean of their values.

A window keeps the samples up to a given age.  While time goes on, a window that
was cut before can be cut again without regard to what it has lost.  The mean is
rounded down; it lies between any two bounds of the values.
-/

import Mathlib.Algebra.Order.BigOperators.Group.List
import Mathlib.Algebra.Order.Ring.Int
import Mathlib.Data.List.MinMax

namespace SampleWindow

section Window

variable {Sample : Type*} (stamp : Sample → Int) (age : Int)

def recent (now : Int) (samples : List Sample) : List Sample :=
  samples.filter fun sample => decide (now - stamp sample ≤ age)

variable {stamp age} {now : Int} {samples : List Sample}

theorem length_pos (nonempty : samples ≠ []) : (0 : Int) < samples.length := by
  exact_mod_cast List.length_pos_iff.mpr nonempty

theorem mem_recent {sample : Sample} :
    sample ∈ recent stamp age now samples ↔ sample ∈ samples ∧ now - stamp sample ≤ age := by
  rw [recent, List.mem_filter, decide_eq_true_eq]

theorem recent_append (first second : List Sample) :
    recent stamp age now (first ++ second) =
      recent stamp age now first ++ recent stamp age now second :=
  List.filter_append first second

theorem recent_eq_self_iff :
    recent stamp age now samples = samples ↔ ∀ sample ∈ samples, now - stamp sample ≤ age := by
  rw [recent, List.filter_eq_self]
  simp only [decide_eq_true_eq]

/-- What an earlier window has lost is too old for a later one. -/
theorem recent_recent {earlier : Int} (before : earlier ≤ now) :
    recent stamp age now (recent stamp age earlier samples) = recent stamp age now samples := by
  rw [recent, recent, List.filter_filter]
  apply List.filter_congr
  intro sample _
  by_cases young : now - stamp sample ≤ age
  · have younger : earlier - stamp sample ≤ age := by omega
    simp only [young, younger, decide_true, Bool.and_true]
  · simp only [young, decide_false, Bool.false_and]

end Window

section Mean

def mean (values : List Int) : Int := values.sum / values.length

variable {values : List Int} {bound : Int}

theorem sum_le (bounded : ∀ value ∈ values, value ≤ bound) :
    values.sum ≤ bound * values.length := by
  have total := List.sum_le_card_nsmul values bound bounded
  rwa [nsmul_eq_mul, mul_comm] at total

theorem le_sum (bounded : ∀ value ∈ values, bound ≤ value) :
    bound * values.length ≤ values.sum := by
  have total := List.card_nsmul_le_sum values bound bounded
  rwa [nsmul_eq_mul, mul_comm] at total

theorem mean_le (nonempty : values ≠ []) (bounded : ∀ value ∈ values, value ≤ bound) :
    mean values ≤ bound :=
  Int.ediv_le_of_le_mul (length_pos nonempty) (sum_le bounded)

theorem le_mean (nonempty : values ≠ []) (bounded : ∀ value ∈ values, bound ≤ value) :
    bound ≤ mean values :=
  (Int.le_ediv_iff_mul_le (length_pos nonempty)).mpr (le_sum bounded)

/-- A list with members has a least and a greatest one. -/
theorem exists_bounds (nonempty : values ≠ []) :
    ∃ least ∈ values, ∃ greatest ∈ values,
      ∀ value ∈ values, least ≤ value ∧ value ≤ greatest := by
  obtain ⟨least, isLeast⟩ := Option.ne_none_iff_exists'.mp
    (mt List.argmin_eq_none.mp nonempty : values.argmin id ≠ none)
  obtain ⟨greatest, isGreatest⟩ := Option.ne_none_iff_exists'.mp
    (mt List.argmax_eq_none.mp nonempty : values.argmax id ≠ none)
  refine ⟨least, List.argmin_mem isLeast, greatest, List.argmax_mem isGreatest, ?_⟩
  intro value member
  exact ⟨List.le_of_mem_argmin member isLeast, List.le_of_mem_argmax member isGreatest⟩

end Mean

end SampleWindow
