/-
Linear search along a successor function.

The search tries a start value and the values after it until one is free.  It
runs on fuel; when the first values are pairwise distinct and fewer than the
fuel are taken, it ends.
-/

import Mathlib.Data.List.Perm.Subperm
import Mathlib.Logic.Function.Iterate

namespace BoundedSearch

variable {α : Type*}

/-- The first free value among `fuel` values from `start` on. -/
def search (next : α → α) (free : α → Bool) : Nat → α → Option α
  | 0, _ => none
  | fuel + 1, start => if free start then some start else search next free fuel (next start)

variable {next : α → α} {free : α → Bool}

theorem search_eq_some_iff (fuel : Nat) (start value : α) :
    search next free fuel start = some value ↔
      ∃ count < fuel, next^[count] start = value ∧ free value = true ∧
        ∀ earlier < count, free (next^[earlier] start) = false := by
  induction fuel generalizing start with
  | zero => simp [search]
  | succ fuel ih =>
      rw [search]
      cases isFree : free start with
      | true =>
          rw [if_pos rfl, Option.some_inj]
          constructor
          · rintro rfl
            exact ⟨0, Nat.succ_pos fuel, rfl, isFree, by simp⟩
          · rintro ⟨count, _, reached, _, before⟩
            cases count with
            | zero => exact reached
            | succ count => exact absurd (before 0 (Nat.succ_pos count)) (by simp [isFree])
      | false =>
          rw [if_neg Bool.false_ne_true, ih]
          constructor
          · rintro ⟨count, inside, reached, valueFree, before⟩
            refine ⟨count + 1, Nat.succ_lt_succ inside, reached, valueFree, ?_⟩
            intro earlier earlierLt
            cases earlier with
            | zero => exact isFree
            | succ earlier => exact before earlier (Nat.lt_of_succ_lt_succ earlierLt)
          · rintro ⟨count, inside, reached, valueFree, before⟩
            cases count with
            | zero =>
                rw [← reached] at valueFree
                exact absurd valueFree (by simp [isFree])
            | succ count =>
                exact ⟨count, Nat.lt_of_succ_lt_succ inside, reached, valueFree,
                  fun earlier earlierLt => before (earlier + 1) (Nat.succ_lt_succ earlierLt)⟩

theorem search_eq_none_iff (fuel : Nat) (start : α) :
    search next free fuel start = none ↔ ∀ count < fuel, free (next^[count] start) = false := by
  induction fuel generalizing start with
  | zero => simp [search]
  | succ fuel ih =>
      rw [search, Nat.forall_lt_succ_left']
      cases isFree : free start with
      | true => simp [isFree]
      | false =>
          rw [if_neg Bool.false_ne_true, ih]
          simp [isFree]

/-- With fewer taken values than fuel, the search ends. -/
theorem search_isSome_of_taken {fuel : Nat} {start : α} (taken : List α)
    (rest : ∀ value, value ∉ taken → free value = true)
    (distinct : ((List.range fuel).map fun count => next^[count] start).Nodup)
    (enough : taken.length < fuel) : (search next free fuel start).isSome = true := by
  rw [Option.isSome_iff_ne_none]
  intro exhausted
  rw [search_eq_none_iff] at exhausted
  have all : (List.range fuel).map (fun count => next^[count] start) ⊆ taken := by
    intro value member
    obtain ⟨count, inside, rfl⟩ := List.mem_map.mp member
    by_contra untaken
    have isTaken := exhausted count (List.mem_range.mp inside)
    rw [rest _ untaken] at isTaken
    cases isTaken
  have bound := (List.Nodup.subperm distinct all).length_le
  rw [List.length_map, List.length_range] at bound
  omega

/-- When a free value lies ahead and the values before it are pairwise distinct,
fuel for all taken values is enough, however far ahead it lies. -/
theorem search_isSome_of_reached {fuel : Nat} {start : α} (taken : List α)
    (rest : ∀ value, value ∉ taken → free value = true) {count : Nat}
    (reached : free (next^[count] start) = true)
    (distinct : ((List.range count).map fun count => next^[count] start).Nodup)
    (enough : taken.length < fuel) : (search next free fuel start).isSome = true := by
  by_cases within : count < fuel
  · rw [Option.isSome_iff_ne_none]
    intro exhausted
    rw [search_eq_none_iff] at exhausted
    rw [exhausted count within] at reached
    cases reached
  · apply search_isSome_of_taken taken rest _ enough
    have shorter := List.range_sublist.mpr (Nat.le_of_not_lt within)
    exact distinct.sublist (shorter.map _)

end BoundedSearch
