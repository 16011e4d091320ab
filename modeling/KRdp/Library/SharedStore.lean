/-
A store whose keys are made from names, where two names may make the same key.

A list of names owns the store when each name reads its own value.  Writing for
one name and erasing for others keeps that exactly when no other listed name has
lost its value.
-/

import Mathlib.Logic.Function.Basic

namespace SharedStore

variable {ν κ δ : Type*} {key : ν → κ}

/-- Every listed name has a value, and reads it under its key. -/
def Owns (key : ν → κ) (names : List ν) (value : ν → Option δ) (store : κ → Option δ) : Prop :=
  ∀ name ∈ names, ∃ own, value name = some own ∧ store (key name) = some own

/-- After a write for one name and some erasures, another name still reads its
value. -/
def Spared (key : ν → κ) (erased : κ → Prop) (value : ν → Option δ) (written : ν) (new : δ)
    (other : ν) : Prop :=
  key other = key written ∧ value other = some new ∨
    key other ≠ key written ∧ ¬erased (key other)

theorem spared_congr {erased removed : κ → Prop} {value : ν → Option δ} {written other : ν}
    {new : δ} (same : erased (key other) ↔ removed (key other)) :
    Spared key erased value written new other ↔ Spared key removed value written new other := by
  unfold Spared
  rw [same]

section Rules

variable [DecidableEq κ] {after : List ν} {value : ν → Option δ} {store changed : κ → Option δ}

theorem owns_erase_iff {place : κ}
    (owns : ∀ other ∈ after, ∃ own, value other = some own ∧ store (key other) = some own) :
    Owns key after value (Function.update store place none) ↔
      ∀ other ∈ after, key other ≠ place := by
  constructor
  · intro reads other member same
    obtain ⟨own, _, stored⟩ := reads other member
    rw [same, Function.update_self] at stored
    cases stored
  · intro apart other member
    rw [Function.update_of_ne (apart other member)]
    exact owns other member

theorem owns_write_iff [DecidableEq ν] {erased : κ → Prop} {written : ν} {new : δ}
    (owns : ∀ other ∈ after, other ≠ written →
      ∃ own, value other = some own ∧ store (key other) = some own)
    (gone : ∀ place, erased place → changed place = none)
    (kept : ∀ place, ¬erased place → changed place = store place) :
    Owns key after (Function.update value written (some new))
        (Function.update changed (key written) (some new)) ↔
      ∀ other ∈ after, other ≠ written → Spared key erased value written new other := by
  constructor
  · intro reads other member different
    obtain ⟨own, ownValue, stored⟩ := reads other member
    rw [Function.update_of_ne different] at ownValue
    by_cases same : key other = key written
    · rw [same, Function.update_self] at stored
      exact .inl ⟨same, ownValue.trans stored.symm⟩
    · rw [Function.update_of_ne same] at stored
      refine .inr ⟨same, ?_⟩
      intro isErased
      rw [gone _ isErased] at stored
      cases stored
  · intro spared other member
    by_cases different : other = written
    · rw [different, Function.update_self, Function.update_self]
      exact ⟨new, rfl, rfl⟩
    · rw [Function.update_of_ne different]
      rcases spared other member different with shared | apart
      · rw [shared.1, Function.update_self]
        exact ⟨new, shared.2, rfl⟩
      · rw [Function.update_of_ne apart.1, kept _ apart.2]
        exact owns other member different

end Rules

end SharedStore
