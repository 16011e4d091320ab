/-
Lists of records that are named by a key.

A record is looked up by its key, replaced by one of the same key, or removed;
the others keep their places.  Keys are pairwise distinct where a lemma says so.
-/

import Mathlib.Data.List.Nodup

namespace Registry

variable {α κ : Type*}

theorem eq_of_key {key : α → κ} {entries : List α} {entry other : α}
    (distinct : (entries.map key).Nodup) (member : entry ∈ entries)
    (otherMember : other ∈ entries) (same : key entry = key other) : entry = other :=
  List.inj_on_of_nodup_map distinct member otherMember same

variable [DecidableEq κ] (key : α → κ)

def find (name : κ) (entries : List α) : Option α :=
  entries.find? fun entry => decide (key entry = name)

/-- Replace the record with the key of the new one. -/
def store (entry : α) (entries : List α) : List α :=
  entries.map fun other => if key other = key entry then entry else other

def remove (name : κ) (entries : List α) : List α :=
  entries.eraseP fun entry => decide (key entry = name)

variable {key} {entries : List α} {entry other : α} {name : κ}

theorem find_eq_some (found : find key name entries = some entry) :
    entry ∈ entries ∧ key entry = name :=
  ⟨List.mem_of_find?_eq_some found, by simpa using List.find?_some found⟩

theorem find_of_mem (member : entry ∈ entries) :
    ∃ found, find key (key entry) entries = some found ∧ key found = key entry := by
  cases result : find key (key entry) entries with
  | some found => exact ⟨found, rfl, (find_eq_some result).2⟩
  | none =>
      have absent := List.find?_eq_none.mp result entry member
      simp at absent

theorem mem_store (member : other ∈ store key entry entries) :
    (other = entry ∧ ∃ replaced ∈ entries, key replaced = key entry) ∨
      (other ∈ entries ∧ key other ≠ key entry) := by
  obtain ⟨before, beforeMember, rfl⟩ := List.mem_map.mp member
  by_cases same : key before = key entry
  · rw [if_pos same]
    exact .inl ⟨rfl, before, beforeMember, same⟩
  · rw [if_neg same]
    exact .inr ⟨beforeMember, same⟩

theorem mem_store_self (member : other ∈ entries) (same : key other = key entry) :
    entry ∈ store key entry entries :=
  List.mem_map.mpr ⟨other, member, if_pos same⟩

theorem mem_store_other (member : other ∈ entries) (different : key other ≠ key entry) :
    other ∈ store key entry entries :=
  List.mem_map.mpr ⟨other, member, if_neg different⟩

theorem keys_store (entry : α) (entries : List α) :
    (store key entry entries).map key = entries.map key := by
  rw [store, List.map_map]
  apply List.map_congr_left
  intro other _
  by_cases same : key other = key entry
  · rw [Function.comp_apply, if_pos same, same]
  · rw [Function.comp_apply, if_neg same]

theorem find_head (entry : α) (rest : List α) :
    find key (key entry) (entry :: rest) = some entry :=
  List.find?_cons_of_pos (decide_eq_true rfl)

/-- Where keys are distinct, only the first record is replaced by one of its key. -/
theorem store_head {rest : List α} (distinct : ((other :: rest).map key).Nodup)
    (same : key entry = key other) : store key entry (other :: rest) = entry :: rest := by
  rw [List.map_cons, List.nodup_cons] at distinct
  have kept : ∀ each ∈ rest, (if key each = key entry then entry else each) = each := by
    intro each member
    apply if_neg
    intro equal
    exact distinct.1 (List.mem_map.mpr ⟨each, member, equal.trans same⟩)
  rw [store, List.map_cons, if_pos same.symm, List.map_congr_left kept, List.map_id']

/-- Removing takes out the record that is found and leaves the others in place. -/
theorem remove_split (found : find key name entries = some entry) :
    ∃ front back, entries = front ++ entry :: back ∧ remove key name entries = front ++ back := by
  obtain ⟨isNamed, front, back, split, earlier⟩ := List.find?_eq_some_iff_append.mp found
  refine ⟨front, back, split, ?_⟩
  have kept : ∀ other ∈ front, ¬decide (key other = name) = true := by
    intro other member
    simpa using earlier other member
  unfold remove
  rw [split, List.eraseP_append_right _ kept, List.eraseP_cons_of_pos]
  exact isNamed

theorem remove_sublist (name : κ) (entries : List α) :
    List.Sublist (remove key name entries) entries :=
  List.eraseP_sublist

theorem mem_remove_iff (distinct : (entries.map key).Nodup) :
    other ∈ remove key name entries ↔ other ∈ entries ∧ key other ≠ name := by
  cases found : find key name entries with
  | none =>
      have absent : ∀ entry ∈ entries, key entry ≠ name := by
        intro entry member
        simpa using List.find?_eq_none.mp found entry member
      have unchanged : remove key name entries = entries := by
        apply List.eraseP_of_forall_not
        intro entry member
        simpa using absent entry member
      rw [unchanged]
      exact ⟨fun member => ⟨member, absent other member⟩, fun both => both.1⟩
  | some entry =>
      obtain ⟨front, back, split, removed⟩ := remove_split found
      have named := (find_eq_some found).2
      rw [removed]
      rw [split, List.map_append, List.map_cons] at distinct
      have entryApart := (List.nodup_middle.mp distinct)
      rw [List.nodup_cons, ← List.map_append, named] at entryApart
      constructor
      · intro member
        constructor
        · rw [split]
          rcases List.mem_append.mp member with early | late
          · exact List.mem_append_left _ early
          · exact List.mem_append_right _ (List.mem_cons_of_mem _ late)
        · intro same
          exact entryApart.1 (List.mem_map.mpr ⟨other, member, same⟩)
      · intro both
        rw [split] at both
        rcases List.mem_append.mp both.1 with early | late
        · exact List.mem_append_left _ early
        · rcases List.mem_cons.mp late with same | later
          · exact absurd (same ▸ named) both.2
          · exact List.mem_append_right _ later

end Registry
