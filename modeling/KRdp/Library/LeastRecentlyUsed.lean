/-
Least recently used caches, and tables with a stamp for each entry.

The cache is a list of keys with the most recent one first.  A table refines it
when its entries, in the order of falling stamps, have these keys: a use gives an
entry the latest stamp, and an entry with the least stamp is the one to evict.
-/

import Mathlib.Data.List.Nodup
import Mathlib.Data.List.Perm.Basic

namespace LeastRecentlyUsed

variable {Key : Type*} [DecidableEq Key]

/-- A hit moves the key to the front.  A miss puts it there, and drops what does not
fit any more. -/
def use (capacity : Nat) (key : Key) (recent : List Key) : List Key :=
  if key ∈ recent then key :: recent.erase key else key :: recent.take (capacity - 1)

theorem use_of_mem {capacity : Nat} {key : Key} {recent : List Key} (hit : key ∈ recent) :
    use capacity key recent = key :: recent.erase key :=
  if_pos hit

theorem use_of_room {capacity : Nat} {key : Key} {recent : List Key} (miss : key ∉ recent)
    (room : recent.length < capacity) : use capacity key recent = key :: recent := by
  rw [use, if_neg miss, List.take_of_length_le (Nat.le_sub_one_of_lt room)]

theorem use_of_full {capacity : Nat} {key : Key} {recent : List Key} (miss : key ∉ recent)
    (full : recent.length = capacity) : use capacity key recent = key :: recent.dropLast := by
  rw [use, if_neg miss, List.dropLast_eq_take, full]

/-! ### Tables with stamps -/

variable {Entry : Type*} (key : Entry → Key) (stamp : Entry → Int)

/-- The entries in the order of falling stamps have the keys of the cache. -/
structure Refines (entries : List Entry) (recent : List Key) : Prop where
  sorted : ∃ ordered : List Entry, ordered.Perm entries ∧
    ordered.Pairwise (fun later earlier => stamp earlier < stamp later) ∧
    ordered.map key = recent
  distinct : recent.Nodup

variable {key stamp} {entries rest after : List Entry} {recent : List Key} {entry new : Entry}

omit [DecidableEq Key] in
theorem Refines.nil : Refines key stamp [] [] :=
  ⟨⟨[], .refl _, .nil, rfl⟩, .nil⟩

omit [DecidableEq Key] in
theorem Refines.mem_iff (refines : Refines key stamp entries recent) {used : Key} :
    used ∈ recent ↔ ∃ entry ∈ entries, key entry = used := by
  obtain ⟨ordered, perm, _, rfl⟩ := refines.sorted
  simp only [List.mem_map, perm.mem_iff]

omit [DecidableEq Key] in
theorem Refines.length_eq (refines : Refines key stamp entries recent) :
    recent.length = entries.length := by
  obtain ⟨ordered, perm, _, rfl⟩ := refines.sorted
  rw [List.length_map, perm.length_eq]

omit [DecidableEq Key] in
theorem Refines.perm (refines : Refines key stamp entries recent)
    (same : entries.Perm after) : Refines key stamp after recent := by
  obtain ⟨ordered, perm, falling, keys⟩ := refines.sorted
  exact ⟨⟨ordered, perm.trans same, falling, keys⟩, refines.distinct⟩

omit [DecidableEq Key] in
/-- A new entry with a new key and the latest stamp. -/
theorem Refines.insert (refines : Refines key stamp entries recent) (fresh : key new ∉ recent)
    (latest : ∀ entry ∈ entries, stamp entry < stamp new) :
    Refines key stamp (new :: entries) (key new :: recent) := by
  obtain ⟨ordered, perm, falling, rfl⟩ := refines.sorted
  refine ⟨⟨new :: ordered, perm.cons new, ?_, rfl⟩, List.nodup_cons.mpr ⟨fresh, refines.distinct⟩⟩
  refine List.pairwise_cons.mpr ⟨?_, falling⟩
  intro entry member
  exact latest entry (perm.mem_iff.mp member)

omit [DecidableEq Key] in
/-- An entry of the table stands somewhere in the order. -/
theorem Refines.split (refines : Refines key stamp (entry :: rest) recent) :
    ∃ front back : List Entry, (front ++ back).Perm rest ∧
      (front ++ entry :: back).Pairwise (fun later earlier => stamp earlier < stamp later) ∧
      recent = front.map key ++ key entry :: back.map key := by
  obtain ⟨ordered, perm, falling, rfl⟩ := refines.sorted
  obtain ⟨front, back, rfl⟩ := List.append_of_mem (perm.mem_iff.mpr List.mem_cons_self)
  have moved : (entry :: (front ++ back)).Perm (entry :: rest) :=
    List.perm_middle.symm.trans perm
  exact ⟨front, back, moved.cons_inv, falling, by rw [List.map_append, List.map_cons]⟩

theorem erase_middle {front back : List Key} {used : Key}
    (distinct : (front ++ used :: back).Nodup) :
    (front ++ used :: back).erase used = front ++ back := by
  have absent : used ∉ front := by
    intro member
    exact (List.nodup_append.mp distinct).2.2 used member used List.mem_cons_self rfl
  rw [List.erase_append_right _ absent, List.erase_cons_head]

/-- An entry is taken out, wherever it stands. -/
theorem Refines.remove (refines : Refines key stamp (entry :: rest) recent) :
    Refines key stamp rest (recent.erase (key entry)) := by
  have distinct := refines.distinct
  obtain ⟨front, back, others, falling, rfl⟩ := refines.split
  rw [erase_middle distinct]
  have fewer : (front ++ back).Sublist (front ++ entry :: back) :=
    List.Sublist.append_left (List.sublist_cons_self entry back) front
  refine ⟨⟨front ++ back, others, falling.sublist fewer, List.map_append⟩, ?_⟩
  exact distinct.sublist (List.Sublist.append_left (List.sublist_cons_self _ _) _)

/-- An entry is given the latest stamp. -/
theorem Refines.touch (refines : Refines key stamp (entry :: rest) recent)
    (same : key new = key entry) (latest : ∀ other ∈ rest, stamp other < stamp new) :
    Refines key stamp (new :: rest) (key entry :: recent.erase (key entry)) := by
  have fresh : key new ∉ recent.erase (key entry) := by
    rw [same]
    exact refines.distinct.not_mem_erase
  have inserted := refines.remove.insert fresh latest
  rwa [same] at inserted

/-- An entry with the least stamp is the one with the last key. -/
theorem Refines.evict (refines : Refines key stamp (entry :: rest) recent)
    (least : ∀ other ∈ rest, stamp entry ≤ stamp other) :
    Refines key stamp rest recent.dropLast := by
  have removed := refines.remove
  have distinct := refines.distinct
  obtain ⟨front, back, others, falling, rfl⟩ := refines.split
  cases back with
  | nil =>
      rw [erase_middle distinct, List.map_nil, List.append_nil] at removed
      rwa [List.map_nil, List.dropLast_concat]
  | cons earlier back =>
      have below := (List.pairwise_cons.mp (List.pairwise_append.mp falling).2.1).1 earlier
        List.mem_cons_self
      have member : earlier ∈ rest :=
        others.mem_iff.mp (List.mem_append_right front List.mem_cons_self)
      exact absurd below (Int.not_lt.mpr (least earlier member))

end LeastRecentlyUsed
