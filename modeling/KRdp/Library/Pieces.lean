/-
Lists that are put together from pieces.

Where one way of making pieces never gives longer ones than another, the whole lists
have one length only if all pieces have.  A separator splits a list into pieces; a
list whose items each end with a mark is split into these items exactly when no item
contains the mark.
-/

import Mathlib.Algebra.Order.BigOperators.Group.List
import Mathlib.Algebra.Order.Group.Nat
import Mathlib.Data.List.Basic

namespace Pieces

theorem length_eq_of_flatMap_eq {α β : Type*} {shorter longer : α → List β} {items : List α}
    (ordered : ∀ item ∈ items, (shorter item).length ≤ (longer item).length)
    (same : (items.flatMap shorter).length = (items.flatMap longer).length) :
    ∀ item ∈ items, (shorter item).length = (longer item).length := by
  induction items with
  | nil => simp
  | cons head tail ih =>
      have headLe := ordered head List.mem_cons_self
      have tailOrdered : ∀ item ∈ tail, (shorter item).length ≤ (longer item).length :=
        fun item member => ordered item (List.mem_cons_of_mem head member)
      have tailLe : (tail.flatMap shorter).length ≤ (tail.flatMap longer).length := by
        rw [List.length_flatMap, List.length_flatMap]
        exact List.sum_le_sum tailOrdered
      rw [List.flatMap_cons, List.flatMap_cons, List.length_append, List.length_append] at same
      intro item member
      rcases List.mem_cons.mp member with rfl | inTail
      · omega
      · exact ih tailOrdered (by omega) item inTail

variable {α : Type*} [DecidableEq α]

/-! ### Splitting -/

theorem splitOn_append_cons (mark : α) (first rest : List α) :
    (first ++ mark :: rest).splitOn mark = first.splitOn mark ++ rest.splitOn mark :=
  List.splitOnP_append_cons first rest (by simp)

theorem splitOn_of_not_mem {mark : α} {list : List α} (absent : mark ∉ list) :
    list.splitOn mark = [list] := by
  apply List.splitOnP_eq_singleton
  intro value member
  rw [beq_eq_false_iff_ne]
  rintro rfl
  exact absent member

theorem length_splitOn_pos (mark : α) (list : List α) : 0 < (list.splitOn mark).length :=
  List.length_pos_iff.mpr (List.splitOnP_ne_nil _ list)

theorem length_splitOn_eq_one_iff {mark : α} {list : List α} :
    (list.splitOn mark).length = 1 ↔ mark ∉ list := by
  constructor
  · intro one member
    obtain ⟨first, rest, rfl⟩ := List.append_of_mem member
    rw [splitOn_append_cons, List.length_append] at one
    have firstPos := length_splitOn_pos mark first
    have restPos := length_splitOn_pos mark rest
    omega
  · intro absent
    rw [splitOn_of_not_mem absent]
    rfl

/-- The first piece is the whole list exactly when there is no mark. -/
theorem head?_splitOn_eq_iff {mark : α} {list : List α} :
    (list.splitOn mark).head? = some list ↔ mark ∉ list := by
  constructor
  · intro whole member
    obtain ⟨first, rest, rfl, absent⟩ := List.eq_append_cons_of_mem member
    rw [splitOn_append_cons, splitOn_of_not_mem absent, List.cons_append, List.head?_cons,
      Option.some_inj] at whole
    have lengths := congrArg List.length whole
    rw [List.length_append, List.length_cons] at lengths
    omega
  · intro absent
    rw [splitOn_of_not_mem absent]
    rfl

/-! ### Items that end with a mark -/

def terminated (mark : α) (items : List (List α)) : List α :=
  items.flatMap fun item => item ++ [mark]

/-- The pieces that a mark ends. -/
def ended (mark : α) (list : List α) : List (List α) := (list.splitOn mark).dropLast

theorem splitOn_terminated (mark : α) (items : List (List α)) :
    (terminated mark items).splitOn mark =
      (items.flatMap fun item => item.splitOn mark) ++ [[]] := by
  induction items with
  | nil => rfl
  | cons item rest ih =>
      have step : terminated mark (item :: rest) = item ++ mark :: terminated mark rest := by
        rw [terminated, List.flatMap_cons, List.append_assoc]
        rfl
      rw [step, splitOn_append_cons, ih, List.flatMap_cons, List.append_assoc]

theorem ended_terminated (mark : α) (items : List (List α)) :
    ended mark (terminated mark items) = items.flatMap fun item => item.splitOn mark := by
  rw [ended, splitOn_terminated, List.dropLast_concat]

theorem ended_terminated_of_clean {mark : α} {items : List (List α)}
    (clean : ∀ item ∈ items, mark ∉ item) : ended mark (terminated mark items) = items := by
  rw [ended_terminated]
  calc
    (items.flatMap fun item => item.splitOn mark) = items.flatMap fun item => [item] :=
      List.flatMap_congr fun item member => splitOn_of_not_mem (clean item member)
    _ = items := List.flatMap_singleton' items

/-- There are as many pieces as items only if no item contains the mark. -/
theorem clean_of_length {mark : α} {items : List (List α)}
    (same : (ended mark (terminated mark items)).length = items.length) :
    ∀ item ∈ items, mark ∉ item := by
  rw [ended_terminated] at same
  have one : (items.flatMap fun item => [item]).length = items.length := by
    rw [List.flatMap_singleton']
  have ordered : ∀ item ∈ items, [item].length ≤ (item.splitOn mark).length :=
    fun item _ => length_splitOn_pos mark item
  intro item member
  rw [← length_splitOn_eq_one_iff]
  exact (length_eq_of_flatMap_eq ordered (one.trans same.symm) item member).symm

end Pieces
