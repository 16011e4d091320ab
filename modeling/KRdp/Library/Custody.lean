/-
Allocations that are used and freed.

A log of allocations, uses and frees is read by a monitor that keeps what is
allocated and stops at an entry that no allocation allows: a use or a free of
something that is not allocated, or a name that is given out twice.
-/

import KRdp.Library.Monitor

namespace Custody

variable {Name : Type*} [DecidableEq Name]

inductive Entry (Name : Type*) where
  | allocate (name : Name)
  | use (name : Name)
  | free (name : Name)
  deriving DecidableEq, Repr

def step (live : List Name) : Entry Name → Option (List Name)
  | .allocate name => if name ∈ live then none else some (name :: live)
  | .use name => if name ∈ live then some live else none
  | .free name => if name ∈ live then some (live.erase name) else none

/-- The log is accepted, and leaves just these names allocated. -/
def Holds (log : List (Entry Name)) (live : List Name) : Prop :=
  ∃ cells, Monitor.run step [] log = some cells ∧ cells.Perm live

theorem holds_nil : Holds ([] : List (Entry Name)) [] := ⟨[], rfl, .nil⟩

variable {log : List (Entry Name)} {live : List Name} {name : Name}

theorem Holds.perm (holds : Holds log live) {other : List Name} (perm : live.Perm other) :
    Holds log other := by
  obtain ⟨cells, accepted, same⟩ := holds
  exact ⟨cells, accepted, same.trans perm⟩

/-- A log leaves one set of names. -/
theorem Holds.unique {other : List Name} (holds : Holds log live) (others : Holds log other) :
    live.Perm other := by
  obtain ⟨cells, accepted, perm⟩ := holds
  obtain ⟨otherCells, otherAccepted, otherPerm⟩ := others
  rw [accepted] at otherAccepted
  rw [← Option.some.inj otherAccepted] at otherPerm
  exact perm.symm.trans otherPerm

theorem Holds.allocate (holds : Holds log live) (fresh : name ∉ live) :
    Holds (log ++ [.allocate name]) (name :: live) := by
  obtain ⟨cells, accepted, perm⟩ := holds
  refine ⟨name :: cells, ?_, perm.cons name⟩
  rw [Monitor.run_concat accepted, step, if_neg fun member => fresh (perm.mem_iff.mp member)]

theorem Holds.use (holds : Holds log live) (member : name ∈ live) :
    Holds (log ++ [.use name]) live := by
  obtain ⟨cells, accepted, perm⟩ := holds
  refine ⟨cells, ?_, perm⟩
  rw [Monitor.run_concat accepted, step, if_pos (perm.mem_iff.mpr member)]

theorem Holds.free {rest : List Name} (holds : Holds log (name :: rest)) :
    Holds (log ++ [.free name]) rest := by
  obtain ⟨cells, accepted, perm⟩ := holds
  refine ⟨cells.erase name, ?_, ?_⟩
  · rw [Monitor.run_concat accepted, step, if_pos (perm.mem_iff.mpr List.mem_cons_self)]
  · have erased := perm.erase name
    rwa [List.erase_cons_head] at erased

theorem step_nodup {cells next : List Name} {entry : Entry Name} (nodup : cells.Nodup)
    (stepped : step cells entry = some next) : next.Nodup := by
  cases entry with
  | allocate name =>
      simp only [step] at stepped
      split at stepped
      · cases stepped
      · rename_i fresh
        rw [← Option.some.inj stepped]
        exact List.nodup_cons.mpr ⟨fresh, nodup⟩
  | use name =>
      simp only [step] at stepped
      split at stepped
      · rwa [← Option.some.inj stepped]
      · cases stepped
  | free name =>
      simp only [step] at stepped
      split at stepped
      · rw [← Option.some.inj stepped]
        exact nodup.erase name
      · cases stepped

theorem Holds.nodup (holds : Holds log live) : live.Nodup := by
  obtain ⟨cells, accepted, perm⟩ := holds
  refine perm.nodup_iff.mp (Monitor.run_invariant List.Nodup ?_ List.nodup_nil accepted)
  intro before entry next distinct stepped
  exact step_nodup distinct stepped

/-- No log goes on with the use of what is not allocated. -/
theorem Holds.not_use (holds : Holds log live) (absent : name ∉ live) (other : List Name) :
    ¬Holds (log ++ [.use name]) other := by
  obtain ⟨cells, accepted, perm⟩ := holds
  rintro ⟨after, stopped, _⟩
  rw [Monitor.run_concat accepted, step, if_neg fun member => absent (perm.mem_iff.mp member)]
    at stopped
  cases stopped

/-! ### Heaps -/

/-- Names are given out in order. -/
structure Heap where
  allocated : Nat := 0
  log : List (Entry Nat) := []
  deriving DecidableEq, Repr

namespace Heap

/-- The new name is the number of those before it. -/
def allocate (heap : Heap) : Heap :=
  { allocated := heap.allocated + 1
    log := heap.log ++ [.allocate heap.allocated] }

def use (name : Nat) (heap : Heap) : Heap := { heap with log := heap.log ++ [.use name] }

def free (name : Nat) (heap : Heap) : Heap := { heap with log := heap.log ++ [.free name] }

/-- Just these names are allocated, and new ones are different. -/
structure Sound (heap : Heap) (live : List Nat) : Prop where
  holds : Holds heap.log live
  below : ∀ name ∈ live, name < heap.allocated

theorem sound_initial : ({} : Heap).Sound [] := ⟨holds_nil, List.forall_mem_nil _⟩

variable {heap : Heap} {live : List Nat} {name : Nat}

theorem Sound.perm (sound : heap.Sound live) {other : List Nat} (perm : live.Perm other) :
    heap.Sound other :=
  ⟨sound.holds.perm perm, fun name member => sound.below name (perm.mem_iff.mpr member)⟩

theorem Sound.use (sound : heap.Sound live) (member : name ∈ live) :
    (heap.use name).Sound live :=
  ⟨sound.holds.use member, sound.below⟩

theorem Sound.free {rest : List Nat} (sound : heap.Sound (name :: rest)) :
    (heap.free name).Sound rest :=
  ⟨sound.holds.free, fun other member => sound.below other (List.mem_cons_of_mem _ member)⟩

theorem Sound.allocate (sound : heap.Sound live) :
    heap.allocate.Sound (heap.allocated :: live) := by
  refine ⟨sound.holds.allocate ?_, ?_⟩
  · intro member
    exact Nat.lt_irrefl _ (sound.below _ member)
  · intro name member
    rcases List.mem_cons.mp member with rfl | earlier
    · exact Nat.lt_succ_self _
    · exact Nat.lt_succ_of_lt (sound.below name earlier)

end Heap

end Custody
