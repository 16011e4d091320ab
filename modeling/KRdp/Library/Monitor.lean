/-
Monitors of a log.

A monitor is a partial automaton: it reads the entries of a log one by one and
stops at the first entry that its state does not allow.
-/

import Mathlib.Data.List.Basic

namespace Monitor

variable {State Entry : Type*}

def run (step : State → Entry → Option State) : State → List Entry → Option State
  | state, [] => some state
  | state, entry :: rest => (step state entry).bind fun next => run step next rest

variable {step : State → Entry → Option State}

theorem run_append (state : State) (first second : List Entry) :
    run step state (first ++ second) =
      (run step state first).bind fun next => run step next second := by
  induction first generalizing state with
  | nil => rfl
  | cons entry rest ih =>
      simp only [List.cons_append, run]
      cases step state entry with
      | none => rfl
      | some next => exact ih next

theorem run_append_eq_some {state last : State} {first second : List Entry}
    (accepted : run step state (first ++ second) = some last) :
    ∃ middle, run step state first = some middle ∧ run step middle second = some last := by
  rw [run_append] at accepted
  exact Option.bind_eq_some_iff.mp accepted

theorem run_cons_eq_some {state last : State} {entry : Entry} {rest : List Entry}
    (accepted : run step state (entry :: rest) = some last) :
    ∃ next, step state entry = some next ∧ run step next rest = some last :=
  Option.bind_eq_some_iff.mp accepted

theorem run_concat {state middle : State} {log : List Entry}
    (accepted : run step state log = some middle) (entry : Entry) :
    run step state (log ++ [entry]) = step middle entry := by
  rw [run_append, accepted]
  simp only [Option.bind_some, run]
  cases step middle entry <;> rfl

theorem run_invariant (invariant : State → Prop)
    (keeps : ∀ state entry next, invariant state → step state entry = some next → invariant next)
    {state last : State} {log : List Entry} (initial : invariant state)
    (accepted : run step state log = some last) : invariant last := by
  induction log generalizing state with
  | nil =>
      rw [← Option.some.inj accepted]
      exact initial
  | cons entry rest ih =>
      obtain ⟨next, first, accepted⟩ := run_cons_eq_some accepted
      exact ih (keeps state entry next initial first) accepted

/-- Two entries of an accepted log, and the states around them. -/
theorem run_between {state last : State} {before between after : List Entry}
    {first second : Entry}
    (accepted : run step state (before ++ first :: between ++ second :: after) = some last) :
    ∃ reached started waited stopped,
      step reached first = some started ∧ run step started between = some waited ∧
        step waited second = some stopped := by
  rw [List.append_assoc, List.cons_append] at accepted
  obtain ⟨reached, _, accepted⟩ := run_append_eq_some accepted
  obtain ⟨started, firstStep, accepted⟩ := run_cons_eq_some accepted
  obtain ⟨waited, ran, accepted⟩ := run_append_eq_some accepted
  obtain ⟨stopped, secondStep, _⟩ := run_cons_eq_some accepted
  exact ⟨reached, started, waited, stopped, firstStep, ran, secondStep⟩

/-- Entries that leave a state alone leave it alone together. -/
theorem run_stays {state : State} {entries : List Entry}
    (stays : ∀ entry ∈ entries, step state entry = some state) :
    run step state entries = some state := by
  induction entries with
  | nil => rfl
  | cons entry rest ih =>
      rw [run, stays entry List.mem_cons_self, Option.bind_some]
      exact ih fun other member => stays other (List.mem_cons_of_mem entry member)

end Monitor
