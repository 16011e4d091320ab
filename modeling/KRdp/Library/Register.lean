/-
Registers that keep the last value written.

A history is a list of actions, some of which write a value.  The latest of these
is what the history leaves behind, and a part of a state that every step sets to
what its action writes holds it at the end of a run.
-/

import KRdp.Library.Run

namespace Register

variable {State Action Value : Type*}

def latest (write : Action → Option Value) (history : List Action) : Option Value :=
  (history.filterMap write).getLast?

variable (write : Action → Option Value)

@[simp] theorem latest_nil : latest write [] = none := rfl

theorem latest_append (first second : List Action) :
    latest write (first ++ second) = (latest write second).or (latest write first) := by
  rw [latest, List.filterMap_append, List.getLast?_append]
  rfl

theorem latest_cons (action : Action) (rest : List Action) :
    latest write (action :: rest) = (latest write rest).or (write action) := by
  have single : latest write [action] = write action := by
    unfold latest
    cases found : write action <;> simp [found]
  rw [← List.singleton_append, latest_append, single]

variable {write}

theorem latest_isSome {history : List Action} :
    (latest write history).isSome ↔ ∃ action ∈ history, (write action).isSome := by
  induction history with
  | nil => simp
  | cons action rest ih =>
      rw [latest_cons, Option.isSome_or, Bool.or_eq_true, ih, List.exists_mem_cons_iff, or_comm]

/-- The register rule: under an invariant of the run, what is read at the end is the
latest value written, or else what was there at the start. -/
theorem read_run {step : State → Action → State} (invariant : State → Prop)
    (read : State → Value) {start : State} (initial : invariant start)
    (keeps : ∀ state action, invariant state → invariant (step state action))
    (sets : ∀ state action, invariant state →
      read (step state action) = (write action).getD (read state)) (history : List Action) :
    read (StepRun.run step start history) = (latest write history).getD (read start) := by
  induction history generalizing start with
  | nil => rfl
  | cons action rest ih =>
      rw [StepRun.run_cons, ih (keeps start action initial), sets start action initial,
        latest_cons]
      cases latest write rest with
      | none => rfl
      | some value => rfl

/-- A flag that is never lowered tells whether some action has raised it. -/
theorem raised_run {step : State → Action → State} (flag : State → Prop)
    {raises : Action → Prop}
    (sets : ∀ state action, flag (step state action) ↔ flag state ∨ raises action)
    (start : State) (history : List Action) :
    flag (StepRun.run step start history) ↔ flag start ∨ ∃ action ∈ history, raises action := by
  induction history generalizing start with
  | nil => simp
  | cons action rest ih =>
      rw [StepRun.run_cons, ih, sets, List.exists_mem_cons_iff, or_assoc]

end Register
