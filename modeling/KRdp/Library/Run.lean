/-
Finite runs of a total step function.

A run is a list of actions taken from a start state.  `Always` says that a
property holds in every state the run visits, `Along` that every step it takes
meets a condition on the state before the step and on the action.  The rules
below package the induction over the run, so that a development only supplies
what one step preserves.
-/

import Mathlib.Data.List.Basic
import Mathlib.Tactic.ByContra

namespace StepRun

variable {State Action : Type*}

def run (step : State → Action → State) (start : State)
    (actions : List Action) : State :=
  actions.foldl step start

/-- The property holds in the start state and after each action. -/
def Always (step : State → Action → State) (property : State → Prop) :
    State → List Action → Prop
  | state, [] => property state
  | state, action :: rest =>
      property state ∧ Always step property (step state action) rest

/-- Every action is taken in a state that meets the condition for it. -/
def Along (step : State → Action → State) (condition : State → Action → Prop) :
    State → List Action → Prop
  | _, [] => True
  | state, action :: rest =>
      condition state action ∧ Along step condition (step state action) rest

variable (step : State → Action → State)

@[simp] theorem run_nil (start : State) : run step start [] = start := rfl

@[simp] theorem run_cons (start : State) (action : Action) (rest : List Action) :
    run step start (action :: rest) = run step (step start action) rest := rfl

theorem run_append (start : State) (first second : List Action) :
    run step start (first ++ second) = run step (run step start first) second := by
  simp only [run, List.foldl_append]

instance decidableAlways (property : State → Prop) [DecidablePred property] :
    (start : State) → (actions : List Action) →
      Decidable (Always step property start actions)
  | start, [] => inferInstanceAs (Decidable (property start))
  | start, action :: rest =>
      have := decidableAlways property (step start action) rest
      inferInstanceAs (Decidable (_ ∧ _))

instance decidableAlong (condition : State → Action → Prop)
    [∀ state action, Decidable (condition state action)] :
    (start : State) → (actions : List Action) →
      Decidable (Along step condition start actions)
  | _, [] => inferInstanceAs (Decidable True)
  | start, action :: rest =>
      have := decidableAlong condition (step start action) rest
      inferInstanceAs (Decidable (_ ∧ _))

section Rules

variable {step} {property : State → Prop} {condition : State → Action → Prop}

theorem along_append (start : State) (first second : List Action) :
    Along step condition start (first ++ second) ↔
      Along step condition start first ∧
        Along step condition (run step start first) second := by
  induction first generalizing start with
  | nil => simp [Along]
  | cons action rest ih =>
      simp only [List.cons_append, Along, run_cons, ih, and_assoc]

/-- One log of actions is another with more actions, each taken in a state that
meets the condition for it. -/
def Extends (step : State → Action → State) (condition : State → Action → Prop)
    (start : State) (before after : List Action) : Prop :=
  ∃ added, after = before ++ added ∧ Along step condition (run step start before) added

theorem Extends.refl (start : State) (log : List Action) :
    Extends step condition start log log :=
  ⟨[], (List.append_nil log).symm, trivial⟩

theorem Extends.trans {start : State} {first second third : List Action}
    (before : Extends step condition start first second)
    (after : Extends step condition start second third) :
    Extends step condition start first third := by
  obtain ⟨added, rfl, along⟩ := before
  obtain ⟨more, rfl, moreAlong⟩ := after
  refine ⟨added ++ more, List.append_assoc _ _ _, ?_⟩
  rw [along_append, ← run_append]
  exact ⟨along, moreAlong⟩

theorem Extends.of_action {start : State} {log : List Action} {action : Action}
    (met : condition (run step start log) action) :
    Extends step condition start log (log ++ [action]) :=
  ⟨[action], rfl, met, trivial⟩

theorem Always.at_end {start : State} {actions : List Action}
    (always : Always step property start actions) :
    property (run step start actions) := by
  induction actions generalizing start with
  | nil => exact always
  | cons action rest ih => exact ih always.2

theorem always_of_along (invariant : State → Prop) {start : State}
    {actions : List Action} (initial : invariant start)
    (keeps : ∀ state action, invariant state → condition state action →
      invariant (step state action))
    (good : ∀ state, invariant state → property state)
    (along : Along step condition start actions) :
    Always step property start actions := by
  induction actions generalizing start with
  | nil => exact good start initial
  | cons action rest ih =>
      exact ⟨good start initial, ih (keeps start action initial along.1) along.2⟩

theorem always_of_invariant (invariant : State → Prop) {start : State} (initial : invariant start)
    (keeps : ∀ state action, invariant state → invariant (step state action))
    (good : ∀ state, invariant state → property state) (actions : List Action) :
    Always step property start actions := by
  induction actions generalizing start with
  | nil => exact good start initial
  | cons action rest ih => exact ⟨good start initial, ih (keeps start action initial)⟩

theorem run_invariant (invariant : State → Prop) {start : State} (initial : invariant start)
    (keeps : ∀ state action, invariant state → invariant (step state action))
    (actions : List Action) : invariant (run step start actions) := by
  induction actions generalizing start with
  | nil => exact initial
  | cons action rest ih => exact ih (keeps start action initial)

/-- Two runs with related actions stay related. -/
theorem run_related {relation : State → State → Prop} {matched : Action → Action → Prop}
    (keeps : ∀ first second action other, relation first second → matched action other →
      relation (step first action) (step second other))
    {first second : State} (initial : relation first second) {actions others : List Action}
    (all : List.Forall₂ matched actions others) :
    relation (run step first actions) (run step second others) := by
  induction all generalizing first second with
  | nil => exact initial
  | cons head _ ih => exact ih (keeps first second _ _ initial head)

theorem along_of_forall (met : ∀ state action, condition state action) (start : State)
    (actions : List Action) : Along step condition start actions := by
  induction actions generalizing start with
  | nil => trivial
  | cons action rest ih => exact ⟨met start action, ih (step start action)⟩

/-- A run meets a condition along its way if each of its actions meets it after the
actions before. -/
theorem along_iff_forall (start : State) (actions : List Action) :
    Along step condition start actions ↔
      ∀ before action after, actions = before ++ action :: after →
        condition (run step start before) action := by
  constructor
  · rintro along before action after rfl
    exact ((along_append start before (action :: after)).mp along).2.1
  · intro met
    induction actions generalizing start with
    | nil => trivial
    | cons action rest ih =>
        refine ⟨met [] action rest rfl, ih (step start action) ?_⟩
        rintro before next after rfl
        exact met (action :: before) next after rfl

theorem along_of_invariant (invariant : State → Prop) {start : State} (initial : invariant start)
    (keeps : ∀ state action, invariant state → invariant (step state action))
    (met : ∀ state action, invariant state → condition state action) (actions : List Action) :
    Along step condition start actions := by
  induction actions generalizing start with
  | nil => trivial
  | cons action rest ih => exact ⟨met start action initial, ih (keeps start action initial)⟩

theorem along_and {first second : State → Action → Prop} (start : State)
    (actions : List Action) :
    Along step (fun state action => first state action ∧ second state action) start actions ↔
      Along step first start actions ∧ Along step second start actions := by
  induction actions generalizing start with
  | nil => simp [Along]
  | cons action rest ih =>
      simp only [Along, ih]
      exact and_and_and_comm

theorem along_congr {first second : State → Action → Prop}
    (agree : ∀ state action, first state action ↔ second state action) (start : State)
    (actions : List Action) : Along step first start actions ↔ Along step second start actions := by
  induction actions generalizing start with
  | nil => exact Iff.rfl
  | cons action rest ih => exact and_congr (agree start action) (ih (step start action))

/-- Conditions that agree under an invariant agree along a run.  The invariant may
use what the run is known to meet, and the second condition where it is met. -/
theorem along_iff_along {guard first second : State → Action → Prop} (invariant : State → Prop)
    {start : State} {actions : List Action} (initial : invariant start)
    (guarded : Along step guard start actions)
    (keeps : ∀ state action, invariant state → guard state action → second state action →
      invariant (step state action))
    (agree : ∀ state action, invariant state → guard state action →
      (first state action ↔ second state action)) :
    Along step first start actions ↔ Along step second start actions := by
  induction actions generalizing start with
  | nil => exact Iff.rfl
  | cons action rest ih =>
      have here := agree start action initial guarded.1
      constructor
      · intro along
        have met := here.mp along.1
        exact ⟨met, (ih (keeps start action initial guarded.1 met) guarded.2).mp along.2⟩
      · intro along
        exact ⟨here.mpr along.1,
          (ih (keeps start action initial guarded.1 along.1) guarded.2).mpr along.2⟩

theorem along_of_guarded {guard : State → Action → Prop} (invariant : State → Prop)
    {start : State} {actions : List Action} (initial : invariant start)
    (guarded : Along step guard start actions)
    (keeps : ∀ state action, invariant state → guard state action →
      invariant (step state action))
    (met : ∀ state action, invariant state → guard state action → condition state action) :
    Along step condition start actions := by
  induction actions generalizing start with
  | nil => trivial
  | cons action rest ih =>
      have next := keeps start action initial guarded.1
      exact ⟨met start action initial guarded.1, ih next guarded.2⟩

/-- What the actions carry is in order along a run, if it is in order in the list of
actions: here `seen` is what a state has been given so far. -/
theorem along_of_pairwise {Reading : Type*} {order : Reading → Reading → Prop}
    (readings : Action → List Reading) (seen : State → List Reading)
    (grows : ∀ state action, seen (step state action) ⊆ seen state ++ readings action)
    {start : State} {actions : List Action} (ordered : (actions.flatMap readings).Pairwise order)
    (before : ∀ earlier ∈ seen start, ∀ reading ∈ actions.flatMap readings,
      order earlier reading) :
    Along step
      (fun state action => ∀ earlier ∈ seen state, ∀ reading ∈ readings action,
        order earlier reading) start actions := by
  induction actions generalizing start with
  | nil => trivial
  | cons action rest ih =>
      rw [List.flatMap_cons] at ordered before
      obtain ⟨_, restOrdered, later⟩ := List.pairwise_append.mp ordered
      constructor
      · intro earlier member reading listed
        exact before earlier member reading (List.mem_append_left _ listed)
      · apply ih restOrdered
        intro earlier member reading listed
        rcases List.mem_append.mp (grows start action member) with old | new
        · exact before earlier old reading (List.mem_append_right _ listed)
        · exact later earlier new reading listed

/-- The same where every action carries one reading. -/
theorem along_of_pairwise_map {Reading : Type*} {order : Reading → Reading → Prop}
    (reading : Action → Reading) (seen : State → List Reading)
    (grows : ∀ state action, seen (step state action) ⊆ seen state ++ [reading action])
    {start : State} {actions : List Action} (ordered : (actions.map reading).Pairwise order)
    (before : ∀ earlier ∈ seen start, ∀ action ∈ actions, order earlier (reading action)) :
    Along step (fun state action => ∀ earlier ∈ seen state, order earlier (reading action))
      start actions := by
  rw [List.map_eq_flatMap] at ordered
  have along := along_of_pairwise (fun action => [reading action]) seen grows ordered (by
    intro earlier member read listed
    obtain ⟨action, among, same⟩ := List.mem_flatMap.mp listed
    rw [List.mem_singleton.mp same]
    exact before earlier member action among)
  refine (along_congr ?_ start actions).mp along
  intro state action
  simp only [List.forall_mem_singleton]

/-- Where every state short of a goal has an action that lowers a measure, some run
of such actions reaches the goal. -/
theorem exists_run_of_measure {allowed : Action → Prop} (goal : State → Prop)
    (measure : State → Nat)
    (progress : ∀ state, ¬goal state →
      ∃ action, allowed action ∧ measure (step state action) < measure state)
    (start : State) :
    ∃ actions, (∀ action ∈ actions, allowed action) ∧ goal (run step start actions) := by
  induction bound : measure start using Nat.strongRecOn generalizing start with
  | ind bound ih =>
      by_cases reached : goal start
      · exact ⟨[], by simp, reached⟩
      · obtain ⟨action, permitted, lower⟩ := progress start reached
        obtain ⟨rest, restPermitted, arrives⟩ :=
          ih (measure (step start action)) (bound ▸ lower) (step start action) rfl
        exact ⟨action :: rest, List.forall_mem_cons.mpr ⟨permitted, restPermitted⟩, arrives⟩

/-- The goal can be reached from exactly the states that are not dead, where dead
states stay dead and every other state has an action that lowers a measure. -/
theorem exists_run_iff (invariant dead goal : State → Prop) (measure : State → Nat)
    (keeps : ∀ state action, invariant state → invariant (step state action))
    (stays : ∀ state action, invariant state → dead state → dead (step state action))
    (apart : ∀ state, invariant state → dead state → ¬goal state)
    (progress : ∀ state, invariant state → ¬dead state → ¬goal state →
      ∃ action, ¬dead (step state action) ∧ measure (step state action) < measure state)
    {start : State} (initial : invariant start) :
    (∃ actions, goal (run step start actions)) ↔ ¬dead start := by
  constructor
  · intro reachable lost
    obtain ⟨actions, reached⟩ := reachable
    have both : invariant (run step start actions) ∧ dead (run step start actions) := by
      apply run_invariant fun state => invariant state ∧ dead state
      · exact ⟨initial, lost⟩
      · intro state action before
        exact ⟨keeps state action before.1, stays state action before.1 before.2⟩
    exact apart _ both.1 both.2 reached
  · intro alive
    induction bound : measure start using Nat.strongRecOn generalizing start with
    | ind bound ih =>
        by_cases reached : goal start
        · exact ⟨[], reached⟩
        · obtain ⟨action, stillAlive, lower⟩ := progress start initial alive reached
          obtain ⟨rest, arrives⟩ := ih (measure (step start action)) (bound ▸ lower)
            (keeps start action initial) stillAlive rfl
          exact ⟨action :: rest, arrives⟩

/-- The exact rule: when a step that misses the condition leaves the property
at once, the property holds throughout a run if and only if every step of the
run meets the condition. -/
theorem always_iff_along (invariant : State → Prop) {start : State}
    (actions : List Action) (initial : invariant start)
    (keeps : ∀ state action, invariant state → condition state action →
      invariant (step state action))
    (good : ∀ state, invariant state → property state)
    (bad : ∀ state action, invariant state → ¬condition state action →
      ¬property (step state action)) :
    Always step property start actions ↔ Along step condition start actions := by
  constructor
  · intro always
    induction actions generalizing start with
    | nil => trivial
    | cons action rest ih =>
        have next : property (step start action) := by
          cases rest with
          | nil => exact always.2
          | cons _ _ => exact always.2.1
        have met : condition start action := by
          by_contra missed
          exact bad start action initial missed next
        exact ⟨met, ih (keeps start action initial met) always.2⟩
  · exact always_of_along invariant initial keeps good

end Rules

end StepRun
