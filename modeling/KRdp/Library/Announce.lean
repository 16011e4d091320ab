/-
Announcing a value and having it fetched.

A source shares a value that changes, and a sink asks for it.  Every change starts
a round trip: the sink is told, asks, and is answered with the value of that
moment.  Of all the traffic only two things count: whether a round trip has still
to reach the source, and the answers on their way to the sink, oldest first.
-/

import KRdp.Library.Run

structure Announce (Value : Type*) where
  shared : Option Value := none
  owed : Bool := false
  answers : List (Option Value) := []
  held : Option Value := none

namespace Announce

variable {Value : Type*}

inductive Step : Announce Value → Announce Value → Prop where
  | idle (state) : Step state state
  | offer (state) (value : Value) : Step state { state with shared := some value, owed := true }
  | ask (state) : Step state { state with owed := true }
  /-- Where nothing is shared a round trip may come to nothing. -/
  | withdraw (state) (owed : Bool) : Step state { state with shared := none, owed := owed }
  | answer (state) (other : Option Value) (owed : Bool) :
      Step state
        { state with
          owed := owed
          answers := state.answers ++ [state.shared.or other] }
  | receive (state) (answer : Option Value) (rest : List (Option Value))
      (next : state.answers = answer :: rest) :
      Step state { state with answers := rest, held := answer }
  /-- A sink that reads the value itself. -/
  | read (state) (owed : Bool) (nothing : state.answers = []) :
      Step state { state with owed := owed, held := state.shared }
  | cut (state) (owed : Bool) :
      Step state { shared := none, owed := owed, held := state.held }

/-- A change of what is shared is announced, unless nothing is shared from then on. -/
theorem Step.change (state : Announce Value) {shared : Option Value} {owed : Bool}
    (announced : shared = none ∨ owed = true ∨ shared = state.shared ∧ owed = state.owed) :
    Step state { state with shared := shared, owed := owed } := by
  rcases announced with rfl | rfl | ⟨rfl, rfl⟩
  · exact .withdraw state owed
  · cases shared with
    | none => exact .withdraw state true
    | some value => exact .offer state value
  · exact .idle state

/-- What the sink holds once every answer has arrived. -/
def latest (state : Announce Value) : Option Value := state.answers.getLast?.getD state.held

/-- The value shared is on its way, if it has not arrived. -/
def Fresh (state : Announce Value) : Prop :=
  ∀ value, state.shared = some value → state.owed = true ∨ state.latest = some value

structure Settled (state : Announce Value) : Prop where
  owed : state.owed = false
  answers : state.answers = []

theorem latest_receive (answer held : Option Value) (rest : List (Option Value)) :
    (answer :: rest).getLast?.getD held = rest.getLast?.getD answer := by
  cases rest with
  | nil => rfl
  | cons second rest =>
      rw [List.getLast?_cons_cons, List.getLast?_cons, Option.getD_some, Option.getD_some]

theorem fresh_of_nothing {state : Announce Value} (nothing : state.shared = none) :
    state.Fresh := by
  intro value shared
  rw [nothing] at shared
  cases shared

theorem Fresh.step {state next : Announce Value} (fresh : state.Fresh) (step : Step state next) :
    next.Fresh := by
  intro value shared
  cases step with
  | idle => exact fresh value shared
  | offer offered => exact .inl rfl
  | ask => exact .inl rfl
  | withdraw owed => cases shared
  | answer other owed =>
      right
      change (state.answers ++ [state.shared.or other]).getLast?.getD state.held = some value
      have sharedBefore : state.shared = some value := shared
      rw [List.getLast?_concat, Option.getD_some, sharedBefore, Option.some_or]
  | receive answer rest nextAnswer =>
      rcases fresh value shared with owed | arrives
      · exact .inl owed
      · right
        rw [latest, nextAnswer, latest_receive] at arrives
        exact arrives
  | read owed nothing =>
      right
      change state.answers.getLast?.getD state.shared = some value
      rw [nothing]
      exact shared
  | cut owed => cases shared

theorem Fresh.held {state : Announce Value} (fresh : state.Fresh) (settled : state.Settled)
    {value : Value} (shared : state.shared = some value) : state.held = some value := by
  rcases fresh value shared with owed | arrives
  · rw [settled.owed] at owed
    cases owed
  · rw [latest, settled.answers] at arrives
    exact arrives

/-- Anything whose steps are steps of the protocol delivers the value shared. -/
theorem always_of_fresh {State Action : Type*} {step : State → Action → State}
    {property : State → Prop} (view : State → Announce Value) (invariant : State → Prop)
    (keeps : ∀ state action, invariant state → invariant (step state action))
    (simulates : ∀ state action, invariant state →
      Step (view state) (view (step state action)))
    (good : ∀ state, invariant state → (view state).Fresh → property state)
    {start : State} (initial : invariant start) (fresh : (view start).Fresh)
    (actions : List Action) : StepRun.Always step property start actions := by
  refine StepRun.always_of_invariant (fun state => invariant state ∧ (view state).Fresh)
    ⟨initial, fresh⟩ ?_ (fun state both => good state both.1 both.2) actions
  intro state action before
  obtain ⟨holds, fresh⟩ := before
  exact ⟨keeps state action holds, fresh.step (simulates state action holds)⟩

end Announce
