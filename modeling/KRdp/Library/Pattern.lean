/-
Patterns of literals and captured runs.

A captured run is one or more values of a class, as many as the rest of the pattern
leaves.  The search tries the positions from left to right and ends at the first
match; it finds one exactly when some part of the text spells the pattern out.
-/

import Mathlib.Data.List.TakeWhile

namespace Pattern

variable {α β : Type*}

inductive Item (α : Type*) where
  | literal (value : α)
  | captured (isMember : α → Bool)

/-- The result for the largest number that has one, from the limit down to one. -/
def longestFirst (attempt : Nat → Option β) : Nat → Option β
  | 0 => none
  | limit + 1 => (attempt (limit + 1)).or (longestFirst attempt limit)

variable [DecidableEq α]

/-- The captured runs of a match that begins where the text begins. -/
def matchAt : List (Item α) → List α → Option (List (List α))
  | [], _ => some []
  | .literal _ :: _, [] => none
  | .literal value :: rest, first :: text =>
      if first = value then matchAt rest text else none
  | .captured isMember :: rest, text =>
      longestFirst
        (fun count => (matchAt rest (text.drop count)).map fun runs => text.take count :: runs)
        (text.takeWhile isMember).length

/-- The first match in the text, anywhere. -/
def search (pattern : List (Item α)) : List α → Option (List (List α))
  | [] => matchAt pattern []
  | first :: text => (matchAt pattern (first :: text)).or (search pattern text)

/-- The text is the pattern with these runs in it. -/
inductive Spells : List (Item α) → List (List α) → List α → Prop
  | nil : Spells [] [] []
  | literal {value : α} {rest : List (Item α)} {runs : List (List α)} {text : List α} :
      Spells rest runs text → Spells (.literal value :: rest) runs (value :: text)
  | captured {isMember : α → Bool} {run text : List α} {rest : List (Item α)}
      {runs : List (List α)} :
      run ≠ [] → (∀ value ∈ run, isMember value = true) → Spells rest runs text →
        Spells (.captured isMember :: rest) (run :: runs) (run ++ text)

/-- Some part of the text is the pattern. -/
def Occurs (pattern : List (Item α)) (text : List α) : Prop :=
  ∃ before part after runs, text = before ++ part ++ after ∧ Spells pattern runs part

/-! ### The longest first -/

theorem longestFirst_eq_some {attempt : Nat → Option β} {limit : Nat} {result : β}
    (found : longestFirst attempt limit = some result) :
    ∃ count, 0 < count ∧ count ≤ limit ∧ attempt count = some result := by
  induction limit with
  | zero => cases found
  | succ limit ih =>
      rw [longestFirst] at found
      cases first : attempt (limit + 1) with
      | none =>
          rw [first, Option.none_or] at found
          obtain ⟨count, positive, bound, attempted⟩ := ih found
          exact ⟨count, positive, Nat.le_succ_of_le bound, attempted⟩
      | some value =>
          rw [first, Option.some_or] at found
          exact ⟨limit + 1, Nat.succ_pos limit, le_rfl, first.trans found⟩

theorem longestFirst_isSome {attempt : Nat → Option β} {limit count : Nat} (positive : 0 < count)
    (bound : count ≤ limit) (attempted : (attempt count).isSome = true) :
    (longestFirst attempt limit).isSome = true := by
  induction limit with
  | zero => omega
  | succ limit ih =>
      rw [longestFirst, Option.isSome_or, Bool.or_eq_true]
      by_cases last : count = limit + 1
      · left
        rw [← last]
        exact attempted
      · right
        exact ih (by omega)

theorem longestFirst_of_limit {attempt : Nat → Option β} {limit : Nat} {result : β}
    (positive : 0 < limit) (attempted : attempt limit = some result) :
    longestFirst attempt limit = some result := by
  cases limit with
  | zero => cases positive
  | succ limit => rw [longestFirst, attempted, Option.some_or]

/-! ### Matches at one position -/

theorem spells_of_matchAt {pattern : List (Item α)} {text : List α} {runs : List (List α)}
    (matched : matchAt pattern text = some runs) :
    ∃ part after, text = part ++ after ∧ Spells pattern runs part := by
  induction pattern generalizing text runs with
  | nil =>
      rw [matchAt, Option.some_inj] at matched
      rw [← matched]
      exact ⟨[], text, rfl, .nil⟩
  | cons item rest ih =>
      cases item with
      | literal value =>
          cases text with
          | nil => cases matched
          | cons first text =>
              rw [matchAt] at matched
              by_cases same : first = value
              · rw [if_pos same] at matched
                obtain ⟨part, after, rfl, spelled⟩ := ih matched
                rw [same]
                exact ⟨value :: part, after, rfl, .literal spelled⟩
              · rw [if_neg same] at matched
                cases matched
      | captured isMember =>
          rw [matchAt] at matched
          obtain ⟨count, positive, bound, attempted⟩ := longestFirst_eq_some matched
          obtain ⟨restRuns, restMatched, rfl⟩ := Option.map_eq_some_iff.mp attempted
          obtain ⟨part, after, split, spelled⟩ := ih restMatched
          have inText := bound.trans (List.takeWhile_prefix isMember).length_le
          have lengthEq : (text.take count).length = count := List.length_take_of_le inText
          have taken : text.take count <+: text.takeWhile isMember :=
            List.prefix_of_prefix_length_le (List.take_prefix count text)
              (List.takeWhile_prefix isMember) (lengthEq.trans_le bound)
          refine ⟨text.take count ++ part, after, ?_, .captured ?_ ?_ spelled⟩
          · rw [List.append_assoc, ← split, List.take_append_drop]
          · rw [← List.length_pos_iff, lengthEq]
            exact positive
          · intro value member
            exact List.mem_takeWhile_imp (taken.subset member)

theorem matchAt_isSome_of_spells {pattern : List (Item α)} {runs : List (List α)} {part : List α}
    (spelled : Spells pattern runs part) (after : List α) :
    (matchAt pattern (part ++ after)).isSome = true := by
  induction spelled with
  | nil => rfl
  | @literal value rest runs text _ ih =>
      rw [List.cons_append, matchAt, if_pos rfl]
      exact ih
  | @captured isMember run rest runs text nonempty members _ ih =>
      rw [matchAt]
      apply longestFirst_isSome (List.length_pos_iff.mpr nonempty)
      · rw [List.append_assoc, List.takeWhile_append_of_pos members, List.length_append]
        exact Nat.le_add_right _ _
      · rw [Option.isSome_map, List.append_assoc, List.drop_left]
        exact ih

theorem matchAt_literal (value : α) (rest : List (Item α)) (text : List α) :
    matchAt (.literal value :: rest) (value :: text) = matchAt rest text := by
  rw [matchAt, if_pos rfl]

/-- A run that the text after it does not continue is captured whole. -/
theorem matchAt_captured {isMember : α → Bool} {run : List α} (nonempty : run ≠ [])
    (members : ∀ value ∈ run, isMember value = true) {after : List α}
    (stops : after.takeWhile isMember = []) {rest : List (Item α)} {runs : List (List α)}
    (matched : matchAt rest after = some runs) :
    matchAt (.captured isMember :: rest) (run ++ after) = some (run :: runs) := by
  rw [matchAt, List.takeWhile_append_of_pos members, stops, List.append_nil]
  apply longestFirst_of_limit (List.length_pos_iff.mpr nonempty)
  rw [List.drop_left, matched, Option.map_some, List.take_left]

/-! ### Matches anywhere -/

theorem search_of_matchAt {pattern : List (Item α)} {text : List α} {runs : List (List α)}
    (matched : matchAt pattern text = some runs) : search pattern text = some runs := by
  cases text with
  | nil => exact matched
  | cons first text => rw [search, matched, Option.some_or]

theorem occurs_of_matchAt {pattern : List (Item α)} {text : List α}
    (matched : (matchAt pattern text).isSome = true) : Occurs pattern text := by
  obtain ⟨runs, found⟩ := Option.isSome_iff_exists.mp matched
  obtain ⟨part, after, split, spelled⟩ := spells_of_matchAt found
  exact ⟨[], part, after, runs, split, spelled⟩

theorem search_isSome_iff (pattern : List (Item α)) (text : List α) :
    (search pattern text).isSome = true ↔ Occurs pattern text := by
  constructor
  · intro found
    induction text with
    | nil => exact occurs_of_matchAt found
    | cons first text ih =>
        rw [search, Option.isSome_or, Bool.or_eq_true] at found
        rcases found with here | later
        · exact occurs_of_matchAt here
        · obtain ⟨before, part, after, runs, split, spelled⟩ := ih later
          refine ⟨first :: before, part, after, runs, ?_, spelled⟩
          rw [split]
          rfl
  · rintro ⟨before, part, after, runs, rfl, spelled⟩
    induction before with
    | nil =>
        have here := matchAt_isSome_of_spells spelled after
        obtain ⟨captures, matched⟩ := Option.isSome_iff_exists.mp here
        rw [List.nil_append, search_of_matchAt matched]
        rfl
    | cons first before ih =>
        rw [List.cons_append, List.cons_append, search, Option.isSome_or, ih, Bool.or_true]

end Pattern
