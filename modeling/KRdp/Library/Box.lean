/-
Axis-parallel boxes over a linear order.

A box is a pair of nonempty intervals, so its edges are ordered by
construction and the containment order, the union of two boxes and its laws
are those of `NonemptyInterval` and of products.  Boxes are read as regions of
the plane in two ways: two boxes overlap when their interiors meet and touch
when their closures meet.
-/

import Mathlib.Order.Interval.Basic
import Mathlib.Algebra.Order.Group.Defs
import Mathlib.Algebra.Order.Group.Basic

abbrev Box (α : Type*) [LE α] := NonemptyInterval α × NonemptyInterval α

namespace Box

variable {α : Type*}

section Edges

variable [LE α]

def left (box : Box α) : α := box.1.fst
def right (box : Box α) : α := box.1.snd
def top (box : Box α) : α := box.2.fst
def bottom (box : Box α) : α := box.2.snd

theorem left_le_right (box : Box α) : box.left ≤ box.right := box.1.fst_le_snd

theorem top_le_bottom (box : Box α) : box.top ≤ box.bottom := box.2.fst_le_snd

theorem eq_of_edges {first second : Box α}
    (sameLeft : first.left = second.left) (sameRight : first.right = second.right)
    (sameTop : first.top = second.top) (sameBottom : first.bottom = second.bottom) :
    first = second :=
  Prod.ext (NonemptyInterval.ext (Prod.ext sameLeft sameRight))
    (NonemptyInterval.ext (Prod.ext sameTop sameBottom))

end Edges

section Order

variable [LinearOrder α]

theorem le_iff_edges (inner outer : Box α) :
    inner ≤ outer ↔
      (outer.left ≤ inner.left ∧ inner.right ≤ outer.right) ∧
        (outer.top ≤ inner.top ∧ inner.bottom ≤ outer.bottom) :=
  Iff.rfl

theorem left_sup (first second : Box α) :
    (first ⊔ second).left = min first.left second.left := rfl

theorem right_sup (first second : Box α) :
    (first ⊔ second).right = max first.right second.right := rfl

theorem top_sup (first second : Box α) :
    (first ⊔ second).top = min first.top second.top := rfl

theorem bottom_sup (first second : Box α) :
    (first ⊔ second).bottom = max first.bottom second.bottom := rfl

def Overlap (first second : Box α) : Prop :=
  max first.left second.left < min first.right second.right ∧
    max first.top second.top < min first.bottom second.bottom

/-- The closed boxes meet, possibly in a corner only. -/
def Touch (first second : Box α) : Prop :=
  max first.left second.left ≤ min first.right second.right ∧
    max first.top second.top ≤ min first.bottom second.bottom

/-- One box begins where the other ends, along a common stretch. -/
def Adjacent (first second : Box α) : Prop :=
  ((first.right = second.left ∨ second.right = first.left) ∧
      max first.top second.top ≤ min first.bottom second.bottom) ∨
    ((first.bottom = second.top ∨ second.bottom = first.top) ∧
      max first.left second.left ≤ min first.right second.right)

instance (first second : Box α) : Decidable (Overlap first second) :=
  inferInstanceAs (Decidable (_ ∧ _))

instance (first second : Box α) : Decidable (Touch first second) :=
  inferInstanceAs (Decidable (_ ∧ _))

theorem Overlap.symm {first second : Box α} (overlap : Overlap first second) :
    Overlap second first := by
  unfold Overlap at overlap ⊢
  rw [max_comm, min_comm, max_comm second.top, min_comm second.bottom]
  exact overlap

private theorem meet_of_ends {a b c d : α} (first : a ≤ b) (second : c ≤ d)
    (ends : b = c ∨ d = a) : max a c ≤ min b d := by
  simp only [max_le_iff, le_min_iff]
  rcases ends with same | same
  · subst same
    exact ⟨⟨first, le_rfl⟩, ⟨first.trans second, second⟩⟩
  · subst same
    exact ⟨⟨first, second.trans first⟩, ⟨le_rfl, second⟩⟩

private theorem ends_of_meet {a b c d : α} (first : a < b) (second : c < d)
    (closed : max a c ≤ min b d) (notOpen : ¬max a c < min b d) :
    b = c ∨ d = a := by
  simp only [max_le_iff, le_min_iff] at closed
  simp only [max_lt_iff, lt_min_iff, not_and_or, not_lt] at notOpen
  obtain ⟨⟨_, cleb⟩, ⟨aled, _⟩⟩ := closed
  rcases notOpen with (impossible | blec) | (dlea | impossible)
  · exact absurd first impossible.not_gt
  · exact Or.inl (le_antisymm blec cleb)
  · exact Or.inr (le_antisymm dlea aled)
  · exact absurd second impossible.not_gt

theorem Adjacent.touch {first second : Box α} (adjacent : Adjacent first second) :
    Touch first second := by
  rcases adjacent with ⟨ends, common⟩ | ⟨ends, common⟩
  · exact ⟨meet_of_ends first.left_le_right second.left_le_right ends, common⟩
  · exact ⟨common, meet_of_ends first.top_le_bottom second.top_le_bottom ends⟩

/-- Boxes with nonempty interiors that do not overlap touch exactly when one
begins where the other ends along a common stretch. -/
theorem touch_iff_adjacent {first second : Box α}
    (firstWide : first.left < first.right) (firstHigh : first.top < first.bottom)
    (secondWide : second.left < second.right) (secondHigh : second.top < second.bottom)
    (apart : ¬Overlap first second) :
    Touch first second ↔ Adjacent first second := by
  constructor
  · rintro ⟨horizontal, vertical⟩
    rcases not_and_or.mp apart with notOpen | notOpen
    · exact Or.inl ⟨ends_of_meet firstWide secondWide horizontal notOpen, vertical⟩
    · exact Or.inr ⟨ends_of_meet firstHigh secondHigh vertical notOpen, horizontal⟩
  · exact Adjacent.touch

theorem overlap_of_le {inner outer : Box α} (contained : inner ≤ outer)
    (wide : inner.left < inner.right) (high : inner.top < inner.bottom) :
    Overlap inner outer := by
  obtain ⟨⟨left, right⟩, ⟨top, bottom⟩⟩ := (le_iff_edges inner outer).mp contained
  unfold Overlap
  rw [max_eq_left left, min_eq_left right, max_eq_left top, min_eq_left bottom]
  exact ⟨wide, high⟩

/-! ### The bounding box of a list -/

/-- The least box around a list of boxes; an empty list has none. -/
def bounding : List (Box α) → WithBot (Box α)
  | [] => ⊥
  | box :: rest => box ⊔ bounding rest

theorem bounding_le_iff (boxes : List (Box α)) (outer : WithBot (Box α)) :
    bounding boxes ≤ outer ↔ ∀ box ∈ boxes, (box : WithBot (Box α)) ≤ outer := by
  induction boxes with
  | nil => simp [bounding]
  | cons box rest ih => simp only [bounding, sup_le_iff, ih, List.forall_mem_cons]

theorem le_bounding {boxes : List (Box α)} {box hull : Box α} (member : box ∈ boxes)
    (hullEq : bounding boxes = hull) : box ≤ hull := by
  have all := (bounding_le_iff boxes hull).mp hullEq.le
  exact WithBot.coe_le_coe.mp (all box member)

theorem bounding_cons (box : Box α) (rest : List (Box α)) :
    bounding (box :: rest) = (rest.foldl (· ⊔ ·) box : Box α) := by
  induction rest generalizing box with
  | nil => simp [bounding]
  | cons next rest ih =>
      calc
        bounding (box :: next :: rest) =
            ((box ⊔ next : Box α) : WithBot (Box α)) ⊔ bounding rest := by
              simp only [bounding, WithBot.coe_sup, sup_assoc]
        _ = bounding ((box ⊔ next) :: rest) := rfl
        _ = _ := ih (box ⊔ next)

private theorem attained_of_foldl (edge : Box α → α) (pick : α → α → α)
    (edge_sup : ∀ first second, edge (first ⊔ second) = pick (edge first) (edge second))
    (pick_choice : ∀ a b, pick a b = a ∨ pick a b = b)
    (box : Box α) (rest : List (Box α)) :
    ∃ attained ∈ box :: rest, edge attained = edge (rest.foldl (· ⊔ ·) box) := by
  induction rest generalizing box with
  | nil => exact ⟨box, List.mem_singleton_self box, rfl⟩
  | cons next rest ih =>
      obtain ⟨attained, member, same⟩ := ih (box ⊔ next)
      rw [List.foldl_cons, ← same]
      rcases List.mem_cons.mp member with atHead | inRest
      · rw [atHead, edge_sup]
        rcases pick_choice (edge box) (edge next) with chosen | chosen
        · exact ⟨box, List.mem_cons_self, chosen.symm⟩
        · exact ⟨next, by simp, chosen.symm⟩
      · exact ⟨attained, by simp [inRest], rfl⟩

/-- Each edge of a bounding box is an edge of one of the boxes. -/
theorem bounding_edges_attained {boxes : List (Box α)} {hull : Box α}
    (hullEq : bounding boxes = hull) :
    ((∃ box ∈ boxes, box.left = hull.left) ∧ ∃ box ∈ boxes, box.right = hull.right) ∧
      ((∃ box ∈ boxes, box.top = hull.top) ∧ ∃ box ∈ boxes, box.bottom = hull.bottom) := by
  cases boxes with
  | nil => exact absurd hullEq WithBot.bot_ne_coe
  | cons box rest =>
      rw [bounding_cons] at hullEq
      obtain rfl := WithBot.coe_injective hullEq
      exact
        ⟨⟨attained_of_foldl left min left_sup min_choice box rest,
            attained_of_foldl right max right_sup max_choice box rest⟩,
          ⟨attained_of_foldl top min top_sup min_choice box rest,
            attained_of_foldl bottom max bottom_sup max_choice box rest⟩⟩

end Order

section Extent

variable [AddCommGroup α] [LinearOrder α] [IsOrderedAddMonoid α]

def width (box : Box α) : α := box.right - box.left
def height (box : Box α) : α := box.bottom - box.top

/-- A bounding box is at most `bound` wide and high exactly when no box ends
more than `bound` after the beginning of any other. -/
theorem bounding_extent_le_iff {boxes : List (Box α)} {hull : Box α}
    (hullEq : bounding boxes = hull) (bound : α) :
    (hull.width ≤ bound ∧ hull.height ≤ bound) ↔
      ∀ first ∈ boxes, ∀ last ∈ boxes,
        last.right - first.left ≤ bound ∧ last.bottom - first.top ≤ bound := by
  constructor
  · rintro ⟨narrow, low⟩ first firstMember last lastMember
    obtain ⟨⟨left, _⟩, ⟨top, _⟩⟩ := (le_iff_edges first hull).mp (le_bounding firstMember hullEq)
    obtain ⟨⟨_, right⟩, ⟨_, bottom⟩⟩ := (le_iff_edges last hull).mp (le_bounding lastMember hullEq)
    exact ⟨(sub_le_sub right left).trans narrow, (sub_le_sub bottom top).trans low⟩
  · intro pairwise
    obtain ⟨⟨⟨leftBox, leftMember, left⟩, ⟨rightBox, rightMember, right⟩⟩,
      ⟨⟨topBox, topMember, top⟩, ⟨bottomBox, bottomMember, bottom⟩⟩⟩ :=
      bounding_edges_attained hullEq
    constructor
    · have bounded := (pairwise leftBox leftMember rightBox rightMember).1
      rwa [left, right] at bounded
    · have bounded := (pairwise topBox topMember bottomBox bottomMember).2
      rwa [top, bottom] at bounded

private theorem ends_eq_of_extent {a b c d : α} (start : c ≤ a) (stop : b ≤ d)
    (extent : b - a = d - c) : a = c ∧ b = d := by
  have reached : d ≤ b :=
    calc
      d = d - c + c := (sub_add_cancel d c).symm
      _ ≤ d - c + a := add_le_add_right start _
      _ = b := by rw [← extent, sub_add_cancel]
  have stopEq : b = d := le_antisymm stop reached
  rw [stopEq] at extent
  exact ⟨sub_right_injective extent, stopEq⟩

theorem eq_of_le_of_extent {inner outer : Box α} (contained : inner ≤ outer)
    (sameWidth : inner.width = outer.width) (sameHeight : inner.height = outer.height) :
    inner = outer := by
  obtain ⟨⟨left, right⟩, ⟨top, bottom⟩⟩ := (le_iff_edges inner outer).mp contained
  obtain ⟨leftEq, rightEq⟩ := ends_eq_of_extent left right sameWidth
  obtain ⟨topEq, bottomEq⟩ := ends_eq_of_extent top bottom sameHeight
  exact eq_of_edges leftEq rightEq topEq bottomEq

end Extent

end Box
