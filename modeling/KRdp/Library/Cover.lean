/-
Two sets of held items.

One side holds items and the other side holds their images.  The first covers the
second when everything held on the other side is the image of something held on
this side; the lemmas say what pressing and releasing do to that.
-/

import Mathlib.Logic.Function.Basic

variable {α β : Type*}

def Covers (image : α → Option β) (held : α → Bool) (other : β → Bool) : Prop :=
  ∀ item, other item = true → ∃ source, held source = true ∧ image source = some item

/-- What is held after the items of a list were all pressed or all released. -/
def holdAll [DecidableEq α] (held : α → Bool) (items : List α) (down : Bool) : α → Bool :=
  fun item => if item ∈ items then down else held item

section HoldAll

variable [DecidableEq α] {held : α → Bool} {items : List α} {item : α}

theorem holdAll_of_mem (down : Bool) (member : item ∈ items) :
    holdAll held items down item = down :=
  if_pos member

theorem holdAll_of_not_mem (down : Bool) (absent : item ∉ items) :
    holdAll held items down item = held item :=
  if_neg absent

theorem holdAll_singleton (held : α → Bool) (item : α) (down : Bool) :
    holdAll held [item] down = Function.update held item down := by
  funext other
  by_cases same : other = item
  · rw [same, holdAll_of_mem down (List.mem_singleton_self item), Function.update_self]
  · rw [holdAll_of_not_mem down (by simpa using same), Function.update_of_ne same]

theorem holdAll_true (isHeld : held item = true) : holdAll held items true item = true := by
  by_cases member : item ∈ items
  · exact holdAll_of_mem true member
  · rw [holdAll_of_not_mem true member, isHeld]

theorem holdAll_false_iff :
    holdAll held items false item = true ↔ item ∉ items ∧ held item = true := by
  by_cases member : item ∈ items
  · simp [holdAll_of_mem false member, member]
  · simp [holdAll_of_not_mem false member, member]

end HoldAll

namespace Covers

variable [DecidableEq α] [DecidableEq β] {image : α → Option β} {held : α → Bool}
  {other : β → Bool} {sources : List α} {items : List β}

/-- Pressing on both sides is harmless when each item is pressed for one of the
sources. -/
theorem press (covers : Covers image held other)
    (pressed : ∀ item ∈ items, ∃ source ∈ sources, image source = some item) :
    Covers image (holdAll held sources true) (holdAll other items true) := by
  intro item isHeld
  by_cases member : item ∈ items
  · obtain ⟨source, among, imageEq⟩ := pressed item member
    exact ⟨source, holdAll_of_mem true among, imageEq⟩
  · rw [holdAll_of_not_mem true member] at isHeld
    obtain ⟨source, sourceHeld, imageEq⟩ := covers item isHeld
    exact ⟨source, holdAll_true sourceHeld, imageEq⟩

/-- Releasing the sources is harmless exactly when each item of theirs that stays
held on the other side is held for another source. -/
theorem release_iff (covers : Covers image held other) :
    Covers image (holdAll held sources false) (holdAll other items false) ↔
      ∀ source ∈ sources, ∀ item, image source = some item → other item = true → item ∉ items →
        ∃ another, another ∉ sources ∧ held another = true ∧ image another = some item := by
  constructor
  · intro still source _ item _ isHeld kept
    obtain ⟨another, anotherHeld, anotherImage⟩ := still item (holdAll_false_iff.mpr ⟨kept, isHeld⟩)
    obtain ⟨notReleased, heldBefore⟩ := holdAll_false_iff.mp anotherHeld
    exact ⟨another, notReleased, heldBefore, anotherImage⟩
  · intro harmless item isHeld
    obtain ⟨kept, heldBefore⟩ := holdAll_false_iff.mp isHeld
    obtain ⟨earlier, earlierHeld, earlierImage⟩ := covers item heldBefore
    by_cases among : earlier ∈ sources
    · obtain ⟨another, notReleased, anotherHeld, anotherImage⟩ :=
        harmless earlier among item earlierImage heldBefore kept
      exact ⟨another, holdAll_false_iff.mpr ⟨notReleased, anotherHeld⟩, anotherImage⟩
    · exact ⟨earlier, holdAll_false_iff.mpr ⟨among, earlierHeld⟩, earlierImage⟩

end Covers
