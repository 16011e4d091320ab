/-
The union of several rectangles.

`QRect` normalizes both operands of a union, and for a rectangle that starts at the
lowest coordinate it computes `start - 1` past the range.  The union then runs to
the highest coordinate and its extent is negative; every other union stands for the
bounding box.
-/

import KRdp.Qt.Geometry

namespace KRdp

open MachineInt

namespace QRect

def unionOf (rects : List QRect) : QRect := rects.foldl united {}

theorem unionOf_cons (first : QRect) (rest : List QRect) :
    unionOf (first :: rest) = rest.foldl united first := by
  rw [unionOf, List.foldl_cons, null_united]

/-- `QRect::isEmpty` is false. -/
def NonEmpty (rect : QRect) : Prop := rect.x1 ≤ rect.x2 ∧ rect.y1 ≤ rect.y2

/-- The half-open box over the integers, whether or not its edges fit. -/
def box (rect : QRect) (nonEmpty : rect.NonEmpty) : Box Int :=
  (⟨(rect.x1.toInt, rect.x2.toInt + 1),
      Int.le_trans (Int32.le_iff_toInt_le.mp nonEmpty.1) (by omega)⟩,
    ⟨(rect.y1.toInt, rect.y2.toInt + 1),
      Int.le_trans (Int32.le_iff_toInt_le.mp nonEmpty.2) (by omega)⟩)

theorem represents_box {rect : QRect} (nonEmpty : rect.NonEmpty)
    (left : -2 ^ 31 < rect.x1.toInt) (top : -2 ^ 31 < rect.y1.toInt) :
    Represents rect (rect.box nonEmpty) := by
  have wide := Int32.le_iff_toInt_le.mp nonEmpty.1
  have high := Int32.le_iff_toInt_le.mp nonEmpty.2
  refine ⟨⟨rfl, ?_, ?_, left⟩, ⟨rfl, ?_, ?_, top⟩⟩
  · exact (Int.add_sub_cancel _ _).symm
  · exact Int.lt_of_le_of_lt wide (Int.lt_succ _)
  · exact (Int.add_sub_cancel _ _).symm
  · exact Int.lt_of_le_of_lt high (Int.lt_succ _)

theorem foldl_united_represents {α : Type*} {rect : α → QRect} {box : α → Box Int}
    {items : List α} (each : ∀ item ∈ items, (rect item).Represents (box item)) {first : QRect}
    {firstBox : Box Int} (firstRep : first.Represents firstBox) :
    ((items.map rect).foldl united first).Represents
      ((items.map box).foldl (· ⊔ ·) firstBox) := by
  induction items generalizing first firstBox with
  | nil => exact firstRep
  | cons item rest ih =>
      obtain ⟨here, later⟩ := List.forall_mem_cons.mp each
      exact ih later (united_represents firstRep here)

/-- Rectangles that stand for boxes unite to their bounding box. -/
theorem unionOf_represents {α : Type*} {rect : α → QRect} {box : α → Box Int} {items : List α}
    (nonempty : items ≠ []) (each : ∀ item ∈ items, (rect item).Represents (box item))
    {hull : Box Int} (hullEq : Box.bounding (items.map box) = hull) :
    (unionOf (items.map rect)).Represents hull := by
  cases items with
  | nil => exact absurd rfl nonempty
  | cons first rest =>
      obtain ⟨here, later⟩ := List.forall_mem_cons.mp each
      rw [List.map_cons, Box.bounding_cons] at hullEq
      obtain rfl := WithBot.coe_injective hullEq
      rw [List.map_cons, unionOf_cons]
      exact foldl_united_represents later here

theorem extent_of_fits {start stop : Int32} (ordered : start ≤ stop)
    (fits : stop.toInt + 1 - start.toInt < 2 ^ 31) :
    (stop - start + 1).toInt = stop.toInt + 1 - start.toInt := by
  have order := Int32.le_iff_toInt_le.mp ordered
  have difference : (stop - start).toInt = stop.toInt - start.toInt :=
    toInt_sub_of_fits ⟨by omega, by omega⟩
  rw [toInt_add_one_of_fits, difference]
  · omega
  · rw [difference]
    exact ⟨by omega, by omega⟩

/-! ### The lowest coordinate -/

/-- One axis of a rectangle. -/
abbrev Ends : Type := Int32 × Int32

def Ends.united (first second : Ends) : Ends :=
  let (l1, r1) := normalizedEnds first.1 first.2
  let (l2, r2) := normalizedEnds second.1 second.2
  (min l1 l2, max r1 r2)

/-- Both ends in order and below zero. -/
structure Ends.Low (ends : Ends) : Prop where
  ordered : ends.1.toInt ≤ ends.2.toInt
  negative : ends.2.toInt < -1

/-- What a union with the lowest coordinate becomes. -/
structure Ends.Overrun (ends : Ends) : Prop where
  stop : ends.2.toInt = 2 ^ 31 - 1
  above : -2 ^ 31 < ends.1.toInt
  below : ends.1.toInt < 0

namespace Ends

def Lowest (ends : Ends) : Prop := ends.1.toInt = -2 ^ 31

theorem start_sub_one_of_lowest {ends : Ends} (lowest : ends.Lowest) :
    (ends.1 - 1).toInt = 2 ^ 31 - 1 := by
  rw [Int32.toInt_sub, show ends.1.toInt = -2 ^ 31 from lowest]
  decide

theorem start_sub_one {ends : Ends} (above : ¬ends.Lowest) :
    (ends.1 - 1).toInt = ends.1.toInt - 1 := by
  have fits := fitsInt32_toInt ends.1
  unfold FitsInt32 at fits
  unfold Lowest at above
  exact toInt_sub_one_of_fits ⟨by omega, by omega⟩

theorem normalized_of_not_lowest {ends : Ends} (above : ¬ends.Lowest)
    (ordered : ends.1.toInt ≤ ends.2.toInt) :
    normalizedEnds ends.1 ends.2 = ends := by
  have kept : ¬ends.2 < ends.1 - 1 := by
    rw [Int32.lt_iff_toInt_lt, start_sub_one above]
    omega
  simp only [normalizedEnds, if_neg kept]

theorem normalized_of_lowest {ends : Ends} (lowest : ends.Lowest) (low : ends.Low) :
    (normalizedEnds ends.1 ends.2).1.toInt = ends.2.toInt + 1 ∧
      (normalizedEnds ends.1 ends.2).2.toInt = 2 ^ 31 - 1 := by
  have before := start_sub_one_of_lowest lowest
  have negative := low.negative
  have fits := fitsInt32_toInt ends.2
  unfold FitsInt32 at fits
  have swapped : ends.2 < ends.1 - 1 := by
    rw [Int32.lt_iff_toInt_lt, before]
    omega
  simp only [normalizedEnds, if_pos swapped]
  exact ⟨toInt_add_one_of_fits ⟨by omega, by omega⟩, before⟩

theorem Overrun.not_lowest {ends : Ends} (overrun : ends.Overrun) : ¬ends.Lowest := by
  have above := overrun.above
  unfold Lowest
  omega

theorem Overrun.normalized {ends : Ends} (overrun : ends.Overrun) :
    normalizedEnds ends.1 ends.2 = ends := by
  have stop := overrun.stop
  have below := overrun.below
  exact normalized_of_not_lowest overrun.not_lowest (by omega)

/-- Each operand of a union gives the lower end and the higher end. -/
theorem toInt_united (first second : Ends) :
    (united first second).1.toInt =
        min (normalizedEnds first.1 first.2).1.toInt (normalizedEnds second.1 second.2).1.toInt ∧
      (united first second).2.toInt =
        max (normalizedEnds first.1 first.2).2.toInt (normalizedEnds second.1 second.2).2.toInt :=
  ⟨toInt_min _ _, toInt_max _ _⟩

theorem low_normalized {ends : Ends} (low : ends.Low) :
    (normalizedEnds ends.1 ends.2).1.toInt < 0 ∧
      -2 ^ 31 < (normalizedEnds ends.1 ends.2).1.toInt := by
  have fits := fitsInt32_toInt ends.1
  have stopFits := fitsInt32_toInt ends.2
  unfold FitsInt32 at fits stopFits
  have ordered := low.ordered
  have negative := low.negative
  by_cases lowest : ends.Lowest
  · have start := (normalized_of_lowest lowest low).1
    omega
  · rw [normalized_of_not_lowest lowest ordered]
    unfold Lowest at lowest
    omega

theorem overrun_of_lowest {first second : Ends} (firstLow : first.Low) (secondLow : second.Low)
    (lowest : first.Lowest ∨ second.Lowest) : (united first second).Overrun := by
  obtain ⟨startEq, stopEq⟩ := toInt_united first second
  have firstStart := low_normalized firstLow
  have secondStart := low_normalized secondLow
  have firstStop := fitsInt32_toInt (normalizedEnds first.1 first.2).2
  have secondStop := fitsInt32_toInt (normalizedEnds second.1 second.2).2
  unfold FitsInt32 at firstStop secondStop
  refine ⟨?_, by omega, by omega⟩
  rcases lowest with isLowest | isLowest
  · have top := (normalized_of_lowest isLowest firstLow).2
    omega
  · have top := (normalized_of_lowest isLowest secondLow).2
    omega

theorem Overrun.united {first second : Ends} (overrun : first.Overrun) (low : second.Low) :
    (Ends.united first second).Overrun := by
  obtain ⟨startEq, stopEq⟩ := toInt_united first second
  rw [overrun.normalized] at startEq stopEq
  have secondStart := low_normalized low
  have secondStop := fitsInt32_toInt (normalizedEnds second.1 second.2).2
  unfold FitsInt32 at secondStop
  have stop := overrun.stop
  have above := overrun.above
  have below := overrun.below
  refine ⟨by omega, by omega, by omega⟩

theorem Low.united {first second : Ends} (firstLow : first.Low) (secondLow : second.Low)
    (firstAbove : ¬first.Lowest) (secondAbove : ¬second.Lowest) :
    (Ends.united first second).Low ∧ ¬(Ends.united first second).Lowest := by
  obtain ⟨startEq, stopEq⟩ := toInt_united first second
  have firstOrdered := firstLow.ordered
  have secondOrdered := secondLow.ordered
  have firstNegative := firstLow.negative
  have secondNegative := secondLow.negative
  rw [normalized_of_not_lowest firstAbove firstOrdered,
    normalized_of_not_lowest secondAbove secondOrdered] at startEq stopEq
  unfold Lowest at firstAbove secondAbove ⊢
  exact ⟨⟨by omega, by omega⟩, by omega⟩

end Ends

/-! ### Unions of many rectangles -/

/-- An axis: what keeps a rectangle from being null, and what a union does to it. -/
structure Axis (ends : QRect → Ends) : Prop where
  notNull : ∀ rect, (ends rect).2 ≠ (ends rect).1 - 1 → rect.isNull = false
  united : ∀ first second : QRect, first.isNull = false → second.isNull = false →
    ends (first.united second) = Ends.united (ends first) (ends second)

theorem horizontalAxis : Axis fun rect => (rect.x1, rect.x2) where
  notNull rect different := by simp [isNull, different]
  united first second firstNull secondNull := by
    simp only [QRect.united, firstNull, secondNull, Bool.false_eq_true, if_false, Ends.united]

theorem verticalAxis : Axis fun rect => (rect.y1, rect.y2) where
  notNull rect different := by simp [isNull, different]
  united first second firstNull secondNull := by
    simp only [QRect.united, firstNull, secondNull, Bool.false_eq_true, if_false, Ends.united]

theorem Ends.Low.not_null {ends : Ends} (low : ends.Low) : ends.2 ≠ ends.1 - 1 := by
  intro same
  have values := congrArg Int32.toInt same
  have ordered := low.ordered
  have negative := low.negative
  by_cases lowest : ends.Lowest
  · rw [Ends.start_sub_one_of_lowest lowest] at values
    omega
  · rw [Ends.start_sub_one lowest] at values
    omega

theorem Ends.Overrun.not_null {ends : Ends} (overrun : ends.Overrun) :
    ends.2 ≠ ends.1 - 1 := by
  intro same
  have values := congrArg Int32.toInt same
  rw [Ends.start_sub_one overrun.not_lowest] at values
  have stop := overrun.stop
  have below := overrun.below
  omega

theorem foldl_united_overrun {ends : QRect → Ends} (axis : Axis ends) {rects : List QRect}
    (low : ∀ rect ∈ rects, (ends rect).Low) {first : QRect} (overrun : (ends first).Overrun) :
    (ends (rects.foldl united first)).Overrun := by
  induction rects generalizing first with
  | nil => exact overrun
  | cons head tail ih =>
      have headLow := low head List.mem_cons_self
      apply ih fun rect member => low rect (List.mem_cons_of_mem head member)
      rw [axis.united first head (axis.notNull first overrun.not_null)
        (axis.notNull head headLow.not_null)]
      exact overrun.united headLow

/-- Several rectangles below zero, one of which starts at the lowest coordinate,
unite to one that runs to the highest. -/
theorem foldl_united_of_lowest {ends : QRect → Ends} (axis : Axis ends) {rects : List QRect}
    (several : rects ≠ []) {first : QRect} (low : ∀ rect ∈ first :: rects, (ends rect).Low)
    (lowest : ∃ rect ∈ first :: rects, (ends rect).Lowest) :
    (ends (rects.foldl united first)).Overrun := by
  induction rects generalizing first with
  | nil => exact absurd rfl several
  | cons head tail ih =>
      have firstLow := low first List.mem_cons_self
      have headLow := low head (by simp)
      have tailLow : ∀ rect ∈ tail, (ends rect).Low :=
        fun rect member => low rect (by simp [member])
      have unitedEnds := axis.united first head (axis.notNull first firstLow.not_null)
        (axis.notNull head headLow.not_null)
      rw [List.foldl_cons]
      by_cases here : (ends first).Lowest ∨ (ends head).Lowest
      · apply foldl_united_overrun axis tailLow
        rw [unitedEnds]
        exact Ends.overrun_of_lowest firstLow headLow here
      · rw [not_or] at here
        have united := firstLow.united headLow here.1 here.2
        rw [← unitedEnds] at united
        -- the lowest start is still to come
        obtain ⟨rect, member, isLowest⟩ := lowest
        have inTail : rect ∈ tail := by
          rcases List.mem_cons.mp member with rfl | later
          · exact absurd isLowest here.1
          · rcases List.mem_cons.mp later with rfl | inTail
            · exact absurd isLowest here.2
            · exact inTail
        apply ih (List.ne_nil_of_mem inTail)
        · intro other otherIn
          rcases List.mem_cons.mp otherIn with rfl | otherTail
          · exact united.1
          · exact tailLow other otherTail
        · exact ⟨rect, List.mem_cons_of_mem _ inTail, isLowest⟩

theorem Ends.Overrun.extent_neg {ends : Ends} (overrun : ends.Overrun) :
    (ends.2 - ends.1 + 1).toInt < 0 := by
  have stop := overrun.stop
  have above := overrun.above
  have below := overrun.below
  have difference : (ends.2 - ends.1).toInt = 2 ^ 31 - 1 - ends.1.toInt - 2 ^ 32 := by
    rw [Int32.toInt_sub, stop, Int.bmod_neg _ _ (by omega)]
    omega
  rw [toInt_add_one_of_fits, difference]
  · omega
  · rw [difference]
    exact ⟨by omega, by omega⟩

end QRect

end KRdp
