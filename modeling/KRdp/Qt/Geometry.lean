/-
The integer geometry of Qt that the display code computes with.

`QRect` keeps inclusive corners in 32-bit coordinates, and every sum wraps
modulo 2^32.  A rectangle whose exact edges fit stands for a half-open box over
the integers; on such rectangles `intersects` is overlap of the boxes and
`united` is their union.
-/

import KRdp.Library.Box
import KRdp.Library.MachineInt
import Mathlib.Algebra.Order.Group.Int

namespace KRdp

open MachineInt

structure QPoint where
  x : Int32
  y : Int32
  deriving DecidableEq, Repr

structure QSize where
  width : Int32 := -1
  height : Int32 := -1
  deriving DecidableEq, Repr

/-- The inclusive corners; a default constructed rectangle is null. -/
structure QRect where
  x1 : Int32 := 0
  y1 : Int32 := 0
  x2 : Int32 := -1
  y2 : Int32 := -1
  deriving DecidableEq, Repr

instance : Sub QPoint where
  sub first second := { x := first.x - second.x, y := first.y - second.y }

def QPoint.origin : QPoint := { x := 0, y := 0 }

def QSize.isEmpty (size : QSize) : Bool := size.width < 1 || size.height < 1

theorem QSize.isEmpty_eq_false_iff {size : QSize} :
    size.isEmpty = false ↔ 1 ≤ size.width.toInt ∧ 1 ≤ size.height.toInt := by
  have one : (1 : Int32).toInt = 1 := by decide
  rw [QSize.isEmpty, Bool.or_eq_false_iff, decide_eq_false_iff_not, decide_eq_false_iff_not,
    Int32.lt_iff_toInt_lt, Int32.lt_iff_toInt_lt, one, Int.not_lt, Int.not_lt]

namespace QRect

def ofPositionSize (position : QPoint) (size : QSize) : QRect :=
  { x1 := position.x
    y1 := position.y
    x2 := position.x + size.width - 1
    y2 := position.y + size.height - 1 }

def topLeft (rect : QRect) : QPoint := { x := rect.x1, y := rect.y1 }

def width (rect : QRect) : Int32 := rect.x2 - rect.x1 + 1

def height (rect : QRect) : Int32 := rect.y2 - rect.y1 + 1

def size (rect : QRect) : QSize := { width := rect.width, height := rect.height }

def isNull (rect : QRect) : Bool :=
  rect.x2 == rect.x1 - 1 && rect.y2 == rect.y1 - 1

/-- The two ends of one axis in ascending order; a negative extent swaps them. -/
def normalizedEnds (start stop : Int32) : Int32 × Int32 :=
  if stop < start - 1 then (stop + 1, start - 1) else (start, stop)

def intersects (first second : QRect) : Bool :=
  if first.isNull || second.isNull then false
  else
    let (l1, r1) := normalizedEnds first.x1 first.x2
    let (l2, r2) := normalizedEnds second.x1 second.x2
    if l1 > r2 || l2 > r1 then false
    else
      let (t1, b1) := normalizedEnds first.y1 first.y2
      let (t2, b2) := normalizedEnds second.y1 second.y2
      !(t1 > b2 || t2 > b1)

def united (first second : QRect) : QRect :=
  if first.isNull then second
  else if second.isNull then first
  else
    let (l1, r1) := normalizedEnds first.x1 first.x2
    let (l2, r2) := normalizedEnds second.x1 second.x2
    let (t1, b1) := normalizedEnds first.y1 first.y2
    let (t2, b2) := normalizedEnds second.y1 second.y2
    { x1 := min l1 l2, y1 := min t1 t2, x2 := max r1 r2, y2 := max b1 b2 }

/-! ### Rectangles whose exact edges fit -/

/-- One axis from an inclusive 32-bit start to an inclusive 32-bit stop covers
the half-open integer interval.  The lowest 32-bit value is left out, because
Qt computes `start - 1`. -/
structure EndsOf (start stop : Int32) (low high : Int) : Prop where
  start_eq : start.toInt = low
  stop_eq : stop.toInt = high - 1
  nonempty : low < high
  above : -2 ^ 31 < low

/-- The rectangle stands for the half-open box. -/
structure Represents (rect : QRect) (box : Box Int) : Prop where
  horizontal : EndsOf rect.x1 rect.x2 box.left box.right
  vertical : EndsOf rect.y1 rect.y2 box.top box.bottom

theorem EndsOf.start_sub_one {start stop : Int32} {low high : Int}
    (ends : EndsOf start stop low high) : (start - 1).toInt = low - 1 := by
  have above := ends.above
  have fits := fitsInt32_toInt start
  rw [← ends.start_eq] at above ⊢
  exact toInt_sub_one_of_fits ⟨by omega, by have := fits.2; omega⟩

theorem EndsOf.normalized {start stop : Int32} {low high : Int}
    (ends : EndsOf start stop low high) : normalizedEnds start stop = (start, stop) := by
  have ordered : ¬stop < start - 1 := by
    rw [Int32.lt_iff_toInt_lt, ends.start_sub_one, ends.stop_eq]
    have := ends.nonempty
    omega
  simp only [normalizedEnds, if_neg ordered]

theorem EndsOf.stop_ne {start stop : Int32} {low high : Int}
    (ends : EndsOf start stop low high) : stop ≠ start - 1 := by
  intro same
  have values := congrArg Int32.toInt same
  rw [ends.start_sub_one, ends.stop_eq] at values
  have := ends.nonempty
  omega

theorem Represents.not_null {rect : QRect} {box : Box Int}
    (represents : Represents rect box) : rect.isNull = false := by
  have different := represents.horizontal.stop_ne
  simp [isNull, different]

theorem EndsOf.of_extent {start extent : Int32} (positive : 0 < extent.toInt)
    (above : -2 ^ 31 < start.toInt) (fits : start.toInt + extent.toInt < 2 ^ 31) :
    EndsOf start (start + extent - 1) start.toInt (start.toInt + extent.toInt) := by
  have sum : (start + extent).toInt = start.toInt + extent.toInt :=
    toInt_add_of_fits ⟨by omega, fits⟩
  refine ⟨rfl, ?_, by omega, above⟩
  rw [toInt_sub_one_of_fits ⟨by omega, by omega⟩, sum]

/-- Overlap of the boxes decides `intersects`. -/
theorem intersects_iff_overlap {first second : QRect} {firstBox secondBox : Box Int}
    (firstRep : Represents first firstBox) (secondRep : Represents second secondBox) :
    first.intersects second = true ↔ Box.Overlap firstBox secondBox := by
  obtain ⟨h1, v1⟩ := firstRep
  obtain ⟨h2, v2⟩ := secondRep
  have firstNull := (Represents.mk h1 v1).not_null
  have secondNull := (Represents.mk h2 v2).not_null
  simp only [intersects, firstNull, secondNull, Bool.or_self, Bool.false_eq_true, if_false,
    h1.normalized, h2.normalized, v1.normalized, v2.normalized]
  simp only [gt_iff_lt, Int32.lt_iff_toInt_lt, h1.start_eq, h1.stop_eq, h2.start_eq, h2.stop_eq,
    v1.start_eq, v1.stop_eq, v2.start_eq, v2.stop_eq, Bool.or_eq_true, decide_eq_true_eq]
  have := h1.nonempty
  have := h2.nonempty
  have := v1.nonempty
  have := v2.nonempty
  unfold Box.Overlap
  split
  · simp only [Bool.false_eq_true, false_iff]
    omega
  · simp only [Bool.not_eq_true', Bool.or_eq_false_iff, decide_eq_false_iff_not]
    omega

private theorem EndsOf.union {start1 stop1 start2 stop2 : Int32} {low1 high1 low2 high2 : Int}
    (first : EndsOf start1 stop1 low1 high1) (second : EndsOf start2 stop2 low2 high2) :
    EndsOf (min start1 start2) (max stop1 stop2) (min low1 low2) (max high1 high2) := by
  obtain ⟨startEq1, stopEq1, nonempty1, above1⟩ := first
  obtain ⟨startEq2, stopEq2, nonempty2, above2⟩ := second
  refine ⟨?_, ?_, by omega, by omega⟩
  · rw [toInt_min, startEq1, startEq2]
  · rw [toInt_max, stopEq1, stopEq2]
    omega

/-- Two rectangles that stand for boxes unite to one that stands for their
union. -/
theorem united_represents {first second : QRect} {firstBox secondBox : Box Int}
    (firstRep : Represents first firstBox) (secondRep : Represents second secondBox) :
    Represents (first.united second) (firstBox ⊔ secondBox) := by
  have firstNull := firstRep.not_null
  have secondNull := secondRep.not_null
  obtain ⟨h1, v1⟩ := firstRep
  obtain ⟨h2, v2⟩ := secondRep
  simp only [united, firstNull, secondNull, Bool.false_eq_true, if_false,
    h1.normalized, h2.normalized, v1.normalized, v2.normalized]
  exact ⟨h1.union h2, v1.union v2⟩

theorem null_united (rect : QRect) : ({} : QRect).united rect = rect := by
  have null : ({} : QRect).isNull = true := by decide
  simp only [united, null, if_true]

private theorem EndsOf.extent {start stop : Int32} {low high : Int}
    (ends : EndsOf start stop low high) (fits : high - low < 2 ^ 31) :
    (stop - start + 1).toInt = high - low := by
  obtain ⟨startEq, stopEq, nonempty, _⟩ := ends
  have difference : (stop - start).toInt = high - 1 - low := by
    rw [toInt_sub_of_fits, startEq, stopEq]
    rw [startEq, stopEq]
    exact ⟨by omega, by omega⟩
  rw [toInt_add_one_of_fits, difference]
  · omega
  · rw [difference]
    exact ⟨by omega, by omega⟩

theorem Represents.size_eq {rect : QRect} {box : Box Int} (represents : Represents rect box)
    (widthFits : box.width < 2 ^ 31) (heightFits : box.height < 2 ^ 31) :
    rect.size.width.toInt = box.width ∧ rect.size.height.toInt = box.height :=
  ⟨represents.horizontal.extent widthFits, represents.vertical.extent heightFits⟩

end QRect

end KRdp
