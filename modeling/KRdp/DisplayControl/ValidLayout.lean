/-
The layouts that the validator accepts.

`ValidLayout` states the accepted layouts in exact integer arithmetic, with no
reference to the order of the checks or to 32-bit rectangles.  The record loop
is summarized by what all its iterations together require and compute.  A layout
with a primary monitor at the origin and a bounded extent keeps every edge far
inside the 32-bit range, so its `QRect` rectangles are exact; a layout whose
rectangles wrap fails one of those two checks on both sides.
-/

import KRdp.DisplayControl.Decode
import Mathlib.Data.List.Forall2
import Mathlib.Algebra.Group.Nat.Even
import Mathlib.Data.List.Basic

namespace KRdp
namespace DisplayControl

open MachineInt

/-! ### The accepted layouts in integer arithmetic -/

def MonitorLayout.box (wire : MonitorLayout) : Box Int :=
  (⟨(wire.left.toInt, wire.left.toInt + wire.width.toNat), by simp⟩,
    ⟨(wire.top.toInt, wire.top.toInt + wire.height.toNat), by simp⟩)

@[simp] theorem MonitorLayout.box_left (wire : MonitorLayout) :
    wire.box.left = wire.left.toInt := rfl

@[simp] theorem MonitorLayout.box_right (wire : MonitorLayout) :
    wire.box.right = wire.left.toInt + wire.width.toNat := rfl

@[simp] theorem MonitorLayout.box_top (wire : MonitorLayout) :
    wire.box.top = wire.top.toInt := rfl

@[simp] theorem MonitorLayout.box_bottom (wire : MonitorLayout) :
    wire.box.bottom = wire.top.toInt + wire.height.toNat := rfl

structure MonitorLayout.SizeSupported (wire : MonitorLayout) : Prop where
  evenWidth : Even wire.width.toNat
  widthRange : 200 ≤ wire.width.toNat ∧ wire.width.toNat ≤ 8192
  heightRange : 200 ≤ wire.height.toNat ∧ wire.height.toNat ≤ 8192

/-- What the records of a layout must satisfy together. -/
structure ValidRecords (records : List MonitorLayout) : Prop where
  sizes : ∀ wire ∈ records, wire.SizeSupported
  onePrimary : records.countP MonitorLayout.primary = 1
  primaryAtOrigin : ∀ wire ∈ records, wire.primary = true →
    wire.left.toInt = 0 ∧ wire.top.toInt = 0
  disjoint : records.Pairwise fun first second => ¬Box.Overlap first.box second.box
  extent : ∀ hull : Box Int, Box.bounding (records.map MonitorLayout.box) = hull →
    hull.width ≤ 32766 ∧ hull.height ≤ 32766
  touching : 1 < records.length → ∀ index (inside : index < records.length),
    ∃ other, ∃ otherInside : other < records.length,
      index ≠ other ∧ Box.Touch records[index].box records[other].box

structure ValidLayout (pdu : MonitorLayoutPdu) (records : List MonitorLayout) : Prop
    extends ValidRecords records where
  recordSize : pdu.monitorLayoutSize.toNat = 40
  count : 1 ≤ pdu.numMonitors.toNat ∧ pdu.numMonitors.toNat ≤ 16

/-- The list entry keeps the record's geometry and its primary flag, and each
optional group of attributes is kept when valid and replaced by its default
otherwise. -/
structure Faithful (wire : MonitorLayout) (monitor : DisplayMonitor) : Prop where
  position : monitor.position.x = wire.left ∧ monitor.position.y = wire.top
  size : monitor.size.width.toInt = wire.width.toNat ∧
    monitor.size.height.toInt = wire.height.toNat
  primary : monitor.primary = wire.primary
  physicalSize :
    if (10 ≤ wire.physicalWidth.toNat ∧ wire.physicalWidth.toNat ≤ 10000) ∧
        (10 ≤ wire.physicalHeight.toNat ∧ wire.physicalHeight.toNat ≤ 10000) then
      monitor.physicalSize.width.toInt = wire.physicalWidth.toNat ∧
        monitor.physicalSize.height.toInt = wire.physicalHeight.toNat
    else monitor.physicalSize = {}
  orientation :
    if wire.orientation.toNat ∈ [0, 90, 180, 270] then
      monitor.orientation = wire.orientation
    else monitor.orientation = 0
  scaleFactors :
    if (100 ≤ wire.desktopScaleFactor.toNat ∧ wire.desktopScaleFactor.toNat ≤ 500) ∧
        wire.deviceScaleFactor.toNat ∈ [100, 140, 180] then
      monitor.desktopScaleFactor = wire.desktopScaleFactor ∧
        monitor.deviceScaleFactor = wire.deviceScaleFactor
    else monitor.desktopScaleFactor = 100 ∧ monitor.deviceScaleFactor = 100

/-! ### One record -/

theorem MonitorLayout.unsupportedSize_eq_false_iff (wire : MonitorLayout) :
    wire.unsupportedSize = false ↔ wire.SizeSupported := by
  have evenIff : wire.width % 2 = 0 ↔ Even wire.width.toNat := by
    rw [Nat.even_iff, ← UInt32.toNat_inj]
    rfl
  simp only [unsupportedSize, Bool.or_eq_false_iff, decide_eq_false_iff_not,
    bne_eq_false_iff_eq, evenIff, gt_iff_lt, UInt32.not_lt, UInt32.le_iff_toNat_le]
  constructor
  · rintro ⟨⟨⟨⟨wide, narrow⟩, even⟩, high⟩, low⟩
    exact ⟨even, ⟨wide, narrow⟩, ⟨high, low⟩⟩
  · rintro ⟨even, ⟨wide, narrow⟩, ⟨high, low⟩⟩
    exact ⟨⟨⟨⟨wide, narrow⟩, even⟩, high⟩, low⟩

private theorem validPhysicalSize_iff (wire : MonitorLayout) :
    wire.validPhysicalSize = true ↔
      (10 ≤ wire.physicalWidth.toNat ∧ wire.physicalWidth.toNat ≤ 10000) ∧
        (10 ≤ wire.physicalHeight.toNat ∧ wire.physicalHeight.toNat ≤ 10000) := by
  simp only [MonitorLayout.validPhysicalSize, Bool.and_eq_true, decide_eq_true_eq, ge_iff_le,
    UInt32.le_iff_toNat_le, and_assoc]
  rfl

private theorem validOrientation_iff (wire : MonitorLayout) :
    wire.validOrientation = true ↔ wire.orientation.toNat ∈ [0, 90, 180, 270] := by
  simp only [MonitorLayout.validOrientation, Bool.or_eq_true, beq_iff_eq, ← UInt32.toNat_inj,
    List.mem_cons, List.not_mem_nil, or_false, or_assoc]
  rfl

private theorem validScale_iff (wire : MonitorLayout) :
    wire.validScale = true ↔
      (100 ≤ wire.desktopScaleFactor.toNat ∧ wire.desktopScaleFactor.toNat ≤ 500) ∧
        wire.deviceScaleFactor.toNat ∈ [100, 140, 180] := by
  simp only [MonitorLayout.validScale, Bool.and_eq_true, Bool.or_eq_true, decide_eq_true_eq,
    beq_iff_eq, ge_iff_le, UInt32.le_iff_toNat_le, ← UInt32.toNat_inj, List.mem_cons,
    List.not_mem_nil, or_false, or_assoc]
  rfl

theorem MonitorLayout.decoded_faithful (wire : MonitorLayout) (supported : wire.SizeSupported) :
    Faithful wire wire.decoded where
  position := ⟨rfl, rfl⟩
  size := by
    have widthRange := supported.widthRange
    have heightRange := supported.heightRange
    exact ⟨toInt_toInt32_of_lt (by omega), toInt_toInt32_of_lt (by omega)⟩
  primary := rfl
  physicalSize := by
    split
    · rename_i valid
      have kept := (validPhysicalSize_iff wire).mpr valid
      simp only [decoded, kept, if_true]
      exact ⟨toInt_toInt32_of_lt (by omega), toInt_toInt32_of_lt (by omega)⟩
    · rename_i invalid
      have replaced := mt (validPhysicalSize_iff wire).mp invalid
      simp only [decoded, if_neg replaced]
  orientation := by
    split
    · rename_i valid
      have kept := (validOrientation_iff wire).mpr valid
      simp only [decoded, kept, if_true]
    · rename_i invalid
      have replaced := mt (validOrientation_iff wire).mp invalid
      simp only [decoded, if_neg replaced]
  scaleFactors := by
    split
    · rename_i valid
      have kept := (validScale_iff wire).mpr valid
      simp only [decoded, kept, if_true, and_self]
    · rename_i invalid
      have replaced := mt (validScale_iff wire).mp invalid
      simp only [decoded, if_neg replaced, and_self]

structure MonitorLayout.RecordOk (wire : MonitorLayout) : Prop where
  size : wire.SizeSupported
  primaryAtOrigin : wire.primary = true → wire.left.toInt = 0 ∧ wire.top.toInt = 0

theorem displaced_eq_false_iff {wire : MonitorLayout} :
    (wire.primary && (wire.left != 0 || wire.top != 0)) = false ↔
      (wire.primary = true → wire.left.toInt = 0 ∧ wire.top.toInt = 0) := by
  rw [← Int32.toInt_zero, Int32.toInt_inj, Int32.toInt_inj]
  cases wire.primary <;> simp

theorem decodeRecord_ok_iff (index : Nat) (wire : MonitorLayout) (state next : DecodeState) :
    decodeRecord index wire state = .ok next ↔
      wire.RecordOk ∧ overlapsDecoded wire state.decoded = false ∧
        next = state.advance wire := by
  unfold decodeRecord
  split
  · rename_i unsupported
    constructor
    · intro failed
      cases failed
    · rintro ⟨⟨size, _⟩, _⟩
      rw [(wire.unsupportedSize_eq_false_iff).mpr size] at unsupported
      cases unsupported
  · rename_i supported
    split
    · rename_i displaced
      constructor
      · intro failed
        cases failed
      · rintro ⟨⟨_, origin⟩, _⟩
        rw [displaced_eq_false_iff.mpr origin] at displaced
        cases displaced
    · rename_i placed
      have recordOk : wire.RecordOk :=
        ⟨(wire.unsupportedSize_eq_false_iff).mp (Bool.eq_false_iff.mpr supported),
          displaced_eq_false_iff.mp (Bool.eq_false_iff.mpr placed)⟩
      split
      · rename_i overlapping
        constructor
        · intro failed
          cases failed
        · rintro ⟨_, apart, _⟩
          rw [apart] at overlapping
          cases overlapping
      · rename_i apart
        constructor
        · intro decoded
          exact ⟨recordOk, Bool.eq_false_iff.mpr apart, (Except.ok.inj decoded).symm⟩
        · rintro ⟨_, _, nextEq⟩
          rw [nextEq]

/-! ### The record loop -/

def MonitorLayout.Apart (earlier later : MonitorLayout) : Prop :=
  later.geometry.intersects earlier.geometry = false

theorem overlapsDecoded_eq_false_iff (wire : MonitorLayout) (decoded : DisplayMonitorList) :
    overlapsDecoded wire decoded = false ↔
      ∀ other ∈ decoded,
        wire.geometry.intersects (QRect.ofPositionSize other.position other.size) = false := by
  simp [overlapsDecoded]

/-- A later record meets the entry just appended exactly when it is not apart from
its record. -/
theorem overlapsDecoded_advance_iff (later wire : MonitorLayout) (state : DecodeState) :
    overlapsDecoded later (state.advance wire).decoded = false ↔
      overlapsDecoded later state.decoded = false ∧ wire.Apart later := by
  rw [overlapsDecoded_eq_false_iff, overlapsDecoded_eq_false_iff]
  simp only [DecodeState.advance, List.forall_mem_append, List.forall_mem_singleton]
  exact Iff.rfl

/-- The record loop succeeds exactly when each record passes its own checks and
lies apart from all earlier ones; it then holds the fold of its updates. -/
theorem decodeRecords_ok_iff (index : Nat) (records : List MonitorLayout)
    (state final : DecodeState) :
    decodeRecords index records state = .ok final ↔
      (∀ wire ∈ records, wire.RecordOk ∧ overlapsDecoded wire state.decoded = false) ∧
        records.Pairwise MonitorLayout.Apart ∧
        final = records.foldl DecodeState.advance state := by
  induction records generalizing index state with
  | nil =>
      simp only [decodeRecords, Except.ok.injEq, List.not_mem_nil, false_implies, implies_true,
        List.Pairwise.nil, List.foldl_nil, true_and]
      exact eq_comm
  | cons wire rest ih =>
      simp only [decodeRecords, List.forall_mem_cons, List.pairwise_cons, List.foldl_cons]
      cases here : decodeRecord index wire state with
      | error message =>
          constructor
          · intro failed
            cases failed
          · rintro ⟨⟨first, _⟩, _⟩
            rw [(decodeRecord_ok_iff index wire state _).mpr ⟨first.1, first.2, rfl⟩] at here
            cases here
      | ok next =>
          obtain ⟨recordOk, apart, nextEq⟩ := (decodeRecord_ok_iff index wire state next).mp here
          subst nextEq
          simp only [ih, overlapsDecoded_advance_iff]
          constructor
          · rintro ⟨restOk, pairwise, finalEq⟩
            exact ⟨⟨⟨recordOk, apart⟩, fun later member =>
                ⟨(restOk later member).1, (restOk later member).2.1⟩⟩,
              ⟨fun later member => (restOk later member).2.2, pairwise⟩, finalEq⟩
          · rintro ⟨⟨_, restOk⟩, ⟨headApart, pairwise⟩, finalEq⟩
            exact ⟨fun later member =>
                ⟨(restOk later member).1, (restOk later member).2, headApart later member⟩,
              pairwise, finalEq⟩

theorem foldl_advance_decoded (records : List MonitorLayout) (state : DecodeState) :
    (records.foldl DecodeState.advance state).decoded =
      state.decoded ++ records.map MonitorLayout.decoded := by
  induction records generalizing state with
  | nil => simp
  | cons wire rest ih =>
      rw [List.foldl_cons, ih]
      simp [DecodeState.advance]

theorem foldl_advance_primaryCount (records : List MonitorLayout) (state : DecodeState) :
    (records.foldl DecodeState.advance state).primaryCount =
      state.primaryCount + records.countP MonitorLayout.primary := by
  induction records generalizing state with
  | nil => rfl
  | cons wire rest ih =>
      rw [List.foldl_cons, ih, List.countP_cons]
      simp only [DecodeState.advance]
      omega

structure DecodeState.EdgesOf (state : DecodeState) (box : Box Int) : Prop where
  minimumX : state.minimumX = box.left
  maximumX : state.maximumX = box.right
  minimumY : state.minimumY = box.top
  maximumY : state.maximumY = box.bottom

theorem DecodeState.EdgesOf.advance {state : DecodeState} {box : Box Int}
    (edges : state.EdgesOf box) (wire : MonitorLayout) :
    (state.advance wire).EdgesOf (box ⊔ wire.box) := by
  obtain ⟨minimumX, maximumX, minimumY, maximumY⟩ := edges
  constructor
  · rw [Box.left_sup, ← minimumX]; rfl
  · rw [Box.right_sup, ← maximumX]; rfl
  · rw [Box.top_sup, ← minimumY]; rfl
  · rw [Box.bottom_sup, ← maximumY]; rfl

/-- The initial edges are the extreme 64-bit values, so the first record
replaces them. -/
theorem edgesOf_first (wire : MonitorLayout) :
    (DecodeState.advance {} wire).EdgesOf wire.box := by
  have left := fitsInt32_toInt wire.left
  have top := fitsInt32_toInt wire.top
  unfold FitsInt32 at left top
  constructor <;>
    simp only [DecodeState.advance, MonitorLayout.box_left, MonitorLayout.box_right,
      MonitorLayout.box_top, MonitorLayout.box_bottom] <;> omega

theorem edgesOf_foldl (records : List MonitorLayout) {state : DecodeState} {box : Box Int}
    (edges : state.EdgesOf box) :
    (records.foldl DecodeState.advance state).EdgesOf
      ((records.map MonitorLayout.box).foldl (· ⊔ ·) box) := by
  induction records generalizing state box with
  | nil => exact edges
  | cons wire rest ih => exact ih (edges.advance wire)

theorem edgesOf_bounding {records : List MonitorLayout} (nonempty : records ≠ []) :
    ∃ hull : Box Int, Box.bounding (records.map MonitorLayout.box) = hull ∧
      (records.foldl DecodeState.advance {}).EdgesOf hull := by
  cases records with
  | nil => exact absurd rfl nonempty
  | cons wire rest =>
      exact ⟨_, Box.bounding_cons wire.box (rest.map MonitorLayout.box),
        edgesOf_foldl rest (edgesOf_first wire)⟩

/-! ### Exact rectangles -/

structure MonitorLayout.NearOrigin (wire : MonitorLayout) : Prop where
  left : -32766 ≤ wire.left.toInt
  right : wire.left.toInt + wire.width.toNat ≤ 32766
  top : -32766 ≤ wire.top.toInt
  bottom : wire.top.toInt + wire.height.toNat ≤ 32766

/-- A primary monitor at the origin and a bounded extent keep every record near
the origin. -/
theorem nearOrigin_of_extent {records : List MonitorLayout} {hull : Box Int}
    (hullEq : Box.bounding (records.map MonitorLayout.box) = hull)
    (onePrimary : records.countP MonitorLayout.primary = 1)
    (primaryAtOrigin : ∀ wire ∈ records, wire.primary = true →
      wire.left.toInt = 0 ∧ wire.top.toInt = 0)
    (extent : hull.width ≤ 32766 ∧ hull.height ≤ 32766) :
    ∀ wire ∈ records, wire.NearOrigin := by
  intro wire member
  obtain ⟨main, mainMember, mainPrimary⟩ :=
    List.countP_pos_iff.mp (by rw [onePrimary]; decide : 0 < records.countP MonitorLayout.primary)
  obtain ⟨mainLeft, mainTop⟩ := primaryAtOrigin main mainMember mainPrimary
  have pairwise := (Box.bounding_extent_le_iff hullEq 32766).mp extent
  have boxMember := List.mem_map_of_mem (f := MonitorLayout.box) member
  have mainBoxMember := List.mem_map_of_mem (f := MonitorLayout.box) mainMember
  have before := pairwise wire.box boxMember main.box mainBoxMember
  have after := pairwise main.box mainBoxMember wire.box boxMember
  simp only [MonitorLayout.box_left, MonitorLayout.box_right, MonitorLayout.box_top,
    MonitorLayout.box_bottom, mainLeft, mainTop] at before after
  constructor <;> omega

theorem MonitorLayout.geometry_represents {wire : MonitorLayout}
    (supported : wire.SizeSupported) (near : wire.NearOrigin) :
    wire.geometry.Represents wire.box := by
  have size := (decoded_faithful wire supported).size
  have widthEq : wire.size.width.toInt = wire.width.toNat := size.1
  have heightEq : wire.size.height.toInt = wire.height.toNat := size.2
  have widthRange := supported.widthRange
  have heightRange := supported.heightRange
  obtain ⟨left, right, top, bottom⟩ := near
  constructor
  · have ends : QRect.EndsOf wire.left (wire.left + wire.size.width - 1) wire.left.toInt
        (wire.left.toInt + wire.size.width.toInt) :=
      QRect.EndsOf.of_extent (by omega) (by omega) (by omega)
    rw [widthEq] at ends
    exact ends
  · have ends : QRect.EndsOf wire.top (wire.top + wire.size.height - 1) wire.top.toInt
        (wire.top.toInt + wire.size.height.toInt) :=
      QRect.EndsOf.of_extent (by omega) (by omega) (by omega)
    rw [heightEq] at ends
    exact ends

theorem MonitorLayout.apart_iff {earlier later : MonitorLayout}
    (earlierSupported : earlier.SizeSupported) (earlierNear : earlier.NearOrigin)
    (laterSupported : later.SizeSupported) (laterNear : later.NearOrigin) :
    earlier.Apart later ↔ ¬Box.Overlap earlier.box later.box := by
  have decided := QRect.intersects_iff_overlap
    (geometry_represents laterSupported laterNear)
    (geometry_represents earlierSupported earlierNear)
  unfold Apart
  rw [← Bool.not_eq_true, decided]
  exact not_congr ⟨Box.Overlap.symm, Box.Overlap.symm⟩

theorem pairwise_apart_iff {records : List MonitorLayout}
    (supported : ∀ wire ∈ records, wire.SizeSupported)
    (near : ∀ wire ∈ records, wire.NearOrigin) :
    records.Pairwise MonitorLayout.Apart ↔
      records.Pairwise fun first second => ¬Box.Overlap first.box second.box := by
  apply List.Pairwise.iff_of_mem
  intro first second firstMember secondMember
  exact MonitorLayout.apart_iff (supported first firstMember) (near first firstMember)
    (supported second secondMember) (near second secondMember)

/-! ### Connectedness -/

theorem adjacent_decoded_iff {first second : MonitorLayout}
    (firstSupported : first.SizeSupported) (secondSupported : second.SizeSupported) :
    adjacent first.decoded second.decoded = true ↔ Box.Adjacent first.box second.box := by
  have firstSize := (MonitorLayout.decoded_faithful first firstSupported).size
  have secondSize := (MonitorLayout.decoded_faithful second secondSupported).size
  simp only [adjacent, firstSize, secondSize, Bool.or_eq_true, Bool.and_eq_true, beq_iff_eq,
    decide_eq_true_eq]
  exact Iff.rfl

/-- The check finds a neighbour where a closed box touches another one. -/
theorem hasAdjacentMonitor_iff {records : List MonitorLayout}
    (supported : ∀ wire ∈ records, wire.SizeSupported)
    (disjoint : records.Pairwise fun first second => ¬Box.Overlap first.box second.box)
    {index : Nat} (inside : index < records.length) :
    hasAdjacentMonitor (records.map MonitorLayout.decoded) index records[index].decoded = true ↔
      ∃ other, ∃ otherInside : other < records.length,
        index ≠ other ∧ Box.Touch records[index].box records[other].box := by
  have neighbours (other : Nat) (otherInside : other < records.length) (different : index ≠ other) :
      adjacent records[index].decoded records[other].decoded = true ↔
        Box.Touch records[index].box records[other].box := by
    have own := supported records[index] (List.getElem_mem inside)
    have others := supported records[other] (List.getElem_mem otherInside)
    have apart : ¬Box.Overlap records[index].box records[other].box := by
      rcases Nat.lt_or_gt_of_ne different with before | after
      · exact List.pairwise_iff_getElem.mp disjoint index other inside otherInside before
      · intro overlap
        exact List.pairwise_iff_getElem.mp disjoint other index otherInside inside after
          overlap.symm
    have ownWidth := own.widthRange
    have ownHeight := own.heightRange
    have otherWidth := others.widthRange
    have otherHeight := others.heightRange
    rw [adjacent_decoded_iff own others,
      Box.touch_iff_adjacent (by simp; omega) (by simp; omega) (by simp; omega) (by simp; omega)
        apart]
  simp only [hasAdjacentMonitor, List.any_eq_true, Bool.and_eq_true, bne_iff_ne]
  constructor
  · intro cause
    obtain ⟨⟨monitor, other⟩, member, different, touching⟩ := cause
    obtain ⟨otherInside, rfl⟩ :=
      List.getElem?_eq_some_iff.mp (List.mk_mem_zipIdx_iff_getElem?.mp member)
    rw [List.length_map] at otherInside
    simp only [List.getElem_map] at touching
    exact ⟨other, otherInside, different, (neighbours other otherInside different).mp touching⟩
  · intro cause
    obtain ⟨other, otherInside, different, touching⟩ := cause
    refine ⟨(records[other].decoded, other), ?_, different,
      (neighbours other otherInside different).mpr touching⟩
    rw [List.mk_mem_zipIdx_iff_getElem?, List.getElem?_map, List.getElem?_eq_getElem otherInside]
    rfl

theorem isolatedMonitor?_eq_none_iff (decoded : DisplayMonitorList) :
    isolatedMonitor? decoded = none ↔
      ∀ index (inside : index < decoded.length),
        hasAdjacentMonitor decoded index decoded[index] = true := by
  simp only [isolatedMonitor?, Option.map_eq_none_iff, List.find?_eq_none, Bool.not_eq_true',
    Bool.not_eq_false]
  constructor
  · intro connected index inside
    exact connected (decoded[index], index)
      (List.mk_mem_zipIdx_iff_getElem?.mpr (List.getElem?_eq_getElem inside))
  · rintro connected ⟨monitor, index⟩ member
    obtain ⟨inside, rfl⟩ :=
      List.getElem?_eq_some_iff.mp (List.mk_mem_zipIdx_iff_getElem?.mp member)
    exact connected index inside

/-- On supported records that lie apart, the connectedness check asks each
closed box to touch another one. -/
theorem isolatedMonitor?_decoded_iff {records : List MonitorLayout}
    (supported : ∀ wire ∈ records, wire.SizeSupported)
    (disjoint : records.Pairwise fun first second => ¬Box.Overlap first.box second.box) :
    isolatedMonitor? (records.map MonitorLayout.decoded) = none ↔
      ∀ index (inside : index < records.length),
        ∃ other, ∃ otherInside : other < records.length,
          index ≠ other ∧ Box.Touch records[index].box records[other].box := by
  rw [isolatedMonitor?_eq_none_iff]
  simp only [List.length_map, List.getElem_map]
  exact forall₂_congr fun _ inside => hasAdjacentMonitor_iff supported disjoint inside

/-! ### The exact verdict -/

theorem checkLayout_ok_iff (state : DecodeState) (layout : DisplayMonitorList) :
    checkLayout state = .ok layout ↔
      state.primaryCount = 1 ∧
        (state.maximumX - state.minimumX ≤ 32766 ∧ state.maximumY - state.minimumY ≤ 32766) ∧
        (1 < state.decoded.length → isolatedMonitor? state.decoded = none) ∧
        layout = state.decoded := by
  unfold checkLayout maximumDesktopExtent
  split
  · rename_i wrongCount
    have : state.primaryCount ≠ 1 := by simpa using wrongCount
    simp [this]
  · rename_i rightCount
    have count : state.primaryCount = 1 := by simpa using rightCount
    split
    · rename_i tooLarge
      simp only [gt_iff_lt, Bool.or_eq_true, decide_eq_true_eq] at tooLarge
      simp only [reduceCtorEq, false_iff]
      rintro ⟨_, ⟨width, height⟩, _⟩
      omega
    · rename_i bounded
      simp only [gt_iff_lt, Bool.or_eq_true, decide_eq_true_eq, not_or, Int.not_lt] at bounded
      simp only [count, bounded, and_self, true_and, gt_iff_lt]
      split
      · rename_i several
        cases isolated : isolatedMonitor? state.decoded with
        | some index => simp [several]
        | none => simp [eq_comm]
      · rename_i single
        simp [single, eq_comm]

theorem decodeRecords_checkLayout_iff {records : List MonitorLayout} (nonempty : records ≠ [])
    (layout : DisplayMonitorList) :
    (∃ state, decodeRecords 0 records {} = .ok state ∧ checkLayout state = .ok layout) ↔
      ValidRecords records ∧ layout = records.map MonitorLayout.decoded := by
  obtain ⟨hull, hullEq, edges⟩ := edgesOf_bounding nonempty
  have decodedEq := foldl_advance_decoded records {}
  have countEq := foldl_advance_primaryCount records {}
  simp only [List.nil_append, Nat.zero_add] at decodedEq countEq
  have widthEq : hull.width = hull.right - hull.left := rfl
  have heightEq : hull.height = hull.bottom - hull.top := rfl
  constructor
  · rintro ⟨state, looped, checked⟩
    obtain ⟨recordsOk, apart, rfl⟩ := (decodeRecords_ok_iff 0 records {} state).mp looped
    obtain ⟨onePrimary, extent, connected, layoutEq⟩ := (checkLayout_ok_iff _ layout).mp checked
    rw [edges.minimumX, edges.maximumX, edges.minimumY, edges.maximumY, ← widthEq,
      ← heightEq] at extent
    rw [countEq] at onePrimary
    rw [decodedEq, List.length_map] at connected
    have sizes : ∀ wire ∈ records, wire.SizeSupported :=
      fun wire member => (recordsOk wire member).1.size
    have origin : ∀ wire ∈ records, wire.primary = true →
        wire.left.toInt = 0 ∧ wire.top.toInt = 0 :=
      fun wire member => (recordsOk wire member).1.primaryAtOrigin
    have near := nearOrigin_of_extent hullEq onePrimary origin extent
    have disjoint := (pairwise_apart_iff sizes near).mp apart
    refine ⟨⟨sizes, onePrimary, origin, disjoint, ?_, ?_⟩, by rw [layoutEq, decodedEq]⟩
    · intro other otherEq
      rwa [← WithBot.coe_injective (hullEq.symm.trans otherEq)]
    · intro several
      exact (isolatedMonitor?_decoded_iff sizes disjoint).mp (connected several)
  · rintro ⟨⟨sizes, onePrimary, origin, disjoint, extent, touching⟩, layoutEq⟩
    have bounded := extent hull hullEq
    have near := nearOrigin_of_extent hullEq onePrimary origin bounded
    have apart := (pairwise_apart_iff sizes near).mpr disjoint
    refine ⟨records.foldl DecodeState.advance {},
      (decodeRecords_ok_iff 0 records {} _).mpr ⟨?_, apart, rfl⟩,
      (checkLayout_ok_iff _ layout).mpr ⟨?_, ?_, ?_, ?_⟩⟩
    · intro wire member
      exact ⟨⟨sizes wire member, origin wire member⟩, rfl⟩
    · rw [countEq, onePrimary]
    · rwa [edges.minimumX, edges.maximumX, edges.minimumY, edges.maximumY, ← widthEq, ← heightEq]
    · rw [decodedEq, List.length_map]
      intro several
      exact (isolatedMonitor?_decoded_iff sizes disjoint).mpr (touching several)
    · rw [decodedEq, layoutEq]

/-- The validator accepts exactly the valid layouts, and then returns the
entries of the records in order. -/
theorem decodeMonitorLayout_ok_iff (pdu : MonitorLayoutPdu) (records : List MonitorLayout)
    (array : pdu.monitors = some records) (destination layout : DisplayMonitorList) :
    decodeMonitorLayout pdu (some destination) = .ok layout ↔
      ValidLayout pdu records ∧ layout = records.map MonitorLayout.decoded := by
  have lengthEq := pdu.readable records array
  have sizeIff : pdu.monitorLayoutSize = displayControlMonitorLayoutSize ↔
      pdu.monitorLayoutSize.toNat = 40 := by
    rw [← UInt32.toNat_inj]
    rfl
  have countIff : (pdu.numMonitors == 0 || pdu.numMonitors > maximumMonitorCount) = false ↔
      1 ≤ pdu.numMonitors.toNat ∧ pdu.numMonitors.toNat ≤ 16 := by
    rw [Bool.or_eq_false_iff, beq_eq_false_iff_ne, decide_eq_false_iff_not, gt_iff_lt,
      UInt32.not_lt, UInt32.le_iff_toNat_le, ← UInt32.toNat_inj.ne]
    exact and_congr Nat.pos_iff_ne_zero.symm Iff.rfl
  simp only [decodeMonitorLayout, array]
  split
  · rename_i wrongSize
    simp only [reduceCtorEq, false_iff]
    rintro ⟨valid, _⟩
    exact (bne_iff_ne.mp wrongSize) (sizeIff.mpr valid.recordSize)
  · rename_i rightSize
    have recordSize : pdu.monitorLayoutSize.toNat = 40 :=
      sizeIff.mp (by simpa using rightSize)
    split
    · rename_i wrongCount
      simp only [reduceCtorEq, false_iff]
      rintro ⟨valid, _⟩
      rw [countIff.mpr valid.count] at wrongCount
      cases wrongCount
    · rename_i rightCount
      have count := countIff.mp (Bool.eq_false_iff.mpr rightCount)
      have nonempty : records ≠ [] := by
        intro empty
        rw [empty, List.length_nil] at lengthEq
        omega
      have verdict := decodeRecords_checkLayout_iff nonempty layout
      have withHeader : ValidRecords records ∧ layout = records.map MonitorLayout.decoded ↔
          ValidLayout pdu records ∧ layout = records.map MonitorLayout.decoded := by
        constructor
        · rintro ⟨validRecords, layoutEq⟩
          exact ⟨⟨validRecords, recordSize, count⟩, layoutEq⟩
        · rintro ⟨valid, layoutEq⟩
          exact ⟨valid.toValidRecords, layoutEq⟩
      rw [← withHeader, ← verdict]
      cases decodeRecords 0 records {} <;> simp

/-- The verdict and the decoded list in one statement, for every PDU whose array
can be read. -/
theorem decodeMonitorLayout_exact (pdu : MonitorLayoutPdu) (records : List MonitorLayout)
    (array : pdu.monitors = some records) (destination : DisplayMonitorList) :
    ((∃ layout, decodeMonitorLayout pdu (some destination) = .ok layout) ↔
        ValidLayout pdu records) ∧
      ∀ layout, decodeMonitorLayout pdu (some destination) = .ok layout →
        List.Forall₂ Faithful records layout := by
  constructor
  · constructor
    · rintro ⟨layout, accepted⟩
      exact ((decodeMonitorLayout_ok_iff pdu records array destination layout).mp accepted).1
    · intro valid
      exact ⟨records.map MonitorLayout.decoded,
        (decodeMonitorLayout_ok_iff pdu records array destination _).mpr ⟨valid, rfl⟩⟩
  · intro layout accepted
    obtain ⟨valid, layoutEq⟩ :=
      (decodeMonitorLayout_ok_iff pdu records array destination layout).mp accepted
    rw [layoutEq]
    have faithful : ∀ wire ∈ records, Faithful wire wire.decoded :=
      fun wire member => wire.decoded_faithful (valid.sizes wire member)
    exact List.forall₂_map_right_iff.mpr (List.forall₂_same.mpr faithful)

def primaryWithLeft : List MonitorLayout :=
  [{ flags := 1
     left := 0
     top := 0
     width := 1920
     height := 1080
     physicalWidth := 520
     physicalHeight := 290
     orientation := 0
     desktopScaleFactor := 150
     deviceScaleFactor := 140 },
    { flags := 0
      left := -1280
      top := 0
      width := 1280
      height := 1024
      physicalWidth := 0
      physicalHeight := 0
      orientation := 45
      desktopScaleFactor := 100
      deviceScaleFactor := 100 }]

theorem decodeMonitorLayout_exact_primaryWithLeft :
    ((∃ layout, decodeMonitorLayout (.ofRecords primaryWithLeft (by decide)) (some []) =
          .ok layout) ↔
        ValidLayout (.ofRecords primaryWithLeft (by decide)) primaryWithLeft) ∧
      ∀ layout, decodeMonitorLayout (.ofRecords primaryWithLeft (by decide)) (some []) =
          .ok layout →
        List.Forall₂ Faithful primaryWithLeft layout :=
  decodeMonitorLayout_exact (.ofRecords primaryWithLeft (by decide)) primaryWithLeft rfl []

end DisplayControl
end KRdp
