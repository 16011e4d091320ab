/-
The graphics topology that a reset publishes for an accepted layout.

The validator's guarantees (no overlap, a bounded extent, the primary monitor
at the origin) are carried over to the arithmetic of the reset: the union of
the monitor rectangles is exact, so the desktop size, the inclusive monitor
corners and the surface origins are the exact integers, and the surfaces of a
per-output reset tile disjoint parts of the desktop.
-/

import KRdp.DisplayControl.AcceptedLayout
import KRdp.Qt.Union
import KRdp.VideoStream.Reset
import Mathlib.Data.List.Forall2

namespace KRdp

open MachineInt

namespace VideoStream

open QRect

/-! ### The desktop rectangle -/

/-- On sizes the validator accepts, the clamped extents of the box are the
extents themselves. -/
theorem box_edges {monitor : DisplayMonitor} {layout : DisplayMonitorList}
    (accepted : AcceptedLayout layout) (member : monitor ∈ layout) :
    monitor.box.right = monitor.position.x.toInt + monitor.size.width.toInt ∧
      monitor.box.bottom = monitor.position.y.toInt + monitor.size.height.toInt := by
  obtain ⟨⟨wide, _⟩, ⟨high, _⟩⟩ := accepted.sizes monitor member
  have widthEq : (monitor.size.width.toNatClampNeg : Int) = monitor.size.width.toInt :=
    Int.toNat_of_nonneg (by omega)
  have heightEq : (monitor.size.height.toNatClampNeg : Int) = monitor.size.height.toInt :=
    Int.toNat_of_nonneg (by omega)
  constructor
  · change monitor.position.x.toInt + (monitor.size.width.toNatClampNeg : Int) = _
    rw [widthEq]
  · change monitor.position.y.toInt + (monitor.size.height.toNatClampNeg : Int) = _
    rw [heightEq]

theorem represents_box {monitor : DisplayMonitor} {layout : DisplayMonitorList}
    (accepted : AcceptedLayout layout) (member : monitor ∈ layout) :
    (QRect.ofPositionSize monitor.position monitor.size).Represents monitor.box := by
  obtain ⟨rightEq, bottomEq⟩ := box_edges accepted member
  obtain ⟨⟨wide, _⟩, ⟨high, _⟩⟩ := accepted.sizes monitor member
  obtain ⟨left, right⟩ := accepted.nearX monitor member
  obtain ⟨top, bottom⟩ := accepted.nearY monitor member
  have horizontal : EndsOf monitor.position.x (monitor.position.x + monitor.size.width - 1)
      monitor.position.x.toInt (monitor.position.x.toInt + monitor.size.width.toInt) :=
    EndsOf.of_extent (by omega) (by omega) (by omega)
  have vertical : EndsOf monitor.position.y (monitor.position.y + monitor.size.height - 1)
      monitor.position.y.toInt (monitor.position.y.toInt + monitor.size.height.toInt) :=
    EndsOf.of_extent (by omega) (by omega) (by omega)
  rw [← rightEq] at horizontal
  rw [← bottomEq] at vertical
  exact ⟨horizontal, vertical⟩

/-- The union that the reset folds up is the bounding box of the monitors. -/
theorem desktopGeometry_represents {layout : DisplayMonitorList} {hull : Box Int}
    (accepted : AcceptedLayout layout)
    (hullEq : Box.bounding (layout.map DisplayMonitor.box) = hull) :
    (desktopGeometry layout).Represents hull := by
  have geometryEq : desktopGeometry layout =
      unionOf (layout.map fun monitor =>
        QRect.ofPositionSize monitor.position monitor.size) := by
    rw [desktopGeometry, unionOf, List.foldl_map]
  rw [geometryEq]
  exact unionOf_represents accepted.nonempty (fun _ member => represents_box accepted member)
    hullEq

theorem hull_exists {layout : DisplayMonitorList}
    (accepted : AcceptedLayout layout) :
    ∃ hull : Box Int, Box.bounding (layout.map DisplayMonitor.box) = hull := by
  cases layout with
  | nil => exact absurd rfl accepted.nonempty
  | cons monitor rest => exact ⟨_, Box.bounding_cons monitor.box (rest.map DisplayMonitor.box)⟩

theorem hull_extent {layout : DisplayMonitorList} {hull : Box Int}
    (accepted : AcceptedLayout layout)
    (hullEq : Box.bounding (layout.map DisplayMonitor.box) = hull) :
    (200 ≤ hull.width ∧ hull.width ≤ 32766) ∧ (200 ≤ hull.height ∧ hull.height ≤ 32766) := by
  obtain ⟨widthLe, heightLe⟩ := accepted.extent hull hullEq
  obtain ⟨monitor, member⟩ := List.exists_mem_of_ne_nil layout accepted.nonempty
  obtain ⟨⟨left, right⟩, ⟨top, bottom⟩⟩ := (Box.le_iff_edges monitor.box hull).mp
    (Box.le_bounding (List.mem_map_of_mem (f := DisplayMonitor.box) member) hullEq)
  obtain ⟨rightEq, bottomEq⟩ := box_edges accepted member
  obtain ⟨⟨wide, _⟩, ⟨high, _⟩⟩ := accepted.sizes monitor member
  have leftEq : monitor.box.left = monitor.position.x.toInt := rfl
  have topEq : monitor.box.top = monitor.position.y.toInt := rfl
  unfold Box.width Box.height at *
  omega

/-! ### What the published topology satisfies -/

/-- A monitor definition is the exact inclusive rectangle of its monitor, inside
the desktop. -/
structure ExactDefinition (hull : Box Int) (monitor : DisplayMonitor)
    (definition : MonitorDef) : Prop where
  horizontal : definition.left.toInt = monitor.position.x.toInt ∧
    definition.right.toInt = monitor.position.x.toInt + monitor.size.width.toInt - 1
  vertical : definition.top.toInt = monitor.position.y.toInt ∧
    definition.bottom.toInt = monitor.position.y.toInt + monitor.size.height.toInt - 1
  noOverflow : FitsInt32 (monitor.position.x.toInt + monitor.size.width.toInt) ∧
    FitsInt32 (monitor.position.y.toInt + monitor.size.height.toInt)
  ordered : definition.left ≤ definition.right ∧ definition.top ≤ definition.bottom
  insideX : hull.left ≤ definition.left.toInt ∧ definition.right.toInt < hull.right
  insideY : hull.top ≤ definition.top.toInt ∧ definition.bottom.toInt < hull.bottom

structure WellFormedReset (layout : DisplayMonitorList) (hull : Box Int)
    (reset : ResetGraphicsPdu) : Prop where
  width : (reset.width.toNat : Int) = hull.width
  height : (reset.height.toNat : Int) = hull.height
  widthRange : 200 ≤ reset.width.toNat ∧ reset.width.toNat ≤ 32766
  heightRange : 200 ≤ reset.height.toNat ∧ reset.height.toNat ≤ 32766
  definitions : List.Forall₂ (ExactDefinition hull) layout reset.monitorDefArray
  onePrimary : reset.monitorDefArray.countP
    (fun definition => definition.flags &&& monitorPrimary != 0) = 1

/-- The part of the desktop that a created and mapped surface covers. -/
def surfaceBox (create : CreateSurfacePdu) (mapping : MapSurfaceToOutputPdu) : Box Int :=
  (⟨((mapping.outputOriginX.toNat : Int), mapping.outputOriginX.toNat + create.width.toNat),
      by simp⟩,
    ⟨((mapping.outputOriginY.toNat : Int), mapping.outputOriginY.toNat + create.height.toNat),
      by simp⟩)

/-- The surfaces and mappings among the calls of a reset.  The unsigned numbers
on the wire are compared with exact integers, so no dimension is cut to 16 bits
and no negative origin is sent. -/
structure WellFormedSurfaces (layout : DisplayMonitorList) (hull : Box Int)
    (frame : VideoFrame) (calls : List Call) : Prop where
  sameId : ∀ (index : Nat) create mapping, (createsOf calls)[index]? = some create →
    (mapsOf calls)[index]? = some mapping → create.surfaceId = mapping.surfaceId
  wholeSize : perOutput frame = false → ∀ create ∈ createsOf calls,
    (create.width.toNat : Int) = hull.width ∧ (create.height.toNat : Int) = hull.height
  wholeOrigin : perOutput frame = false → ∀ mapping ∈ mapsOf calls,
    mapping.outputOriginX = 0 ∧ mapping.outputOriginY = 0
  monitorSize : perOutput frame = true → ∀ (index : Nat) create,
    (createsOf calls)[index]? = some create →
    ∃ monitor, layout[index]? = some monitor ∧
      (create.width.toNat : Int) = monitor.size.width.toInt ∧
      (create.height.toNat : Int) = monitor.size.height.toInt
  monitorOrigin : perOutput frame = true → ∀ (index : Nat) mapping,
    (mapsOf calls)[index]? = some mapping →
    ∃ monitor, layout[index]? = some monitor ∧
      (mapping.outputOriginX.toNat : Int) = monitor.position.x.toInt - hull.left ∧
      (mapping.outputOriginY.toNat : Int) = monitor.position.y.toInt - hull.top
  inside : perOutput frame = true → ∀ (index : Nat) create mapping,
    (createsOf calls)[index]? = some create → (mapsOf calls)[index]? = some mapping →
    (surfaceBox create mapping).right ≤ hull.width ∧
      (surfaceBox create mapping).bottom ≤ hull.height
  disjoint : perOutput frame = true → ∀ (first second : Nat), first ≠ second →
    ∀ create mapping otherCreate otherMapping,
      (createsOf calls)[first]? = some create → (mapsOf calls)[first]? = some mapping →
      (createsOf calls)[second]? = some otherCreate →
      (mapsOf calls)[second]? = some otherMapping →
      ¬Box.Overlap (surfaceBox create mapping) (surfaceBox otherCreate otherMapping)

theorem exactDefinition {layout : DisplayMonitorList} {hull : Box Int}
    (accepted : AcceptedLayout layout)
    (hullEq : Box.bounding (layout.map DisplayMonitor.box) = hull)
    {monitor : DisplayMonitor} (member : monitor ∈ layout) :
    ExactDefinition hull monitor (monitorDefinition monitor) := by
  obtain ⟨horizontal, vertical⟩ := represents_box accepted member
  obtain ⟨rightEq, bottomEq⟩ := box_edges accepted member
  obtain ⟨⟨left, right⟩, ⟨top, bottom⟩⟩ := (Box.le_iff_edges monitor.box hull).mp
    (Box.le_bounding (List.mem_map_of_mem (f := DisplayMonitor.box) member) hullEq)
  obtain ⟨⟨wide, narrow⟩, ⟨high, low⟩⟩ := accepted.sizes monitor member
  obtain ⟨nearLeft, nearRight⟩ := accepted.nearX monitor member
  obtain ⟨nearTop, nearBottom⟩ := accepted.nearY monitor member
  have leftEq : monitor.box.left = monitor.position.x.toInt := rfl
  have topEq : monitor.box.top = monitor.position.y.toInt := rfl
  have defRight : (monitorDefinition monitor).right.toInt =
      monitor.position.x.toInt + monitor.size.width.toInt - 1 := by
    rw [← rightEq]
    exact horizontal.stop_eq
  have defBottom : (monitorDefinition monitor).bottom.toInt =
      monitor.position.y.toInt + monitor.size.height.toInt - 1 := by
    rw [← bottomEq]
    exact vertical.stop_eq
  have defLeft : (monitorDefinition monitor).left.toInt = monitor.position.x.toInt := rfl
  have defTop : (monitorDefinition monitor).top.toInt = monitor.position.y.toInt := rfl
  refine ⟨⟨defLeft, defRight⟩, ⟨defTop, defBottom⟩, ⟨⟨by omega, by omega⟩, ⟨by omega, by omega⟩⟩,
    ⟨?_, ?_⟩, ⟨by omega, by omega⟩, ⟨by omega, by omega⟩⟩
  · rw [Int32.le_iff_toInt_le, defLeft, defRight]
    omega
  · rw [Int32.le_iff_toInt_le, defTop, defBottom]
    omega

theorem wellFormedReset {layout : DisplayMonitorList} {hull : Box Int}
    (accepted : AcceptedLayout layout)
    (hullEq : Box.bounding (layout.map DisplayMonitor.box) = hull) :
    WellFormedReset layout hull (resetGraphicsPdu layout) := by
  obtain ⟨⟨wide, narrow⟩, ⟨high, low⟩⟩ := hull_extent accepted hullEq
  obtain ⟨widthEq, heightEq⟩ := (desktopGeometry_represents accepted hullEq).size_eq
    (by omega) (by omega)
  have widthNonneg : 0 ≤ (desktopGeometry layout).size.width.toInt := by omega
  have heightNonneg : 0 ≤ (desktopGeometry layout).size.height.toInt := by omega
  have width : ((resetGraphicsPdu layout).width.toNat : Int) = hull.width := by
    rw [← widthEq]
    exact toNat_toUInt32_of_nonneg widthNonneg
  have height : ((resetGraphicsPdu layout).height.toNat : Int) = hull.height := by
    rw [← heightEq]
    exact toNat_toUInt32_of_nonneg heightNonneg
  refine ⟨width, height, by omega, by omega, ?_, ?_⟩
  · have exact : ∀ monitor ∈ layout, ExactDefinition hull monitor (monitorDefinition monitor) :=
      fun monitor member => exactDefinition accepted hullEq member
    exact List.forall₂_map_right_iff.mpr (List.forall₂_same.mpr exact)
  · have flagEq : (fun definition : MonitorDef => definition.flags &&& monitorPrimary != 0) ∘
        monitorDefinition = DisplayMonitor.primary := by
      funext monitor
      simp only [Function.comp_apply, monitorDefinition]
      cases monitor.primary <;> decide
    change (layout.map monitorDefinition).countP _ = 1
    rw [List.countP_map, flagEq]
    exact accepted.onePrimary

theorem surfaceOutputs_of_perOutput {layout : DisplayMonitorList} {frame : VideoFrame}
    (each : perOutput frame = true) (index : Nat) {output : QSize × QPoint}
    (found : (surfaceOutputs layout frame)[index]? = some output) :
    ∃ monitor, layout[index]? = some monitor ∧
      output = (monitor.size, monitor.position - (desktopGeometry layout).topLeft) := by
  simp only [surfaceOutputs, each, if_true, List.getElem?_map, Option.map_eq_some_iff] at found
  obtain ⟨monitor, monitorAt, outputEq⟩ := found
  exact ⟨monitor, monitorAt, outputEq.symm⟩

theorem surfaceOutputs_of_whole {layout : DisplayMonitorList} {frame : VideoFrame}
    (whole : perOutput frame = false) {output : QSize × QPoint} {index : Nat}
    (found : (surfaceOutputs layout frame)[index]? = some output) :
    output = ((desktopGeometry layout).size, QPoint.origin) := by
  have member := List.mem_of_getElem? found
  simpa [surfaceOutputs, whole] using member

/-- The origin of a monitor relative to the desktop, as the unsigned number that
is sent. -/
theorem origin_eq {layout : DisplayMonitorList} {hull : Box Int}
    (accepted : AcceptedLayout layout)
    (hullEq : Box.bounding (layout.map DisplayMonitor.box) = hull)
    {monitor : DisplayMonitor} (member : monitor ∈ layout) :
    (((monitor.position - (desktopGeometry layout).topLeft).x.toUInt32.toNat : Int) =
        monitor.position.x.toInt - hull.left) ∧
      (((monitor.position - (desktopGeometry layout).topLeft).y.toUInt32.toNat : Int) =
        monitor.position.y.toInt - hull.top) := by
  obtain ⟨horizontal, vertical⟩ := desktopGeometry_represents accepted hullEq
  obtain ⟨⟨left, right⟩, ⟨top, bottom⟩⟩ := (Box.le_iff_edges monitor.box hull).mp
    (Box.le_bounding (List.mem_map_of_mem (f := DisplayMonitor.box) member) hullEq)
  obtain ⟨rightEq, bottomEq⟩ := box_edges accepted member
  have leftEq : monitor.box.left = monitor.position.x.toInt := rfl
  have topEq : monitor.box.top = monitor.position.y.toInt := rfl
  obtain ⟨⟨wide, narrow⟩, ⟨high, low⟩⟩ := accepted.sizes monitor member
  have extent := hull_extent accepted hullEq
  have widthEq : hull.width = hull.right - hull.left := rfl
  have heightEq : hull.height = hull.bottom - hull.top := rfl
  have xEq : (monitor.position.x - (desktopGeometry layout).x1).toInt =
      monitor.position.x.toInt - hull.left := by
    rw [← horizontal.start_eq]
    apply toInt_sub_of_fits
    rw [horizontal.start_eq]
    exact ⟨by omega, by omega⟩
  have yEq : (monitor.position.y - (desktopGeometry layout).y1).toInt =
      monitor.position.y.toInt - hull.top := by
    rw [← vertical.start_eq]
    apply toInt_sub_of_fits
    rw [vertical.start_eq]
    exact ⟨by omega, by omega⟩
  have xNonneg : 0 ≤ (monitor.position.x - (desktopGeometry layout).x1).toInt := by
    omega
  have yNonneg : 0 ≤ (monitor.position.y - (desktopGeometry layout).y1).toInt := by
    omega
  rw [← xEq, ← yEq]
  exact ⟨toNat_toUInt32_of_nonneg xNonneg, toNat_toUInt32_of_nonneg yNonneg⟩

theorem surfaceBox_eq {layout : DisplayMonitorList} {hull : Box Int}
    (accepted : AcceptedLayout layout)
    {monitor : DisplayMonitor} (member : monitor ∈ layout)
    {create : CreateSurfacePdu} {mapping : MapSurfaceToOutputPdu}
    (width : (create.width.toNat : Int) = monitor.size.width.toInt)
    (height : (create.height.toNat : Int) = monitor.size.height.toInt)
    (originX : (mapping.outputOriginX.toNat : Int) = monitor.position.x.toInt - hull.left)
    (originY : (mapping.outputOriginY.toNat : Int) = monitor.position.y.toInt - hull.top) :
    ((surfaceBox create mapping).left = monitor.box.left - hull.left ∧
        (surfaceBox create mapping).right = monitor.box.right - hull.left) ∧
      ((surfaceBox create mapping).top = monitor.box.top - hull.top ∧
        (surfaceBox create mapping).bottom = monitor.box.bottom - hull.top) := by
  obtain ⟨rightEq, bottomEq⟩ := box_edges accepted member
  have leftEq : monitor.box.left = monitor.position.x.toInt := rfl
  have topEq : monitor.box.top = monitor.position.y.toInt := rfl
  simp only [surfaceBox, Box.left, Box.right, Box.top, Box.bottom] at *
  omega

section Surfaces

variable {layout : DisplayMonitorList} {hull : Box Int} {frame : VideoFrame} {firstId : UInt16}
  {calls : List Call}

theorem created_monitorSize (accepted : AcceptedLayout layout)
    (surfaceCalls : SurfaceCalls firstId (surfaceOutputs layout frame) calls)
    (each : perOutput frame = true) (index : Nat) (create : CreateSurfacePdu)
    (found : (createsOf calls)[index]? = some create) :
    ∃ monitor, layout[index]? = some monitor ∧
      (create.width.toNat : Int) = monitor.size.width.toInt ∧
      (create.height.toNat : Int) = monitor.size.height.toInt := by
  obtain ⟨_, creates, _⟩ := surfaceCalls
  obtain ⟨output, outputAt, rfl⟩ := creates index create found
  obtain ⟨monitor, monitorAt, rfl⟩ := surfaceOutputs_of_perOutput each index outputAt
  obtain ⟨⟨wide, narrow⟩, ⟨high, low⟩⟩ :=
    accepted.sizes monitor (List.mem_of_getElem? monitorAt)
  have widthNonneg : 0 ≤ monitor.size.width.toInt := by omega
  have heightNonneg : 0 ≤ monitor.size.height.toInt := by omega
  have widthSmall : monitor.size.width.toInt < 2 ^ 16 := by omega
  have heightSmall : monitor.size.height.toInt < 2 ^ 16 := by omega
  exact ⟨monitor, monitorAt, toNat_toUInt16_of_lt widthNonneg widthSmall,
    toNat_toUInt16_of_lt heightNonneg heightSmall⟩

theorem mapped_monitorOrigin (accepted : AcceptedLayout layout)
    (hullEq : Box.bounding (layout.map DisplayMonitor.box) = hull)
    (surfaceCalls : SurfaceCalls firstId (surfaceOutputs layout frame) calls)
    (each : perOutput frame = true) (index : Nat) (mapping : MapSurfaceToOutputPdu)
    (found : (mapsOf calls)[index]? = some mapping) :
    ∃ monitor, layout[index]? = some monitor ∧
      (mapping.outputOriginX.toNat : Int) = monitor.position.x.toInt - hull.left ∧
      (mapping.outputOriginY.toNat : Int) = monitor.position.y.toInt - hull.top := by
  obtain ⟨_, _, maps⟩ := surfaceCalls
  obtain ⟨output, outputAt, rfl⟩ := maps index mapping found
  obtain ⟨monitor, monitorAt, rfl⟩ := surfaceOutputs_of_perOutput each index outputAt
  exact ⟨monitor, monitorAt, origin_eq accepted hullEq (List.mem_of_getElem? monitorAt)⟩

theorem region_monitor (accepted : AcceptedLayout layout)
    (hullEq : Box.bounding (layout.map DisplayMonitor.box) = hull)
    (surfaceCalls : SurfaceCalls firstId (surfaceOutputs layout frame) calls)
    (each : perOutput frame = true) (index : Nat) (create : CreateSurfacePdu)
    (mapping : MapSurfaceToOutputPdu) (created : (createsOf calls)[index]? = some create)
    (mapped : (mapsOf calls)[index]? = some mapping) :
    ∃ monitor, layout[index]? = some monitor ∧
      ((surfaceBox create mapping).left = monitor.box.left - hull.left ∧
        (surfaceBox create mapping).right = monitor.box.right - hull.left) ∧
      ((surfaceBox create mapping).top = monitor.box.top - hull.top ∧
        (surfaceBox create mapping).bottom = monitor.box.bottom - hull.top) := by
  obtain ⟨monitor, monitorAt, width, height⟩ :=
    created_monitorSize accepted surfaceCalls each index create created
  obtain ⟨same, sameAt, originX, originY⟩ :=
    mapped_monitorOrigin accepted hullEq surfaceCalls each index mapping mapped
  obtain rfl := Option.some.inj (monitorAt.symm.trans sameAt)
  exact ⟨monitor, monitorAt,
    surfaceBox_eq accepted (List.mem_of_getElem? monitorAt) width height originX originY⟩

theorem whole_createdSize (accepted : AcceptedLayout layout)
    (hullEq : Box.bounding (layout.map DisplayMonitor.box) = hull)
    (surfaceCalls : SurfaceCalls firstId (surfaceOutputs layout frame) calls)
    (whole : perOutput frame = false) {create : CreateSurfacePdu}
    (member : create ∈ createsOf calls) :
    (create.width.toNat : Int) = hull.width ∧ (create.height.toNat : Int) = hull.height := by
  obtain ⟨_, creates, _⟩ := surfaceCalls
  obtain ⟨⟨wide, narrow⟩, ⟨high, low⟩⟩ := hull_extent accepted hullEq
  obtain ⟨widthEq, heightEq⟩ := (desktopGeometry_represents accepted hullEq).size_eq
    (by omega) (by omega)
  obtain ⟨index, inside, found⟩ := List.mem_iff_getElem.mp member
  obtain ⟨output, outputAt, rfl⟩ := creates index create (by rw [← found]; simp)
  obtain rfl := surfaceOutputs_of_whole whole outputAt
  have widthNonneg : 0 ≤ (desktopGeometry layout).size.width.toInt := by omega
  have heightNonneg : 0 ≤ (desktopGeometry layout).size.height.toInt := by omega
  have widthSmall : (desktopGeometry layout).size.width.toInt < 2 ^ 16 := by omega
  have heightSmall : (desktopGeometry layout).size.height.toInt < 2 ^ 16 := by omega
  rw [← widthEq, ← heightEq]
  exact ⟨toNat_toUInt16_of_lt widthNonneg widthSmall,
    toNat_toUInt16_of_lt heightNonneg heightSmall⟩

/-- Monitors at different indexes of an accepted layout do not overlap. -/
theorem apart_of_ne (accepted : AcceptedLayout layout) {first second : Nat}
    (different : first ≠ second) {monitor other : DisplayMonitor}
    (monitorAt : layout[first]? = some monitor) (otherAt : layout[second]? = some other) :
    ¬Box.Overlap monitor.box other.box := by
  obtain ⟨firstInside, rfl⟩ := List.getElem?_eq_some_iff.mp monitorAt
  obtain ⟨secondInside, rfl⟩ := List.getElem?_eq_some_iff.mp otherAt
  have pairwise := List.pairwise_iff_getElem.mp accepted.disjoint
  rcases Nat.lt_or_gt_of_ne different with before | after
  · exact pairwise first second firstInside secondInside before
  · intro overlap
    exact pairwise second first secondInside firstInside after overlap.symm

theorem wellFormedSurfaces (accepted : AcceptedLayout layout)
    (hullEq : Box.bounding (layout.map DisplayMonitor.box) = hull)
    (surfaceCalls : SurfaceCalls firstId (surfaceOutputs layout frame) calls) :
    WellFormedSurfaces layout hull frame calls := by
  have regions := region_monitor accepted hullEq surfaceCalls
  refine ⟨?_, ?_, ?_, created_monitorSize accepted surfaceCalls,
    mapped_monitorOrigin accepted hullEq surfaceCalls, ?_, ?_⟩
  · intro index create mapping created mapped
    obtain ⟨_, creates, maps⟩ := surfaceCalls
    obtain ⟨_, _, rfl⟩ := creates index create created
    obtain ⟨_, _, rfl⟩ := maps index mapping mapped
    rfl
  · intro whole create member
    exact whole_createdSize accepted hullEq surfaceCalls whole member
  · intro whole mapping member
    obtain ⟨_, _, maps⟩ := surfaceCalls
    obtain ⟨index, inside, found⟩ := List.mem_iff_getElem.mp member
    obtain ⟨output, outputAt, rfl⟩ := maps index mapping (by rw [← found]; simp)
    obtain rfl := surfaceOutputs_of_whole whole outputAt
    exact ⟨rfl, rfl⟩
  · intro each index create mapping created mapped
    obtain ⟨monitor, monitorAt, ⟨_, right⟩, ⟨_, bottom⟩⟩ :=
      regions each index create mapping created mapped
    obtain ⟨⟨_, boxRight⟩, ⟨_, boxBottom⟩⟩ := (Box.le_iff_edges monitor.box hull).mp
      (Box.le_bounding (List.mem_map_of_mem (f := DisplayMonitor.box)
        (List.mem_of_getElem? monitorAt)) hullEq)
    rw [right, bottom]
    exact ⟨Int.sub_le_sub_right boxRight _, Int.sub_le_sub_right boxBottom _⟩
  · intro each first second different create mapping otherCreate otherMapping created mapped
      otherCreated otherMapped overlap
    obtain ⟨monitor, monitorAt, ⟨left1, right1⟩, ⟨top1, bottom1⟩⟩ :=
      regions each first create mapping created mapped
    obtain ⟨other, otherAt, ⟨left2, right2⟩, ⟨top2, bottom2⟩⟩ :=
      regions each second otherCreate otherMapping otherCreated otherMapped
    apply apart_of_ne accepted different monitorAt otherAt
    unfold Box.Overlap at overlap ⊢
    omega

end Surfaces

/-! ### The topology of an accepted layout -/

/-- No monitor of several fills the desktop: it would contain another one. -/
theorem monitor_smaller {layout : DisplayMonitorList} (accepted : AcceptedLayout layout)
    (several : 2 ≤ layout.length) {monitor : DisplayMonitor} (member : monitor ∈ layout) :
    monitor.size ≠ (desktopGeometry layout).size := by
  intro same
  obtain ⟨hull, hullEq⟩ := hull_exists accepted
  obtain ⟨⟨wide, narrow⟩, ⟨high, low⟩⟩ := hull_extent accepted hullEq
  obtain ⟨widthEq, heightEq⟩ := (desktopGeometry_represents accepted hullEq).size_eq
    (by omega) (by omega)
  have inside (other : DisplayMonitor) (otherMember : other ∈ layout) : other.box ≤ hull :=
    Box.le_bounding (List.mem_map_of_mem (f := DisplayMonitor.box) otherMember) hullEq
  have fills : monitor.box = hull := by
    obtain ⟨rightEq, bottomEq⟩ := box_edges accepted member
    have leftEq : monitor.box.left = monitor.position.x.toInt := rfl
    have topEq : monitor.box.top = monitor.position.y.toInt := rfl
    apply Box.eq_of_le_of_extent (inside monitor member)
    · rw [← widthEq, ← same, Box.width, rightEq, leftEq]
      omega
    · rw [← heightEq, ← same, Box.height, bottomEq, topEq]
      omega
  have contains (other : DisplayMonitor) (otherMember : other ∈ layout) :
      Box.Overlap other.box monitor.box := by
    obtain ⟨rightEq, bottomEq⟩ := box_edges accepted otherMember
    obtain ⟨⟨otherWide, _⟩, ⟨otherHigh, _⟩⟩ := accepted.sizes other otherMember
    have leftEq : other.box.left = other.position.x.toInt := rfl
    have topEq : other.box.top = other.position.y.toInt := rfl
    rw [fills]
    exact Box.overlap_of_le (inside other otherMember) (by omega) (by omega)
  obtain ⟨index, position, rfl⟩ := List.mem_iff_getElem.mp member
  have apart := List.pairwise_iff_getElem.mp accepted.disjoint
  rcases Nat.eq_zero_or_pos index with rfl | positive
  · exact apart 0 1 position (by omega) (by omega)
      (contains _ (List.getElem_mem (by omega))).symm
  · exact apart 0 index (by omega) position positive
      (contains _ (List.getElem_mem (by omega)))

/-- What the reset of a frame publishes for an accepted layout, whichever of its
calls fail: one well-formed `ResetGraphics`, and well-formed surfaces.  It succeeds
if and only if the channel accepts its calls, and then no surface is missing. -/
theorem performReset_wellFormed (pdu : DisplayControl.MonitorLayoutPdu)
    (destination layout : DisplayMonitorList)
    (accepted : DisplayControl.decodeMonitorLayout pdu (some destination) = .ok layout)
    (channel : Channel) (frame : VideoFrame) (d : Private)
    (current : d.monitorLayout = layout)
    (passes : matchesLayout (resetLayout d.monitorLayout frame) frame = true) :
    ∃ hull : Box Int, Box.bounding (layout.map DisplayMonitor.box) = hull ∧
      (∃ emitted, (performReset channel frame d).2.calls = d.calls ++ emitted ∧
        (∃ reset, resetsOf emitted = [reset] ∧ WellFormedReset layout hull reset) ∧
        WellFormedSurfaces layout hull frame emitted ∧
        ((performReset channel frame d).1 = true ↔ ∀ call ∈ emitted, call.accepted = true) ∧
        ((performReset channel frame d).1 = true →
          (createsOf emitted).length = (surfaceOutputs layout frame).length ∧
            (mapsOf emitted).length = (surfaceOutputs layout frame).length)) ∧
      (2 ≤ layout.length →
        ∀ monitor ∈ layout, monitor.size ≠ (desktopGeometry layout).size) := by
  have facts := DisplayControl.acceptedLayout_of_decode accepted
  obtain ⟨hull, hullEq⟩ := hull_exists facts
  have nonempty : layout.isEmpty = false := List.isEmpty_eq_false_iff.mpr facts.nonempty
  have chosen : resetLayout d.monitorLayout frame = layout := by
    rw [current, resetLayout, nonempty]
    rfl
  have published : performReset channel frame d = publishLayout channel layout frame d := by
    rw [chosen] at passes
    simp only [performReset, performResetTo, chosen, passes, if_true]
  refine ⟨hull, hullEq, ?_, fun several monitor member => monitor_smaller facts several member⟩
  obtain ⟨emitted, callsEq, resets, ⟨firstId, loop, surfaceCalls, creates, maps⟩, complete⟩ :=
    publishLayout_calls channel layout frame d
  obtain ⟨sameId, wholeSize, wholeOrigin, monitorSize, monitorOrigin, inside, disjoint⟩ :=
    wellFormedSurfaces facts hullEq surfaceCalls
  rw [published]
  refine ⟨emitted, callsEq, ⟨_, resets, wellFormedReset facts hullEq⟩, ?_,
    publishLayout_succeeds_iff channel layout frame callsEq, complete⟩
  rw [← creates] at wholeSize monitorSize
  rw [← maps] at wholeOrigin monitorOrigin
  rw [← creates, ← maps] at sameId inside disjoint
  exact ⟨sameId, wholeSize, wholeOrigin, monitorSize, monitorOrigin, inside, disjoint⟩

def leftFrame : VideoFrame :=
  { size := { width := 1280, height := 1024 }
    outputIndex := 1
    data := [0] }

/-- On a channel that accepts every call, both monitors get their surface. -/
theorem performReset_wellFormed_primaryWithLeft :
    let layout := DisplayControl.primaryWithLeft.map DisplayControl.MonitorLayout.decoded
    let d : Private := { monitorLayout := layout }
    ∃ hull : Box Int, Box.bounding (layout.map DisplayMonitor.box) = hull ∧
      (∃ emitted, (performReset reliableChannel leftFrame d).2.calls = d.calls ++ emitted ∧
        (∃ reset, resetsOf emitted = [reset] ∧ WellFormedReset layout hull reset) ∧
        WellFormedSurfaces layout hull leftFrame emitted ∧
        (performReset reliableChannel leftFrame d).1 = true ∧
        (createsOf emitted).length = 2 ∧ (mapsOf emitted).length = 2) ∧
      ∀ monitor ∈ layout, monitor.size ≠ (desktopGeometry layout).size := by
  intro layout d
  obtain ⟨hull, hullEq, ⟨emitted, callsEq, resets, surfaces, succeeds, complete⟩, smaller⟩ :=
    performReset_wellFormed (.ofRecords DisplayControl.primaryWithLeft (by decide)) [] layout
      (by decide) reliableChannel leftFrame d rfl (by decide)
  have allAccepted : ∀ call ∈ (performReset reliableChannel leftFrame d).2.calls,
      call.accepted = true := by
    decide
  have completed := succeeds.mpr fun call member =>
    allAccepted call (callsEq ▸ List.mem_append_right _ member)
  obtain ⟨created, mapped⟩ := complete completed
  exact ⟨hull, hullEq, ⟨emitted, callsEq, resets, surfaces, completed, created, mapped⟩,
    smaller (by decide)⟩

end VideoStream

end KRdp
