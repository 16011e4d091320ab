/-
The wire monitor layout of the Display Control channel and its validator.

`decodeMonitorLayout` reads the records in order.  Each record is checked on
its own and against the records before it, then the whole list is checked for
its primary monitor, its extent and its connectedness.  The first failing check
decides the error text.

The running edges are 64-bit in the source and stay within 33 bits, so they are
unbounded integers here; the rectangles are `QRect` values with 32-bit edges.
-/

import KRdp.Qt.Geometry

namespace KRdp

/-- A monitor of a layout, in the order that serves as output index. -/
structure DisplayMonitor where
  position : QPoint
  size : QSize
  physicalSize : QSize := {}
  orientation : UInt32 := 0
  desktopScaleFactor : UInt32 := 100
  deviceScaleFactor : UInt32 := 100
  primary : Bool := false
  deriving DecidableEq, Repr

abbrev DisplayMonitorList := List DisplayMonitor

namespace DisplayControl

def maximumMonitorCount : UInt32 := 16
def maximumDesktopExtent : Int := 32766

def displayControlMonitorLayoutSize : UInt32 := 40
def displayControlMonitorPrimary : UInt32 := 0x00000001
def displayControlMinMonitorWidth : UInt32 := 200
def displayControlMaxMonitorWidth : UInt32 := 8192
def displayControlMinMonitorHeight : UInt32 := 200
def displayControlMaxMonitorHeight : UInt32 := 8192
def displayControlMinPhysicalMonitorWidth : UInt32 := 10
def displayControlMaxPhysicalMonitorWidth : UInt32 := 10000
def displayControlMinPhysicalMonitorHeight : UInt32 := 10
def displayControlMaxPhysicalMonitorHeight : UInt32 := 10000

/-- One record of the wire layout, `DISPLAY_CONTROL_MONITOR_LAYOUT`. -/
structure MonitorLayout where
  flags : UInt32
  left : Int32
  top : Int32
  width : UInt32
  height : UInt32
  physicalWidth : UInt32
  physicalHeight : UInt32
  orientation : UInt32
  desktopScaleFactor : UInt32
  deviceScaleFactor : UInt32
  deriving DecidableEq, Repr

/-- `DISPLAY_CONTROL_MONITOR_LAYOUT_PDU`.  The array pointer may be null;
otherwise the announced number of records can be read from it. -/
structure MonitorLayoutPdu where
  monitorLayoutSize : UInt32
  numMonitors : UInt32
  monitors : Option (List MonitorLayout)
  readable : ∀ records, monitors = some records → records.length = numMonitors.toNat

def MonitorLayoutPdu.ofRecords (records : List MonitorLayout) (fits : records.length < 2 ^ 32) :
    MonitorLayoutPdu where
  monitorLayoutSize := displayControlMonitorLayoutSize
  numMonitors := UInt32.ofNat records.length
  monitors := some records
  readable := by
    rintro _ ⟨⟩
    rw [UInt32.toNat_ofNat', Nat.mod_eq_of_lt fits]

namespace MonitorLayout

def unsupportedSize (wire : MonitorLayout) : Bool :=
  wire.width < displayControlMinMonitorWidth || wire.width > displayControlMaxMonitorWidth
    || wire.width % 2 != 0
    || wire.height < displayControlMinMonitorHeight
    || wire.height > displayControlMaxMonitorHeight

def primary (wire : MonitorLayout) : Bool :=
  wire.flags &&& displayControlMonitorPrimary != 0

def position (wire : MonitorLayout) : QPoint := { x := wire.left, y := wire.top }

def size (wire : MonitorLayout) : QSize :=
  { width := wire.width.toInt32, height := wire.height.toInt32 }

def geometry (wire : MonitorLayout) : QRect := QRect.ofPositionSize wire.position wire.size

def validPhysicalSize (wire : MonitorLayout) : Bool :=
  wire.physicalWidth >= displayControlMinPhysicalMonitorWidth
    && wire.physicalWidth <= displayControlMaxPhysicalMonitorWidth
    && wire.physicalHeight >= displayControlMinPhysicalMonitorHeight
    && wire.physicalHeight <= displayControlMaxPhysicalMonitorHeight

def validOrientation (wire : MonitorLayout) : Bool :=
  wire.orientation == 0 || wire.orientation == 90 || wire.orientation == 180
    || wire.orientation == 270

def validScale (wire : MonitorLayout) : Bool :=
  wire.desktopScaleFactor >= 100 && wire.desktopScaleFactor <= 500
    && (wire.deviceScaleFactor == 100 || wire.deviceScaleFactor == 140
      || wire.deviceScaleFactor == 180)

/-- The list entry for a record; each optional group keeps its values or falls
back to its defaults as a whole. -/
def decoded (wire : MonitorLayout) : DisplayMonitor :=
  { position := wire.position
    size := wire.size
    physicalSize :=
      if wire.validPhysicalSize then
        { width := wire.physicalWidth.toInt32, height := wire.physicalHeight.toInt32 }
      else {}
    orientation := if wire.validOrientation then wire.orientation else 0
    desktopScaleFactor := if wire.validScale then wire.desktopScaleFactor else 100
    deviceScaleFactor := if wire.validScale then wire.deviceScaleFactor else 100
    primary := wire.primary }

end MonitorLayout

/-- Edges in 64-bit arithmetic; the rectangles share an edge or a corner. -/
def adjacent (first second : DisplayMonitor) : Bool :=
  let firstLeft := first.position.x.toInt
  let firstTop := first.position.y.toInt
  let firstRight := firstLeft + first.size.width.toInt
  let firstBottom := firstTop + first.size.height.toInt
  let secondLeft := second.position.x.toInt
  let secondTop := second.position.y.toInt
  let secondRight := secondLeft + second.size.width.toInt
  let secondBottom := secondTop + second.size.height.toInt
  let verticalRangesTouch := max firstTop secondTop ≤ min firstBottom secondBottom
  let horizontalRangesTouch := max firstLeft secondLeft ≤ min firstRight secondRight
  ((firstRight == secondLeft || secondRight == firstLeft) && verticalRangesTouch)
    || ((firstBottom == secondTop || secondBottom == firstTop) && horizontalRangesTouch)

structure DecodeState where
  decoded : DisplayMonitorList := []
  primaryCount : Nat := 0
  minimumX : Int := 2 ^ 63 - 1
  minimumY : Int := 2 ^ 63 - 1
  maximumX : Int := -2 ^ 63
  maximumY : Int := -2 ^ 63
  deriving DecidableEq, Repr

def DecodeState.advance (state : DecodeState) (wire : MonitorLayout) : DecodeState :=
  { decoded := state.decoded ++ [wire.decoded]
    primaryCount := state.primaryCount + (if wire.primary then 1 else 0)
    minimumX := min state.minimumX wire.left.toInt
    minimumY := min state.minimumY wire.top.toInt
    maximumX := max state.maximumX (wire.left.toInt + wire.width.toNat)
    maximumY := max state.maximumY (wire.top.toInt + wire.height.toNat) }

def overlapsDecoded (wire : MonitorLayout) (decoded : DisplayMonitorList) : Bool :=
  decoded.any fun other =>
    wire.geometry.intersects (QRect.ofPositionSize other.position other.size)

def decodeRecord (index : Nat) (wire : MonitorLayout) (state : DecodeState) :
    Except String DecodeState :=
  if wire.unsupportedSize then
    .error s!"Monitor {index} has an unsupported pixel size"
  else if wire.primary && (wire.left != 0 || wire.top != 0) then
    .error "The primary monitor must be at 0,0"
  else if overlapsDecoded wire state.decoded then
    .error s!"Monitor {index} overlaps another monitor"
  else
    .ok (state.advance wire)

def decodeRecords : Nat → List MonitorLayout → DecodeState → Except String DecodeState
  | _, [], state => .ok state
  | index, wire :: rest, state =>
      match decodeRecord index wire state with
      | .error message => .error message
      | .ok next => decodeRecords (index + 1) rest next

def hasAdjacentMonitor (decoded : DisplayMonitorList) (index : Nat)
    (monitor : DisplayMonitor) : Bool :=
  decoded.zipIdx.any fun other => index != other.2 && adjacent monitor other.1

def isolatedMonitor? (decoded : DisplayMonitorList) : Option Nat :=
  (decoded.zipIdx.find? fun entry => !hasAdjacentMonitor decoded entry.2 entry.1).map (·.2)

def checkLayout (state : DecodeState) : Except String DisplayMonitorList :=
  if state.primaryCount != 1 then
    .error "Exactly one monitor must be primary"
  else if state.maximumX - state.minimumX > maximumDesktopExtent
      || state.maximumY - state.minimumY > maximumDesktopExtent then
    .error s!"The combined desktop is larger than {maximumDesktopExtent} pixels"
  else if state.decoded.length > 1 then
    match isolatedMonitor? state.decoded with
    | some index => .error s!"Monitor {index} is not adjacent to another monitor"
    | none => .ok state.decoded
  else
    .ok state.decoded

/-- Convert and validate a wire monitor layout.  The destination may be a null
pointer; it is cleared before the first check, so after an error it is empty. -/
def decodeMonitorLayout (pdu : MonitorLayoutPdu) (monitors : Option DisplayMonitorList) :
    Except String DisplayMonitorList :=
  match monitors, pdu.monitors with
  | none, _ => .error "No destination was provided"
  | some _, records =>
      if pdu.monitorLayoutSize != displayControlMonitorLayoutSize then
        .error "Unsupported monitor record size"
      else if pdu.numMonitors == 0 || pdu.numMonitors > maximumMonitorCount then
        .error s!"Monitor count must be between 1 and {maximumMonitorCount}"
      else
        match records with
        | none => .error s!"Monitor count must be between 1 and {maximumMonitorCount}"
        | some records =>
            match decodeRecords 0 records {} with
            | .error message => .error message
            | .ok state => checkLayout state

end DisplayControl

end KRdp
