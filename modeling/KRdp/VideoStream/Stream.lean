/-
The graphics pipeline of a connection.

The calls that the stream makes on its channel and on the network measurements
are logged in order, each channel call with the status it returned.  The
statuses and the clock come from an arbitrary `Channel`, indexed by the number
of calls made so far, so every assignment of success and failure to the calls
is covered.

`performReset` works on a copy of the monitor layout that it takes first, and
`sendFrame` is cut at the accesses to the shared `pendingReset` flag.  The
pieces carry their own names so that an interleaved execution can run them one
at a time.
-/

import KRdp.DisplayControl.Decode
import KRdp.RdpConnection.State

namespace KRdp

/-- A compressed frame; a negative output index denotes the whole workspace. -/
structure VideoFrame where
  size : QSize
  outputIndex : Int32 := -1
  data : List UInt8
  deriving DecidableEq, Repr

namespace VideoStream

def channelRcOk : UInt32 := 0
def monitorPrimary : UInt32 := 0x00000001
def gfxPixelFormatXrgb8888 : UInt8 := 0x20
def rdpgfxCodecidAvc420 : UInt32 := 0x000B
def pixelFormatBgrx32 : UInt32 := 0x20040888

/-! ### Messages of the graphics channel -/

/-- `MONITOR_DEF` with inclusive corners. -/
structure MonitorDef where
  left : Int32
  top : Int32
  right : Int32
  bottom : Int32
  flags : UInt32
  deriving DecidableEq, Repr

/-- The monitor count is the length of the array. -/
structure ResetGraphicsPdu where
  width : UInt32
  height : UInt32
  monitorDefArray : List MonitorDef
  deriving DecidableEq, Repr

structure CreateSurfacePdu where
  surfaceId : UInt16
  width : UInt16
  height : UInt16
  pixelFormat : UInt8
  deriving DecidableEq, Repr

structure MapSurfaceToOutputPdu where
  surfaceId : UInt16
  outputOriginX : UInt32
  outputOriginY : UInt32
  deriving DecidableEq, Repr

structure Rectangle16 where
  left : UInt16
  top : UInt16
  right : UInt16
  bottom : UInt16
  deriving DecidableEq, Repr

structure Avc420BitmapStream where
  data : List UInt8
  regionRects : List Rectangle16
  qp : UInt8
  p : UInt8
  qualityVal : UInt8
  deriving DecidableEq, Repr

structure SurfaceCommand where
  surfaceId : UInt16
  codecId : UInt32
  format : UInt32
  left : UInt32
  top : UInt32
  right : UInt32
  bottom : UInt32
  length : UInt32
  extra : Avc420BitmapStream
  deriving DecidableEq, Repr

inductive GfxPdu where
  | deleteSurface (surfaceId : UInt16)
  | resetGraphics (pdu : ResetGraphicsPdu)
  | createSurface (pdu : CreateSurfacePdu)
  | mapSurfaceToOutput (pdu : MapSurfaceToOutputPdu)
  | startFrame (timestamp frameId : UInt32)
  | surfaceCommand (command : SurfaceCommand)
  | endFrame (frameId : UInt32)
  deriving DecidableEq, Repr

/-- A call the stream makes on another component. -/
inductive Call where
  | gfx (pdu : GfxPdu) (status : UInt32)
  | startBandwidthMeasure
  | stopBandwidthMeasure
  deriving DecidableEq, Repr

structure QTime where
  hour : UInt32
  minute : UInt32
  second : UInt32
  msec : UInt32
  deriving DecidableEq, Repr

/-- The environment of the stream, by number of calls made before. -/
structure Channel where
  status : Nat → UInt32
  currentTime : Nat → QTime

def reliableChannel : Channel :=
  { status := fun _ => channelRcOk
    currentTime := fun _ => { hour := 0, minute := 0, second := 0, msec := 0 } }

/-! ### The private data -/

structure Surface where
  id : UInt16 := 0
  size : QSize
  deriving DecidableEq, Repr

structure Private where
  gfxContext : Bool := false
  frameId : UInt32 := 0
  nextSurfaceId : UInt16 := 1
  surfaces : List Surface := []
  pendingReset : Bool := true
  enabled : Bool := false
  capsConfirmed : Bool := false
  frameQueue : List VideoFrame := []
  monitorLayout : DisplayMonitorList := []
  pendingFrames : List UInt32 := []
  encodedFrames : Int32 := 0
  calls : List Call := []
  deriving DecidableEq, Repr

def send (channel : Channel) (pdu : GfxPdu) (d : Private) : UInt32 × Private :=
  let status := channel.status d.calls.length
  (status, { d with calls := d.calls ++ [.gfx pdu status] })

@[simp] theorem send_calls (channel : Channel) (pdu : GfxPdu) (d : Private) :
    (send channel pdu d).2.calls = d.calls ++ [.gfx pdu (send channel pdu d).1] := rfl

@[simp] theorem send_surfaces (channel : Channel) (pdu : GfxPdu) (d : Private) :
    (send channel pdu d).2.surfaces = d.surfaces := rfl

@[simp] theorem send_nextSurfaceId (channel : Channel) (pdu : GfxPdu) (d : Private) :
    (send channel pdu d).2.nextSurfaceId = d.nextSurfaceId := rfl

def note (call : Call) (d : Private) : Private := { d with calls := d.calls ++ [call] }

/-! ### Queue, layout and flags -/

def queueFrame (session : RdpConnection.State) (frame : VideoFrame) (d : Private) : Private :=
  if session != .streaming || !d.enabled then d
  else { d with frameQueue := d.frameQueue ++ [frame] }

def reset (d : Private) : Private := { d with pendingReset := true }

def storeMonitorLayout (monitors : DisplayMonitorList) (d : Private) : Private :=
  { d with monitorLayout := monitors }

def clearFrameQueue (d : Private) : Private := { d with frameQueue := [] }

/-- An unchanged layout returns before the queue is touched. -/
def setMonitorLayout (monitors : DisplayMonitorList) (d : Private) : Private :=
  if d.monitorLayout == monitors then d
  else reset (clearFrameQueue (storeMonitorLayout monitors d))

def setEnabled (enabled : Bool) (d : Private) : Private :=
  if d.enabled == enabled then d else { d with enabled := enabled }

/-! ### Resetting the graphics -/

/-- The copied layout, or a single monitor of the frame's size. -/
def resetLayout (layout : DisplayMonitorList) (frame : VideoFrame) : DisplayMonitorList :=
  if layout.isEmpty then
    [{ position := QPoint.origin, size := frame.size, primary := true }]
  else layout

def desktopGeometry (layout : DisplayMonitorList) : QRect :=
  layout.foldl (fun geometry monitor =>
    geometry.united (QRect.ofPositionSize monitor.position monitor.size)) {}

def perOutput (frame : VideoFrame) : Bool := frame.outputIndex >= 0

def matchesLayout (layout : DisplayMonitorList) (frame : VideoFrame) : Bool :=
  if perOutput frame then
    match layout[frame.outputIndex.toNatClampNeg]? with
    | some monitor => monitor.size == frame.size
    | none => false
  else (desktopGeometry layout).size == frame.size

def monitorDefinition (monitor : DisplayMonitor) : MonitorDef :=
  { left := monitor.position.x
    top := monitor.position.y
    right := monitor.position.x + monitor.size.width - 1
    bottom := monitor.position.y + monitor.size.height - 1
    flags := if monitor.primary then monitorPrimary else 0 }

def resetGraphicsPdu (layout : DisplayMonitorList) : ResetGraphicsPdu :=
  { width := (desktopGeometry layout).width.toUInt32
    height := (desktopGeometry layout).height.toUInt32
    monitorDefArray := layout.map monitorDefinition }

/-- Size and output position of each surface: one for each monitor, or one for
the whole desktop. -/
def surfaceOutputs (layout : DisplayMonitorList) (frame : VideoFrame) :
    List (QSize × QPoint) :=
  if perOutput frame then
    layout.map fun monitor =>
      (monitor.size, monitor.position - (desktopGeometry layout).topLeft)
  else [((desktopGeometry layout).size, QPoint.origin)]

def createSurfacePdu (surfaceId : UInt16) (surfaceSize : QSize) : CreateSurfacePdu :=
  { surfaceId := surfaceId
    width := surfaceSize.width.toUInt32.toUInt16
    height := surfaceSize.height.toUInt32.toUInt16
    pixelFormat := gfxPixelFormatXrgb8888 }

def mapSurfaceToOutputPdu (surfaceId : UInt16) (outputPosition : QPoint) :
    MapSurfaceToOutputPdu :=
  { surfaceId := surfaceId
    outputOriginX := outputPosition.x.toUInt32
    outputOriginY := outputPosition.y.toUInt32 }

/-- Statuses of the deletions are not looked at. -/
def deleteSurfaces (channel : Channel) (d : Private) : Private :=
  let deleted := d.surfaces.foldl
    (fun d surface => (send channel (.deleteSurface surface.id) d).2) d
  { deleted with surfaces := [] }

def takeSurfaceId (d : Private) : Private := { d with nextSurfaceId := d.nextSurfaceId + 1 }

def listSurface (surface : Surface) (d : Private) : Private :=
  { d with surfaces := d.surfaces ++ [surface] }

@[simp] theorem takeSurfaceId_calls (d : Private) : (takeSurfaceId d).calls = d.calls := rfl

@[simp] theorem takeSurfaceId_surfaces (d : Private) :
    (takeSurfaceId d).surfaces = d.surfaces := rfl

@[simp] theorem takeSurfaceId_nextSurfaceId (d : Private) :
    (takeSurfaceId d).nextSurfaceId = d.nextSurfaceId + 1 := rfl

@[simp] theorem listSurface_calls (surface : Surface) (d : Private) :
    (listSurface surface d).calls = d.calls := rfl

@[simp] theorem listSurface_surfaces (surface : Surface) (d : Private) :
    (listSurface surface d).surfaces = d.surfaces ++ [surface] := rfl

@[simp] theorem listSurface_nextSurfaceId (surface : Surface) (d : Private) :
    (listSurface surface d).nextSurfaceId = d.nextSurfaceId := rfl

/-- The surface loop of a reset; it stops at the first call that fails, after
the surface list has taken in every created surface. -/
def createSurfaces (channel : Channel) : List (QSize × QPoint) → Private → Bool × Private
  | [], d => (true, d)
  | (surfaceSize, outputPosition) :: rest, d =>
      let surfaceId := d.nextSurfaceId
      let created := send channel (.createSurface (createSurfacePdu surfaceId surfaceSize))
        (takeSurfaceId d)
      if created.1 != channelRcOk then (false, created.2)
      else
        let mapped := send channel
          (.mapSurfaceToOutput (mapSurfaceToOutputPdu surfaceId outputPosition))
          (listSurface { id := surfaceId, size := surfaceSize } created.2)
        if mapped.1 != channelRcOk then (false, mapped.2)
        else createSurfaces channel rest mapped.2

def publishLayout (channel : Channel) (layout : DisplayMonitorList) (frame : VideoFrame)
    (d : Private) : Bool × Private :=
  let published := send channel (.resetGraphics (resetGraphicsPdu layout))
    (deleteSurfaces channel d)
  if published.1 != channelRcOk then (false, published.2)
  else createSurfaces channel (surfaceOutputs layout frame) published.2

/-- `performReset` after it copied the monitor layout. -/
def performResetTo (channel : Channel) (copied : DisplayMonitorList) (frame : VideoFrame)
    (d : Private) : Bool × Private :=
  let layout := resetLayout copied frame
  if matchesLayout layout frame then publishLayout channel layout frame d else (false, d)

def performReset (channel : Channel) (frame : VideoFrame) (d : Private) : Bool × Private :=
  performResetTo channel d.monitorLayout frame d

/-! ### Sending frames -/

def surfaceIndex (frame : VideoFrame) : Nat :=
  if frame.outputIndex >= 0 then frame.outputIndex.toNatClampNeg else 0

/-- The surface a frame is drawn on, if one of the frame's size is listed. -/
def surfaceFor (d : Private) (frame : VideoFrame) : Option Surface :=
  (d.surfaces[surfaceIndex frame]?).filter fun surface => surface.size == frame.size

def timestamp (now : QTime) : UInt32 :=
  now.hour <<< 22 ||| now.minute <<< 16 ||| now.second <<< 10 ||| now.msec

def surfaceCommandFor (surface : Surface) (frame : VideoFrame) : SurfaceCommand :=
  { surfaceId := surface.id
    codecId := rdpgfxCodecidAvc420
    format := pixelFormatBgrx32
    left := 0
    top := 0
    right := frame.size.width.toUInt32
    bottom := frame.size.height.toUInt32
    length := 0
    extra :=
      { data := frame.data
        regionRects :=
          [{ left := 0
             top := 0
             right := frame.size.width.toUInt32.toUInt16
             bottom := frame.size.height.toUInt32.toUInt16 }]
        qp := 22
        p := 0
        qualityVal := 100 } }

def emitFrame (channel : Channel) (surface : Surface) (frame : VideoFrame) (d : Private) :
    Private :=
  let measured := note .startBandwidthMeasure d
  let frameId := measured.frameId
  let counted :=
    { measured with
      frameId := measured.frameId + 1
      encodedFrames := measured.encodedFrames + 1
      pendingFrames := measured.pendingFrames.insert frameId }
  let now := channel.currentTime counted.calls.length
  let started := (send channel (.startFrame (timestamp now) frameId) counted).2
  let drawn := (send channel (.surfaceCommand (surfaceCommandFor surface frame)) started).2
  let ended := (send channel (.endFrame frameId) drawn).2
  note .stopBandwidthMeasure ended

/-- `sendFrame` from its surface check on. -/
def submitFrame (channel : Channel) (frame : VideoFrame) (d : Private) : Private :=
  match surfaceFor d frame with
  | none => d
  | some surface => emitFrame channel surface frame d

def canSend (d : Private) (frame : VideoFrame) : Bool :=
  d.gfxContext && d.capsConfirmed && frame.data.length != 0

def clearPendingReset (d : Private) : Private := { d with pendingReset := false }

def sendFrame (channel : Channel) (frame : VideoFrame) (d : Private) : Private :=
  if canSend d frame then
    if d.pendingReset then
      let outcome := performReset channel frame d
      if outcome.1 then submitFrame channel frame (clearPendingReset outcome.2)
      else outcome.2
    else submitFrame channel frame d
  else d

end VideoStream

end KRdp
