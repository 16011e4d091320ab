/-
The logical size of the captured area.

Each constructor of a screencast stream is responsible for the size of the stream,
which becomes the logical size of the session once the stream is created.  The
constructor for a virtual monitor leaves it out, and the session then drops every
event.
-/

import KRdp.Plasma.Session
import KRdp.Qt.Union
import KRdp.Session.VirtualMonitor

namespace KRdp

namespace Plasma

open Binary64 (Double)
open Input MachineInt

/-- A screen of the desktop; the compositor may have no output for it. -/
structure Screen where
  geometry : QRect
  hasOutput : Bool
  nonEmpty : geometry.NonEmpty

/-- What the compositor is asked to cast. -/
inductive CastRequest where
  | output (geometry : QRect)
  | region (x y width height : Int32) (scale : Double)
  | virtualOutput (name : List UInt16) (width height : Int32) (scale : Double)
  deriving DecidableEq, Repr

structure ScreencastingStream where
  request : CastRequest
  size : QSize := {}
  deriving DecidableEq, Repr

/-- The screens, and whether the compositor offers the screencast protocol. -/
structure Desktop where
  active : Bool
  screens : List Screen

/-- The virtual geometry of a screen is that of all screens together. -/
def Desktop.virtualGeometry (desktop : Desktop) : QRect :=
  QRect.unionOf (desktop.screens.map Screen.geometry)

def createOutputStream (desktop : Desktop) (screen : Screen) : Option ScreencastingStream :=
  if !desktop.active then none
  else if !screen.hasOutput then none
  else some { request := .output screen.geometry, size := desktop.virtualGeometry.size }

def createRegionStream (desktop : Desktop) (g : QRect) (scale : Double) :
    Option ScreencastingStream :=
  if !desktop.active then none
  else some { request := .region g.x1 g.y1 g.width g.height scale, size := g.size }

def createWorkspaceStream (desktop : Desktop) : Option ScreencastingStream :=
  match desktop.screens with
  | [] => none
  | [screen] => createOutputStream desktop screen
  | screens => createRegionStream desktop (QRect.unionOf (screens.map Screen.geometry)) (.finite 1)

def createVirtualMonitorStream (desktop : Desktop) (name : List UInt16) (resolution : QSize)
    (dpr : Double) : Option ScreencastingStream :=
  if !desktop.active then none
  else some { request := .virtualOutput name resolution.width resolution.height dpr }

/-! ### The session -/

structure PlasmaSession where
  virtualMonitor : Option VirtualMonitor := none
  request : Option ScreencastingStream := none
  size : QSize := {}
  logicalSize : QSize := {}
  lastError : String := ""

namespace PlasmaSession

def createStream (desktop : Desktop) (session : PlasmaSession) : Option ScreencastingStream :=
  match session.virtualMonitor with
  | some vm => createVirtualMonitorStream desktop vm.name vm.size vm.dpr
  | none => createWorkspaceStream desktop

def start (desktop : Desktop) (session : PlasmaSession) : PlasmaSession :=
  match session.createStream desktop with
  | none =>
      { session with
        request := none
        lastError := "KWin did not provide the requested screencast protocol" }
  | some stream => { session with request := some stream, lastError := "" }

/-- The handler of the stream's signal `created`. -/
def created (session : PlasmaSession) : PlasmaSession :=
  match session.request with
  | none => session
  | some stream => { session with logicalSize := stream.size }

def setSize (size : QSize) (session : PlasmaSession) : PlasmaSession :=
  { session with size := size }

def gate (active : Bool) (session : PlasmaSession) : Gate :=
  { active := active, size := session.size, logicalSize := session.logicalSize }

/-- The stream has been created and the encoder has reported a frame size. -/
def streaming (desktop : Desktop) (frameSize : QSize) (session : PlasmaSession) : PlasmaSession :=
  (session.start desktop).created.setSize frameSize

end PlasmaSession

/-! ### What is wanted -/

/-- The events that no session may drop. -/
def Forwardable : QInputEvent → Prop
  | .mouse .mouseMove _ _ _ => True
  | .mouse .mouseButtonPress _ _ button => (portalButton button).isSome = true
  | .mouse .mouseButtonRelease _ _ button => (portalButton button).isSome = true
  | .wheel _ _ _ => True
  | .key _ nativeScanCode _ => nativeScanCode ≠ 0

def Screen.area (screen : Screen) : Box Int := screen.geometry.box screen.nonEmpty

/-- The exact bounding box of the screens. -/
def Desktop.Captures (desktop : Desktop) (area : Box Int) : Prop :=
  Box.bounding (desktop.screens.map Screen.area) = area

/-- The logical size is not empty and, for a workspace, that of its bounding box;
and every event is forwarded. -/
structure RemoteInputWorks (desktop : Desktop) (session : PlasmaSession) : Prop where
  notEmpty : session.logicalSize.isEmpty = false
  exactSize : session.virtualMonitor = none → ∃ area, desktop.Captures area ∧
    session.logicalSize.width.toInt = area.width ∧ session.logicalSize.height.toInt = area.height
  forwards : ∀ xkb event, Forwardable event →
    ∃ call, sendEvent (session.gate true) xkb event = [call]

/-- The bounding box fits in 32 bits; several screens also start above the lowest
coordinate. -/
def WorkspaceFits (desktop : Desktop) : Prop :=
  ∃ area, desktop.Captures area ∧ area.width < 2 ^ 31 ∧ area.height < 2 ^ 31 ∧
    (1 < desktop.screens.length → -2 ^ 31 < area.left ∧ -2 ^ 31 < area.top)

/-! ### Events behind the gate -/

theorem gate_passes {session : PlasmaSession} (size : session.size.isEmpty = false)
    (logicalSize : session.logicalSize.isEmpty = false) : (session.gate true).passes = true := by
  simp [Gate.passes, PlasmaSession.gate, size, logicalSize]

theorem sendEvent_forwards {gate : Gate} (passes : gate.passes = true) (xkb : Option Xkb)
    {event : QInputEvent} (forwardable : Forwardable event) :
    ∃ call, sendEvent gate xkb event = [call] := by
  have buttons : ∀ button state, (portalButton button).isSome = true →
      ∃ call, buttonCalls button state = [call] := by
    intro button state supported
    obtain ⟨code, codeEq⟩ := Option.isSome_iff_exists.mp supported
    exact ⟨.button code state, by rw [buttonCalls, codeEq]⟩
  unfold sendEvent
  rw [passes, Bool.not_true, if_neg Bool.false_ne_true]
  match event with
  | .mouse .mouseMove _ _ _ => exact ⟨_, rfl⟩
  | .mouse .mouseButtonPress _ _ button => exact buttons button 1 forwardable
  | .mouse .mouseButtonRelease _ _ button => exact buttons button 0 forwardable
  | .wheel _ _ _ => exact ⟨_, rfl⟩
  | .key type nativeScanCode _ =>
      exact ⟨.keyboardKey nativeScanCode (keyState type), by
        simp only [keyCalls, if_pos (show nativeScanCode ≠ 0 from forwardable)]⟩

/-! ### The size of the workspace -/

theorem workspace_size {desktop : Desktop} {stream : ScreencastingStream}
    (requested : createWorkspaceStream desktop = some stream) :
    stream.size = desktop.virtualGeometry.size ∧ desktop.screens ≠ [] := by
  obtain ⟨active, screens⟩ := desktop
  match screens with
  | [] => cases requested
  | [screen] =>
      simp only [createWorkspaceStream, createOutputStream] at requested
      split at requested
      · cases requested
      · split at requested
        · cases requested
        · cases requested
          exact ⟨rfl, List.cons_ne_nil _ _⟩
  | first :: second :: rest =>
      simp only [createWorkspaceStream, createRegionStream] at requested
      split at requested
      · cases requested
      · cases requested
        exact ⟨rfl, List.cons_ne_nil _ _⟩

theorem Desktop.Captures.contains {desktop : Desktop} {area : Box Int}
    (captures : desktop.Captures area) {screen : Screen} (member : screen ∈ desktop.screens) :
    (area.left ≤ screen.area.left ∧ screen.area.right ≤ area.right) ∧
      (area.top ≤ screen.area.top ∧ screen.area.bottom ≤ area.bottom) :=
  (Box.le_iff_edges _ _).mp (Box.le_bounding (List.mem_map_of_mem member) captures)

theorem size_of_one {desktop : Desktop} {screen : Screen} (one : desktop.screens = [screen])
    (wide : screen.area.width < 2 ^ 31) (high : screen.area.height < 2 ^ 31) :
    desktop.virtualGeometry.size.width.toInt = screen.area.width ∧
      desktop.virtualGeometry.size.height.toInt = screen.area.height := by
  have geometryEq : desktop.virtualGeometry = screen.geometry := by
    rw [Desktop.virtualGeometry, one]
    exact QRect.null_united screen.geometry
  rw [geometryEq]
  exact ⟨QRect.extent_of_fits screen.nonEmpty.1 wide, QRect.extent_of_fits screen.nonEmpty.2 high⟩

/-- Screens above the lowest coordinate unite to their bounding box. -/
theorem size_of_above {desktop : Desktop} {area : Box Int} (captures : desktop.Captures area)
    (some : desktop.screens ≠ []) (left : -2 ^ 31 < area.left) (top : -2 ^ 31 < area.top)
    (wide : area.width < 2 ^ 31) (high : area.height < 2 ^ 31) :
    desktop.virtualGeometry.size.width.toInt = area.width ∧
      desktop.virtualGeometry.size.height.toInt = area.height := by
  have each : ∀ screen ∈ desktop.screens, QRect.Represents screen.geometry screen.area := by
    intro screen member
    obtain ⟨⟨leftLe, _⟩, ⟨topLe, _⟩⟩ := captures.contains member
    exact QRect.represents_box screen.nonEmpty (Int.lt_of_lt_of_le left leftLe)
      (Int.lt_of_lt_of_le top topLe)
  have represents : desktop.virtualGeometry.Represents area :=
    QRect.unionOf_represents some each captures
  exact represents.size_eq wide high

/-- Several screens that start at the lowest coordinate and end below zero have a
negative extent. -/
theorem extent_neg_of_lowest {ends : QRect → QRect.Ends} (axis : QRect.Axis ends)
    {desktop : Desktop} (several : 1 < desktop.screens.length)
    (low : ∀ screen ∈ desktop.screens, (ends screen.geometry).Low)
    (lowest : ∃ screen ∈ desktop.screens, (ends screen.geometry).Lowest) :
    ((ends desktop.virtualGeometry).2 - (ends desktop.virtualGeometry).1 + 1).toInt < 0 := by
  apply QRect.Ends.Overrun.extent_neg
  unfold Desktop.virtualGeometry
  cases screensEq : desktop.screens with
  | nil =>
      rw [screensEq] at several
      cases several
  | cons first rest =>
      rw [screensEq] at several low lowest
      rw [List.map_cons, QRect.unionOf_cons]
      apply QRect.foldl_united_of_lowest axis
      · intro alone
        rw [List.map_eq_nil_iff.mp alone] at several
        exact Nat.lt_irrefl 1 several
      · rw [← List.map_cons (f := Screen.geometry)]
        exact List.forall_mem_map.mpr low
      · rw [← List.map_cons (f := Screen.geometry)]
        obtain ⟨screen, member, isLowest⟩ := lowest
        exact ⟨screen.geometry, List.mem_map_of_mem member, isLowest⟩

theorem size_of_fits {desktop : Desktop} {area : Box Int} (captures : desktop.Captures area)
    (some : desktop.screens ≠ []) (wide : area.width < 2 ^ 31) (high : area.height < 2 ^ 31)
    (above : 1 < desktop.screens.length → -2 ^ 31 < area.left ∧ -2 ^ 31 < area.top) :
    desktop.virtualGeometry.size.width.toInt = area.width ∧
      desktop.virtualGeometry.size.height.toInt = area.height := by
  by_cases several : 1 < desktop.screens.length
  · obtain ⟨left, top⟩ := above several
    exact size_of_above captures some left top wide high
  · obtain ⟨screen, one⟩ : ∃ screen, desktop.screens = [screen] := by
      have positive := List.length_pos_iff.mpr some
      exact List.length_eq_one_iff.mp (by omega)
    have areaEq : screen.area = area := by
      unfold Desktop.Captures at captures
      rw [one] at captures
      exact WithBot.coe_injective captures
    rw [← areaEq] at wide high ⊢
    exact size_of_one one wide high

/-- Where several screens have an extent that is not negative, the lowest start of a
narrow workspace is above the lowest coordinate. -/
theorem start_above {ends : QRect → QRect.Ends} (axis : QRect.Axis ends) {desktop : Desktop}
    (several : 1 < desktop.screens.length) {start stop : Int}
    (within : ∀ screen ∈ desktop.screens,
      (ends screen.geometry).1.toInt ≤ (ends screen.geometry).2.toInt ∧
        (ends screen.geometry).2.toInt + 1 ≤ stop)
    (attained : ∃ screen ∈ desktop.screens, (ends screen.geometry).1.toInt = start)
    (narrow : stop - start < 2 ^ 31)
    (positive :
      0 ≤ ((ends desktop.virtualGeometry).2 - (ends desktop.virtualGeometry).1 + 1).toInt) :
    -2 ^ 31 < start := by
  by_contra notAbove
  obtain ⟨screen, member, startEq⟩ := attained
  have fits := fitsInt32_toInt (ends screen.geometry).1
  unfold FitsInt32 at fits
  have lowest : (ends screen.geometry).Lowest := by
    unfold QRect.Ends.Lowest
    omega
  have low : ∀ other ∈ desktop.screens, (ends other.geometry).Low := by
    intro other otherIn
    obtain ⟨ordered, stopLe⟩ := within other otherIn
    exact ⟨ordered, by omega⟩
  have negative := extent_neg_of_lowest axis several low ⟨screen, member, lowest⟩
  exact absurd positive (Int.not_le.mpr negative)

theorem left_above {desktop : Desktop} {area : Box Int} (captures : desktop.Captures area)
    (several : 1 < desktop.screens.length) (wide : area.width < 2 ^ 31)
    (positive : 0 ≤ desktop.virtualGeometry.size.width.toInt) : -2 ^ 31 < area.left := by
  apply start_above QRect.horizontalAxis several _ _ wide positive
  · intro screen member
    obtain ⟨⟨_, rightLe⟩, _⟩ := captures.contains member
    exact ⟨Int32.le_iff_toInt_le.mp screen.nonEmpty.1, rightLe⟩
  · obtain ⟨⟨⟨box, boxIn, leftEq⟩, _⟩, _⟩ := Box.bounding_edges_attained captures
    obtain ⟨screen, member, rfl⟩ := List.mem_map.mp boxIn
    exact ⟨screen, member, leftEq⟩

theorem top_above {desktop : Desktop} {area : Box Int} (captures : desktop.Captures area)
    (several : 1 < desktop.screens.length) (high : area.height < 2 ^ 31)
    (positive : 0 ≤ desktop.virtualGeometry.size.height.toInt) : -2 ^ 31 < area.top := by
  apply start_above QRect.verticalAxis several _ _ high positive
  · intro screen member
    obtain ⟨_, _, bottomLe⟩ := captures.contains member
    exact ⟨Int32.le_iff_toInt_le.mp screen.nonEmpty.2, bottomLe⟩
  · obtain ⟨_, ⟨box, boxIn, topEq⟩, _⟩ := Box.bounding_edges_attained captures
    obtain ⟨screen, member, rfl⟩ := List.mem_map.mp boxIn
    exact ⟨screen, member, topEq⟩

theorem Desktop.Captures.positive {desktop : Desktop} {area : Box Int}
    (captures : desktop.Captures area) : 1 ≤ area.width ∧ 1 ≤ area.height := by
  obtain ⟨⟨⟨box, boxIn, _⟩, _⟩, _⟩ := Box.bounding_edges_attained captures
  obtain ⟨screen, member, rfl⟩ := List.mem_map.mp boxIn
  obtain ⟨⟨leftLe, rightLe⟩, ⟨topLe, bottomLe⟩⟩ := captures.contains member
  have wide := Int32.le_iff_toInt_le.mp screen.nonEmpty.1
  have high := Int32.le_iff_toInt_le.mp screen.nonEmpty.2
  have left : screen.area.left = screen.geometry.x1.toInt := rfl
  have right : screen.area.right = screen.geometry.x2.toInt + 1 := rfl
  have top : screen.area.top = screen.geometry.y1.toInt := rfl
  have bottom : screen.area.bottom = screen.geometry.y2.toInt + 1 := rfl
  unfold Box.width Box.height
  omega

/-! ### Every source -/

theorem start_request (desktop : Desktop) (session : PlasmaSession) :
    (session.start desktop).request = session.createStream desktop := by
  unfold PlasmaSession.start
  cases session.createStream desktop <;> rfl

theorem streaming_virtualMonitor (desktop : Desktop) (session : PlasmaSession)
    (frameSize : QSize) :
    (session.streaming desktop frameSize).virtualMonitor = session.virtualMonitor := by
  unfold PlasmaSession.streaming PlasmaSession.start
  cases session.createStream desktop <;> rfl

theorem streaming_logicalSize {desktop : Desktop} {session : PlasmaSession}
    {stream : ScreencastingStream} (created : session.createStream desktop = some stream)
    (frameSize : QSize) : (session.streaming desktop frameSize).logicalSize = stream.size := by
  unfold PlasmaSession.streaming PlasmaSession.start
  rw [created]
  rfl

/-- Nothing sets the size of the stream of a virtual monitor. -/
theorem virtualMonitor_size {desktop : Desktop} {session : PlasmaSession} {vm : VirtualMonitor}
    (virtual : session.virtualMonitor = some vm) {stream : ScreencastingStream}
    (created : session.createStream desktop = some stream) : stream.size = {} := by
  unfold PlasmaSession.createStream createVirtualMonitorStream at created
  rw [virtual] at created
  cases active : desktop.active with
  | false => simp [active] at created
  | true =>
      simp only [active, Bool.not_true, Bool.false_eq_true, if_false, Option.some_inj] at created
      rw [← created]

/-- The remote input works exactly for workspaces whose bounding box fits in 32
bits, and for no virtual monitor. -/
theorem remote_input_works_iff (desktop : Desktop) (session : PlasmaSession)
    (requested : (session.start desktop).request.isSome = true) (frameSize : QSize)
    (nonEmpty : frameSize.isEmpty = false) :
    RemoteInputWorks desktop (session.streaming desktop frameSize) ↔
      session.virtualMonitor = none ∧ WorkspaceFits desktop := by
  rw [start_request] at requested
  obtain ⟨stream, created⟩ := Option.isSome_iff_exists.mp requested
  have logicalEq := streaming_logicalSize created frameSize
  have sameMonitor := streaming_virtualMonitor desktop session frameSize
  cases source : session.virtualMonitor with
  | some vm =>
      refine iff_of_false ?_ (fun fits => by cases fits.1)
      intro works
      have notEmpty := works.notEmpty
      rw [logicalEq, virtualMonitor_size source created] at notEmpty
      exact absurd notEmpty (by decide)
  | none =>
      rw [source] at sameMonitor
      rw [PlasmaSession.createStream, source] at created
      obtain ⟨sizeEq, some⟩ := workspace_size created
      rw [sizeEq] at logicalEq
      constructor
      · intro works
        obtain ⟨area, captures, widthEq, heightEq⟩ := works.exactSize sameMonitor
        have positive := captures.positive
        have widthFits := fitsInt32_toInt desktop.virtualGeometry.size.width
        have heightFits := fitsInt32_toInt desktop.virtualGeometry.size.height
        unfold FitsInt32 at widthFits heightFits
        rw [logicalEq] at widthEq heightEq
        have wide : area.width < 2 ^ 31 := by omega
        have high : area.height < 2 ^ 31 := by omega
        refine ⟨rfl, area, captures, wide, high, fun several => ⟨?_, ?_⟩⟩
        · exact left_above captures several wide (by omega)
        · exact top_above captures several high (by omega)
      · rintro ⟨_, area, captures, wide, high, above⟩
        obtain ⟨widthEq, heightEq⟩ := size_of_fits captures some wide high above
        have positive := captures.positive
        have notEmpty : (session.streaming desktop frameSize).logicalSize.isEmpty = false := by
          rw [logicalEq]
          exact QSize.isEmpty_eq_false_iff.mpr ⟨by omega, by omega⟩
        refine ⟨notEmpty, ?_, ?_⟩
        · intro _
          rw [logicalEq]
          exact ⟨area, captures, widthEq, heightEq⟩
        · intro xkb event forwardable
          have size : (session.streaming desktop frameSize).size.isEmpty = false := nonEmpty
          exact sendEvent_forwards (gate_passes size notEmpty) xkb forwardable

def fullScreen : Screen := ⟨⟨0, 0, 1919, 1079⟩, true, by decide, by decide⟩

def oneScreen : Desktop := { active := true, screens := [fullScreen] }

theorem one_screen_works :
    RemoteInputWorks oneScreen (PlasmaSession.streaming oneScreen ⟨1920, 1080⟩ {}) :=
  (remote_input_works_iff oneScreen {} (by decide) ⟨1920, 1080⟩ (by decide)).mpr
    ⟨rfl, fullScreen.area, Box.bounding_cons _ [], by decide +kernel, by decide +kernel,
      fun several => absurd several (by decide)⟩

def virtualSession : PlasmaSession := { virtualMonitor := some ⟨[], ⟨1920, 1080⟩, .finite 1⟩ }

/-- A session with a virtual monitor drops a movement of the mouse. -/
theorem virtual_monitor_drops :
    (virtualSession.start oneScreen).request.isSome = true ∧
    (virtualSession.streaming oneScreen ⟨1920, 1080⟩).logicalSize.isEmpty = true ∧
    sendEvent ((virtualSession.streaming oneScreen ⟨1920, 1080⟩).gate true) none
      (.mouse .mouseMove 10 10 .noButton) = [] ∧
    ¬RemoteInputWorks oneScreen (virtualSession.streaming oneScreen ⟨1920, 1080⟩) := by
  refine ⟨by decide, by decide, sendEvent_closed (by decide) _ _, ?_⟩
  intro works
  exact absurd works.notEmpty (by decide)

end Plasma

end KRdp
