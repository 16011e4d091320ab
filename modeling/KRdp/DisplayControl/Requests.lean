/-
Layout requests of the client and the embedder's decisions on them.

A valid layout is stored in one pending slot and signalled to the embedder,
which takes the signals in order and accepts or rejects each.  Accepting names
the layout and is checked against the slot; rejecting empties the slot, whatever
it holds by then.
-/

import KRdp.Library.Run
import KRdp.DisplayControl.ValidLayout
import KRdp.VideoStream.Stream

namespace KRdp

namespace DisplayControl

def channelRcNullData : UInt32 := 16
def channelRcBadChannel : UInt32 := 6

structure RdpMonitor where
  x : Int32
  y : Int32
  width : Int32
  height : Int32
  isPrimary : Bool
  physicalWidth : UInt32
  physicalHeight : UInt32
  orientation : UInt32
  desktopScaleFactor : UInt32
  deviceScaleFactor : UInt32
  deriving DecidableEq, Repr

/-- The settings that describe the client's monitors; the array holds the
announced number of them. -/
structure ClientSettings where
  monitorCount : UInt32
  monitorDefArray : Option (List RdpMonitor)
  desktopWidth : UInt32
  desktopHeight : UInt32
  readable : ∀ monitors, monitorDefArray = some monitors →
    monitors.length = monitorCount.toNat

/-- The display control object, the stream it sets the layout of, and the
signals that the embedder has not handled yet. -/
structure World where
  requestedMonitorLayout : Option DisplayMonitorList := none
  stream : VideoStream.Private := {}
  signals : List DisplayMonitorList := []
  deriving DecidableEq, Repr

inductive Decision where
  | accept
  | reject
  deriving DecidableEq, Repr

/-! ### Requests -/

def requestMonitorLayout (monitors : DisplayMonitorList) (world : World) : World :=
  { world with
    requestedMonitorLayout := some monitors
    signals := world.signals ++ [monitors] }

def receiveMonitorLayout (pdu : Option MonitorLayoutPdu) (world : World) : UInt32 × World :=
  match pdu with
  | none => (channelRcNullData, world)
  | some pdu =>
      match decodeMonitorLayout pdu (some []) with
      | .error _ => (channelRcBadChannel, world)
      | .ok monitors => (VideoStream.channelRcOk, requestMonitorLayout monitors world)

def RdpMonitor.wire (monitor : RdpMonitor) : MonitorLayout :=
  { flags := if monitor.isPrimary then displayControlMonitorPrimary else 0
    left := monitor.x
    top := monitor.y
    width := monitor.width.toUInt32
    height := monitor.height.toUInt32
    physicalWidth := monitor.physicalWidth
    physicalHeight := monitor.physicalHeight
    orientation := monitor.orientation
    desktopScaleFactor := monitor.desktopScaleFactor
    deviceScaleFactor := monitor.deviceScaleFactor }

def ClientSettings.desktop (settings : ClientSettings) : MonitorLayout :=
  { flags := displayControlMonitorPrimary
    left := 0
    top := 0
    width := settings.desktopWidth
    height := settings.desktopHeight
    physicalWidth := 0
    physicalHeight := 0
    orientation := 0
    desktopScaleFactor := 100
    deviceScaleFactor := 100 }

/-- The records of the initial request: the client's monitors, or one monitor of
the desktop size. -/
def ClientSettings.wireMonitors (settings : ClientSettings) : List MonitorLayout :=
  match settings.monitorDefArray with
  | some monitors =>
      if settings.monitorCount > 0 then monitors.map RdpMonitor.wire else [settings.desktop]
  | none => [settings.desktop]

theorem ClientSettings.wireMonitors_fit (settings : ClientSettings) :
    settings.wireMonitors.length < 2 ^ 32 := by
  unfold wireMonitors
  split
  · rename_i monitors array
    split
    · rw [List.length_map, settings.readable monitors array]
      exact settings.monitorCount.toNat_lt
    · exact Nat.one_lt_two_pow (by decide)
  · exact Nat.one_lt_two_pow (by decide)

def requestInitialMonitorLayout (settings : ClientSettings) (world : World) : World :=
  match decodeMonitorLayout (.ofRecords settings.wireMonitors settings.wireMonitors_fit)
      (some []) with
  | .error _ => world
  | .ok monitors => requestMonitorLayout monitors world

/-! ### Decisions -/

def acceptRequestedMonitorLayout (monitors : DisplayMonitorList) (world : World) :
    Except String World :=
  match world.requestedMonitorLayout with
  | none => .error "There is no pending client monitor layout"
  | some requested =>
      if requested != monitors then
        .error "The accepted layout does not match the pending client request"
      else
        .ok
          { world with
            requestedMonitorLayout := none
            stream := VideoStream.setMonitorLayout monitors world.stream }

def rejectRequestedMonitorLayout (world : World) : World :=
  { world with requestedMonitorLayout := none }

def handleSignal (monitors : DisplayMonitorList) (decision : Decision) (world : World) :
    World :=
  match decision with
  | .accept =>
      match acceptRequestedMonitorLayout monitors world with
      | .error _ => world
      | .ok accepted => accepted
  | .reject => rejectRequestedMonitorLayout world

inductive Action where
  | receive (pdu : Option MonitorLayoutPdu)
  | requestInitial (settings : ClientSettings)
  | decide (decision : Decision)

def step (world : World) : Action → World
  | .receive pdu => (receiveMonitorLayout pdu world).2
  | .requestInitial settings => requestInitialMonitorLayout settings world
  | .decide decision =>
      match world.signals with
      | [] => world
      | monitors :: rest => handleSignal monitors decision { world with signals := rest }

/-! ### The last request -/

/-- Accepting the layout succeeds and hands it to the stream. -/
def AcceptHonoured (monitors : DisplayMonitorList) (world : World) : Prop :=
  ∃ accepted, acceptRequestedMonitorLayout monitors world = .ok accepted ∧
    accepted.stream.monitorLayout = monitors

/-- A decision on an older request that leaves a newer one pending. -/
def LeavesPending (newer : DisplayMonitorList) (older : DisplayMonitorList × Decision) : Prop :=
  older.2 = .accept ∧ older.1 ≠ newer

theorem setMonitorLayout_monitorLayout (monitors : DisplayMonitorList)
    (d : VideoStream.Private) :
    (VideoStream.setMonitorLayout monitors d).monitorLayout = monitors := by
  unfold VideoStream.setMonitorLayout
  split
  · rename_i same
    exact beq_iff_eq.mp same
  · rfl

theorem acceptHonoured_iff (monitors : DisplayMonitorList) (world : World) :
    AcceptHonoured monitors world ↔ world.requestedMonitorLayout = some monitors := by
  unfold AcceptHonoured acceptRequestedMonitorLayout
  constructor
  · rintro ⟨accepted, succeeded, _⟩
    split at succeeded
    · cases succeeded
    · rename_i requested slot
      split at succeeded
      · cases succeeded
      · rename_i same
        rw [slot, show requested = monitors by simpa using same]
  · intro slot
    rw [slot]
    simp only [bne_self_eq_false]
    exact ⟨_, rfl, setMonitorLayout_monitorLayout monitors world.stream⟩

/-- The slot after one decision: accepting another layout fails and keeps it,
anything else empties it. -/
theorem handleSignal_slot (older newer : DisplayMonitorList) (decision : Decision)
    {world : World} (slot : world.requestedMonitorLayout = some newer) :
    ((handleSignal older decision world).requestedMonitorLayout = some newer ∨
        (handleSignal older decision world).requestedMonitorLayout = none) ∧
      ((handleSignal older decision world).requestedMonitorLayout = some newer ↔
        LeavesPending newer (older, decision)) := by
  cases decision with
  | accept =>
      simp only [handleSignal, acceptRequestedMonitorLayout, slot, LeavesPending, true_and]
      by_cases same : newer = older
      · simp [same]
      · simp [same, slot, Ne.symm same]
  | reject => simp [handleSignal, rejectRequestedMonitorLayout, LeavesPending]

theorem handleSignal_empty (older : DisplayMonitorList) (decision : Decision) {world : World}
    (slot : world.requestedMonitorLayout = none) :
    (handleSignal older decision world).requestedMonitorLayout = none := by
  cases decision with
  | accept => simp [handleSignal, acceptRequestedMonitorLayout, slot]
  | reject => rfl

theorem handleSignal_signals (older : DisplayMonitorList) (decision : Decision)
    (world : World) : (handleSignal older decision world).signals = world.signals := by
  cases decision with
  | accept =>
      simp only [handleSignal, acceptRequestedMonitorLayout]
      cases world.requestedMonitorLayout with
      | none => rfl
      | some requested => by_cases same : requested = older <;> simp [same]
  | reject => rfl

theorem decisions_keep_iff (newer : DisplayMonitorList) (older : List DisplayMonitorList)
    (decisions : List Decision) (world : World) (signals : world.signals = older ++ [newer])
    (slot : world.requestedMonitorLayout = some newer ∨ world.requestedMonitorLayout = none)
    (all : decisions.length = older.length) :
    let decided := StepRun.run step world (decisions.map .decide)
    decided.signals = [newer] ∧
      (decided.requestedMonitorLayout = some newer ↔
        world.requestedMonitorLayout = some newer ∧
          ∀ pair ∈ older.zip decisions, LeavesPending newer pair) := by
  induction older generalizing world decisions with
  | nil =>
      obtain rfl := List.length_eq_zero_iff.mp all
      exact ⟨signals, by simp⟩
  | cons monitors rest ih =>
      obtain ⟨decision, others, rfl⟩ := List.exists_cons_of_length_eq_add_one all
      let taken := { world with signals := rest ++ [newer] }
      have stepEq : step world (.decide decision) = handleSignal monitors decision taken := by
        simp only [step, signals]
        rfl
      have nextSlot : (handleSignal monitors decision taken).requestedMonitorLayout =
            some newer ∨
          (handleSignal monitors decision taken).requestedMonitorLayout = none := by
        rcases slot with filled | empty
        · have takenSlot : taken.requestedMonitorLayout = some newer := filled
          exact (handleSignal_slot monitors newer decision takenSlot).1
        · have takenSlot : taken.requestedMonitorLayout = none := empty
          exact .inr (handleSignal_empty monitors decision takenSlot)
      obtain ⟨decidedSignals, decidedSlot⟩ := ih others
        (handleSignal monitors decision taken)
        (handleSignal_signals monitors decision taken) nextSlot (Nat.succ.inj all)
      simp only [List.map_cons, StepRun.run_cons, stepEq]
      refine ⟨decidedSignals, decidedSlot.trans ?_⟩
      rw [List.zip_cons_cons, List.forall_mem_cons]
      rcases slot with filled | empty
      · have takenSlot : taken.requestedMonitorLayout = some newer := filled
        rw [(handleSignal_slot monitors newer decision takenSlot).2]
        exact (and_iff_right filled).symm
      · have takenSlot : taken.requestedMonitorLayout = none := empty
        rw [handleSignal_empty monitors decision takenSlot, empty]
        simp

/-- After any run, a last request is received and the embedder decides on all
signals before it: accepting the last request is honoured exactly when each of
these decisions accepted another layout. -/
theorem acceptLast_iff (start : World) (before : List Action) (pdu : MonitorLayoutPdu)
    (newer : DisplayMonitorList)
    (valid : decodeMonitorLayout pdu (some []) = .ok newer) (decisions : List Decision)
    (all : decisions.length = (StepRun.run step start before).signals.length) :
    let older := (StepRun.run step start before).signals
    let decided := StepRun.run step start
      (before ++ .receive (some pdu) :: decisions.map .decide)
    decided.signals = [newer] ∧
      (AcceptHonoured newer decided ↔
        ∀ pair ∈ older.zip decisions, LeavesPending newer pair) := by
  intro older decided
  have received : step (StepRun.run step start before) (.receive (some pdu)) =
      requestMonitorLayout newer (StepRun.run step start before) := by
    simp only [step, receiveMonitorLayout, valid]
  have decidedEq : decided = StepRun.run step
      (requestMonitorLayout newer (StepRun.run step start before))
      (decisions.map .decide) := by
    rw [← received]
    exact StepRun.run_append step start before _
  obtain ⟨signals, slot⟩ := decisions_keep_iff newer older decisions
    (requestMonitorLayout newer (StepRun.run step start before)) rfl (.inl rfl) all
  rw [decidedEq]
  refine ⟨signals, ?_⟩
  rw [acceptHonoured_iff, slot]
  exact and_iff_right rfl

/-- The first of two requests is accepted late, which fails and does no harm. -/
theorem acceptLast_iff_accepted :
    let both : MonitorLayoutPdu := .ofRecords primaryWithLeft (by decide)
    let alone : MonitorLayoutPdu := .ofRecords (primaryWithLeft.take 1) (by decide)
    let newer := (primaryWithLeft.take 1).map MonitorLayout.decoded
    let decided := StepRun.run step {}
      ([.receive (some both)] ++ .receive (some alone) :: [Decision.accept].map .decide)
    decided.signals = [newer] ∧
      (AcceptHonoured newer decided ↔
        ∀ pair ∈ (StepRun.run step {} [.receive (some both)]).signals.zip [Decision.accept],
          LeavesPending newer pair) :=
  acceptLast_iff {} [.receive (some (.ofRecords primaryWithLeft (by decide)))]
    (.ofRecords (primaryWithLeft.take 1) (by decide))
    ((primaryWithLeft.take 1).map MonitorLayout.decoded) (by decide) [.accept] (by decide)

/-- The first of two requests is rejected late, which takes the second one with
it. -/
theorem acceptLast_fails :
    let both : MonitorLayoutPdu := .ofRecords primaryWithLeft (by decide)
    let alone : MonitorLayoutPdu := .ofRecords (primaryWithLeft.take 1) (by decide)
    let newer := (primaryWithLeft.take 1).map MonitorLayout.decoded
    let decided := StepRun.run step {}
      [.receive (some both), .receive (some alone), .decide .reject]
    decided.signals = [newer] ∧ ¬AcceptHonoured newer decided := by
  simp only [acceptHonoured_iff]
  decide

end DisplayControl

end KRdp
