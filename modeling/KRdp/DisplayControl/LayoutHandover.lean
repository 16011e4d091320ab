/-
From the client's requests to the layouts of the video stream.

The pending slot of display control is a mailbox for the latest value: a valid
request is posted, accepting delivers it to the stream and rejecting drops it.
The ledger runs the calls of display control next to that mailbox and keeps each
call of `VideoStream::setMonitorLayout` that they make.
-/

import KRdp.Library.Mailbox
import KRdp.DisplayControl.AcceptedLayout
import KRdp.DisplayControl.Requests

namespace KRdp

namespace DisplayControl

inductive Call where
  | receive (pdu : Option MonitorLayoutPdu)
  | requestInitial (settings : ClientSettings)
  | accept (monitors : DisplayMonitorList)
  | reject

/-- The PDU a call takes client data from, the rebuilt one for the initial
request. -/
def Call.pdu : Call → Option MonitorLayoutPdu
  | .receive pdu => pdu
  | .requestInitial settings =>
      some (.ofRecords settings.wireMonitors settings.wireMonitors_fit)
  | .accept _ | .reject => none

/-- The layout of a valid client request. -/
def Call.request (call : Call) : Option DisplayMonitorList :=
  call.pdu.bind fun pdu => (decodeMonitorLayout pdu (some [])).toOption

/-- One call of `VideoStream::setMonitorLayout`: the number of the request it
settles, the slot when accept was called, and the layout passed. -/
structure Handover where
  request : Nat
  slot : Option DisplayMonitorList
  layout : DisplayMonitorList

structure Ledger where
  world : World := {}
  requests : Mailbox DisplayMonitorList := {}
  handovers : List Handover := []

def Ledger.record (request : Option DisplayMonitorList) (world : World) (ledger : Ledger) :
    Ledger :=
  { ledger with
    world := world
    requests :=
      match request with
      | some layout => ledger.requests.post layout
      | none => ledger.requests }

def Ledger.handOver (monitors : DisplayMonitorList) (accepted : World) (ledger : Ledger) :
    Ledger :=
  { world := accepted
    requests := ledger.requests.deliver
    handovers := ledger.handovers ++
      [{ request := ledger.requests.last
         slot := ledger.world.requestedMonitorLayout
         layout := monitors }] }

def Ledger.step (ledger : Ledger) (call : Call) : Ledger :=
  match call with
  | .receive pdu => ledger.record call.request (receiveMonitorLayout pdu ledger.world).2
  | .requestInitial settings =>
      ledger.record call.request (requestInitialMonitorLayout settings ledger.world)
  | .accept monitors =>
      match acceptRequestedMonitorLayout monitors ledger.world with
      | .error _ => ledger
      | .ok accepted => ledger.handOver monitors accepted
  | .reject =>
      { ledger with
        world := rejectRequestedMonitorLayout ledger.world
        requests := ledger.requests.drop }

/-- A PDU that does not decode, or an accept that fails. -/
def Refused (ledger : Ledger) : Call → Prop
  | .receive pdu => (receiveMonitorLayout pdu ledger.world).1 ≠ VideoStream.channelRcOk
  | .requestInitial settings => (Call.requestInitial settings).request = none
  | .accept monitors => (acceptRequestedMonitorLayout monitors ledger.world).toBool = false
  | .reject => False

/-- A list that the validator returns for the records of some PDU. -/
def Validated (layout : DisplayMonitorList) : Prop :=
  ∃ (pdu : MonitorLayoutPdu) (records : List MonitorLayout),
    pdu.monitors = some records ∧ ValidLayout pdu records ∧
      layout = records.map MonitorLayout.decoded

/-! ### The four calls -/

theorem validated_of_decode {pdu : MonitorLayoutPdu} {layout : DisplayMonitorList}
    (accepted : decodeMonitorLayout pdu (some []) = .ok layout) : Validated layout :=
  ⟨pdu, validLayout_of_decode accepted⟩

theorem Validated.acceptedLayout {layout : DisplayMonitorList} (validated : Validated layout) :
    AcceptedLayout layout := by
  obtain ⟨pdu, records, array, valid⟩ := validated
  exact acceptedLayout_of_decode
    ((decodeMonitorLayout_ok_iff pdu records array [] layout).mpr valid)

theorem Call.request_validated {call : Call} {layout : DisplayMonitorList}
    (isRequest : call.request = some layout) : Validated layout := by
  unfold Call.request at isRequest
  cases pduEq : call.pdu with
  | none => rw [pduEq] at isRequest; cases isRequest
  | some pdu =>
      rw [pduEq, Option.bind_some] at isRequest
      cases decoded : decodeMonitorLayout pdu (some []) with
      | error message => rw [decoded] at isRequest; cases isRequest
      | ok monitors =>
          rw [decoded] at isRequest
          cases isRequest
          exact validated_of_decode decoded

theorem RdpMonitor.wire_decoded (monitor : RdpMonitor) :
    monitor.wire.decoded.position = ⟨monitor.x, monitor.y⟩ ∧
      monitor.wire.decoded.size = ⟨monitor.width, monitor.height⟩ := by
  simp [RdpMonitor.wire, MonitorLayout.decoded, MonitorLayout.position, MonitorLayout.size]

/-- The initial request takes the detour through unsigned sizes and comes back
with what the client announced; so a negative size is never accepted. -/
theorem initialRequest_sizes {settings : ClientSettings} {monitors : List RdpMonitor}
    (array : settings.monitorDefArray = some monitors) (announced : settings.monitorCount > 0)
    {layout : DisplayMonitorList}
    (isRequest : (Call.requestInitial settings).request = some layout) :
    ∀ monitor ∈ monitors,
      (200 ≤ monitor.width.toInt ∧ monitor.width.toInt ≤ 8192) ∧
        (200 ≤ monitor.height.toInt ∧ monitor.height.toInt ≤ 8192) := by
  intro monitor member
  have wires : settings.wireMonitors = monitors.map RdpMonitor.wire := by
    simp only [ClientSettings.wireMonitors, array]
    exact if_pos announced
  have accepted := (Call.request_validated isRequest).acceptedLayout
  have decoded : layout = settings.wireMonitors.map MonitorLayout.decoded := by
    simp only [Call.request, Call.pdu, Option.bind_some] at isRequest
    cases outcome : decodeMonitorLayout
      (.ofRecords settings.wireMonitors settings.wireMonitors_fit) (some []) with
    | error message => rw [outcome] at isRequest; cases isRequest
    | ok returned =>
        rw [outcome] at isRequest
        cases isRequest
        exact ((decodeMonitorLayout_ok_iff _ settings.wireMonitors rfl [] _).mp outcome).2
  have inLayout : monitor.wire.decoded ∈ layout := by
    rw [decoded, wires, List.map_map]
    exact List.mem_map_of_mem member
  have sizes := accepted.sizes monitor.wire.decoded inLayout
  rw [monitor.wire_decoded.2] at sizes
  exact sizes

def withRequest (request : Option DisplayMonitorList) (world : World) : World :=
  match request with
  | some monitors => requestMonitorLayout monitors world
  | none => world

theorem receiveMonitorLayout_world (pdu : Option MonitorLayoutPdu) (world : World) :
    (receiveMonitorLayout pdu world).2 = withRequest (Call.receive pdu).request world := by
  cases pdu with
  | none => rfl
  | some pdu =>
      simp only [receiveMonitorLayout, Call.request, Call.pdu, Option.bind_some]
      cases decodeMonitorLayout pdu (some []) <;> rfl

theorem receiveMonitorLayout_code (pdu : Option MonitorLayoutPdu) (world : World) :
    (receiveMonitorLayout pdu world).1 = VideoStream.channelRcOk ↔
      (Call.receive pdu).request.isSome := by
  cases pdu with
  | none =>
      apply iff_of_false
      · change channelRcNullData ≠ VideoStream.channelRcOk
        decide
      · simp [Call.request, Call.pdu]
  | some pdu =>
      simp only [receiveMonitorLayout, Call.request, Call.pdu, Option.bind_some]
      cases decodeMonitorLayout pdu (some []) with
      | error message =>
          apply iff_of_false
          · change channelRcBadChannel ≠ VideoStream.channelRcOk
            decide
          · simp [Except.toOption]
      | ok monitors => exact iff_of_true rfl rfl

theorem requestInitialMonitorLayout_world (settings : ClientSettings) (world : World) :
    requestInitialMonitorLayout settings world =
      withRequest (Call.requestInitial settings).request world := by
  simp only [requestInitialMonitorLayout, Call.request, Call.pdu, Option.bind_some]
  cases decodeMonitorLayout
    (.ofRecords settings.wireMonitors settings.wireMonitors_fit) (some []) <;> rfl

/-- Everything a successful accept does. -/
theorem acceptRequestedMonitorLayout_ok_iff (monitors : DisplayMonitorList)
    (world accepted : World) :
    acceptRequestedMonitorLayout monitors world = .ok accepted ↔
      world.requestedMonitorLayout = some monitors ∧
        accepted =
          { world with
            requestedMonitorLayout := none
            stream := VideoStream.setMonitorLayout monitors world.stream } := by
  unfold acceptRequestedMonitorLayout
  cases slot : world.requestedMonitorLayout with
  | none => simp
  | some requested =>
      by_cases same : requested = monitors
      · subst same
        simp [eq_comm]
      · simp [same]

/-! ### What holds after every call -/

/-- The stream as the recorded calls leave it. -/
def replay (stream : VideoStream.Private) (handovers : List Handover) : VideoStream.Private :=
  handovers.foldl (fun stream handover => VideoStream.setMonitorLayout handover.layout stream)
    stream

structure Ledger.Balanced (stream : VideoStream.Private) (ledger : Ledger) : Prop where
  slot : ledger.world.requestedMonitorLayout = ledger.requests.pending
  sound : ledger.requests.Sound
  validated : ∀ layout ∈ ledger.requests.posted, Validated layout
  numbers : ledger.handovers.map Handover.request = ledger.requests.delivered
  honest : ∀ handover ∈ ledger.handovers,
    handover.slot = some handover.layout ∧
      ledger.requests.posted[handover.request]? = some handover.layout
  replayed : ledger.world.stream = replay stream ledger.handovers

namespace Ledger.Balanced

variable {stream : VideoStream.Private} {ledger : Ledger}

theorem initial (stream : VideoStream.Private) :
    Ledger.Balanced stream { world := { stream := stream } } where
  slot := rfl
  sound := Mailbox.sound_empty
  validated := by intro layout member; cases member
  numbers := rfl
  honest := by intro handover member; cases member
  replayed := rfl

theorem record (balanced : ledger.Balanced stream) {request : Option DisplayMonitorList}
    (valid : ∀ layout, request = some layout → Validated layout) :
    (ledger.record request (withRequest request ledger.world)).Balanced stream := by
  cases request with
  | none => exact balanced
  | some layout =>
      constructor
      · exact (balanced.sound.pending_post layout).symm
      · exact balanced.sound.post layout
      · intro posted member
        rcases List.mem_append.mp member with earlier | latest
        · exact balanced.validated posted earlier
        · rw [List.mem_singleton.mp latest]
          exact valid layout rfl
      · exact balanced.numbers
      · intro handover member
        have honest := balanced.honest handover member
        refine ⟨honest.1, ?_⟩
        change (ledger.requests.posted ++ [layout])[handover.request]? = some handover.layout
        have within : handover.request < ledger.requests.posted.length :=
          (List.getElem?_eq_some_iff.mp honest.2).1
        rw [List.getElem?_append_left within]
        exact honest.2
      · exact balanced.replayed

theorem handOver (balanced : ledger.Balanced stream) {monitors : DisplayMonitorList}
    {accepted : World}
    (succeeded : acceptRequestedMonitorLayout monitors ledger.world = .ok accepted) :
    (ledger.handOver monitors accepted).Balanced stream := by
  obtain ⟨slot, rfl⟩ :=
    (acceptRequestedMonitorLayout_ok_iff monitors ledger.world accepted).mp succeeded
  have isPending : ledger.requests.pending = some monitors := balanced.slot.symm.trans slot
  constructor
  · exact (Mailbox.pending_deliver ledger.requests).symm
  · exact balanced.sound.deliver isPending
  · exact balanced.validated
  · simp only [Ledger.handOver, Mailbox.deliver, List.map_append, balanced.numbers,
      List.map_cons, List.map_nil]
  · intro handover member
    rcases List.mem_append.mp member with earlier | latest
    · exact balanced.honest handover earlier
    · rw [List.mem_singleton.mp latest]
      have lastEq := Mailbox.getElem?_last isPending
      exact ⟨slot, lastEq⟩
  · simp only [Ledger.handOver, replay, List.foldl_append, List.foldl_cons, List.foldl_nil]
    rw [balanced.replayed, replay]

theorem reject (balanced : ledger.Balanced stream) :
    (ledger.step .reject).Balanced stream where
  slot := (Mailbox.pending_drop ledger.requests).symm
  sound := balanced.sound.drop
  validated := balanced.validated
  numbers := balanced.numbers
  honest := balanced.honest
  replayed := balanced.replayed

theorem step (balanced : ledger.Balanced stream) (call : Call) :
    (ledger.step call).Balanced stream := by
  cases call with
  | receive pdu =>
      simp only [Ledger.step, receiveMonitorLayout_world]
      exact balanced.record fun layout isRequest => Call.request_validated isRequest
  | requestInitial settings =>
      simp only [Ledger.step, requestInitialMonitorLayout_world]
      exact balanced.record fun layout isRequest => Call.request_validated isRequest
  | accept monitors =>
      simp only [Ledger.step]
      cases outcome : acceptRequestedMonitorLayout monitors ledger.world with
      | error message => exact balanced
      | ok accepted => exact balanced.handOver outcome
  | reject => exact balanced.reject

theorem run (stream : VideoStream.Private) (calls : List Call) :
    (StepRun.run Ledger.step { world := { stream := stream } } calls).Balanced stream :=
  StepRun.run_invariant (Ledger.Balanced stream) (initial stream)
    (fun _ call balanced => balanced.step call) calls

end Ledger.Balanced

theorem Refused.world_eq {ledger : Ledger} {call : Call} (refused : Refused ledger call) :
    (ledger.step call).world = ledger.world := by
  cases call with
  | receive pdu =>
      have failed : (Call.receive pdu).request = none := by
        rw [Refused, ne_eq, receiveMonitorLayout_code] at refused
        exact Option.not_isSome_iff_eq_none.mp refused
      simp only [Ledger.step, Ledger.record, receiveMonitorLayout_world, failed, withRequest]
  | requestInitial settings =>
      have failed : (Call.requestInitial settings).request = none := refused
      simp only [Ledger.step, Ledger.record, requestInitialMonitorLayout_world, failed,
        withRequest]
  | accept monitors =>
      simp only [Refused] at refused
      simp only [Ledger.step]
      cases outcome : acceptRequestedMonitorLayout monitors ledger.world with
      | error message => rfl
      | ok accepted => rw [outcome] at refused; cases refused
  | reject => cases refused

theorem requests_posted (start : Ledger) (calls : List Call) :
    (StepRun.run Ledger.step start calls).requests.posted =
      start.requests.posted ++ calls.filterMap Call.request := by
  induction calls generalizing start with
  | nil => simp
  | cons call rest ih =>
      rw [StepRun.run_cons, ih]
      cases call with
      | accept monitors =>
          have noRequest : (Call.accept monitors).request = none := rfl
          simp only [Ledger.step]
          cases acceptRequestedMonitorLayout monitors start.world <;>
            simp [Ledger.handOver, Mailbox.deliver, noRequest]
      | reject =>
          have noRequest : Call.reject.request = none := rfl
          simp [Ledger.step, Mailbox.drop, noRequest]
      | receive pdu =>
          cases isRequest : (Call.receive pdu).request <;>
            simp [Ledger.step, Ledger.record, Mailbox.post, isRequest]
      | requestInitial settings =>
          cases isRequest : (Call.requestInitial settings).request <;>
            simp [Ledger.step, Ledger.record, Mailbox.post, isRequest]

/-- Over every run of the four calls: what is pending is valid and the latest
undecided request, what reaches the stream was pending when it was accepted, no
request reaches it twice, and a refused call changes nothing. -/
theorem layouts_reach_stream_once (stream : VideoStream.Private) (calls : List Call) :
    let ledger := StepRun.run Ledger.step { world := { stream := stream } } calls
    let valid := calls.filterMap Call.request
    ledger.requests.posted = valid ∧
      (∀ layout, ledger.world.requestedMonitorLayout = some layout →
        Validated layout ∧ AcceptedLayout layout ∧ valid.getLast? = some layout ∧
          ledger.requests.settled < valid.length) ∧
      ledger.world.stream = replay stream ledger.handovers ∧
      (∀ handover ∈ ledger.handovers,
        handover.slot = some handover.layout ∧
          valid[handover.request]? = some handover.layout) ∧
      (ledger.handovers.map Handover.request).Nodup ∧
      ∀ call, Refused ledger call →
        (ledger.step call).world.requestedMonitorLayout = ledger.world.requestedMonitorLayout ∧
          (ledger.step call).world.stream.monitorLayout = ledger.world.stream.monitorLayout := by
  intro ledger valid
  have balanced : ledger.Balanced stream := Ledger.Balanced.run stream calls
  have posted : ledger.requests.posted = valid := by
    rw [requests_posted]
    rfl
  refine ⟨posted, ?_, balanced.replayed, ?_, ?_, ?_⟩
  · intro layout slot
    have isPending := balanced.slot.symm.trans slot
    obtain ⟨unsettled, lastEq⟩ := Mailbox.pending_eq_some isPending
    have validated := balanced.validated layout (List.mem_of_getLast? lastEq)
    rw [← posted]
    exact ⟨validated, validated.acceptedLayout, lastEq, unsettled⟩
  · rw [← posted]
    exact balanced.honest
  · rw [balanced.numbers]
    exact balanced.sound.delivered_nodup
  · intro call refused
    rw [refused.world_eq]
    exact ⟨rfl, rfl⟩

end DisplayControl

end KRdp
