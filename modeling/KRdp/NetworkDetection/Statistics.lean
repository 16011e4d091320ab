/-
The statistics over the last round trips.

A response or a bandwidth result may come at any time and with any numbers.  A
run is observed together with all positive round trips that were ever measured.
Where a call waits forever for a sequence number, the state is the one in which
it waits.

The window and the average are exact.  The minimum is not: it starts from the
default duration, and no positive round trip is below that.
-/

import KRdp.Library.MachineInt
import KRdp.Library.SampleWindow
import KRdp.NetworkDetection.SequenceNumbers

namespace KRdp

namespace NetworkDetection

/-- The readings of the clock; the last one is that of the averages. -/
def Callback.readings : Callback UInt16 → List Time
  | .update _ now => [now]
  | .rttMeasureResponse _ received now => [received, now]
  | .bandwidthMeasureResults _ now => [now]
  | .startBandwidthMeasure => []
  | .stopBandwidthMeasure => []

/-- The detection; the other fields observe it. -/
structure Observed where
  detection : Private := {}
  readings : List Time := []
  measured : List RttMeasurement := []
  accepted : Option UInt32 := none

/-! ### Calls that take the averages -/

/-- The state in which the call takes the averages, if it comes to that, and the
time at which it does. -/
def averaging (d : Private) : Callback UInt16 → Option (Private × Time)
  | .rttMeasureResponse sequence received now =>
      match d.rttRequests.lookup sequence.toUInt32 with
      | none => none
      | some sentAt =>
          if received - sentAt ≤ 0 then none
          else
            some (addMeasurement
              { measurementTime := received
                roundTripTime := received - sentAt } (removeRequest sequence.toUInt32 d), now)
  | .bandwidthMeasureResults netCharBandwidth now =>
      if d.state != .pendingResults || netCharBandwidth ≤ 0 then none
      else
        some ({ d with state := .none, lastBandwithMeasurement := netCharBandwidth }, now)
  | .update _ _ => none
  | .startBandwidthMeasure => none
  | .stopBandwidthMeasure => none

/-- The state in which a search goes on forever. -/
def searching (now : Time) (d : Private) : Private :=
  noteNetworkResult now
    (emit .rttChanged (noteAverages (recentMeasurements now d.rttMeasurements) d))

def afterAverage (now : Time) (d : Private) : Private :=
  (updateAverageRtt now d).getD (searching now d)

def waiting (d : Private) (call : Callback UInt16) : Private :=
  match call, averaging d call with
  | .update _ now, _ => noteUpdate now d
  | _, some (ready, now) => searching now ready
  | _, none => d

/-- The positive round trip that the call measures. -/
def newMeasurements (d : Private) : Callback UInt16 → List RttMeasurement
  | .rttMeasureResponse sequence received _ =>
      match d.rttRequests.lookup sequence.toUInt32 with
      | none => []
      | some sentAt =>
          if received - sentAt ≤ 0 then []
          else [{ measurementTime := received, roundTripTime := received - sentAt }]
  | .bandwidthMeasureResults _ _ => []
  | .update _ _ => []
  | .startBandwidthMeasure => []
  | .stopBandwidthMeasure => []

/-- The positive bandwidth that was accepted last, the call included. -/
def acceptedAfter (observed : Observed) : Callback UInt16 → Option UInt32
  | .bandwidthMeasureResults netCharBandwidth _ =>
      if observed.detection.state != .pendingResults || netCharBandwidth ≤ 0 then
        observed.accepted
      else some netCharBandwidth
  | .rttMeasureResponse _ _ _ => observed.accepted
  | .update _ _ => observed.accepted
  | .startBandwidthMeasure => observed.accepted
  | .stopBandwidthMeasure => observed.accepted

def detectionAfter (d : Private) (call : Callback UInt16) : Private :=
  (performCallback d call).getD (waiting d call)

def callback (observed : Observed) (call : Callback UInt16) : Observed :=
  { detection := detectionAfter observed.detection call
    readings := observed.readings ++ call.readings
    measured := observed.measured ++ newMeasurements observed.detection call
    accepted := acceptedAfter observed call }

/-! ### Taking the averages -/

def newOutputs (before after : Private) : List Output :=
  after.outputs.drop before.outputs.length

theorem newOutputs_append {before after : Private} {added : List Output}
    (outputs : after.outputs = before.outputs ++ added) : newOutputs before after = added := by
  rw [newOutputs, outputs, List.drop_left]

theorem newOutputs_same {before after : Private} (outputs : after.outputs = before.outputs) :
    newOutputs before after = [] :=
  newOutputs_append (outputs.trans (List.append_nil _).symm)

/-- A result is due and can be given a number. -/
def ReportDue (now : Time) (d : Private) : Prop :=
  networkResultInterval ≤ now - d.lastNetworkResult ∧
    (nextSequenceNumber (searching now d)).isSome = true

def resultOf (now : Time) (d : Private) : NetworkCharacteristicsResult :=
  { baseRTT := toMilliseconds (minimumOf (recentMeasurements now d.rttMeasurements))
    averageRTT := toMilliseconds (averageOf (recentMeasurements now d.rttMeasurements))
    bandwidth := d.lastBandwithMeasurement }

/-- What a call leaves once it has taken the averages. -/
structure Averaged (now : Time) (d after : Private) (reported : List Output) : Prop where
  rttMeasurements : after.rttMeasurements = recentMeasurements now d.rttMeasurements
  minimumRtt : after.minimumRtt = minimumOf (recentMeasurements now d.rttMeasurements)
  averageRtt : after.averageRtt = averageOf (recentMeasurements now d.rttMeasurements)
  rttRequests : after.rttRequests = d.rttRequests
  bandwidth : after.lastBandwithMeasurement = d.lastBandwithMeasurement
  outputs : after.outputs = d.outputs ++ .rttChanged :: reported

theorem searching_averaged (now : Time) (d : Private) :
    Averaged now d (searching now d) [] :=
  ⟨rfl, rfl, rfl, rfl, rfl, rfl⟩

theorem afterAverage_of_empty {now : Time} {d : Private}
    (empty : recentMeasurements now d.rttMeasurements = []) :
    afterAverage now d = { d with rttMeasurements := [] } := by
  rw [afterAverage, updateAverageRtt, empty]
  rfl

/-- The test for a measured bandwidth is never met: the field is unsigned. -/
theorem updateAverageRtt_of_measured {now : Time} {d : Private}
    (nonempty : recentMeasurements now d.rttMeasurements ≠ []) :
    updateAverageRtt now d =
      if now - d.lastNetworkResult < networkResultInterval then
        some (emit .rttChanged (noteAverages (recentMeasurements now d.rttMeasurements) d))
      else
        (nextSequenceNumber (searching now d)).map fun found =>
          emit (.networkCharacteristicsResult found.1.toUInt16 (networkResult found.2))
            found.2 := by
  have measured : (recentMeasurements now d.rttMeasurements).isEmpty = false :=
    List.isEmpty_eq_false_iff.mpr nonempty
  have unsigned : ¬(emit .rttChanged (noteAverages (recentMeasurements now d.rttMeasurements)
      d)).lastBandwithMeasurement < 0 := UInt32.not_lt_zero
  simp only [updateAverageRtt, measured, Bool.false_eq_true, if_false, unsigned]
  by_cases early : now - d.lastNetworkResult < networkResultInterval
  · rw [if_pos early]
    exact if_pos early
  · rw [if_neg early, Option.map_eq_bind]
    exact if_neg early

theorem nextSequenceNumber_counted {d after : Private} {sequence : UInt32}
    (found : nextSequenceNumber d = some (sequence, after)) :
    after = countFrom (sequence + 1) d := by
  obtain ⟨_, _, pairEq⟩ := Option.map_eq_some_iff.mp found
  obtain ⟨rfl, counted⟩ := Prod.mk.inj pairEq
  exact counted.symm

/-- With a measurement left the averages are taken, and a result is sent if it is
due. -/
theorem afterAverage_spec {now : Time} {d : Private}
    (nonempty : recentMeasurements now d.rttMeasurements ≠ []) :
    ∃ reported, Averaged now d (afterAverage now d) reported ∧
      (reported ≠ [] ↔ ReportDue now d) ∧
      ∀ output ∈ reported, ∃ sequence,
        output = .networkCharacteristicsResult sequence (resultOf now d) := by
  rw [afterAverage, updateAverageRtt_of_measured nonempty]
  by_cases early : now - d.lastNetworkResult < networkResultInterval
  · have notDue : ¬ReportDue now d := fun due => absurd early (not_lt.mpr due.1)
    rw [if_pos early]
    exact ⟨[], ⟨rfl, rfl, rfl, rfl, rfl, rfl⟩, by simp [notDue], by simp⟩
  · rw [if_neg early]
    cases found : nextSequenceNumber (searching now d) with
    | none =>
        have notDue : ¬ReportDue now d := by
          intro due
          rw [ReportDue, found] at due
          exact absurd due.2 Bool.false_ne_true
        exact ⟨[], searching_averaged now d, by simp [notDue], by simp⟩
    | some pair =>
        obtain ⟨sequence, counted⟩ := pair
        obtain rfl := nextSequenceNumber_counted found
        have due : ReportDue now d := ⟨not_lt.mp early, by rw [found]; rfl⟩
        refine ⟨[.networkCharacteristicsResult sequence.toUInt16 (resultOf now d)], ?_,
          by simp [due], ?_⟩
        · exact ⟨rfl, rfl, rfl, rfl, rfl, List.append_assoc d.outputs [.rttChanged] _⟩
        · intro output member
          exact ⟨sequence.toUInt16, List.mem_singleton.mp member⟩

/-! ### One call -/

/-- Exactly these calls take the averages: a response with a positive round trip,
and a positive bandwidth that was waited for. -/
inductive Averages (d : Private) : Callback UInt16 → Private → Time → Prop
  | response {sequence : UInt16} {received sentAt now : Time}
      (lookup : d.rttRequests.lookup sequence.toUInt32 = some sentAt)
      (positive : ¬received - sentAt ≤ 0) :
      Averages d (.rttMeasureResponse sequence received now)
        (addMeasurement { measurementTime := received, roundTripTime := received - sentAt }
          (removeRequest sequence.toUInt32 d)) now
  | results {netCharBandwidth : UInt32} {now : Time} (pending : d.state = .pendingResults)
      (positive : ¬netCharBandwidth ≤ 0) :
      Averages d (.bandwidthMeasureResults netCharBandwidth now)
        { d with state := .none, lastBandwithMeasurement := netCharBandwidth } now

section Call

variable {d ready : Private} {call : Callback UInt16} {now : Time}

theorem averages_of_averaging (taken : averaging d call = some (ready, now)) :
    Averages d call ready now := by
  cases call with
  | rttMeasureResponse sequence received later =>
      simp only [averaging] at taken
      cases lookup : d.rttRequests.lookup sequence.toUInt32 with
      | none =>
          rw [lookup] at taken
          cases taken
      | some sentAt =>
          rw [lookup] at taken
          by_cases nonpositive : received - sentAt ≤ 0
          · simp [nonpositive] at taken
          · simp only [nonpositive, if_false, Option.some.injEq, Prod.mk.injEq] at taken
            obtain ⟨rfl, rfl⟩ := taken
            exact .response lookup nonpositive
  | bandwidthMeasureResults netCharBandwidth later =>
      rw [averaging] at taken
      split at taken
      · cases taken
      · rename_i due
        simp only [Bool.or_eq_true, not_or, bne_iff_ne, ne_eq, not_not, decide_eq_true_eq] at due
        cases taken
        exact .results due.1 due.2
  | update session later => cases taken
  | startBandwidthMeasure => cases taken
  | stopBandwidthMeasure => cases taken

theorem Averages.averaging (averages : Averages d call ready now) :
    averaging d call = some (ready, now) := by
  cases averages with
  | response lookup positive => simp only [NetworkDetection.averaging, lookup, positive, if_false]
  | results pending positive => simp [NetworkDetection.averaging, pending, positive]

theorem Averages.detectionAfter (averages : Averages d call ready now) :
    detectionAfter d call = afterAverage now ready := by
  have taken := averages.averaging
  have waits : waiting d call = searching now ready := by
    cases averages with
    | response _ _ => simp only [waiting, taken]
    | results _ _ => simp only [waiting, taken]
  cases averages with
  | response lookup positive =>
      simp only [NetworkDetection.detectionAfter, performCallback, waits, onRttMeasureResponse,
        lookup, completeRequest, positive, if_false]
      rfl
  | results pending positive =>
      simp only [NetworkDetection.detectionAfter, performCallback, waits,
        onBandwidthMeasureResults, pending, bne_self_eq_false, Bool.false_eq_true, if_false,
        positive]
      rfl

/-- The averages are taken over the measurements of before and the new one. -/
theorem Averages.ready_eq (averages : Averages d call ready now) :
    ready.rttMeasurements = d.rttMeasurements ++ newMeasurements d call ∧
      ready.outputs = d.outputs := by
  cases averages with
  | response lookup positive =>
      simp only [newMeasurements, lookup, positive, if_false]
      exact ⟨rfl, rfl⟩
  | results pending positive => exact ⟨(List.append_nil _).symm, rfl⟩

theorem Averages.newOutputs_of_empty (averages : Averages d call ready now)
    (empty : recentMeasurements now ready.rttMeasurements = []) :
    newOutputs d (NetworkDetection.detectionAfter d call) = [] := by
  rw [averages.detectionAfter, afterAverage_of_empty empty]
  exact newOutputs_same averages.ready_eq.2

theorem Averages.newOutputs_spec (averages : Averages d call ready now)
    (nonempty : recentMeasurements now ready.rttMeasurements ≠ []) :
    ∃ reported, Averaged now ready (NetworkDetection.detectionAfter d call) reported ∧
      newOutputs d (NetworkDetection.detectionAfter d call) = .rttChanged :: reported ∧
      (reported ≠ [] ↔ ReportDue now ready) ∧
      ∀ output ∈ reported, ∃ sequence,
        output = .networkCharacteristicsResult sequence (resultOf now ready) := by
  obtain ⟨reported, averaged, due, results⟩ := afterAverage_spec nonempty
  have outputs := averaged.outputs
  rw [averages.ready_eq.2] at outputs
  rw [averages.detectionAfter]
  exact ⟨reported, averaged, newOutputs_append outputs, due, results⟩

/-- A new measurement takes its request out of the table. -/
theorem Averages.counted (averages : Averages d call ready now) :
    (newMeasurements d call).length + ready.rttRequests.keys.length ≤
      d.rttRequests.keys.length := by
  cases averages with
  | @response sequence received sentAt now lookup positive =>
      have member : sequence.toUInt32 ∈ d.rttRequests.keys := by
        rw [← AList.mem_keys, ← AList.lookup_isSome, lookup]
        rfl
      have length := List.length_pos_of_mem member
      have erased : (d.rttRequests.erase sequence.toUInt32).keys.length + 1 =
          d.rttRequests.keys.length := by
        rw [AList.keys_erase, List.length_erase_of_mem member]
        omega
      simp only [newMeasurements, lookup, positive, if_false, List.length_singleton]
      exact (Nat.add_comm _ _).trans_le erased.le
  | results pending positive => exact (Nat.zero_add _).le

/-- The request messages of a list of outputs. -/
def requestCount (outputs : List Output) : Nat :=
  outputs.countP fun output =>
    match output with
    | .rttMeasureRequest _ => true
    | .networkCharacteristicsResult _ _ => false
    | .bandwidthMeasureStart _ => false
    | .bandwidthMeasureStop _ => false
    | .rttChanged => false

/-- A call that takes no averages leaves them alone; what it emits tells nobody
about them, and an entry is only added along with a request and never for zero. -/
structure Idle (d after : Private) (emitted : List Output) : Prop where
  rttMeasurements : after.rttMeasurements = d.rttMeasurements
  minimumRtt : after.minimumRtt = d.minimumRtt
  averageRtt : after.averageRtt = d.averageRtt
  bandwidth : after.lastBandwithMeasurement = d.lastBandwithMeasurement
  lastNetworkResult : after.lastNetworkResult = d.lastNetworkResult
  outputs : after.outputs = d.outputs ++ emitted
  silent : ∀ output ∈ emitted, output ≠ .rttChanged ∧
    ∀ sequence result, output ≠ .networkCharacteristicsResult sequence result
  counted : after.rttRequests.keys.length ≤ d.rttRequests.keys.length + requestCount emitted
  nonzero : 0 ∉ d.rttRequests → 0 ∉ after.rttRequests

theorem Idle.refl (d : Private) : Idle d d [] :=
  ⟨rfl, rfl, rfl, rfl, rfl, (List.append_nil _).symm, by simp, Nat.le_add_right _ _, id⟩

theorem nextSequenceNumber_nonzero {after : Private} {sequence : UInt32}
    (found : nextSequenceNumber d = some (sequence, after)) : sequence ≠ 0 := by
  obtain ⟨_, searched, pairEq⟩ := Option.map_eq_some_iff.mp found
  obtain ⟨_, _, _, free, _⟩ := (BoundedSearch.search_eq_some_iff _ _ _).mp searched
  rw [(Prod.mk.inj pairEq).1] at free
  exact ((isFree_iff d sequence).mp free).1

theorem keys_insert_length_le (sequence : UInt32) (sentAt : Time) :
    (d.rttRequests.insert sequence sentAt).keys.length ≤ d.rttRequests.keys.length + 1 := by
  rw [AList.keys_insert, List.length_cons]
  exact Nat.succ_le_succ List.length_erase_le

theorem update_idle_or_sends (session : RdpConnection.State) (now : Time) :
    ∃ emitted, Idle d (detectionAfter d (.update session now)) emitted := by
  simp only [detectionAfter, performCallback, update]
  by_cases inactive : (session != .streaming) = true
  · simp only [inactive, if_true]
    exact ⟨[], Idle.refl d⟩
  · simp only [inactive, Bool.false_eq_true, if_false]
    by_cases early : now - d.lastRttUpdate < rttUpdateInterval
    · simp only [early, if_true]
      exact ⟨[], Idle.refl d⟩
    · simp only [early, if_false]
      cases found : nextSequenceNumber (noteUpdate now d) with
      | none =>
          exact ⟨[], rfl, rfl, rfl, rfl, rfl, (List.append_nil _).symm, by simp,
            Nat.le_add_right _ _, id⟩
      | some pair =>
          obtain ⟨sequence, counted⟩ := pair
          obtain rfl := nextSequenceNumber_counted found
          refine ⟨[.rttMeasureRequest sequence.toUInt16], rfl, rfl, rfl, rfl, rfl, rfl, by simp,
            keys_insert_length_le sequence now, ?_⟩
          intro absent present
          rcases (AList.mem_insert _).mp present with zero | earlier
          · exact nextSequenceNumber_nonzero found zero.symm
          · exact absent earlier

theorem idle_of_not_averaging (none : averaging d call = none) :
    newMeasurements d call = [] ∧ ∃ emitted, Idle d (detectionAfter d call) emitted := by
  cases call with
  | update session later => exact ⟨rfl, update_idle_or_sends session later⟩
  | rttMeasureResponse sequence received later =>
      cases lookup : d.rttRequests.lookup sequence.toUInt32 with
      | none =>
          simp only [newMeasurements, detectionAfter, performCallback, onRttMeasureResponse, lookup]
          exact ⟨trivial, [], Idle.refl d⟩
      | some sentAt =>
          by_cases positive : received - sentAt ≤ 0
          · simp only [newMeasurements, detectionAfter, performCallback, onRttMeasureResponse,
              lookup, completeRequest, positive, if_true]
            refine ⟨trivial, [], rfl, rfl, rfl, rfl, rfl, (List.append_nil _).symm, by simp, ?_,
              fun absent present => absent (AList.mem_erase.mp present).2⟩
            have fewer : (d.rttRequests.erase sequence.toUInt32).keys.length ≤
                d.rttRequests.keys.length := by
              rw [AList.keys_erase]
              exact List.length_erase_le
            exact fewer
          · rw [(Averages.response lookup positive).averaging] at none
            cases none
  | bandwidthMeasureResults netCharBandwidth later =>
      by_cases pending : d.state = .pendingResults
      · by_cases positive : netCharBandwidth ≤ 0
        · simp only [detectionAfter, performCallback, onBandwidthMeasureResults, pending,
            bne_self_eq_false, Bool.false_eq_true, if_false, positive, if_true]
          exact ⟨rfl, [], rfl, rfl, rfl, rfl, rfl, (List.append_nil _).symm, by simp,
            Nat.le_add_right _ _, id⟩
        · rw [(Averages.results pending positive).averaging] at none
          cases none
      · have other : (d.state != .pendingResults) = true := bne_iff_ne.mpr pending
        simp only [detectionAfter, performCallback, onBandwidthMeasureResults, other, if_true]
        exact ⟨rfl, [], Idle.refl d⟩
  | startBandwidthMeasure =>
      simp only [detectionAfter, performCallback, startBandwidthMeasure]
      split
      · exact ⟨rfl, [], Idle.refl d⟩
      · exact ⟨rfl, [.bandwidthMeasureStart 0], rfl, rfl, rfl, rfl, rfl, rfl, by simp,
          Nat.le_add_right _ _, id⟩
  | stopBandwidthMeasure =>
      simp only [detectionAfter, performCallback, stopBandwidthMeasure]
      split
      · exact ⟨rfl, [], Idle.refl d⟩
      · exact ⟨rfl, [.bandwidthMeasureStop 0], rfl, rfl, rfl, rfl, rfl, rfl, by simp,
          Nat.le_add_right _ _, id⟩

/-- The two kinds of calls. -/
theorem idle_or_averages (d : Private) (call : Callback UInt16) :
    (averaging d call = none ∧ newMeasurements d call = [] ∧
        ∃ emitted, Idle d (detectionAfter d call) emitted) ∨
      ∃ ready now, Averages d call ready now := by
  cases taken : averaging d call with
  | none => exact .inl ⟨rfl, idle_of_not_averaging taken⟩
  | some pair => exact .inr ⟨pair.1, pair.2, averages_of_averaging taken⟩

end Call

/-! ### The statistics -/

def roundTrips (d : Private) : List Int := d.rttMeasurements.map RttMeasurement.roundTripTime

/-- The positive round trips that were received in the last interval. -/
def window (now : Time) (observed : Observed) : List RttMeasurement :=
  SampleWindow.recent RttMeasurement.measurementTime rttAverageInterval now observed.measured

/-- The parts of the statistics that do not mention the minimum; a request is
counted once, as a measurement or as outstanding. -/
structure WindowExact (now : Time) (observed : Observed) : Prop where
  window : observed.detection.rttMeasurements = window now observed
  once : observed.measured.length + observed.detection.rttRequests.keys.length ≤
    requestCount observed.detection.outputs
  average : observed.detection.averageRtt = SampleWindow.mean (roundTrips observed.detection)
  bounded : ∃ shortest ∈ roundTrips observed.detection, ∃ longest ∈ roundTrips observed.detection,
    (∀ roundTrip ∈ roundTrips observed.detection, shortest ≤ roundTrip ∧ roundTrip ≤ longest) ∧
      0 < shortest ∧ shortest ≤ observed.detection.averageRtt ∧
        observed.detection.averageRtt ≤ longest

structure StatisticsExact (now : Time) (observed : Observed) : Prop where
  windowExact : WindowExact now observed
  minimum : observed.detection.minimumRtt ∈ roundTrips observed.detection ∧
    ∀ roundTrip ∈ roundTrips observed.detection, observed.detection.minimumRtt ≤ roundTrip
  ordered : 0 < observed.detection.minimumRtt ∧
    observed.detection.minimumRtt ≤ observed.detection.averageRtt

def Announces (before after : Observed) : Prop :=
  .rttChanged ∈ newOutputs before.detection after.detection

/-- With nothing left in the window, the values stay and nothing is emitted. -/
def KeepsOnEmpty (now : Time) (before after : Observed) : Prop :=
  window now after = [] →
    after.detection.minimumRtt = before.detection.minimumRtt ∧
      after.detection.averageRtt = before.detection.averageRtt ∧ ¬Announces before after

/-- What the call announces is exact at its time. -/
def AnnouncesExact (exact : Time → Observed → Prop) (observed : Observed) (call : Callback UInt16) :
    Prop :=
  (Announces observed (callback observed call) →
      ∃ now, call.readings.getLast? = some now ∧ exact now (callback observed call)) ∧
    ∀ now, call.readings.getLast? = some now →
      KeepsOnEmpty now observed (callback observed call)

/-- A response with a positive round trip has left the window before the averages
are taken. -/
def MeasuresNothing (observed : Observed) : Callback UInt16 → Prop
  | .rttMeasureResponse sequence received now =>
      ∀ sentAt, observed.detection.rttRequests.lookup sequence.toUInt32 = some sentAt →
        0 < received - sentAt → rttAverageInterval < now - received
  | .update _ _ => True
  | .bandwidthMeasureResults _ _ => True
  | .startBandwidthMeasure => True
  | .stopBandwidthMeasure => True

section Announcement

variable {observed : Observed} {call : Callback UInt16} {ready : Private} {now : Time}

theorem callback_detection (averages : Averages observed.detection call ready now) :
    (callback observed call).detection = afterAverage now ready :=
  averages.detectionAfter

theorem not_announces_of_idle {emitted : List Output}
    (idle : Idle observed.detection (callback observed call).detection emitted) :
    ¬Announces observed (callback observed call) := by
  intro announces
  rw [Announces, newOutputs_append idle.outputs] at announces
  exact (idle.silent _ announces).1 rfl

/-- Nothing is left in the window: the call ends before the averages. -/
theorem Averages.of_empty (averages : Averages observed.detection call ready now)
    (empty : recentMeasurements now ready.rttMeasurements = []) :
    (callback observed call).detection.rttMeasurements = [] ∧
      ¬Announces observed (callback observed call) := by
  rw [Announces, callback, averages.newOutputs_of_empty empty, averages.detectionAfter,
    afterAverage_of_empty empty]
  exact ⟨rfl, List.not_mem_nil⟩

theorem Averages.of_measured (averages : Averages observed.detection call ready now)
    (nonempty : recentMeasurements now ready.rttMeasurements ≠ []) :
    Announces observed (callback observed call) ∧
      ∃ reported, Averaged now ready (callback observed call).detection reported := by
  obtain ⟨reported, averaged, outputs, _⟩ := averages.newOutputs_spec nonempty
  rw [Announces, callback, outputs]
  exact ⟨List.mem_cons_self, reported, averaged⟩

/-- The values only change along with an announcement. -/
theorem values_of_not_announces (silent : ¬Announces observed (callback observed call)) :
    (callback observed call).detection.minimumRtt = observed.detection.minimumRtt ∧
      (callback observed call).detection.averageRtt = observed.detection.averageRtt := by
  rcases idle_or_averages observed.detection call with
    ⟨_, _, emitted, idle⟩ | ⟨ready, now, averages⟩
  · exact ⟨idle.minimumRtt, idle.averageRtt⟩
  · by_cases empty : recentMeasurements now ready.rttMeasurements = []
    · rw [callback_detection averages, afterAverage_of_empty empty]
      cases averages with
      | response _ _ => exact ⟨rfl, rfl⟩
      | results _ _ => exact ⟨rfl, rfl⟩
    · exact absurd (averages.of_measured empty).1 silent

theorem announcesExact_of_silent (exact : Time → Observed → Prop)
    (silent : ¬Announces observed (callback observed call)) :
    AnnouncesExact exact observed call := by
  have values := values_of_not_announces silent
  exact ⟨fun announces => absurd announces silent,
    fun _ _ _ => ⟨values.1, values.2, silent⟩⟩

/-- The minimum is never more than the duration it starts from. -/
theorem minimumOf_nonpos (measurements : List RttMeasurement) : minimumOf measurements ≤ 0 := by
  have bounded (start : Time) (low : start ≤ 0) :
      measurements.foldl (fun minimum measurement => min minimum measurement.roundTripTime)
        start ≤ 0 := by
    induction measurements generalizing start with
    | nil => exact low
    | cons measurement rest ih => exact ih _ ((min_le_left _ _).trans low)
  exact bounded maximumDuration (le_refl _)

theorem not_exact_of_announces (announces : Announces observed (callback observed call)) :
    ¬AnnouncesExact StatisticsExact observed call := by
  intro exact
  obtain ⟨_, _, statistics⟩ := exact.1 announces
  have positive := statistics.ordered.1
  rcases idle_or_averages observed.detection call with
    ⟨_, _, emitted, idle⟩ | ⟨ready, now, averages⟩
  · exact not_announces_of_idle idle announces
  · by_cases empty : recentMeasurements now ready.rttMeasurements = []
    · exact (averages.of_empty empty).2 announces
    · obtain ⟨_, _, averaged⟩ := averages.of_measured empty
      rw [averaged.minimumRtt] at positive
      exact absurd positive (not_lt.mpr (minimumOf_nonpos _))

theorem mem_recentMeasurements {measurement : RttMeasurement}
    {measurements : List RttMeasurement} :
    measurement ∈ recentMeasurements now measurements ↔
      measurement ∈ measurements ∧ now - measurement.measurementTime ≤ rttAverageInterval := by
  rw [recentMeasurements, List.mem_filter, Bool.not_eq_true', decide_eq_false_iff_not, not_lt]

/-- As long as nothing has been measured within the interval, nothing is announced. -/
theorem MeasuresNothing.step (nothing : MeasuresNothing observed call)
    (before : observed.detection.rttMeasurements = []) :
    (callback observed call).detection.rttMeasurements = [] ∧
      ¬Announces observed (callback observed call) := by
  rcases idle_or_averages observed.detection call with
    ⟨_, _, emitted, idle⟩ | ⟨ready, now, averages⟩
  · exact ⟨idle.rttMeasurements.trans before, not_announces_of_idle idle⟩
  · apply averages.of_empty
    rw [averages.ready_eq.1, before, List.nil_append, List.eq_nil_iff_forall_not_mem]
    intro measurement member
    obtain ⟨new, young⟩ := mem_recentMeasurements.mp member
    cases averages with
    | response lookup positive =>
        simp only [newMeasurements, lookup, positive, if_false, List.mem_singleton] at new
        rw [new] at young
        exact absurd young (not_le.mpr (nothing _ lookup (not_le.mp positive)))
    | results _ _ => cases new

theorem announces_of_measures (measures : ¬MeasuresNothing observed call) :
    Announces observed (callback observed call) := by
  cases call with
  | rttMeasureResponse sequence received now =>
      simp only [MeasuresNothing, not_forall, not_lt] at measures
      obtain ⟨sentAt, lookup, positive, young⟩ := measures
      let measurement : RttMeasurement :=
        { measurementTime := received
          roundTripTime := received - sentAt }
      have averages : Averages observed.detection (.rttMeasureResponse sequence received now)
          (addMeasurement measurement (removeRequest sequence.toUInt32 observed.detection)) now :=
        .response lookup (not_le.mpr positive)
      have left : measurement ∈ recentMeasurements now
          (observed.detection.rttMeasurements ++ [measurement]) :=
        mem_recentMeasurements.mpr
          ⟨List.mem_append_right _ (List.mem_singleton_self measurement), young⟩
      exact (averages.of_measured (List.ne_nil_of_mem left)).1
  | update session now => exact absurd trivial measures
  | bandwidthMeasureResults netCharBandwidth now => exact absurd trivial measures
  | startBandwidthMeasure => exact absurd trivial measures
  | stopBandwidthMeasure => exact absurd trivial measures

end Announcement

/-! ### What is exact -/

section Accounting

variable {observed : Observed} {call : Callback UInt16} {ready : Private} {now : Time}

theorem recentMeasurements_eq (now : Time) (measurements : List RttMeasurement) :
    recentMeasurements now measurements =
      SampleWindow.recent RttMeasurement.measurementTime rttAverageInterval now measurements := by
  apply List.filter_congr
  intro measurement _
  rw [← decide_not]
  exact decide_eq_decide.mpr not_lt

/-- Windows of the measurements that are kept are windows of all that were made, as
long as they are not cut before those that have been cut. -/
structure Accounts (observed : Observed) : Prop where
  sees : ∀ now, (∀ earlier ∈ observed.readings, earlier ≤ now) →
    recentMeasurements now observed.detection.rttMeasurements = window now observed
  once : observed.measured.length + observed.detection.rttRequests.keys.length ≤
    requestCount observed.detection.outputs
  positive : ∀ measurement ∈ observed.measured, 0 < measurement.roundTripTime

theorem Averages.reading (averages : Averages observed.detection call ready now) :
    call.readings.getLast? = some now := by
  cases averages with
  | response _ _ => rfl
  | results _ _ => rfl

theorem newMeasurements_positive {d : Private} :
    ∀ measurement ∈ newMeasurements d call, 0 < measurement.roundTripTime := by
  intro measurement member
  rcases idle_or_averages d call with ⟨_, nothing, _⟩ | ⟨ready, now, averages⟩
  · rw [nothing] at member
    cases member
  · cases averages with
    | response lookup positive =>
        simp only [newMeasurements, lookup, positive, if_false, List.mem_singleton] at member
        rw [member]
        exact not_le.mp positive
    | results _ _ => cases member

theorem afterAverage_rttMeasurements (now : Time) (d : Private) :
    (afterAverage now d).rttMeasurements = recentMeasurements now d.rttMeasurements := by
  by_cases empty : recentMeasurements now d.rttMeasurements = []
  · rw [afterAverage_of_empty empty, empty]
  · obtain ⟨_, averaged, _⟩ := afterAverage_spec empty
    exact averaged.rttMeasurements

/-- What is kept after the averages, in terms of all measurements. -/
theorem Accounts.window_after (accounts : Accounts observed)
    (averages : Averages observed.detection call ready now) {later : Time}
    (order : ∀ earlier ∈ observed.readings, earlier ≤ later) :
    recentMeasurements later ready.rttMeasurements = window later (callback observed call) := by
  have before := accounts.sees later order
  rw [averages.ready_eq.1]
  rw [recentMeasurements_eq, SampleWindow.recent_append, ← recentMeasurements_eq, before]
  exact (SampleWindow.recent_append _ _).symm

theorem requestCount_append (first second : List Output) :
    requestCount (first ++ second) = requestCount first + requestCount second :=
  List.countP_append

theorem afterAverage_counts (now : Time) (d : Private) :
    (afterAverage now d).rttRequests = d.rttRequests ∧
      requestCount d.outputs ≤ requestCount (afterAverage now d).outputs := by
  by_cases empty : recentMeasurements now d.rttMeasurements = []
  · rw [afterAverage_of_empty empty]
    exact ⟨rfl, Nat.le_refl _⟩
  · obtain ⟨_, averaged, _⟩ := afterAverage_spec empty
    rw [averaged.outputs, requestCount_append]
    exact ⟨averaged.rttRequests, Nat.le_add_right _ _⟩

theorem Accounts.step (accounts : Accounts observed) (call : Callback UInt16) :
    Accounts (callback observed call) := by
  have positive : ∀ measurement ∈ (callback observed call).measured,
      0 < measurement.roundTripTime := by
    intro measurement member
    rcases List.mem_append.mp member with earlier | new
    · exact accounts.positive measurement earlier
    · exact newMeasurements_positive measurement new
  have once := accounts.once
  rcases idle_or_averages observed.detection call with
    ⟨_, nothing, emitted, idle⟩ | ⟨ready, now, averages⟩
  · have measured : (callback observed call).measured = observed.measured := by
      rw [callback, nothing, List.append_nil]
    have counted := idle.counted
    have outputs : requestCount (callback observed call).detection.outputs =
        requestCount observed.detection.outputs + requestCount emitted := by
      rw [callback, idle.outputs, requestCount_append]
    refine ⟨?_, ?_, positive⟩
    · intro later order
      have same := accounts.sees later fun earlier member =>
        order earlier (List.mem_append_left _ member)
      rw [window, measured]
      exact (congrArg (recentMeasurements later) idle.rttMeasurements).trans same
    · rw [measured, outputs]
      simp only [callback]
      omega
  · have last : now ∈ call.readings := List.mem_of_getLast? averages.reading
    obtain ⟨table, outputs⟩ := afterAverage_counts now ready
    have counted := averages.counted
    rw [averages.ready_eq.2] at outputs
    refine ⟨?_, ?_, positive⟩
    · intro later order
      have notEarlier := order now (List.mem_append_right _ last)
      rw [callback_detection averages, afterAverage_rttMeasurements,
        recentMeasurements_eq later, recentMeasurements_eq now,
        SampleWindow.recent_recent notEarlier, ← recentMeasurements_eq later]
      exact accounts.window_after averages fun earlier member =>
        order earlier (List.mem_append_left _ member)
    · rw [callback_detection averages, table, callback, List.length_append]
      omega

theorem averageOf_eq (measurements : List RttMeasurement) :
    averageOf measurements =
      SampleWindow.mean (measurements.map RttMeasurement.roundTripTime) := by
  rw [SampleWindow.mean, List.length_map]
  rfl

/-- What is announced is exact but for the minimum. -/
theorem Accounts.announced (accounts : Accounts observed)
    (averages : Averages observed.detection call ready now)
    (order : ∀ earlier ∈ observed.readings, earlier ≤ now)
    (nonempty : recentMeasurements now ready.rttMeasurements ≠ []) :
    WindowExact now (callback observed call) := by
  obtain ⟨_, _, averaged⟩ := averages.of_measured nonempty
  have kept := averaged.rttMeasurements
  have average : (callback observed call).detection.averageRtt =
      SampleWindow.mean (roundTrips (callback observed call).detection) := by
    rw [averaged.averageRtt, averageOf_eq, roundTrips, kept]
  have some : roundTrips (callback observed call).detection ≠ [] := by
    rw [roundTrips, kept]
    simpa using nonempty
  refine ⟨kept.trans (accounts.window_after averages order), (accounts.step call).once, average, ?_⟩
  obtain ⟨shortest, shortestMember, longest, longestMember, bounds⟩ :=
    SampleWindow.exists_bounds some
  refine ⟨shortest, shortestMember, longest, longestMember, bounds, ?_, ?_, ?_⟩
  · obtain ⟨measurement, member, rfl⟩ := List.mem_map.mp shortestMember
    rw [kept, accounts.window_after averages order] at member
    exact (accounts.step call).positive measurement (SampleWindow.mem_recent.mp member).1
  · rw [average]
    exact SampleWindow.le_mean some fun value member => (bounds value member).1
  · rw [average]
    exact SampleWindow.mean_le some fun value member => (bounds value member).2

theorem Accounts.announcesExact (accounts : Accounts observed)
    (clock : ∀ earlier ∈ observed.readings, ∀ reading ∈ call.readings, earlier ≤ reading) :
    AnnouncesExact WindowExact observed call := by
  rcases idle_or_averages observed.detection call with
    ⟨_, _, emitted, idle⟩ | ⟨ready, now, averages⟩
  · exact announcesExact_of_silent WindowExact (not_announces_of_idle idle)
  · have order : ∀ earlier ∈ observed.readings, earlier ≤ now := by
      intro earlier member
      exact clock earlier member now (List.mem_of_getLast? averages.reading)
    by_cases empty : recentMeasurements now ready.rttMeasurements = []
    · exact announcesExact_of_silent WindowExact (averages.of_empty empty).2
    · constructor
      · intro _
        exact ⟨now, averages.reading, accounts.announced averages order empty⟩
      · intro later reading none
        obtain rfl : now = later := Option.some.inj (averages.reading.symm.trans reading)
        rw [← accounts.window_after averages order] at none
        exact absurd none empty

end Accounting

theorem clock_along {calls : List (Callback UInt16)}
    (clock : (calls.flatMap Callback.readings).Pairwise (· ≤ ·)) :
    StepRun.Along callback
      (fun observed call => ∀ earlier ∈ observed.readings, ∀ reading ∈ call.readings,
        earlier ≤ reading) {} calls := by
  apply StepRun.along_of_pairwise Callback.readings Observed.readings
  · intro observed call
    exact List.Subset.refl _
  · exact clock
  · simp

/-- While the clock does not go back, everything announced is exact but for the
minimum, and an empty window leaves the values as they are. -/
theorem statistics_window_exact (calls : List (Callback UInt16))
    (clock : (calls.flatMap Callback.readings).Pairwise (· ≤ ·)) :
    StepRun.Along callback (AnnouncesExact WindowExact) {} calls := by
  apply StepRun.along_of_guarded Accounts ?_ (clock_along clock)
  · intro observed call accounts _
    exact accounts.step call
  · intro observed call accounts goesOn
    exact accounts.announcesExact goesOn
  · refine ⟨?_, Nat.le_refl _, by simp⟩
    intro now _
    rfl

/-- Every announcement is exact if and only if there is none: no response has a
positive round trip that is still in the window when the averages are taken. -/
theorem statistics_exact_iff (calls : List (Callback UInt16)) :
    StepRun.Along callback (AnnouncesExact StatisticsExact) {} calls ↔
      StepRun.Along callback MeasuresNothing {} calls := by
  have unguarded : StepRun.Along callback (fun _ _ => True) {} calls :=
    StepRun.along_of_forall (fun _ _ => trivial) _ calls
  apply StepRun.along_iff_along (fun observed => observed.detection.rttMeasurements = []) rfl
    unguarded
  · intro observed call before _ nothing
    exact (nothing.step before).1
  · intro observed call before _
    constructor
    · intro exact
      by_contra measures
      exact not_exact_of_announces (announces_of_measures measures) exact
    · intro nothing
      exact announcesExact_of_silent StatisticsExact (nothing.step before).2

/-- A response after 5 ms: the minimum is announced as 0. -/
theorem statistics_exact_fails :
    let calls : List (Callback UInt16) :=
      [.update .streaming (1000 * millisecond),
        .rttMeasureResponse 1 (1005 * millisecond) (1005 * millisecond)]
    (calls.flatMap Callback.readings).Pairwise (· ≤ ·) ∧
      (StepRun.run callback {} calls).detection.rttMeasurements =
        [{ measurementTime := 1005 * millisecond, roundTripTime := 5 * millisecond }] ∧
      (StepRun.run callback {} calls).detection.minimumRtt = 0 ∧
      ¬∀ calls : List (Callback UInt16), (calls.flatMap Callback.readings).Pairwise (· ≤ ·) →
        StepRun.Along callback (AnnouncesExact StatisticsExact) {} calls := by
  intro calls
  have clock : (calls.flatMap Callback.readings).Pairwise (· ≤ ·) := by decide
  refine ⟨clock, by decide +kernel, by decide +kernel, ?_⟩
  intro exact
  have announces : Announces (StepRun.run callback {} (calls.take 1))
      (StepRun.run callback {} calls) := by
    unfold Announces
    decide +kernel
  exact not_exact_of_announces announces (exact calls clock).2.1

end NetworkDetection

end KRdp
