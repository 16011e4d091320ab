/-
Round-trip and bandwidth measurements of a connection.

Sequence numbers count in 32 bits and key the outstanding requests; the messages
carry 16 bits of them.  Times are nanoseconds since the epoch and stay within 64
bits, so they are unbounded integers here.  A search for a sequence number that
finds none never returns, which is `none`.
-/

import KRdp.Library.Search
import KRdp.RdpConnection.State
import Mathlib.Data.List.AList
import Mathlib.Data.UInt

namespace KRdp

namespace NetworkDetection

abbrev Time := Int

def millisecond : Time := 1000000
def rttUpdateInterval : Time := 70 * millisecond
def rttAverageInterval : Time := 500 * millisecond
def networkResultInterval : Time := 1000 * millisecond

/-- What `std::numeric_limits` answers for a duration, a type it has no limits for:
the default value of the type. -/
def maximumDuration : Time := 0

inductive State where
  | none
  | pendingStop
  | queuedStop
  | pendingResults
  deriving DecidableEq, Repr

structure RttMeasurement where
  measurementTime : Time
  roundTripTime : Time
  deriving DecidableEq, Repr

/-- A result of the type with base round trip, bandwidth and average. -/
structure NetworkCharacteristicsResult where
  baseRTT : UInt32
  averageRTT : UInt32
  bandwidth : UInt32
  deriving DecidableEq, Repr

inductive Output where
  | rttMeasureRequest (sequence : UInt16)
  | networkCharacteristicsResult (sequence : UInt16) (result : NetworkCharacteristicsResult)
  | bandwidthMeasureStart (sequence : UInt16)
  | bandwidthMeasureStop (sequence : UInt16)
  | rttChanged
  deriving DecidableEq, Repr

structure Private where
  state : State := .none
  sequenceNumber : UInt32 := 0
  lastBandwithMeasurement : UInt32 := 0
  lastRttUpdate : Time := 0
  rttRequests : AList (fun _ : UInt32 => Time) := ∅
  rttMeasurements : List RttMeasurement := []
  minimumRtt : Time := 0
  averageRtt : Time := 0
  lastNetworkResult : Time := 0
  outputs : List Output := []

def emit (output : Output) (d : Private) : Private :=
  { d with outputs := d.outputs ++ [output] }

def insertRequest (sequence : UInt32) (now : Time) (d : Private) : Private :=
  { d with rttRequests := d.rttRequests.insert sequence now }

def removeRequest (sequence : UInt32) (d : Private) : Private :=
  { d with rttRequests := d.rttRequests.erase sequence }

def countFrom (sequence : UInt32) (d : Private) : Private :=
  { d with sequenceNumber := sequence }

def noteUpdate (now : Time) (d : Private) : Private := { d with lastRttUpdate := now }

def noteNetworkResult (now : Time) (d : Private) : Private :=
  { d with lastNetworkResult := now }

/-! ### Sequence numbers -/

def isFree (d : Private) (sequence : UInt32) : Bool :=
  !(sequence == 0 || decide (sequence ∈ d.rttRequests))

/-- The loop looks at each number in turn.  One more number than zero and the
taken ones are enough to meet a free one. -/
def nextSequenceNumber (d : Private) : Option (UInt32 × Private) :=
  (BoundedSearch.search (· + 1) (isFree d) (d.rttRequests.keys.length + 2)
    d.sequenceNumber).map fun sequence => (sequence, countFrom (sequence + 1) d)

/-! ### Measurements -/

def startBandwidthMeasure (d : Private) : Private :=
  if d.state != .none then d
  else emit (.bandwidthMeasureStart 0) { d with state := .pendingStop }

def stopBandwidthMeasure (d : Private) : Private :=
  if d.state != .pendingStop then d
  else emit (.bandwidthMeasureStop 0) { d with state := .pendingResults }

/-- Requests go out at most once in an interval, and only while streaming. -/
def update (session : RdpConnection.State) (now : Time) (d : Private) : Option Private :=
  if session != .streaming then some d
  else if now - d.lastRttUpdate < rttUpdateInterval then some d
  else do
    let (sequence, counted) ← nextSequenceNumber (noteUpdate now d)
    some (emit (.rttMeasureRequest sequence.toUInt16) (insertRequest sequence now counted))

def recentMeasurements (now : Time) (measurements : List RttMeasurement) :
    List RttMeasurement :=
  measurements.filter fun measurement =>
    !(now - measurement.measurementTime > rttAverageInterval)

def minimumOf (measurements : List RttMeasurement) : Time :=
  measurements.foldl (fun minimum measurement => min minimum measurement.roundTripTime)
    maximumDuration

def averageOf (measurements : List RttMeasurement) : Time :=
  (measurements.map RttMeasurement.roundTripTime).sum / measurements.length

def toMilliseconds (duration : Time) : UInt32 :=
  UInt32.ofInt (duration.tdiv millisecond)

def noteAverages (recent : List RttMeasurement) (d : Private) : Private :=
  { d with
    rttMeasurements := recent
    minimumRtt := minimumOf recent
    averageRtt := averageOf recent }

def networkResult (d : Private) : NetworkCharacteristicsResult :=
  { baseRTT := toMilliseconds d.minimumRtt
    averageRTT := toMilliseconds d.averageRtt
    bandwidth := d.lastBandwithMeasurement }

/-- A network result also takes a sequence number. -/
def updateAverageRtt (now : Time) (d : Private) : Option Private :=
  let recent := recentMeasurements now d.rttMeasurements
  if recent.isEmpty then some { d with rttMeasurements := recent }
  else
    let averaged := emit .rttChanged (noteAverages recent d)
    if averaged.lastBandwithMeasurement < 0 then some averaged
    else if now - averaged.lastNetworkResult < networkResultInterval then some averaged
    else do
      let (sequence, counted) ← nextSequenceNumber (noteNetworkResult now averaged)
      some (emit (.networkCharacteristicsResult sequence.toUInt16 (networkResult counted))
        counted)

def addMeasurement (measurement : RttMeasurement) (d : Private) : Private :=
  { d with rttMeasurements := d.rttMeasurements ++ [measurement] }

/-- What happens to a response once its request is found: the entry is removed
and the round trip from its send time is recorded. -/
def completeRequest (key : UInt32) (sentAt received now : Time) (d : Private) :
    Option Private :=
  let taken := removeRequest key d
  let roundTripTime := received - sentAt
  if roundTripTime ≤ 0 then some taken
  else
    updateAverageRtt now
      (addMeasurement
        { measurementTime := received
          roundTripTime := roundTripTime } taken)

/-- The two clock readings are the one of the response and the one of the
average. -/
def onRttMeasureResponse (sequence : UInt16) (received now : Time) (d : Private) :
    Option Private :=
  match d.rttRequests.lookup sequence.toUInt32 with
  | none => some d
  | some sentAt => completeRequest sequence.toUInt32 sentAt received now d

def onBandwidthMeasureResults (netCharBandwidth : UInt32) (now : Time) (d : Private) :
    Option Private :=
  if d.state != .pendingResults then some d
  else
    let idle := { d with state := .none }
    if netCharBandwidth ≤ 0 then some idle
    else updateAverageRtt now { idle with lastBandwithMeasurement := netCharBandwidth }

/-! ### Calls -/

/-- The calls of a connection.  A response tells which request it is for: with the
number on the wire when it reaches the detection. -/
inductive Callback (Response : Type) where
  | update (session : RdpConnection.State) (now : Time)
  | rttMeasureResponse (response : Response) (received now : Time)
  | bandwidthMeasureResults (netCharBandwidth : UInt32) (now : Time)
  | startBandwidthMeasure
  | stopBandwidthMeasure
  deriving DecidableEq, Repr

def performCallback (d : Private) : Callback UInt16 → Option Private
  | .update session now => update session now d
  | .rttMeasureResponse sequence received now => onRttMeasureResponse sequence received now d
  | .bandwidthMeasureResults netCharBandwidth now =>
      onBandwidthMeasureResults netCharBandwidth now d
  | .startBandwidthMeasure => some (startBandwidthMeasure d)
  | .stopBandwidthMeasure => some (stopBandwidthMeasure d)

end NetworkDetection

end KRdp
