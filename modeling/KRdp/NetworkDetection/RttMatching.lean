/-
Round-trip requests against the client's answers.

The client echoes the 16-bit number of a request, in any order.  The numbers
stay 16-bit for as long as a free one is left below the limit; from then on the
key and the number on the wire differ for good, and the answer finds no entry
or that of another request.
-/

import KRdp.Library.Run
import KRdp.NetworkDetection.SequenceNumbers

namespace KRdp

namespace NetworkDetection

/-- A request that the client has not answered: the number it received, and the
key and send time it stands for. -/
structure Request where
  wire : UInt16
  key : UInt32
  sentAt : Time
  deriving DecidableEq, Repr

structure World where
  detection : Private := {}
  client : List Request := []

/-- The requests among the new messages; their key is the number used last. -/
def requestsSent (before after : Private) (now : Time) : List Request :=
  (after.outputs.drop before.outputs.length).filterMap fun output =>
    match output with
    | .rttMeasureRequest sequence =>
        some { wire := sequence, key := after.sequenceNumber - 1, sentAt := now }
    | _ => none

/-- The call as the detection gets it: an answer is named by its index among the
unanswered requests, and carries the number that the client received. -/
def DetectionCall.onWire (client : List Request) : DetectionCall Nat →
    Option (DetectionCall UInt16)
  | .callback (.update session now) => some (.callback (.update session now))
  | .callback (.rttMeasureResponse index received now) =>
      client[index]?.map fun request =>
        .callback (.rttMeasureResponse request.wire received now)
  | .callback (.bandwidthMeasureResults netCharBandwidth now) =>
      some (.callback (.bandwidthMeasureResults netCharBandwidth now))
  | .callback .startBandwidthMeasure => some (.callback .startBandwidthMeasure)
  | .callback .stopBandwidthMeasure => some (.callback .stopBandwidthMeasure)
  | .updateAverageRtt now => some (.updateAverageRtt now)

/-- The unanswered requests once the call has returned. -/
def clientAfter (before after : Private) (client : List Request) : DetectionCall Nat →
    List Request
  | .callback (.update _ now) => client ++ requestsSent before after now
  | .callback (.rttMeasureResponse index _ _) => client.eraseIdx index
  | .callback (.bandwidthMeasureResults _ _) => client
  | .callback .startBandwidthMeasure => client
  | .callback .stopBandwidthMeasure => client
  | .updateAverageRtt _ => client

/-- A call that never returns leaves the world as it is. -/
def step (world : World) (call : DetectionCall Nat) : World :=
  match (call.onWire world.client).bind (perform world.detection) with
  | none => world
  | some after =>
      { detection := after
        client := clientAfter world.detection after world.client call }

/-- The answer to the request finds the request's own entry, whenever it comes. -/
def AnswersOwn (d : Private) (request : Request) : Prop :=
  d.rttRequests.lookup request.key = some request.sentAt ∧
    ∀ received now, onRttMeasureResponse request.wire received now d =
      completeRequest request.key request.sentAt received now d

structure Matched (world : World) : Prop where
  nonzero : ∀ request ∈ world.client, request.wire ≠ 0
  distinct : (world.client.map Request.wire).Nodup
  answers : ∀ request ∈ world.client, AnswersOwn world.detection request

/-- A number below the limit is left from the counter on. -/
def NumberLeft (d : Private) : Prop :=
  ∃ number : UInt32, d.sequenceNumber ≤ number ∧ number.toNat < 2 ^ 16 ∧ number ≠ 0 ∧
    number ∉ d.rttRequests

def sends (session : RdpConnection.State) (now : Time) (d : Private) : Bool :=
  session == .streaming && !(now - d.lastRttUpdate < rttUpdateInterval)

def StaysShort (world : World) : DetectionCall Nat → Prop
  | .callback (.update session now) =>
      sends session now world.detection = true → NumberLeft world.detection
  | _ => True

/-! ### The search for a number -/

def ShortKeys (d : Private) : Prop := ∀ key ∈ d.rttRequests, key.toNat < 2 ^ 16

theorem keys_length_le {d : Private} (short : ShortKeys d) :
    d.rttRequests.keys.length ≤ 2 ^ 16 := by
  have distinct : (d.rttRequests.keys.map UInt32.toNat).Nodup :=
    d.rttRequests.keys_nodup.map fun _ _ same => UInt32.toNat_inj.mp same
  have inside : d.rttRequests.keys.map UInt32.toNat ⊆ List.range (2 ^ 16) := by
    intro number member
    obtain ⟨key, keyMember, rfl⟩ := List.mem_map.mp member
    exact List.mem_range.mpr (short key (AList.mem_keys.mpr keyMember))
  have bound := (List.Nodup.subperm distinct inside).length_le
  rwa [List.length_map, List.length_range] at bound

theorem exists_free_of_short {d : Private} (short : ShortKeys d) :
    ∃ number, isFree d number = true := by
  have few := keys_length_le short
  exact exists_free_of_few (by omega)

/-- While all keys are short, the search ends, and it ends on a short number
exactly when one is left. -/
theorem nextSequenceNumber_spec {d : Private} (short : ShortKeys d) :
    ∃ key, nextSequenceNumber d = some (key, countFrom (key + 1) d) ∧
      key ≠ 0 ∧ key ∉ d.rttRequests ∧ (key.toNat < 2 ^ 16 ↔ NumberLeft d) := by
  have few := keys_length_le short
  have startLt := d.sequenceNumber.toNat_lt
  obtain ⟨key, keyEq⟩ := search_finds (exists_free_of_short short)
  obtain ⟨count, inside, reached, keyFree, before⟩ :=
    (BoundedSearch.search_eq_some_iff _ _ _).mp keyEq
  obtain ⟨nonzero, fresh⟩ := (isFree_iff d key).mp keyFree
  have keyNat : key.toNat = (d.sequenceNumber.toNat + count) % 2 ^ 32 := by
    rw [← reached, iterate_succ_toNat]
  refine ⟨key, by rw [nextSequenceNumber, keyEq]; rfl, nonzero, fresh, ?_⟩
  constructor
  · intro keyShort
    refine ⟨key, ?_, keyShort, nonzero, fresh⟩
    rw [UInt32.le_iff_toNat_le]
    by_contra wrapped
    -- A wrap passes the largest number, which no short key can take.
    have largest := before (2 ^ 32 - 1 - d.sequenceNumber.toNat) (by omega)
    rw [← Bool.not_eq_true, isFree_iff, not_and_or] at largest
    have largestNat : ((· + 1)^[2 ^ 32 - 1 - d.sequenceNumber.toNat]
        d.sequenceNumber).toNat = 2 ^ 32 - 1 := by
      rw [iterate_succ_toNat]
      omega
    rcases largest with isZero | taken
    · rw [not_not.mp isZero] at largestNat
      cases largestNat
    · have := short _ (not_not.mp taken)
      omega
  · rintro ⟨number, above, numberShort, numberNonzero, numberFresh⟩
    rw [UInt32.le_iff_toNat_le] at above
    have notEarlier : ¬number.toNat - d.sequenceNumber.toNat < count := by
      intro earlier
      have taken := before _ earlier
      have same : (· + 1)^[number.toNat - d.sequenceNumber.toNat] d.sequenceNumber = number := by
        apply UInt32.toNat_inj.mp
        rw [iterate_succ_toNat]
        omega
      rw [same, (isFree_iff d number).mpr ⟨numberNonzero, numberFresh⟩] at taken
      cases taken
    omega

/-! ### What the calls do to the requests -/

theorem update_idle {session : RdpConnection.State} {now : Time} {d : Private}
    (idle : sends session now d = false) : update session now d = some d := by
  simp only [update]
  cases session with
  | streaming =>
      have early : now - d.lastRttUpdate < rttUpdateInterval := by simpa [sends] using idle
      simp [early]
  | initial => rfl
  | starting => rfl
  | running => rfl
  | closed => rfl

theorem update_sends {session : RdpConnection.State} {now : Time} {d : Private}
    (sending : sends session now d = true) (short : ShortKeys d) :
    ∃ key after, update session now d = some after ∧
      after.rttRequests = d.rttRequests.insert key now ∧
      requestsSent d after now = [{ wire := key.toUInt16, key := key, sentAt := now }] ∧
      key ≠ 0 ∧ key ∉ d.rttRequests ∧ (key.toNat < 2 ^ 16 ↔ NumberLeft d) := by
  have shortAfter : ShortKeys (noteUpdate now d) := short
  obtain ⟨key, next, nonzero, fresh, left⟩ := nextSequenceNumber_spec shortAfter
  simp only [sends, Bool.and_eq_true, beq_iff_eq, Bool.not_eq_true', decide_eq_false_iff_not]
    at sending
  obtain ⟨rfl, due⟩ := sending
  refine ⟨key, emit (.rttMeasureRequest key.toUInt16)
    (insertRequest key now (countFrom (key + 1) (noteUpdate now d))), ?_, rfl, ?_, nonzero, fresh,
    left⟩
  · simp only [update, bne_self_eq_false, Bool.false_eq_true, if_false, due, next]
    rfl
  · simp [requestsSent, emit, insertRequest, countFrom, noteUpdate]

/-! ### The invariant -/

/-- The client's numbers are the low halves of short keys of the server. -/
structure Paired (world : World) : Prop where
  short : ShortKeys world.detection
  entries : ∀ request ∈ world.client,
    world.detection.rttRequests.lookup request.key = some request.sentAt
  wires : ∀ request ∈ world.client, request.wire = request.key.toUInt16
  nonzero : ∀ request ∈ world.client, request.key ≠ 0
  distinct : (world.client.map Request.key).Nodup

theorem toUInt32_toUInt16 {key : UInt32} (short : key.toNat < 2 ^ 16) :
    key.toUInt16.toUInt32 = key := by
  apply UInt32.toNat_inj.mp
  rw [UInt16.toNat_toUInt32, UInt32.toNat_toUInt16, Nat.mod_eq_of_lt short]

theorem Paired.toUInt32_wire {world : World} (paired : Paired world) {request : Request}
    (member : request ∈ world.client) : request.wire.toUInt32 = request.key := by
  rw [paired.wires request member]
  apply toUInt32_toUInt16
  apply paired.short
  rw [← AList.lookup_isSome, paired.entries request member]
  rfl

theorem Paired.matched {world : World} (paired : Paired world) : Matched world := by
  refine ⟨?_, ?_, ?_⟩
  · intro request member isZero
    apply paired.nonzero request member
    rw [← paired.toUInt32_wire member, isZero]
    rfl
  · have keys : (world.client.map Request.wire).map UInt16.toUInt32 =
        world.client.map Request.key := by
      rw [List.map_map]
      exact List.map_congr_left fun request member => paired.toUInt32_wire member
    exact List.Nodup.of_map UInt16.toUInt32 (keys ▸ paired.distinct)
  · intro request member
    refine ⟨paired.entries request member, ?_⟩
    intro received now
    rw [onRttMeasureResponse, paired.toUInt32_wire member, paired.entries request member]

theorem Paired.of_rttRequests {world : World} (paired : Paired world) {d : Private}
    (same : d.rttRequests = world.detection.rttRequests) :
    Paired { world with detection := d } := by
  obtain ⟨short, entries, wires, nonzero, distinct⟩ := paired
  refine ⟨?_, ?_, wires, nonzero, distinct⟩
  · unfold ShortKeys
    rw [same]
    exact short
  · rw [same]
    exact entries

/-- The step of a call that returns. -/
theorem step_eq {world : World} (call : DetectionCall Nat) {onWire : DetectionCall UInt16}
    {after : Private} (named : call.onWire world.client = some onWire)
    (returned : perform world.detection onWire = some after) :
    step world call =
      { detection := after
        client := clientAfter world.detection after world.client call } := by
  simp only [step, named, Option.bind_some, returned]

theorem step_update {world : World} {session : RdpConnection.State} {now : Time}
    {after : Private} (returned : update session now world.detection = some after) :
    step world (.callback (.update session now)) =
      { detection := after
        client := world.client ++ requestsSent world.detection after now } :=
  step_eq (.callback (.update session now)) rfl returned

theorem paired_update {world : World} (paired : Paired world) {session : RdpConnection.State}
    {now : Time} (short : StaysShort world (.callback (.update session now))) :
    Paired (step world (.callback (.update session now))) := by
  cases sending : sends session now world.detection with
  | false =>
      rw [step_update (update_idle sending)]
      simpa [requestsSent] using paired
  | true =>
      obtain ⟨key, after, updated, requests, sent, keyNonzero, fresh, left⟩ :=
        update_sends sending paired.short
      have keyShort := left.mpr (short sending)
      have otherKey (request : Request) (member : request ∈ world.client) :
          request.key ≠ key := by
        rintro rfl
        apply fresh
        rw [← AList.lookup_isSome, paired.entries request member]
        rfl
      rw [step_update updated, sent]
      refine ⟨?_, ?_, ?_, ?_, ?_⟩
      · intro other member
        rw [requests, AList.mem_insert] at member
        rcases member with rfl | old
        · exact keyShort
        · exact paired.short other old
      · rw [List.forall_mem_append, List.forall_mem_singleton, requests]
        refine ⟨?_, AList.lookup_insert _⟩
        intro request member
        rw [AList.lookup_insert_ne (otherKey request member)]
        exact paired.entries request member
      · rw [List.forall_mem_append, List.forall_mem_singleton]
        exact ⟨paired.wires, rfl⟩
      · rw [List.forall_mem_append, List.forall_mem_singleton]
        exact ⟨paired.nonzero, keyNonzero⟩
      · rw [List.map_append, List.nodup_append]
        refine ⟨paired.distinct, List.nodup_singleton _, ?_⟩
        intro first firstMember second secondMember
        obtain ⟨request, member, rfl⟩ := List.mem_map.mp firstMember
        rw [List.mem_singleton.mp secondMember]
        exact otherKey request member

theorem paired_answer {world : World} (paired : Paired world) (index : Nat)
    (received now : Time) :
    Paired (step world (.callback (.rttMeasureResponse index received now))) := by
  simp only [step, DetectionCall.onWire]
  cases found : world.client[index]? with
  | none => exact paired
  | some request =>
    simp only [Option.map_some, Option.bind_some, perform, performCallback]
    split
    · exact paired
    · rename_i answered returned
      obtain ⟨inside, requestEq⟩ := List.getElem?_eq_some_iff.mp found
      have member := List.mem_of_getElem? found
      rw [(paired.matched.answers request member).2 received now] at returned
      have requests := completeRequest_rttRequests returned
      have remaining {other : Request} (left : other ∈ world.client.eraseIdx index) :
          other ∈ world.client := List.mem_of_mem_eraseIdx left
      have otherKey {other : Request} (left : other ∈ world.client.eraseIdx index) :
          other.key ≠ request.key := by
        obtain ⟨position, positionInside, different, rfl⟩ :=
          List.mem_eraseIdx_iff_getElem.mp left
        intro same
        rw [← requestEq, ← List.getElem_map Request.key (h := by simpa using positionInside),
          ← List.getElem_map Request.key (h := by simpa using inside)] at same
        exact different ((List.Nodup.getElem_inj_iff paired.distinct).mp same)
      refine ⟨?_, ?_, fun other left => paired.wires other (remaining left),
        fun other left => paired.nonzero other (remaining left), ?_⟩
      · intro key keyMember
        rw [requests, AList.mem_erase] at keyMember
        exact paired.short key keyMember.2
      · intro other left
        rw [requests, AList.lookup_erase_ne (otherKey left)]
        exact paired.entries other (remaining left)
      · exact paired.distinct.sublist ((List.eraseIdx_sublist _ _).map Request.key)

/-- A call that leaves the table and the client as they are. -/
theorem Paired.of_kept {world : World} (paired : Paired world) (call : DetectionCall Nat)
    {onWire : DetectionCall UInt16} (named : call.onWire world.client = some onWire)
    (same : ∀ after, perform world.detection onWire = some after →
      after.rttRequests = world.detection.rttRequests)
    (client : ∀ after, clientAfter world.detection after world.client call = world.client) :
    Paired (step world call) := by
  cases returned : perform world.detection onWire with
  | none =>
      simp only [step, named, Option.bind_some, returned]
      exact paired
  | some after =>
      rw [step_eq call named returned, client]
      exact paired.of_rttRequests (same after returned)

theorem paired_step {world : World} {call : DetectionCall Nat} (paired : Paired world)
    (short : StaysShort world call) : Paired (step world call) := by
  cases call with
  | callback call =>
      cases call with
      | update session now => exact paired_update paired short
      | rttMeasureResponse index received now => exact paired_answer paired index received now
      | bandwidthMeasureResults netCharBandwidth now =>
          exact paired.of_kept (.callback (.bandwidthMeasureResults netCharBandwidth now)) rfl
            (fun _ => onBandwidthMeasureResults_rttRequests) fun _ => rfl
      | startBandwidthMeasure =>
          refine paired.of_kept (.callback .startBandwidthMeasure) rfl ?_ fun _ => rfl
          intro after returned
          rw [← Option.some.inj returned]
          exact startBandwidthMeasure_rttRequests world.detection
      | stopBandwidthMeasure =>
          refine paired.of_kept (.callback .stopBandwidthMeasure) rfl ?_ fun _ => rfl
          intro after returned
          rw [← Option.some.inj returned]
          exact stopBandwidthMeasure_rttRequests world.detection
  | updateAverageRtt now =>
      exact paired.of_kept (.updateAverageRtt now) rfl
        (fun _ => updateAverageRtt_rttRequests) fun _ => rfl

/-- A request with a long key does not get its own answer. -/
theorem unmatched_of_long {world : World} {call : DetectionCall Nat} (paired : Paired world)
    (long : ¬StaysShort world call) : ¬Matched (step world call) := by
  cases call with
  | updateAverageRtt _ => exact absurd trivial long
  | callback call =>
    cases call with
    | rttMeasureResponse _ _ _ => exact absurd trivial long
    | bandwidthMeasureResults _ _ => exact absurd trivial long
    | startBandwidthMeasure => exact absurd trivial long
    | stopBandwidthMeasure => exact absurd trivial long
    | update session now =>
      obtain ⟨sending, noneLeft⟩ := Classical.not_imp.mp long
      obtain ⟨key, after, updated, requests, sent, _, _, left⟩ :=
        update_sends sending paired.short
      have keyLong : ¬key.toNat < 2 ^ 16 := fun short => noneLeft (left.mp short)
      have otherKey : key ≠ key.toUInt16.toUInt32 := by
        intro same
        apply keyLong
        rw [same, UInt16.toNat_toUInt32]
        exact key.toUInt16.toNat_lt
      have present : key ∈ after.rttRequests := by
        rw [requests, AList.mem_insert]
        exact .inl rfl
      intro matched
      rw [step_update updated, sent] at matched
      obtain ⟨_, answered⟩ := matched.answers _
        (List.mem_append_right world.client (List.mem_singleton_self _))
      -- Answered at the send time, the round trip is dropped and only the entry matters.
      have removed : completeRequest key now now now after = some (removeRequest key after) := by
        simp [completeRequest]
      have same := (answered now now).trans removed
      have kept : key ∈ (removeRequest key after).rttRequests := by
        simp only [onRttMeasureResponse] at same
        split at same
        · rw [← Option.some.inj same]
          exact present
        · rw [completeRequest_rttRequests same, AList.mem_erase]
          exact ⟨otherKey, present⟩
      exact (AList.mem_erase.mp kept).1 rfl

/-- Requests and answers are matched throughout a run exactly when every request
is sent while a 16-bit number is left from the counter on. -/
theorem rttMatched_iff (calls : List (DetectionCall Nat)) :
    StepRun.Always step Matched {} calls ↔ StepRun.Along step StaysShort {} calls :=
  StepRun.always_iff_along Paired calls
    ⟨nofun, nofun, nofun, nofun, List.nodup_nil⟩
    (fun _ _ paired short => paired_step paired short)
    (fun _ paired => paired.matched)
    (fun _ _ paired long => unmatched_of_long paired long)

/-! ### A long session -/

def exchange (index : Nat) : List (DetectionCall Nat) :=
  let now := rttUpdateInterval * (index + 1)
  [.callback (.update .streaming now), .callback (.rttMeasureResponse 0 now now)]

/-- After a number of exchanges nothing is outstanding, and each has taken one
number. -/
structure Exchanged (count : Nat) (world : World) : Prop where
  client : world.client = []
  requests : world.detection.rttRequests = ∅
  lastUpdate : world.detection.lastRttUpdate = rttUpdateInterval * count
  counter : world.detection.sequenceNumber = 0 ∧ count = 0 ∨
    world.detection.sequenceNumber = UInt32.ofNat (count + 1)

theorem Exchanged.request {count : Nat} {world : World} (exchanged : Exchanged count world)
    (small : count + 1 < 2 ^ 32) :
    let now := rttUpdateInterval * (count + 1)
    let key := UInt32.ofNat (count + 1)
    step world (.callback (.update .streaming now)) =
      { detection := emit (.rttMeasureRequest key.toUInt16)
          (insertRequest key now (countFrom (key + 1) (noteUpdate now world.detection)))
        client := [{ wire := key.toUInt16, key := key, sentAt := now }] } := by
  intro now key
  obtain ⟨client, requests, lastUpdate, counter⟩ := exchanged
  have keyNonzero : key ≠ 0 := by
    intro isZero
    have numbers := congrArg UInt32.toNat isZero
    rw [UInt32.toNat_ofNat', Nat.mod_eq_of_lt small] at numbers
    cases numbers
  have free (number : UInt32) : isFree (noteUpdate now world.detection) number =
      (number != 0) := by
    simp [isFree, noteUpdate, requests, bne]
  have next : nextSequenceNumber (noteUpdate now world.detection) =
      some (key, countFrom (key + 1) (noteUpdate now world.detection)) := by
    have few : (noteUpdate now world.detection).rttRequests.keys.length = 0 := by
      simp [noteUpdate, requests]
    have start : (noteUpdate now world.detection).sequenceNumber =
        world.detection.sequenceNumber := rfl
    rw [nextSequenceNumber, few, start]
    rcases counter with ⟨counterEq, rfl⟩ | counterEq
    · simp [BoundedSearch.search, counterEq, free, key]
    · rw [counterEq, BoundedSearch.search, free, if_pos (bne_iff_ne.mpr keyNonzero)]
      rfl
  have due : ¬now - world.detection.lastRttUpdate < rttUpdateInterval := by
    rw [lastUpdate, ← Int.mul_sub]
    simp
  have updated : update .streaming now world.detection =
      some (emit (.rttMeasureRequest key.toUInt16)
        (insertRequest key now (countFrom (key + 1) (noteUpdate now world.detection)))) := by
    simp only [update, bne_self_eq_false, Bool.false_eq_true, if_false, due, next]
    rfl
  rw [step_update updated]
  simp [client, requestsSent, emit, insertRequest, countFrom, noteUpdate]

theorem answer_at_send {key : UInt32} (short : key.toNat < 2 ^ 16) {sentAt : Time}
    {d : Private} (found : d.rttRequests.lookup key = some sentAt) (now : Time) :
    onRttMeasureResponse key.toUInt16 sentAt now d = some (removeRequest key d) := by
  rw [onRttMeasureResponse, toUInt32_toUInt16 short, found]
  simp [completeRequest]

theorem exchanged_exchange {count : Nat} {world : World} (exchanged : Exchanged count world)
    (small : count + 1 < 2 ^ 16) :
    Exchanged (count + 1) (StepRun.run step world (exchange count)) := by
  have keyShort : (UInt32.ofNat (count + 1)).toNat < 2 ^ 16 := by
    rw [UInt32.toNat_ofNat', Nat.mod_eq_of_lt (by omega)]
    exact small
  have requests := exchanged.requests
  simp only [exchange, StepRun.run_cons, StepRun.run_nil,
    exchanged.request (Nat.lt_trans small (by decide))]
  have found (key : UInt32) (now : Time) : (emit (.rttMeasureRequest key.toUInt16)
      (insertRequest key now (countFrom (key + 1)
        (noteUpdate now world.detection)))).rttRequests.lookup key = some now :=
    AList.lookup_insert _
  simp only [step, DetectionCall.onWire, List.getElem?_cons_zero, Option.map_some,
    Option.bind_some, perform, performCallback, answer_at_send keyShort (found _ _)]
  refine ⟨rfl, ?_, ?_, .inr ?_⟩
  · have inserted (key : UInt32) (now : Time) :
        (world.detection.rttRequests.insert key now).erase key = ∅ := by
      rw [requests, AList.insert_empty]
      exact AList.ext (List.kerase_cons_eq rfl)
    exact inserted _ _
  · simp [removeRequest, emit, insertRequest, countFrom, noteUpdate]
  · rw [UInt32.ofNat_add (count + 1) 1]
    rfl

theorem exchanged_run (count : Nat) (small : count < 2 ^ 16) :
    Exchanged count (StepRun.run step {} ((List.range count).flatMap exchange)) := by
  induction count with
  | zero => exact ⟨rfl, rfl, rfl, .inl ⟨rfl, rfl⟩⟩
  | succ count ih =>
      rw [List.range_succ, List.flatMap_append, StepRun.run_append, List.flatMap_singleton]
      exact exchanged_exchange (ih (Nat.lt_of_succ_lt small)) small

/-- The request after 65535 answered ones goes out with the number zero. -/
theorem rttMatched_fails :
    ¬StepRun.Always step Matched {} ((List.range (2 ^ 16 - 1)).flatMap exchange ++
      [.callback (.update .streaming (rttUpdateInterval * 2 ^ 16))]) := by
  refine mt StepRun.Always.at_end ?_
  rw [StepRun.run_append, StepRun.run_cons, StepRun.run_nil]
  have request := (exchanged_run (2 ^ 16 - 1) (by decide)).request (by decide)
  have last : rttUpdateInterval * (((2 ^ 16 - 1 : Nat) : Int) + 1) =
      rttUpdateInterval * 2 ^ 16 := by
    rfl
  rw [last] at request
  rw [request]
  intro matched
  exact matched.nonzero _ (List.mem_singleton_self _) (by decide)

end NetworkDetection

end KRdp
