/-
Numbers for the requests of a connection.

The search steps through the 32-bit numbers, wraps around and skips zero and the
outstanding keys.  It stops at the number that is nearest to the counter in the
direction of counting, so with a free number left every call returns and a new
request never takes the key of an outstanding one.
-/

import KRdp.Library.Run
import KRdp.NetworkDetection.Detection

namespace KRdp

namespace NetworkDetection

/-! ### Counting in 32 bits -/

theorem iterate_succ_toNat (start : UInt32) (count : Nat) :
    ((· + 1)^[count] start).toNat = (start.toNat + count) % 2 ^ 32 := by
  induction count with
  | zero => exact (Nat.mod_eq_of_lt start.toNat_lt).symm
  | succ count ih =>
      rw [Function.iterate_succ_apply', UInt32.toNat_add, ih]
      have one : (1 : UInt32).toNat = 1 := rfl
      omega

theorem iterates_nodup (start : UInt32) (limit : Nat) (short : limit ≤ 2 ^ 32) :
    ((List.range limit).map fun count => (· + 1)^[count] start).Nodup := by
  refine List.Nodup.map_on ?_ List.nodup_range
  intro first firstMember second secondMember same
  rw [List.mem_range] at firstMember secondMember
  have numbers := congrArg UInt32.toNat same
  rw [iterate_succ_toNat, iterate_succ_toNat] at numbers
  have := start.toNat_lt
  omega

/-- How many steps of counting lie between two numbers. -/
def distance (start number : UInt32) : Nat := (number - start).toNat

theorem toNat_eq_distance (start number : UInt32) :
    number.toNat = (start.toNat + distance start number) % 2 ^ 32 := by
  have startLt := start.toNat_lt
  have numberLt := number.toNat_lt
  rw [distance, UInt32.toNat_sub]
  omega

theorem distance_lt (start number : UInt32) : distance start number < 2 ^ 32 :=
  (number - start).toNat_lt

theorem iterate_distance (start number : UInt32) :
    (· + 1)^[distance start number] start = number := by
  apply UInt32.toNat_inj.mp
  rw [iterate_succ_toNat, ← toNat_eq_distance]

theorem distance_iterate_le (start : UInt32) (count : Nat) :
    distance start ((· + 1)^[count] start) ≤ count := by
  have reached := toNat_eq_distance start ((· + 1)^[count] start)
  have short := distance_lt start ((· + 1)^[count] start)
  have startLt := start.toNat_lt
  rw [iterate_succ_toNat] at reached
  omega

/-! ### The search -/

theorem isFree_iff (d : Private) (number : UInt32) :
    isFree d number = true ↔ number ≠ 0 ∧ number ∉ d.rttRequests := by
  simp [isFree]

theorem isFree_of_not_taken (d : Private) (number : UInt32)
    (untaken : number ∉ 0 :: d.rttRequests.keys) : isFree d number = true := by
  rw [List.mem_cons, not_or] at untaken
  exact (isFree_iff d number).mpr ⟨untaken.1, fun taken => untaken.2 (AList.mem_keys.mp taken)⟩

theorem search_finds {d : Private} (free : ∃ number, isFree d number = true) :
    ∃ number, BoundedSearch.search (· + 1) (isFree d) (d.rttRequests.keys.length + 2)
      d.sequenceNumber = some number := by
  obtain ⟨number, numberFree⟩ := free
  rw [← iterate_distance d.sequenceNumber number] at numberFree
  apply Option.isSome_iff_exists.mp
  refine BoundedSearch.search_isSome_of_reached (0 :: d.rttRequests.keys)
    (isFree_of_not_taken d) numberFree
    (iterates_nodup _ _ (Nat.le_of_lt (distance_lt d.sequenceNumber number))) ?_
  rw [List.length_cons]
  omega

/-- Fewer keys than numbers other than zero leave a number free. -/
theorem exists_free_of_few {d : Private} (few : d.rttRequests.keys.length < 2 ^ 32 - 1) :
    ∃ number, isFree d number = true := by
  have ends := BoundedSearch.search_isSome_of_taken (0 :: d.rttRequests.keys)
    (isFree_of_not_taken d)
    (iterates_nodup d.sequenceNumber (d.rttRequests.keys.length + 2) (by omega))
    (by simp)
  obtain ⟨number, found⟩ := Option.isSome_iff_exists.mp ends
  obtain ⟨_, _, _, numberFree, _⟩ := (BoundedSearch.search_eq_some_iff _ _ _).mp found
  exact ⟨number, numberFree⟩

/-- The first number in cyclic order from the counter on that is neither zero nor
outstanding. -/
structure FirstFree (d : Private) (number : UInt32) : Prop where
  nonzero : number ≠ 0
  fresh : number ∉ d.rttRequests
  first : ∀ other, other ≠ 0 → other ∉ d.rttRequests →
    distance d.sequenceNumber number ≤ distance d.sequenceNumber other

theorem nextSequenceNumber_first {d : Private} (free : ∃ number, isFree d number = true) :
    ∃ number, nextSequenceNumber d = some (number, { d with sequenceNumber := number + 1 }) ∧
      FirstFree d number := by
  obtain ⟨number, found⟩ := search_finds free
  refine ⟨number, by rw [nextSequenceNumber, found]; rfl, ?_⟩
  obtain ⟨count, _, rfl, numberFree, before⟩ := (BoundedSearch.search_eq_some_iff _ _ _).mp found
  obtain ⟨nonzero, fresh⟩ := (isFree_iff d _).mp numberFree
  refine ⟨nonzero, fresh, ?_⟩
  intro other otherNonzero otherFresh
  refine Nat.le_trans (distance_iterate_le d.sequenceNumber count) (Nat.le_of_not_lt ?_)
  intro earlier
  have taken := before _ earlier
  rw [iterate_distance, (isFree_iff d other).mpr ⟨otherNonzero, otherFresh⟩] at taken
  cases taken

/-- The search goes on forever only where no number is left. -/
theorem nextSequenceNumber_isSome_iff (d : Private) :
    (nextSequenceNumber d).isSome = true ↔ ∃ number, isFree d number = true := by
  constructor
  · intro returned
    obtain ⟨pair, pairEq⟩ := Option.isSome_iff_exists.mp returned
    obtain ⟨number, found, _⟩ := Option.map_eq_some_iff.mp pairEq
    obtain ⟨_, _, _, numberFree, _⟩ := (BoundedSearch.search_eq_some_iff _ _ _).mp found
    exact ⟨number, numberFree⟩
  · intro free
    obtain ⟨number, next, _⟩ := nextSequenceNumber_first free
    rw [next]
    rfl

/-! ### What the calls do to the requests -/

theorem nextSequenceNumber_rttRequests {d after : Private} {sequence : UInt32}
    (found : nextSequenceNumber d = some (sequence, after)) :
    after.rttRequests = d.rttRequests := by
  obtain ⟨_, _, pairEq⟩ := Option.map_eq_some_iff.mp found
  rw [← (Prod.mk.inj pairEq).2]
  rfl

theorem updateAverageRtt_rttRequests {now : Time} {d after : Private}
    (returned : updateAverageRtt now d = some after) : after.rttRequests = d.rttRequests := by
  simp only [updateAverageRtt] at returned
  split at returned
  · rw [← Option.some.inj returned]
  · split at returned
    · rw [← Option.some.inj returned]
      rfl
    · split at returned
      · rw [← Option.some.inj returned]
        rfl
      · obtain ⟨⟨sequence, counted⟩, found, emitted⟩ := Option.bind_eq_some_iff.mp returned
        rw [← Option.some.inj emitted]
        exact (nextSequenceNumber_rttRequests found).trans rfl

theorem completeRequest_rttRequests {key : UInt32} {sentAt received now : Time}
    {d after : Private} (returned : completeRequest key sentAt received now d = some after) :
    after.rttRequests = d.rttRequests.erase key := by
  simp only [completeRequest] at returned
  split at returned
  · rw [← Option.some.inj returned]
    rfl
  · exact (updateAverageRtt_rttRequests returned).trans rfl

theorem onBandwidthMeasureResults_rttRequests {netCharBandwidth : UInt32} {now : Time}
    {d after : Private}
    (returned : onBandwidthMeasureResults netCharBandwidth now d = some after) :
    after.rttRequests = d.rttRequests := by
  simp only [onBandwidthMeasureResults] at returned
  split at returned
  · rw [← Option.some.inj returned]
  · split at returned
    · rw [← Option.some.inj returned]
    · exact (updateAverageRtt_rttRequests returned).trans rfl

/-! ### Runs of calls -/

/-- The averages are also taken by a call of their own. -/
inductive DetectionCall (Response : Type) where
  | callback (call : Callback Response)
  | updateAverageRtt (now : Time)
  deriving DecidableEq, Repr

def perform (d : Private) : DetectionCall UInt16 → Option Private
  | .callback call => performCallback d call
  | .updateAverageRtt now => updateAverageRtt now d

/-- A call that never returns leaves the state as it is. -/
def performed (d : Private) (call : DetectionCall UInt16) : Private := (perform d call).getD d

def FewOutstanding (d : Private) : Prop := d.rttRequests.keys.length < 2 ^ 32 - 1

instance (d : Private) : Decidable (FewOutstanding d) := inferInstanceAs (Decidable (_ < _))

/-- A new request has a key of its own; otherwise every entry was there before. -/
def KeepsEntries (before after : Private) : Prop :=
  (∃ key sentAt, key ≠ 0 ∧ key ∉ before.rttRequests ∧
    after.rttRequests = before.rttRequests.insert key sentAt) ∨
  ∀ key sentAt, after.rttRequests.lookup key = some sentAt →
    before.rttRequests.lookup key = some sentAt

theorem keepsEntries_of_same {before after : Private}
    (same : after.rttRequests = before.rttRequests) : KeepsEntries before after := by
  right
  rw [same]
  exact fun _ _ found => found

theorem keepsEntries_of_erase {before after : Private} {sequence : UInt32}
    (erased : after.rttRequests = before.rttRequests.erase sequence) :
    KeepsEntries before after := by
  right
  intro key sentAt found
  rw [erased] at found
  by_cases same : key = sequence
  · rw [same, AList.lookup_erase] at found
    cases found
  · rwa [AList.lookup_erase_ne same] at found

/-- The counters that a search looks at besides the keys do not matter. -/
theorem next_of_few {d : Private} (searched : Private) (few : FewOutstanding d)
    (same : searched.rttRequests = d.rttRequests) :
    ∃ number,
      nextSequenceNumber searched =
        some (number, { searched with sequenceNumber := number + 1 }) ∧
      number ≠ 0 ∧ number ∉ d.rttRequests := by
  have fewSearched : searched.rttRequests.keys.length < 2 ^ 32 - 1 := by
    rw [same]
    exact few
  obtain ⟨number, next, firstFree⟩ := nextSequenceNumber_first (exists_free_of_few fewSearched)
  exact ⟨number, next, firstFree.nonzero, same ▸ firstFree.fresh⟩

theorem update_returns {d : Private} (few : FewOutstanding d) (session : RdpConnection.State)
    (now : Time) : ∃ after, update session now d = some after ∧ KeepsEntries d after := by
  unfold update
  by_cases idle : (session != .streaming) = true
  · rw [if_pos idle]
    exact ⟨d, rfl, keepsEntries_of_same rfl⟩
  · rw [if_neg idle]
    by_cases early : now - d.lastRttUpdate < rttUpdateInterval
    · rw [if_pos early]
      exact ⟨d, rfl, keepsEntries_of_same rfl⟩
    · obtain ⟨number, next, nonzero, fresh⟩ :=
        next_of_few (noteUpdate now d) few rfl
      rw [if_neg early, next]
      exact ⟨_, rfl, Or.inl ⟨number, now, nonzero, fresh, rfl⟩⟩

theorem updateAverageRtt_returns {d : Private} (few : FewOutstanding d) (now : Time) :
    ∃ after, updateAverageRtt now d = some after := by
  simp only [updateAverageRtt]
  split
  · exact ⟨_, rfl⟩
  · split
    · exact ⟨_, rfl⟩
    · split
      · exact ⟨_, rfl⟩
      · obtain ⟨number, next, _⟩ := next_of_few (noteNetworkResult now
          (emit .rttChanged (noteAverages (recentMeasurements now d.rttMeasurements) d))) few rfl
        rw [next]
        exact ⟨_, rfl⟩

theorem completeRequest_returns {d : Private} (few : FewOutstanding d) (key : UInt32)
    (sentAt received now : Time) :
    ∃ after, completeRequest key sentAt received now d = some after := by
  simp only [completeRequest]
  split
  · exact ⟨_, rfl⟩
  · apply updateAverageRtt_returns
    have fewer : (d.rttRequests.erase key).keys.length ≤ d.rttRequests.keys.length := by
      rw [AList.keys_erase]
      exact List.length_erase_le
    exact Nat.lt_of_le_of_lt fewer few

theorem onBandwidthMeasureResults_returns {d : Private} (few : FewOutstanding d)
    (netCharBandwidth : UInt32) (now : Time) :
    ∃ after, onBandwidthMeasureResults netCharBandwidth now d = some after := by
  simp only [onBandwidthMeasureResults]
  split
  · exact ⟨_, rfl⟩
  · split
    · exact ⟨_, rfl⟩
    · have fewAccepted : FewOutstanding
          { d with state := .none, lastBandwithMeasurement := netCharBandwidth } := few
      exact updateAverageRtt_returns fewAccepted now

theorem startBandwidthMeasure_rttRequests (d : Private) :
    (startBandwidthMeasure d).rttRequests = d.rttRequests := by
  unfold startBandwidthMeasure
  split <;> rfl

theorem stopBandwidthMeasure_rttRequests (d : Private) :
    (stopBandwidthMeasure d).rttRequests = d.rttRequests := by
  unfold stopBandwidthMeasure
  split <;> rfl

theorem performCallback_returns {d : Private} (few : FewOutstanding d) (call : Callback UInt16) :
    ∃ after, performCallback d call = some after ∧ KeepsEntries d after := by
  cases call with
  | update session now => exact update_returns few session now
  | rttMeasureResponse sequence received now =>
      simp only [performCallback, onRttMeasureResponse]
      split
      · exact ⟨d, rfl, keepsEntries_of_same rfl⟩
      · obtain ⟨after, returned⟩ := completeRequest_returns few sequence.toUInt32 _ received now
        exact ⟨after, returned, keepsEntries_of_erase (completeRequest_rttRequests returned)⟩
  | bandwidthMeasureResults netCharBandwidth now =>
      obtain ⟨after, returned⟩ := onBandwidthMeasureResults_returns few netCharBandwidth now
      exact ⟨after, returned, keepsEntries_of_same (onBandwidthMeasureResults_rttRequests returned)⟩
  | startBandwidthMeasure =>
      exact ⟨_, rfl, keepsEntries_of_same (startBandwidthMeasure_rttRequests d)⟩
  | stopBandwidthMeasure =>
      exact ⟨_, rfl, keepsEntries_of_same (stopBandwidthMeasure_rttRequests d)⟩

theorem perform_returns {d : Private} (few : FewOutstanding d) (call : DetectionCall UInt16) :
    ∃ after, perform d call = some after ∧ KeepsEntries d after := by
  cases call with
  | callback call => exact performCallback_returns few call
  | updateAverageRtt now =>
      obtain ⟨after, returned⟩ := updateAverageRtt_returns few now
      exact ⟨after, returned, keepsEntries_of_same (updateAverageRtt_rttRequests returned)⟩

/-- With a number left the search returns the first one, leaves the counter one past
it and nothing else changed; and while fewer requests than numbers are outstanding,
every call of a run returns and no new request overwrites another. -/
theorem sequence_numbers_usable :
    (∀ d : Private, (∃ number, number ≠ 0 ∧ number ∉ d.rttRequests) →
      ∃ number after, nextSequenceNumber d = some (number, after) ∧ FirstFree d number ∧
        after = { d with sequenceNumber := number + 1 }) ∧
    ∀ start calls, StepRun.Along performed (fun d _ => FewOutstanding d) start calls →
      StepRun.Along performed
        (fun d call => ∃ after, perform d call = some after ∧ KeepsEntries d after)
        start calls := by
  constructor
  · rintro d ⟨number, nonzero, fresh⟩
    obtain ⟨first, next, firstFree⟩ :=
      nextSequenceNumber_first ⟨number, (isFree_iff d number).mpr ⟨nonzero, fresh⟩⟩
    exact ⟨first, _, next, firstFree, rfl⟩
  · intro start calls few
    exact StepRun.along_of_guarded (fun _ => True) trivial few (fun _ _ _ _ => trivial)
      fun d call _ fewHere => perform_returns fewHere call

/-- The counter wraps around; both keys are skipped, and zero between them. -/
def wrapping : Private where
  sequenceNumber := 4294967295
  rttRequests := ((∅ : AList fun _ : UInt32 => Time).insert 4294967295 0).insert 1 0

theorem wrapping_usable :
    (∃ number after, nextSequenceNumber wrapping = some (number, after) ∧
      FirstFree wrapping number ∧ after = { wrapping with sequenceNumber := number + 1 }) ∧
    StepRun.Along performed
      (fun d call => ∃ after, perform d call = some after ∧ KeepsEntries d after) wrapping
      [.callback (.update .streaming 1000000000),
        .callback (.rttMeasureResponse 2 1000000001 1000000001), .updateAverageRtt 1000000002] :=
  ⟨sequence_numbers_usable.1 wrapping ⟨2, by decide, by decide⟩,
    sequence_numbers_usable.2 wrapping _ (by decide +kernel)⟩

end NetworkDetection

end KRdp
