/-
What the message of a rejected layout says.

The validator stops at the first record that fails a check of its own and looks at
the layout as a whole only when there is none, so each message has one cause.
-/

import KRdp.DisplayControl.ValidLayout

namespace KRdp

namespace DisplayControl

/-- Each record passes its own checks, and lies apart from the earlier ones. -/
structure Clean (records : List MonitorLayout) : Prop where
  sound : ∀ wire ∈ records, wire.RecordOk
  apart : records.Pairwise MonitorLayout.Apart

/-- Each monitor but the given one, and all before it, touches another one. -/
structure FirstAlone (records : List MonitorLayout) (index : Nat) : Prop where
  inside : index < records.length
  alone : ∀ other (otherInside : other < records.length), index ≠ other →
    ¬Box.Touch records[index].box records[other].box
  first : ∀ earlier (before : earlier < index), ∃ other, ∃ otherInside : other < records.length,
    earlier ≠ other ∧ Box.Touch records[earlier].box records[other].box

def Bounded (records : List MonitorLayout) : Prop :=
  ∀ hull : Box Int, Box.bounding (records.map MonitorLayout.box) = hull →
    hull.width ≤ 32766 ∧ hull.height ≤ 32766

/-- The records give rise to the message. -/
inductive Diagnosed (records : List MonitorLayout) : String → Prop where
  | unsupportedSize {before after : List MonitorLayout} {wire : MonitorLayout}
      (split : records = before ++ wire :: after) (clean : Clean before)
      (size : ¬wire.SizeSupported) :
      Diagnosed records s!"Monitor {before.length} has an unsupported pixel size"
  | primaryElsewhere {before after : List MonitorLayout} {wire : MonitorLayout}
      (split : records = before ++ wire :: after) (clean : Clean before)
      (size : wire.SizeSupported) (primary : wire.primary = true)
      (elsewhere : ¬(wire.left.toInt = 0 ∧ wire.top.toInt = 0)) :
      Diagnosed records "The primary monitor must be at 0,0"
  | overlapping {before after : List MonitorLayout} {wire : MonitorLayout}
      (split : records = before ++ wire :: after) (clean : Clean before)
      (sound : wire.RecordOk) (meets : ∃ earlier ∈ before, ¬earlier.Apart wire) :
      Diagnosed records s!"Monitor {before.length} overlaps another monitor"
  | primaryCount (clean : Clean records) (count : records.countP MonitorLayout.primary ≠ 1) :
      Diagnosed records "Exactly one monitor must be primary"
  | tooLarge (clean : Clean records) (count : records.countP MonitorLayout.primary = 1)
      (large : ¬Bounded records) :
      Diagnosed records s!"The combined desktop is larger than {maximumDesktopExtent} pixels"
  | isolated {index : Nat} (clean : Clean records)
      (count : records.countP MonitorLayout.primary = 1) (bounded : Bounded records)
      (several : 1 < records.length) (alone : FirstAlone records index) :
      Diagnosed records s!"Monitor {index} is not adjacent to another monitor"

/-! ### Records -/

/-- The loop over clean records holds the fold of their updates. -/
theorem clean_iff (index : Nat) (records : List MonitorLayout) :
    Clean records ↔
      decodeRecords index records {} = .ok (records.foldl DecodeState.advance {}) := by
  rw [decodeRecords_ok_iff]
  constructor
  · intro cause
    obtain ⟨sound, apart⟩ := cause
    exact ⟨fun wire member => ⟨sound wire member, rfl⟩, apart, rfl⟩
  · intro cause
    obtain ⟨sound, apart, _⟩ := cause
    exact ⟨fun wire member => (sound wire member).1, apart⟩

/-- The message of the loop is that of the first record that fails. -/
theorem decodeRecords_error_iff (index : Nat) (records : List MonitorLayout)
    (state : DecodeState) (message : String) :
    decodeRecords index records state = .error message ↔
      ∃ before wire after reached, records = before ++ wire :: after ∧
        decodeRecords index before state = .ok reached ∧
        decodeRecord (index + before.length) wire reached = .error message := by
  induction records generalizing index state with
  | nil => simp [decodeRecords]
  | cons wire rest ih =>
      rw [decodeRecords]
      cases here : decodeRecord index wire state with
      | error first =>
          constructor
          · intro same
            exact ⟨[], wire, rest, state, rfl, rfl, here.trans same⟩
          · intro cause
            obtain ⟨before, failing, after, reached, split, passed, failed⟩ := cause
            cases before with
            | nil =>
                obtain ⟨rfl, rfl⟩ := List.cons.inj split
                obtain rfl : state = reached := Except.ok.inj passed
                exact here.symm.trans failed
            | cons head tail =>
                obtain ⟨rfl, _⟩ := List.cons.inj split
                rw [decodeRecords, here] at passed
                cases passed
      | ok next =>
          refine (ih (index + 1) next).trans ?_
          constructor
          · intro cause
            obtain ⟨before, failing, after, reached, rfl, passed, failed⟩ := cause
            refine ⟨wire :: before, failing, after, reached, rfl, ?_, ?_⟩
            · rw [decodeRecords, here]
              exact passed
            · rw [List.length_cons, Nat.add_comm before.length 1, ← Nat.add_assoc]
              exact failed
          · intro cause
            obtain ⟨before, failing, after, reached, split, passed, failed⟩ := cause
            cases before with
            | nil =>
                obtain ⟨rfl, rfl⟩ := List.cons.inj split
                obtain rfl : state = reached := Except.ok.inj passed
                cases here.symm.trans failed
            | cons head tail =>
                obtain ⟨rfl, rfl⟩ := List.cons.inj split
                rw [decodeRecords, here] at passed
                rw [List.length_cons, Nat.add_comm tail.length 1, ← Nat.add_assoc] at failed
                exact ⟨tail, failing, after, reached, rfl, passed, failed⟩

theorem overlapsDecoded_foldl_iff (wire : MonitorLayout) (records : List MonitorLayout) :
    overlapsDecoded wire (records.foldl DecodeState.advance {}).decoded = true ↔
      ∃ earlier ∈ records, ¬earlier.Apart wire := by
  rw [foldl_advance_decoded, List.nil_append, ← Bool.not_eq_false, overlapsDecoded_eq_false_iff]
  simp only [List.forall_mem_map, not_forall, exists_prop]
  exact Iff.rfl

theorem decodeRecord_error_iff (index : Nat) (wire : MonitorLayout) (state : DecodeState)
    (message : String) :
    decodeRecord index wire state = .error message ↔
      (¬wire.SizeSupported ∧ message = s!"Monitor {index} has an unsupported pixel size") ∨
      (wire.SizeSupported ∧ (wire.primary = true ∧ ¬(wire.left.toInt = 0 ∧ wire.top.toInt = 0)) ∧
        message = "The primary monitor must be at 0,0") ∨
      (wire.RecordOk ∧ overlapsDecoded wire state.decoded = true ∧
        message = s!"Monitor {index} overlaps another monitor") := by
  unfold decodeRecord
  by_cases size : wire.SizeSupported
  · rw [(wire.unsupportedSize_eq_false_iff).mpr size, if_neg Bool.false_ne_true]
    by_cases origin : wire.primary = true → wire.left.toInt = 0 ∧ wire.top.toInt = 0
    · have sound : wire.RecordOk := ⟨size, origin⟩
      rw [displaced_eq_false_iff.mpr origin, if_neg Bool.false_ne_true]
      cases meets : overlapsDecoded wire state.decoded with
      | true =>
          constructor
          · intro same
            exact .inr (.inr ⟨sound, rfl, (Except.error.inj same).symm⟩)
          · intro cause
            rcases cause with ⟨unsupported, _⟩ | ⟨_, ⟨primary, moved⟩, _⟩ | ⟨_, _, rfl⟩
            · exact absurd size unsupported
            · exact absurd (origin primary) moved
            · rfl
      | false =>
          constructor
          · intro same
            cases same
          · intro cause
            rcases cause with ⟨unsupported, _⟩ | ⟨_, ⟨primary, moved⟩, _⟩ | ⟨_, impossible, _⟩
            · exact absurd size unsupported
            · exact absurd (origin primary) moved
            · cases impossible
    · have displaced : (wire.primary && (wire.left != 0 || wire.top != 0)) = true :=
        Bool.of_not_eq_false (mt displaced_eq_false_iff.mp origin)
      rw [displaced, if_pos rfl]
      constructor
      · intro same
        exact .inr (.inl ⟨size, Classical.not_imp.mp origin, (Except.error.inj same).symm⟩)
      · intro cause
        rcases cause with ⟨unsupported, _⟩ | ⟨_, _, rfl⟩ | ⟨sound, _, _⟩
        · exact absurd size unsupported
        · rfl
        · exact absurd sound.primaryAtOrigin origin
  · have unsupported : wire.unsupportedSize = true :=
      Bool.of_not_eq_false (mt (wire.unsupportedSize_eq_false_iff).mp size)
    rw [unsupported, if_pos rfl]
    constructor
    · intro same
      exact .inl ⟨size, (Except.error.inj same).symm⟩
    · intro cause
      rcases cause with ⟨_, rfl⟩ | ⟨supported, _⟩ | ⟨sound, _⟩
      · rfl
      · exact absurd supported size
      · exact absurd sound.size size

/-! ### The whole layout -/

section Alone

variable {records : List MonitorLayout}

/-- The first monitor that touches no other one. -/
theorem isolatedMonitor?_some_iff (supported : ∀ wire ∈ records, wire.SizeSupported)
    (disjoint : records.Pairwise fun first second => ¬Box.Overlap first.box second.box)
    (index : Nat) :
    isolatedMonitor? (records.map MonitorLayout.decoded) = some index ↔
      FirstAlone records index := by
  have entry (tested : Nat) (inside : tested < (records.map MonitorLayout.decoded).zipIdx.length) :
      ∃ inside' : tested < records.length,
        (records.map MonitorLayout.decoded).zipIdx[tested] = (records[tested].decoded, tested) := by
    have inside' : tested < records.length := by simpa using inside
    exact ⟨inside', by simp⟩
  unfold isolatedMonitor?
  rw [Option.map_eq_some_iff]
  constructor
  · intro cause
    obtain ⟨found, isFound, rfl⟩ := cause
    obtain ⟨alone, index, inside, rfl, first⟩ := List.find?_eq_some_iff_getElem.mp isFound
    obtain ⟨inside', same⟩ := entry index inside
    rw [same] at alone ⊢
    refine ⟨inside', ?_, ?_⟩
    · intro other otherInside different touching
      have neighbour := (hasAdjacentMonitor_iff supported disjoint inside').mpr
        ⟨other, otherInside, different, touching⟩
      rw [neighbour] at alone
      cases alone
    · intro earlier before
      obtain ⟨earlierInside, earlierSame⟩ := entry earlier (before.trans inside)
      have neighbour := first earlier before
      rw [earlierSame, Bool.not_not] at neighbour
      exact (hasAdjacentMonitor_iff supported disjoint earlierInside).mp neighbour
  · intro alone
    have inside : index < (records.map MonitorLayout.decoded).zipIdx.length := by
      simpa using alone.inside
    obtain ⟨inside', same⟩ := entry index inside
    refine ⟨(records[index].decoded, index), ?_, rfl⟩
    refine List.find?_eq_some_iff_getElem.mpr ⟨?_, index, inside, same, ?_⟩
    · rw [Bool.not_eq_true', ← Bool.not_eq_true, hasAdjacentMonitor_iff supported disjoint inside']
      intro cause
      obtain ⟨other, otherInside, different, touching⟩ := cause
      exact alone.alone other otherInside different touching
    · intro earlier before
      obtain ⟨earlierInside, earlierSame⟩ := entry earlier (before.trans inside)
      rw [earlierSame, Bool.not_not]
      exact (hasAdjacentMonitor_iff supported disjoint earlierInside).mpr
        (alone.first earlier before)

end Alone

theorem bounded_iff {records : List MonitorLayout} (nonempty : records ≠ []) :
    Bounded records ↔
      (records.foldl DecodeState.advance {}).maximumX -
          (records.foldl DecodeState.advance {}).minimumX ≤ 32766 ∧
        (records.foldl DecodeState.advance {}).maximumY -
          (records.foldl DecodeState.advance {}).minimumY ≤ 32766 := by
  obtain ⟨hull, hullEq, edges⟩ := edgesOf_bounding nonempty
  rw [edges.minimumX, edges.maximumX, edges.minimumY, edges.maximumY]
  constructor
  · intro bounded
    exact bounded hull hullEq
  · intro bounded other otherEq
    rwa [← WithBot.coe_injective (hullEq.symm.trans otherEq)]

theorem Clean.disjoint {records : List MonitorLayout} (clean : Clean records)
    (nonempty : records ≠ []) (count : records.countP MonitorLayout.primary = 1)
    (bounded : Bounded records) :
    records.Pairwise fun first second => ¬Box.Overlap first.box second.box := by
  obtain ⟨hull, hullEq, _⟩ := edgesOf_bounding nonempty
  have near := nearOrigin_of_extent hullEq count
    (fun wire member => (clean.sound wire member).primaryAtOrigin) (bounded hull hullEq)
  exact (pairwise_apart_iff (fun wire member => (clean.sound wire member).size) near).mp clean.apart

/-- The message of a clean layout. -/
theorem checkLayout_error_iff {records : List MonitorLayout} (clean : Clean records)
    (nonempty : records ≠ []) (message : String) :
    checkLayout (records.foldl DecodeState.advance {}) = .error message ↔
      (records.countP MonitorLayout.primary ≠ 1 ∧
        message = "Exactly one monitor must be primary") ∨
      (records.countP MonitorLayout.primary = 1 ∧ ¬Bounded records ∧
        message = s!"The combined desktop is larger than {maximumDesktopExtent} pixels") ∨
      ∃ index, records.countP MonitorLayout.primary = 1 ∧ Bounded records ∧
        1 < records.length ∧ FirstAlone records index ∧
        message = s!"Monitor {index} is not adjacent to another monitor" := by
  have decodedEq := foldl_advance_decoded records {}
  have countEq := foldl_advance_primaryCount records {}
  simp only [List.nil_append, Nat.zero_add] at decodedEq countEq
  have lengthEq : (records.foldl DecodeState.advance {}).decoded.length = records.length := by
    rw [decodedEq, List.length_map]
  unfold checkLayout
  by_cases count : records.countP MonitorLayout.primary = 1
  · rw [countEq, count, if_neg (by decide)]
    by_cases bounded : Bounded records
    · have extent := (bounded_iff nonempty).mp bounded
      have supported : ∀ wire ∈ records, wire.SizeSupported :=
        fun wire member => (clean.sound wire member).size
      have disjoint := clean.disjoint nonempty count bounded
      have first := isolatedMonitor?_some_iff supported disjoint
      rw [if_neg (by
        simp only [gt_iff_lt, Bool.or_eq_true, decide_eq_true_eq, maximumDesktopExtent]
        omega)]
      by_cases several : 1 < records.length
      · rw [if_pos (by rw [lengthEq]; exact several), decodedEq]
        cases found : isolatedMonitor? (records.map MonitorLayout.decoded) with
        | some index =>
            constructor
            · intro same
              exact .inr (.inr ⟨index, rfl, bounded, several, (first index).mp found,
                (Except.error.inj same).symm⟩)
            · intro cause
              rcases cause with ⟨wrong, _⟩ | ⟨_, large, _⟩ | ⟨other, _, _, _, alone, rfl⟩
              · exact absurd rfl wrong
              · exact absurd bounded large
              · obtain rfl : index = other :=
                  Option.some.inj (found.symm.trans ((first other).mpr alone))
                rfl
        | none =>
            constructor
            · intro same
              cases same
            · intro cause
              rcases cause with ⟨wrong, _⟩ | ⟨_, large, _⟩ | ⟨other, _, _, _, alone, _⟩
              · exact absurd rfl wrong
              · exact absurd bounded large
              · cases found.symm.trans ((first other).mpr alone)
      · rw [if_neg (by rw [lengthEq]; exact several)]
        constructor
        · intro same
          cases same
        · intro cause
          rcases cause with ⟨wrong, _⟩ | ⟨_, large, _⟩ | ⟨_, _, _, many, _⟩
          · exact absurd rfl wrong
          · exact absurd bounded large
          · exact absurd many several
    · have extent := mt (bounded_iff nonempty).mpr bounded
      rw [if_pos (by
        simp only [gt_iff_lt, Bool.or_eq_true, decide_eq_true_eq, maximumDesktopExtent]
        omega)]
      constructor
      · intro same
        exact .inr (.inl ⟨rfl, bounded, (Except.error.inj same).symm⟩)
      · intro cause
        rcases cause with ⟨wrong, _⟩ | ⟨_, _, rfl⟩ | ⟨_, _, small, _⟩
        · exact absurd rfl wrong
        · rfl
        · exact absurd small bounded
  · rw [countEq, if_pos (bne_iff_ne.mpr count)]
    constructor
    · intro same
      exact .inl ⟨count, (Except.error.inj same).symm⟩
    · intro cause
      rcases cause with ⟨_, rfl⟩ | ⟨right, _⟩ | ⟨_, right, _⟩
      · rfl
      · exact absurd right count
      · exact absurd right count

/-! ### Every message -/

/-- The checks of the records, and then those of the layout. -/
theorem records_error_iff {records : List MonitorLayout} (nonempty : records ≠ [])
    (message : String) :
    (match decodeRecords 0 records {} with
      | .error first => Except.error first
      | .ok state => checkLayout state) = .error message ↔ Diagnosed records message := by
  constructor
  · intro failed
    split at failed
    · rename_i first looped
      obtain rfl : first = message := Except.error.inj failed
      obtain ⟨before, wire, after, reached, split, passed, last⟩ :=
        (decodeRecords_error_iff 0 records {} first).mp looped
      obtain ⟨sound, apart, rfl⟩ := (decodeRecords_ok_iff 0 before {} reached).mp passed
      have clean : Clean before := ⟨fun wire member => (sound wire member).1, apart⟩
      rw [Nat.zero_add] at last
      rcases (decodeRecord_error_iff _ _ _ _).mp last with
        ⟨size, rfl⟩ | ⟨size, ⟨primary, elsewhere⟩, rfl⟩ | ⟨sound, meets, rfl⟩
      · exact .unsupportedSize split clean size
      · exact .primaryElsewhere split clean size primary elsewhere
      · exact .overlapping split clean sound ((overlapsDecoded_foldl_iff wire before).mp meets)
    · rename_i state looped
      obtain ⟨sound, apart, rfl⟩ := (decodeRecords_ok_iff 0 records {} state).mp looped
      have clean : Clean records := ⟨fun wire member => (sound wire member).1, apart⟩
      rcases (checkLayout_error_iff clean nonempty message).mp failed with
        ⟨count, rfl⟩ | ⟨count, large, rfl⟩ | ⟨index, count, bounded, several, alone, rfl⟩
      · exact .primaryCount clean count
      · exact .tooLarge clean count large
      · exact .isolated clean count bounded several alone
  · have stops {before after : List MonitorLayout} {wire : MonitorLayout} {first : String}
        (split : records = before ++ wire :: after) (clean : Clean before)
        (last : decodeRecord before.length wire (before.foldl DecodeState.advance {}) =
          .error first) :
        decodeRecords 0 records {} = .error first :=
      (decodeRecords_error_iff 0 records {} first).mpr
        ⟨before, wire, after, _, split, (clean_iff 0 before).mp clean, by rwa [Nat.zero_add]⟩
    intro diagnosed
    cases diagnosed with
    | unsupportedSize split clean size =>
        rw [stops split clean ((decodeRecord_error_iff _ _ _ _).mpr (.inl ⟨size, rfl⟩))]
    | primaryElsewhere split clean size primary elsewhere =>
        rw [stops split clean ((decodeRecord_error_iff _ _ _ _).mpr
          (.inr (.inl ⟨size, ⟨primary, elsewhere⟩, rfl⟩)))]
    | overlapping split clean sound meets =>
        rw [stops split clean ((decodeRecord_error_iff _ _ _ _).mpr
          (.inr (.inr ⟨sound, (overlapsDecoded_foldl_iff _ _).mpr meets, rfl⟩)))]
    | primaryCount clean count =>
        rw [(clean_iff 0 records).mp clean]
        exact (checkLayout_error_iff clean nonempty _).mpr (.inl ⟨count, rfl⟩)
    | tooLarge clean count large =>
        rw [(clean_iff 0 records).mp clean]
        exact (checkLayout_error_iff clean nonempty _).mpr (.inr (.inl ⟨count, large, rfl⟩))
    | isolated clean count bounded several alone =>
        rw [(clean_iff 0 records).mp clean]
        exact (checkLayout_error_iff clean nonempty _).mpr
          (.inr (.inr ⟨_, count, bounded, several, alone, rfl⟩))

/-- An array that is missing is refused like an empty one. -/
def MonitorLayoutPdu.records (pdu : MonitorLayoutPdu) : List MonitorLayout := pdu.monitors.getD []

theorem count_refused_iff (pdu : MonitorLayoutPdu) {records : List MonitorLayout}
    (array : pdu.monitors = some records) :
    (pdu.numMonitors == 0 || pdu.numMonitors > maximumMonitorCount) = true ↔
      records = [] ∨ maximumMonitorCount.toNat < records.length := by
  have lengthEq := pdu.readable records array
  have empty : pdu.numMonitors = 0 ↔ records = [] := by
    rw [← List.length_eq_zero_iff, lengthEq, ← UInt32.toNat_inj]
    rfl
  rw [Bool.or_eq_true, beq_iff_eq, decide_eq_true_eq, empty, lengthEq, gt_iff_lt,
    UInt32.lt_iff_toNat_lt]

/-- A layout is rejected with a message exactly if its header is wrong in the way the
message says, or its records give rise to it: the monitor that is named is the first one
that fails, and everything that is checked before is in order. -/
theorem decodeMonitorLayout_error_iff (pdu : MonitorLayoutPdu) (destination : DisplayMonitorList)
    (message : String) :
    decodeMonitorLayout pdu (some destination) = .error message ↔
      (pdu.monitorLayoutSize ≠ displayControlMonitorLayoutSize ∧
        message = "Unsupported monitor record size") ∨
      (pdu.monitorLayoutSize = displayControlMonitorLayoutSize ∧
        (pdu.records = [] ∨ maximumMonitorCount.toNat < pdu.records.length) ∧
        message = s!"Monitor count must be between 1 and {maximumMonitorCount}") ∨
      (pdu.monitorLayoutSize = displayControlMonitorLayoutSize ∧
        ¬(pdu.records = [] ∨ maximumMonitorCount.toNat < pdu.records.length) ∧
        Diagnosed pdu.records message) := by
  simp only [decodeMonitorLayout]
  by_cases size : pdu.monitorLayoutSize = displayControlMonitorLayoutSize
  · rw [if_neg (by rw [bne_iff_ne, not_not]; exact size)]
    cases array : pdu.monitors with
    | none =>
        have missing : pdu.records = [] := by rw [MonitorLayoutPdu.records, array]; rfl
        rw [ite_self]
        constructor
        · intro same
          exact .inr (.inl ⟨size, .inl missing, (Except.error.inj same).symm⟩)
        · intro cause
          rcases cause with ⟨wrong, _⟩ | ⟨_, _, rfl⟩ | ⟨_, some, _⟩
          · exact absurd size wrong
          · rfl
          · exact absurd (.inl missing) some
    | some records =>
        obtain rfl : pdu.records = records := by rw [MonitorLayoutPdu.records, array]; rfl
        by_cases refused : pdu.records = [] ∨ maximumMonitorCount.toNat < pdu.records.length
        · rw [if_pos ((count_refused_iff pdu array).mpr refused)]
          constructor
          · intro same
            exact .inr (.inl ⟨size, refused, (Except.error.inj same).symm⟩)
          · intro cause
            rcases cause with ⟨wrong, _⟩ | ⟨_, _, rfl⟩ | ⟨_, allowed, _⟩
            · exact absurd size wrong
            · rfl
            · exact absurd refused allowed
        · have nonempty : pdu.records ≠ [] := fun empty => refused (.inl empty)
          rw [if_neg (mt (count_refused_iff pdu array).mp refused)]
          refine (records_error_iff nonempty message).trans ?_
          constructor
          · intro diagnosed
            exact .inr (.inr ⟨size, refused, diagnosed⟩)
          · intro cause
            rcases cause with ⟨wrong, _⟩ | ⟨_, many, _⟩ | ⟨_, _, diagnosed⟩
            · exact absurd size wrong
            · exact absurd many refused
            · exact diagnosed
  · rw [if_pos (bne_iff_ne.mpr size)]
    constructor
    · intro same
      exact .inl ⟨size, (Except.error.inj same).symm⟩
    · intro cause
      rcases cause with ⟨_, rfl⟩ | ⟨right, _⟩ | ⟨right, _⟩
      · rfl
      · exact absurd right size
      · exact absurd right size

end DisplayControl

end KRdp
