/-
Signed arithmetic of the layout validator.

The rectangles of the record loop are computed, and compared, in 32 bits before the
extent of the whole desktop is checked.  The trace lists the exact results of these
computations in the order in which the validator makes them, up to its return.
-/

import KRdp.DisplayControl.ValidLayout

namespace KRdp

namespace DisplayControl

open MachineInt QRect

/-! ### The trace -/

/-- `QRect(x, y, width, height)` computes `x + width - 1` and `y + height - 1`. -/
def rectComputations (position : QPoint) (size : QSize) : List Int :=
  [position.x.toInt + size.width.toInt, position.x.toInt + size.width.toInt - 1,
    position.y.toInt + size.height.toInt, position.y.toInt + size.height.toInt - 1]

/-- `QRect::isNull` computes `x1 - 1`, and `y1 - 1` if the first comparison holds. -/
def nullComputations (rect : QRect) : List Int :=
  (rect.x1.toInt - 1) :: if rect.x2 == rect.x1 - 1 then [rect.y1.toInt - 1] else []

/-- An axis is put in order with `start - 1`, and with both new ends if they swap. -/
def endsComputations (start stop : Int32) : List Int :=
  (start.toInt - 1) :: if stop < start - 1 then [stop.toInt + 1, start.toInt - 1] else []

/-- `QRect::intersects` gets to the second axis if the rectangles meet on the first. -/
def intersectsComputations (first second : QRect) : List Int :=
  nullComputations first ++
    if first.isNull then []
    else
      nullComputations second ++
        if second.isNull then []
        else
          let (l1, r1) := normalizedEnds first.x1 first.x2
          let (l2, r2) := normalizedEnds second.x1 second.x2
          endsComputations first.x1 first.x2 ++ endsComputations second.x1 second.x2 ++
            if l1 > r2 || l2 > r1 then []
            else endsComputations first.y1 first.y2 ++ endsComputations second.y1 second.y2

/-- The overlap loop ends at the first monitor that is met. -/
def overlapTrace (wire : MonitorLayout) : DisplayMonitorList → List Int
  | [] => []
  | other :: rest =>
      let rect := QRect.ofPositionSize other.position other.size
      rectComputations other.position other.size ++ intersectsComputations wire.geometry rect ++
        (if wire.geometry.intersects rect then [] else overlapTrace wire rest)

/-- The count of primary monitors is a signed number as well. -/
def recordTrace (wire : MonitorLayout) (state : DecodeState) : List Int :=
  if wire.unsupportedSize then []
  else
    (state.primaryCount + (if wire.primary then 1 else 0) : Int) ::
      if wire.primary && (wire.left != 0 || wire.top != 0) then []
      else rectComputations wire.position wire.size ++ overlapTrace wire state.decoded

def recordsTrace : Nat → List MonitorLayout → DecodeState → List Int
  | _, [], _ => []
  | index, wire :: rest, state =>
      recordTrace wire state ++
        match decodeRecord index wire state with
        | .error _ => []
        | .ok next => recordsTrace (index + 1) rest next

/-- The signed 32-bit computations of `decodeMonitorLayout`. -/
def layoutTrace (pdu : MonitorLayoutPdu) (monitors : Option DisplayMonitorList) : List Int :=
  match monitors, pdu.monitors with
  | none, _ => []
  | some _, records =>
      if pdu.monitorLayoutSize != displayControlMonitorLayoutSize then []
      else if pdu.numMonitors == 0 || pdu.numMonitors > maximumMonitorCount then []
      else
        match records with
        | none => []
        | some records => recordsTrace 0 records {}

/-! ### When everything fits -/

/-- The far edges of the record lie in the range. -/
def MonitorLayout.EdgesFit (wire : MonitorLayout) : Prop :=
  wire.left.toInt + wire.width.toNat < 2 ^ 31 ∧ wire.top.toInt + wire.height.toNat < 2 ^ 31

instance (wire : MonitorLayout) : Decidable wire.EdgesFit := inferInstanceAs (Decidable (_ ∧ _))

/-- The rectangles share a column. -/
def MonitorLayout.MeetsX (first second : MonitorLayout) : Prop :=
  first.left.toInt < second.left.toInt + second.width.toNat ∧
    second.left.toInt < first.left.toInt + first.width.toNat

/-- Neither rectangle starts at the lowest number, on any axis that is compared. -/
structure MonitorLayout.ComparisonFits (first second : MonitorLayout) : Prop where
  left : -2 ^ 31 < first.left.toInt ∧ -2 ^ 31 < second.left.toInt
  top : first.MeetsX second → -2 ^ 31 < first.top.toInt ∧ -2 ^ 31 < second.top.toInt

/-- The comparisons of a record with the earlier ones, up to the first that it meets. -/
def MonitorLayout.ComparisonsFit (wire : MonitorLayout) (earlier : List MonitorLayout) : Prop :=
  ∀ front other back, earlier = front ++ other :: back →
    (∀ each ∈ front, each.Apart wire) → wire.ComparisonFits other

/-- The loop gets as far as the rectangle of a record: the earlier records pass,
and the record passes the checks before it. -/
structure Reached (before : List MonitorLayout) (wire : MonitorLayout) : Prop where
  passed : ∀ earlier ∈ before, earlier.RecordOk
  apart : before.Pairwise MonitorLayout.Apart
  own : wire.RecordOk

/-- The header lets the loop begin. -/
structure HeaderAccepted (pdu : MonitorLayoutPdu) : Prop where
  recordSize : pdu.monitorLayoutSize = displayControlMonitorLayoutSize
  positive : pdu.numMonitors ≠ 0
  count : pdu.numMonitors ≤ maximumMonitorCount

def AllFit (trace : List Int) : Prop := ∀ value ∈ trace, FitsInt32 value

theorem allFit_append (first second : List Int) :
    AllFit (first ++ second) ↔ AllFit first ∧ AllFit second :=
  List.forall_mem_append

theorem allFit_cons (value : Int) (rest : List Int) :
    AllFit (value :: rest) ↔ FitsInt32 value ∧ AllFit rest :=
  List.forall_mem_cons

theorem allFit_nil : AllFit [] := List.forall_mem_nil _

/-! ### One rectangle -/

theorem rectComputations_fit_iff {wire : MonitorLayout} (supported : wire.SizeSupported) :
    AllFit (rectComputations wire.position wire.size) ↔ wire.EdgesFit := by
  obtain ⟨widthEq, heightEq⟩ : wire.size.width.toInt = wire.width.toNat ∧
      wire.size.height.toInt = wire.height.toNat := (wire.decoded_faithful supported).size
  have width := supported.widthRange
  have height := supported.heightRange
  have left := fitsInt32_toInt wire.left
  have top := fitsInt32_toInt wire.top
  have x : wire.position.x = wire.left := rfl
  have y : wire.position.y = wire.top := rfl
  unfold AllFit rectComputations MonitorLayout.EdgesFit
  rw [widthEq, heightEq, x, y]
  unfold FitsInt32 at left top
  simp only [List.forall_mem_cons, List.not_mem_nil, false_implies, implies_true, and_true,
    FitsInt32]
  constructor
  · omega
  · omega

/-! ### One comparison -/

/-- The start of an axis can be decreased unless it is the lowest number. -/
theorem fits_sub_one_iff (start : Int32) : FitsInt32 (start.toInt - 1) ↔ -2 ^ 31 < start.toInt := by
  have fits := fitsInt32_toInt start
  unfold FitsInt32 at *
  omega

theorem endsComputations_fit_iff {start stop : Int32} {high : Int}
    (ends : -2 ^ 31 < start.toInt → EndsOf start stop start.toInt high) :
    AllFit (endsComputations start stop) ↔ -2 ^ 31 < start.toInt := by
  rw [endsComputations, allFit_cons, fits_sub_one_iff]
  constructor
  · exact And.left
  · intro above
    have ordered : ¬stop < start - 1 := by
      rw [Int32.lt_iff_toInt_lt, (ends above).start_sub_one, (ends above).stop_eq]
      have := (ends above).nonempty
      omega
    rw [if_neg ordered]
    exact ⟨above, allFit_nil⟩

/-- A record whose size is supported and whose edges fit. -/
structure MonitorLayout.Fitting (wire : MonitorLayout) : Prop where
  size : wire.SizeSupported
  edges : wire.EdgesFit

section Comparison

variable {wire other : MonitorLayout}

theorem MonitorLayout.Fitting.horizontal (fitting : wire.Fitting)
    (above : -2 ^ 31 < wire.left.toInt) :
    EndsOf wire.geometry.x1 wire.geometry.x2 wire.left.toInt
      (wire.left.toInt + wire.width.toNat) := by
  have widthEq : wire.size.width.toInt = wire.width.toNat :=
    (wire.decoded_faithful fitting.size).size.1
  have width := fitting.size.widthRange
  have edge := fitting.edges.1
  rw [← widthEq] at edge ⊢
  exact EndsOf.of_extent (by omega) above edge

theorem MonitorLayout.Fitting.vertical (fitting : wire.Fitting)
    (above : -2 ^ 31 < wire.top.toInt) :
    EndsOf wire.geometry.y1 wire.geometry.y2 wire.top.toInt
      (wire.top.toInt + wire.height.toNat) := by
  have heightEq : wire.size.height.toInt = wire.height.toNat :=
    (wire.decoded_faithful fitting.size).size.2
  have height := fitting.size.heightRange
  have edge := fitting.edges.2
  rw [← heightEq] at edge ⊢
  exact EndsOf.of_extent (by omega) above edge

theorem MonitorLayout.Fitting.not_null (fitting : wire.Fitting)
    (above : -2 ^ 31 < wire.left.toInt) :
    wire.geometry.isNull = false ∧ nullComputations wire.geometry = [wire.left.toInt - 1] := by
  have different : (wire.geometry.x2 == wire.geometry.x1 - 1) = false :=
    beq_eq_false_iff_ne.mpr (fitting.horizontal above).stop_ne
  constructor
  · rw [isNull, different, Bool.false_and]
  · rw [nullComputations, different, if_neg Bool.false_ne_true]
    rfl

/-- The test for a null rectangle already decreases the left edge. -/
theorem above_of_null_fits (fit : AllFit (nullComputations wire.geometry)) :
    -2 ^ 31 < wire.left.toInt :=
  (fits_sub_one_iff wire.left).mp ((allFit_cons _ _).mp fit).1

theorem MonitorLayout.Fitting.intersects_fit_iff (fitting : wire.Fitting)
    (otherFitting : other.Fitting) :
    AllFit (intersectsComputations wire.geometry other.geometry) ↔ wire.ComparisonFits other := by
  by_cases left : -2 ^ 31 < wire.left.toInt ∧ -2 ^ 31 < other.left.toInt
  · obtain ⟨first, second⟩ := left
    have horizontal := fitting.horizontal first
    have otherHorizontal := otherFitting.horizontal second
    obtain ⟨notNull, null⟩ := fitting.not_null first
    obtain ⟨otherNotNull, otherNull⟩ := otherFitting.not_null second
    have nullFits : AllFit [wire.left.toInt - 1] ∧ AllFit [other.left.toInt - 1] := by
      simp only [allFit_cons, fits_sub_one_iff]
      exact ⟨⟨first, allFit_nil⟩, second, allFit_nil⟩
    have endsFit : AllFit (endsComputations wire.geometry.x1 wire.geometry.x2) ∧
        AllFit (endsComputations other.geometry.x1 other.geometry.x2) :=
      ⟨(endsComputations_fit_iff fun _ => horizontal).mpr first,
        (endsComputations_fit_iff fun _ => otherHorizontal).mpr second⟩
    have meets : (decide (wire.geometry.x1 > other.geometry.x2) ||
        decide (other.geometry.x1 > wire.geometry.x2)) = false ↔ wire.MeetsX other := by
      simp only [Bool.or_eq_false_iff, decide_eq_false_iff_not, gt_iff_lt,
        Int32.lt_iff_toInt_lt, horizontal.start_eq, horizontal.stop_eq, otherHorizontal.start_eq,
        otherHorizontal.stop_eq, MonitorLayout.MeetsX]
      omega
    simp only [intersectsComputations, notNull, otherNotNull, null, otherNull, Bool.false_eq_true,
      if_false, horizontal.normalized, otherHorizontal.normalized, allFit_append]
    rw [and_iff_right nullFits.1, and_iff_right nullFits.2, and_iff_right endsFit]
    by_cases apart : (decide (wire.geometry.x1 > other.geometry.x2) ||
        decide (other.geometry.x1 > wire.geometry.x2)) = true
    · rw [if_pos apart]
      refine iff_of_true allFit_nil ⟨⟨first, second⟩, fun meet => ?_⟩
      rw [meets.mpr meet] at apart
      cases apart
    · have vertical : AllFit (endsComputations wire.geometry.y1 wire.geometry.y2) ↔
          -2 ^ 31 < wire.top.toInt := endsComputations_fit_iff fitting.vertical
      have otherVertical : AllFit (endsComputations other.geometry.y1 other.geometry.y2) ↔
          -2 ^ 31 < other.top.toInt := endsComputations_fit_iff otherFitting.vertical
      rw [if_neg apart, allFit_append, vertical, otherVertical]
      have meet := meets.mp (Bool.eq_false_iff.mpr apart)
      exact ⟨fun top => ⟨⟨first, second⟩, fun _ => top⟩, fun fits => fits.top meet⟩
  · refine iff_of_false ?_ fun fits => left fits.left
    intro fit
    obtain ⟨firstFits, rest⟩ := (allFit_append _ _).mp fit
    have first := above_of_null_fits firstFits
    rw [(fitting.not_null first).1, if_neg Bool.false_ne_true, allFit_append] at rest
    exact left ⟨first, above_of_null_fits rest.1⟩

end Comparison

/-- The entries so far stand for records whose rectangles have been computed. -/
structure DecodedFrom (earlier : List MonitorLayout) (state : DecodeState) : Prop where
  decoded : state.decoded = earlier.map MonitorLayout.decoded
  fitting : ∀ each ∈ earlier, each.Fitting

theorem comparisonsFit_cons_iff (wire other : MonitorLayout) (rest : List MonitorLayout) :
    wire.ComparisonsFit (other :: rest) ↔
      wire.ComparisonFits other ∧ (other.Apart wire → wire.ComparisonsFit rest) := by
  constructor
  · intro fits
    refine ⟨fits [] other rest rfl (List.forall_mem_nil _), ?_⟩
    intro apart front next back split frontApart
    exact fits (other :: front) next back (by rw [split]; rfl)
      (List.forall_mem_cons.mpr ⟨apart, frontApart⟩)
  · rintro ⟨head, tail⟩ front next back split frontApart
    cases front with
    | nil =>
        obtain ⟨rfl, rfl⟩ := List.cons.inj split
        exact head
    | cons first front =>
        obtain ⟨rfl, rfl⟩ := List.cons.inj split
        obtain ⟨apart, restApart⟩ := List.forall_mem_cons.mp frontApart
        exact tail apart front next back rfl restApart

theorem overlapTrace_fits_iff {wire : MonitorLayout} (own : wire.Fitting)
    {earlier : List MonitorLayout} (fitting : ∀ each ∈ earlier, each.Fitting) :
    AllFit (overlapTrace wire (earlier.map MonitorLayout.decoded)) ↔
      wire.ComparisonsFit earlier := by
  induction earlier with
  | nil =>
      refine iff_of_true allFit_nil ?_
      intro front other back split
      exact absurd split (by simp)
  | cons other rest ih =>
      obtain ⟨otherFitting, restFitting⟩ := List.forall_mem_cons.mp fitting
      have rect : AllFit (rectComputations other.decoded.position other.decoded.size) :=
        (rectComputations_fit_iff otherFitting.size).mpr otherFitting.edges
      have geometry : QRect.ofPositionSize other.decoded.position other.decoded.size =
          other.geometry := rfl
      rw [comparisonsFit_cons_iff, List.map_cons, overlapTrace]
      simp only [geometry, allFit_append]
      rw [and_iff_right rect, own.intersects_fit_iff otherFitting]
      apply and_congr_right
      intro _
      by_cases meets : wire.geometry.intersects other.geometry = true
      · rw [if_pos meets]
        refine iff_of_true allFit_nil fun apart => ?_
        rw [MonitorLayout.Apart, meets] at apart
        cases apart
      · rw [if_neg meets, ih restFitting]
        have apart : other.Apart wire := Bool.eq_false_iff.mpr meets
        exact ⟨fun fits _ => fits, fun fits => fits apart⟩

theorem DecodedFrom.advance {earlier : List MonitorLayout} {state : DecodeState}
    (source : DecodedFrom earlier state) {wire : MonitorLayout} (fitting : wire.Fitting) :
    DecodedFrom (earlier ++ [wire]) (state.advance wire) := by
  refine ⟨?_, List.forall_mem_append.mpr ⟨source.fitting, List.forall_mem_singleton.mpr fitting⟩⟩
  rw [DecodeState.advance, source.decoded, List.map_append]
  rfl

/-! ### The record loop -/

theorem recordTrace_fits_iff (wire : MonitorLayout) {earlier : List MonitorLayout}
    {state : DecodeState} (source : DecodedFrom earlier state)
    (few : state.primaryCount + 1 < 2 ^ 31) :
    AllFit (recordTrace wire state) ↔
      (wire.RecordOk → wire.EdgesFit ∧ wire.ComparisonsFit earlier) := by
  unfold recordTrace
  by_cases unsupported : wire.unsupportedSize = true
  · rw [if_pos unsupported]
    refine iff_of_true allFit_nil fun ok => ?_
    rw [wire.unsupportedSize_eq_false_iff.mpr ok.size] at unsupported
    cases unsupported
  · rw [if_neg unsupported, allFit_cons]
    have supported := wire.unsupportedSize_eq_false_iff.mp (Bool.eq_false_iff.mpr unsupported)
    have count : FitsInt32 (state.primaryCount + (if wire.primary then 1 else 0) : Int) := by
      unfold FitsInt32
      split <;> omega
    rw [and_iff_right count]
    by_cases displaced : (wire.primary && (wire.left != 0 || wire.top != 0)) = true
    · rw [if_pos displaced]
      refine iff_of_true allFit_nil fun ok => ?_
      rw [displaced_eq_false_iff.mpr ok.primaryAtOrigin] at displaced
      cases displaced
    · rw [if_neg displaced, allFit_append, rectComputations_fit_iff supported, source.decoded]
      have ok : wire.RecordOk :=
        ⟨supported, displaced_eq_false_iff.mp (Bool.eq_false_iff.mpr displaced)⟩
      have loop (edges : wire.EdgesFit) :
          AllFit (overlapTrace wire (earlier.map MonitorLayout.decoded)) ↔
            wire.ComparisonsFit earlier :=
        overlapTrace_fits_iff ⟨supported, edges⟩ source.fitting
      rw [and_congr_right loop]
      exact ⟨fun fits _ => fits, fun fits => fits ok⟩

/-- The loop computes without overflow exactly when the edges of every record it
gets to lie in the range, and so do its comparisons. -/
theorem recordsTrace_fits_iff (index : Nat) (records : List MonitorLayout)
    {earlier : List MonitorLayout} {state : DecodeState} (source : DecodedFrom earlier state)
    (few : state.primaryCount + records.length < 2 ^ 31) :
    AllFit (recordsTrace index records state) ↔
      ∀ before wire after, records = before ++ wire :: after → Reached before wire →
        (∀ each ∈ before, overlapsDecoded each state.decoded = false) →
          wire.EdgesFit ∧ wire.ComparisonsFit (earlier ++ before) := by
  induction records generalizing index earlier state with
  | nil =>
      refine iff_of_true allFit_nil ?_
      intro before wire after splitEq
      exact absurd splitEq (by simp)
  | cons head rest ih =>
      rw [List.length_cons] at few
      rw [recordsTrace, allFit_append, recordTrace_fits_iff head source (by omega)]
      have fewNext : (state.advance head).primaryCount + rest.length < 2 ^ 31 := by
        simp only [DecodeState.advance]
        split <;> omega
      constructor
      · rintro ⟨headFits, restFits⟩ before wire after splitEq reached apart
        cases before with
        | nil =>
            obtain ⟨rfl, rfl⟩ := List.cons.inj splitEq
            rw [List.append_nil]
            exact headFits reached.own
        | cons first before =>
            obtain ⟨rfl, rfl⟩ := List.cons.inj splitEq
            have headOk := reached.passed head List.mem_cons_self
            have headApart := apart head List.mem_cons_self
            have pairwise := List.pairwise_cons.mp reached.apart
            have decoded := (decodeRecord_ok_iff index head state _).mpr ⟨headOk, headApart, rfl⟩
            rw [decoded] at restFits
            have next := source.advance ⟨headOk.size, (headFits headOk).1⟩
            have split : earlier ++ head :: before = earlier ++ [head] ++ before := by
              rw [List.append_assoc, List.singleton_append]
            rw [split]
            refine (ih (index + 1) next fewNext).mp restFits before wire after rfl
              ⟨fun each member => reached.passed each (List.mem_cons_of_mem head member),
                pairwise.2, reached.own⟩ ?_
            intro each member
            exact (overlapsDecoded_advance_iff each head state).mpr
              ⟨apart each (List.mem_cons_of_mem head member), pairwise.1 each member⟩
      · intro fits
        have headFits : head.RecordOk → head.EdgesFit ∧ head.ComparisonsFit earlier := by
          intro ok
          have first := fits [] head rest rfl ⟨by simp, List.Pairwise.nil, ok⟩ (by simp)
          rwa [List.append_nil] at first
        refine ⟨headFits, ?_⟩
        cases here : decodeRecord index head state with
        | error _ => exact allFit_nil
        | ok next =>
            obtain ⟨headOk, headApart, rfl⟩ := (decodeRecord_ok_iff index head state next).mp here
            rw [ih (index + 1) (source.advance ⟨headOk.size, (headFits headOk).1⟩) fewNext]
            intro before wire after splitEq reached apart
            simp only [overlapsDecoded_advance_iff] at apart
            rw [List.append_assoc, List.singleton_append]
            refine fits (head :: before) wire after (by rw [splitEq]; rfl)
              ⟨List.forall_mem_cons.mpr ⟨headOk, reached.passed⟩,
                List.pairwise_cons.mpr ⟨fun later member => (apart later member).2,
                  reached.apart⟩, reached.own⟩ ?_
            exact List.forall_mem_cons.mpr ⟨headApart, fun later member => (apart later member).1⟩

/-! ### The whole validator -/

theorem headerAccepted_iff (pdu : MonitorLayoutPdu) :
    HeaderAccepted pdu ↔
      (pdu.monitorLayoutSize != displayControlMonitorLayoutSize) = false ∧
        (pdu.numMonitors == 0 || pdu.numMonitors > maximumMonitorCount) = false := by
  rw [bne_eq_false_iff_eq, Bool.or_eq_false_iff, beq_eq_false_iff_ne, decide_eq_false_iff_not,
    gt_iff_lt, UInt32.not_lt]
  exact ⟨fun ⟨size, positive, count⟩ => ⟨size, positive, count⟩,
    fun ⟨size, positive, count⟩ => ⟨size, positive, count⟩⟩

/-- No signed computation overflows exactly when the edges of every record whose
rectangle is computed lie in the range, and no rectangle that is compared starts at
the lowest number. -/
theorem layout_arithmetic_fits_iff (pdu : MonitorLayoutPdu)
    (monitors : Option DisplayMonitorList) :
    AllFit (layoutTrace pdu monitors) ↔
      ∀ records, monitors.isSome = true → HeaderAccepted pdu → pdu.monitors = some records →
        ∀ before wire after, records = before ++ wire :: after → Reached before wire →
          wire.EdgesFit ∧ wire.ComparisonsFit before := by
  cases monitors with
  | none => exact iff_of_true allFit_nil fun _ missing => by cases missing
  | some destination =>
      dsimp only [layoutTrace]
      by_cases header : HeaderAccepted pdu
      · obtain ⟨size, count⟩ := (headerAccepted_iff pdu).mp header
        rw [size, count, if_neg Bool.false_ne_true, if_neg Bool.false_ne_true]
        cases array : pdu.monitors with
        | none => exact iff_of_true allFit_nil fun _ _ _ missing => by cases missing
        | some records =>
            have length := pdu.readable records array
            have most := UInt32.le_iff_toNat_le.mp header.count
            have most16 : (maximumMonitorCount : UInt32).toNat = 16 := rfl
            have nothing : DecodedFrom [] {} := ⟨rfl, List.forall_mem_nil _⟩
            have few : ({} : DecodeState).primaryCount + records.length < 2 ^ 31 := by
              change 0 + records.length < 2 ^ 31
              omega
            dsimp only
            rw [recordsTrace_fits_iff 0 records nothing few]
            constructor
            · rintro fits _ _ _ ⟨rfl⟩ before wire after splitEq reached
              exact fits before wire after splitEq reached fun _ _ => rfl
            · intro fits before wire after splitEq reached _
              exact fits records rfl header rfl before wire after splitEq reached
      · refine iff_of_true ?_ fun _ _ accepted => absurd accepted header
        rw [headerAccepted_iff, not_and_or, Bool.not_eq_false, Bool.not_eq_false] at header
        by_cases wrongSize : (pdu.monitorLayoutSize != displayControlMonitorLayoutSize) = true
        · rw [if_pos wrongSize]
          exact allFit_nil
        · rw [if_neg wrongSize, if_pos (header.resolve_left wrongSize)]
          exact allFit_nil

def farRight : MonitorLayout where
  flags := 0
  left := 2147483647
  top := 0
  width := 200
  height := 200
  physicalWidth := 0
  physicalHeight := 0
  orientation := 0
  desktopScaleFactor := 100
  deviceScaleFactor := 100

/-- A record at the highest coordinate ends past it. -/
theorem far_right_overflows :
    layoutTrace (MonitorLayoutPdu.ofRecords [farRight] (by decide)) (some []) =
        [0, 2147483847, 2147483846, 200, 199] ∧
      ¬AllFit (layoutTrace (MonitorLayoutPdu.ofRecords [farRight] (by decide)) (some [])) := by
  have trace : layoutTrace (MonitorLayoutPdu.ofRecords [farRight] (by decide)) (some []) =
      [0, 2147483847, 2147483846, 200, 199] := by decide
  refine ⟨trace, ?_⟩
  rw [trace]
  intro fits
  exact absurd (fits 2147483847 (List.mem_cons_of_mem _ List.mem_cons_self)) (by decide)

end DisplayControl

end KRdp
