/-
The capability exchange of the graphics pipeline.

The client advertises sets of capabilities.  Whether AVC and YUV420 are supported
is read from the version and the flags of each set, and the connection is kept if
one set has both.  The set that is confirmed is the first of those with the
highest version.
-/

import KRdp.VideoStream.Stream
import KRdp.Server.Connections
import Mathlib.Data.List.MinMax

namespace KRdp

namespace VideoStream

open Server (CloseReason)

def capversion81 : UInt32 := 0x00080105
def capversion10 : UInt32 := 0x000A0002
def capversion101 : UInt32 := 0x000A0100
def capversion102 : UInt32 := 0x000A0200
def capversion103 : UInt32 := 0x000A0301
def capversion104 : UInt32 := 0x000A0400
def capversion105 : UInt32 := 0x000A0502
def capversion106 : UInt32 := 0x000A0600
def capversion107 : UInt32 := 0x000A0701

def capsFlagAvc420Enabled : UInt32 := 0x00000010
def capsFlagAvcDisabled : UInt32 := 0x00000020

def channelRcInitializationError : UInt32 := 20

/-- A capability set of the client. -/
structure CapSet where
  version : UInt32
  length : UInt32
  flags : UInt32
  deriving DecidableEq, Repr

structure RdpCapsInformation where
  version : UInt32
  capSet : CapSet
  avcSupported : Bool := false
  yuv420Supported : Bool := false
  deriving DecidableEq, Repr

/-- The stream, with what it told its session and the client. -/
structure CapsExchange where
  stream : Private
  closes : List CloseReason := []
  confirms : List CapSet := []
  deriving DecidableEq, Repr

/-! ### The advertised sets -/

/-- The part of the switch that the versions from 10 on share. -/
def readAvcDisabled (caps : RdpCapsInformation) : RdpCapsInformation :=
  if caps.capSet.flags &&& capsFlagAvcDisabled = 0 then { caps with avcSupported := true }
  else caps

/-- Version 8 and the unknown versions support neither. -/
def capsInformation (set : CapSet) : RdpCapsInformation :=
  let caps : RdpCapsInformation := { version := set.version, capSet := set }
  if set.version ∈ [capversion107, capversion106, capversion105, capversion104] then
    readAvcDisabled { caps with yuv420Supported := true }
  else if set.version ∈ [capversion103, capversion102, capversion101, capversion10] then
    readAvcDisabled caps
  else if set.version = capversion81 then
    if set.flags &&& capsFlagAvc420Enabled ≠ 0 then
      { caps with avcSupported := true, yuv420Supported := true }
    else caps
  else caps

def supported (caps : RdpCapsInformation) : Bool := caps.avcSupported && caps.yuv420Supported

/-- The first of the sets with the highest version. -/
def maxVersion (capsInformation : List RdpCapsInformation) : Option RdpCapsInformation :=
  capsInformation.argmax fun caps => caps.version.toNat

def capsConfirm (capSet : CapSet) (exchange : CapsExchange) : CapsExchange :=
  { exchange with
    stream := { exchange.stream with capsConfirmed := true }
    confirms := exchange.confirms ++ [capSet] }

def closeVideoInitFailed (exchange : CapsExchange) : CapsExchange :=
  { exchange with closes := exchange.closes ++ [.videoInitFailed] }

/-- There is a highest version wherever a set is supported. -/
def onCapsAdvertise (capsSets : List CapSet) (exchange : CapsExchange) :
    UInt32 × CapsExchange :=
  let capsInformation := capsSets.map capsInformation
  if capsInformation.any supported then
    match maxVersion capsInformation with
    | none => (channelRcOk, exchange)
    | some highest => (channelRcOk, capsConfirm highest.capSet exchange)
  else (channelRcInitializationError, closeVideoInitFailed exchange)

/-! ### What is read from a set -/

/-- The set supports AVC in YUV420 mode. -/
def Avc420Usable (set : CapSet) : Prop := supported (capsInformation set) = true

instance (set : CapSet) : Decidable (Avc420Usable set) := inferInstanceAs (Decidable (_ = true))

theorem capsInformation_origin (set : CapSet) :
    (capsInformation set).version = set.version ∧ (capsInformation set).capSet = set := by
  unfold capsInformation readAvcDisabled
  grind

/-- AVC can be disabled from version 10.4 on and has to be enabled in version
8.1; no other version has the YUV420 mode. -/
theorem avc420Usable_iff (set : CapSet) :
    Avc420Usable set ↔
      set.version ∈ [capversion107, capversion106, capversion105, capversion104] ∧
          set.flags &&& capsFlagAvcDisabled = 0 ∨
        set.version = capversion81 ∧ set.flags &&& capsFlagAvc420Enabled ≠ 0 := by
  unfold Avc420Usable capsInformation readAvcDisabled supported
  by_cases recent : set.version ∈ [capversion107, capversion106, capversion105, capversion104]
  · have notEnabled : set.version ≠ capversion81 := by
      intro same
      rw [same] at recent
      exact absurd recent (by decide)
    simp only [recent, if_true, notEnabled, true_and, false_and, or_false]
    split <;> simp_all
  · by_cases older : set.version ∈ [capversion103, capversion102, capversion101, capversion10]
    · have notEnabled : set.version ≠ capversion81 := by
        intro same
        rw [same] at older
        exact absurd older (by decide)
      simp only [recent, older, notEnabled, if_false, if_true, false_and, or_false]
      split <;> simp
    · simp only [recent, older, if_false, false_and, false_or]
      split <;> grind

/-! ### The confirmed set -/

/-- The set is the first of those with the highest version. -/
def FirstHighest (advertised : List CapSet) (set : CapSet) : Prop :=
  ∃ before after, advertised = before ++ set :: after ∧
    (∀ other ∈ before, other.version < set.version) ∧
    ∀ other ∈ after, other.version ≤ set.version

theorem FirstHighest.highest {advertised : List CapSet} {set : CapSet}
    (first : FirstHighest advertised set) :
    set ∈ advertised ∧ ∀ other ∈ advertised, other.version ≤ set.version := by
  obtain ⟨before, after, rfl, lower, rest⟩ := first
  constructor
  · simp
  · intro other member
    rcases List.mem_append.mp member with earlier | later
    · exact UInt32.le_of_lt (lower other earlier)
    · rcases List.mem_cons.mp later with rfl | after
      · exact UInt32.le_refl _
      · exact rest other after

theorem FirstHighest.unique {advertised : List CapSet} {first second : CapSet}
    (left : FirstHighest advertised first) (right : FirstHighest advertised second) :
    first = second := by
  have found {set : CapSet} (firstHighest : FirstHighest advertised set) :
      advertised.find? (fun other => other.version == set.version) = some set := by
    obtain ⟨before, after, split, lower, _⟩ := firstHighest
    apply List.find?_eq_some_iff_append.mpr
    refine ⟨beq_self_eq_true _, before, after, split, ?_⟩
    intro other member
    simpa using UInt32.ne_of_lt (lower other member)
  have version : first.version = second.version :=
    UInt32.le_antisymm (right.highest.2 first left.highest.1)
      (left.highest.2 second right.highest.1)
  have same := found left
  rw [version, found right] at same
  exact (Option.some.inj same).symm

theorem maxVersion_cons (set : CapSet) (rest : List CapSet) :
    maxVersion ((set :: rest).map capsInformation) =
      match maxVersion (rest.map capsInformation) with
      | none => some (capsInformation set)
      | some highest =>
          if set.version < highest.version then some highest else some (capsInformation set) := by
  rw [maxVersion, List.map_cons, List.argmax_cons, ← maxVersion]
  simp only [(capsInformation_origin set).1, UInt32.lt_iff_toNat_lt]
  cases maxVersion (rest.map capsInformation) with
  | none => rfl
  | some highest => rfl

theorem maxVersion_firstHighest (first : CapSet) (rest : List CapSet) :
    ∃ set, FirstHighest (first :: rest) set ∧
      maxVersion ((first :: rest).map capsInformation) = some (capsInformation set) := by
  induction rest generalizing first with
  | nil => exact ⟨first, ⟨[], [], rfl, by simp, by simp⟩, rfl⟩
  | cons next rest ih =>
      obtain ⟨set, firstHighest, found⟩ := ih next
      rw [maxVersion_cons, found]
      simp only [(capsInformation_origin set).1]
      by_cases lower : first.version < set.version
      · refine ⟨set, ?_, by rw [if_pos lower]⟩
        obtain ⟨before, after, split, earlier, later⟩ := firstHighest
        refine ⟨first :: before, after, by rw [split, List.cons_append], ?_, later⟩
        intro other member
        rcases List.mem_cons.mp member with rfl | member
        · exact lower
        · exact earlier other member
      · refine ⟨first, ⟨[], next :: rest, rfl, by simp, ?_⟩, by rw [if_neg lower]⟩
        intro other member
        exact UInt32.le_trans (firstHighest.highest.2 other member) (UInt32.not_lt.mp lower)

/-! ### The exchange -/

theorem onCapsAdvertise_of_unusable {advertised : List CapSet}
    (unusable : ∀ set ∈ advertised, ¬Avc420Usable set) (exchange : CapsExchange) :
    onCapsAdvertise advertised exchange =
      (channelRcInitializationError, closeVideoInitFailed exchange) := by
  have none : (advertised.map capsInformation).any supported = false := by
    rw [List.any_map, List.any_eq_false]
    exact unusable
  rw [onCapsAdvertise, none, if_neg Bool.false_ne_true]

/-- The set that is confirmed is the first of the highest version. -/
theorem onCapsAdvertise_of_usable {advertised : List CapSet}
    (usable : ∃ set ∈ advertised, Avc420Usable set) (exchange : CapsExchange) :
    ∃ set, FirstHighest advertised set ∧
      onCapsAdvertise advertised exchange = (channelRcOk, capsConfirm set exchange) := by
  obtain ⟨some, member, can⟩ := usable
  have any : (advertised.map capsInformation).any supported = true := by
    rw [List.any_map, List.any_eq_true]
    exact ⟨some, member, can⟩
  cases advertised with
  | nil => cases member
  | cons first rest =>
      obtain ⟨set, firstHighest, found⟩ := maxVersion_firstHighest first rest
      refine ⟨set, firstHighest, ?_⟩
      rw [onCapsAdvertise, any, if_pos rfl]
      simp only [found, (capsInformation_origin set).2]

/-- What the exchange is for: a set that can be used is confirmed, of the highest
version among those, or else the connection is closed. -/
structure Negotiates (advertised : List CapSet) (exchange : CapsExchange) : Prop where
  confirms_iff : (onCapsAdvertise advertised exchange).2.confirms ≠ exchange.confirms ↔
    ∃ set ∈ advertised, Avc420Usable set
  usable : (∃ set ∈ advertised, Avc420Usable set) →
    ∃ set ∈ advertised, Avc420Usable set ∧
      (∀ other ∈ advertised, Avc420Usable other → other.version ≤ set.version) ∧
      onCapsAdvertise advertised exchange = (channelRcOk, capsConfirm set exchange)
  rejected : (∀ set ∈ advertised, ¬Avc420Usable set) →
    (onCapsAdvertise advertised exchange).1 ≠ channelRcOk ∧
      (onCapsAdvertise advertised exchange).2.closes = exchange.closes ++ [.videoInitFailed] ∧
      (onCapsAdvertise advertised exchange).2.stream.capsConfirmed =
        exchange.stream.capsConfirmed

/-- The exchange does so exactly when no set can be used at all or the set that it
looks at, the first of the highest version, can. -/
theorem negotiates_iff (advertised : List CapSet) (exchange : CapsExchange) :
    Negotiates advertised exchange ↔
      (∀ set ∈ advertised, ¬Avc420Usable set) ∨
        ∃ set, FirstHighest advertised set ∧ Avc420Usable set := by
  constructor
  · intro negotiates
    by_cases usable : ∃ set ∈ advertised, Avc420Usable set
    · obtain ⟨set, firstHighest, confirmed⟩ := onCapsAdvertise_of_usable usable exchange
      obtain ⟨other, _, can, _, same⟩ := negotiates.usable usable
      rw [confirmed] at same
      have confirmsEq := congrArg (fun outcome => outcome.2.confirms) same
      have setEq : set = other := List.singleton_injective (List.append_cancel_left confirmsEq)
      exact .inr ⟨set, firstHighest, setEq ▸ can⟩
    · left
      intro set member can
      exact usable ⟨set, member, can⟩
  · intro condition
    rcases condition with unusable | ⟨set, firstHighest, can⟩
    · have closed := onCapsAdvertise_of_unusable unusable exchange
      have nothing : ¬∃ set ∈ advertised, Avc420Usable set := by
        rintro ⟨set, member, can⟩
        exact unusable set member can
      refine ⟨?_, fun usable => absurd usable nothing, ?_⟩
      · simp [closed, closeVideoInitFailed, nothing]
      · intro _
        have failed : channelRcInitializationError ≠ channelRcOk := by decide
        rw [closed]
        exact ⟨failed, rfl, rfl⟩
    · have member := firstHighest.highest.1
      have usable : ∃ set ∈ advertised, Avc420Usable set := ⟨set, member, can⟩
      obtain ⟨highest, first, confirmed⟩ := onCapsAdvertise_of_usable usable exchange
      obtain rfl : set = highest := firstHighest.unique first
      refine ⟨?_, ?_, fun unusable => absurd can (unusable set member)⟩
      · simp [confirmed, capsConfirm, usable]
      · intro _
        exact ⟨set, member, can, fun other listed _ => firstHighest.highest.2 other listed,
          confirmed⟩

/-- A client with AVC420 enabled in version 8.1 that also advertises version 10:
version 10 is confirmed, which has no YUV420 mode. -/
theorem negotiates_fails :
    let enabled : CapSet := { version := capversion81, length := 4, flags := 0x10 }
    let newer : CapSet := { version := capversion10, length := 4, flags := 0 }
    Avc420Usable enabled ∧ ¬Avc420Usable newer ∧
      (onCapsAdvertise [enabled, newer] { stream := {} }).2.confirms = [newer] ∧
      ¬∀ advertised exchange, Negotiates advertised exchange := by
  intro enabled newer
  have older : (onCapsAdvertise [enabled, newer] { stream := {} }).2.confirms = [newer] := by
    decide
  refine ⟨by decide, by decide, older, ?_⟩
  intro negotiates
  obtain ⟨set, _, can, _, confirmed⟩ :=
    (negotiates [enabled, newer] { stream := {} }).usable ⟨enabled, by simp, by decide⟩
  rw [confirmed] at older
  have setEq : set = newer := List.singleton_injective older
  rw [setEq] at can
  exact absurd can (by decide)

end VideoStream

end KRdp
