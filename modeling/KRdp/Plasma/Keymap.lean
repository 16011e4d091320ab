/-
Key symbols on the keys of a keymap.

The lookup goes through the key codes, the levels of each key and the symbols of
each level, and stops at the first match.  Its loop ends before the highest key
code, so a symbol on that key alone is not found.
-/

import Mathlib.Data.List.Range
import Mathlib.Tactic.ByContra

namespace KRdp

namespace Plasma

/-- The key symbols of a key, level by level, for a key code and a layout. -/
structure Keymap where
  minKeycode : UInt32
  maxKeycode : UInt32
  levels : UInt32 → UInt32 → List (List UInt32)

/-- A keymap with the layout that is in effect. -/
structure Xkb where
  keymap : Keymap
  layout : UInt32

structure Code where
  level : Nat
  code : UInt32
  deriving DecidableEq, Repr

def evdevOffset : UInt32 := 8

/-- The key codes from `first` on and below `stop`. -/
def keycodesBelow (first stop : UInt32) : List UInt32 :=
  (List.range' first.toNat (stop.toNat - first.toNat)).map UInt32.ofNat

namespace Xkb

def levelsOf (xkb : Xkb) (keycode : UInt32) : List (List UInt32) :=
  xkb.keymap.levels keycode xkb.layout

def levelOnKey (xkb : Xkb) (keysym keycode : UInt32) : Option Nat :=
  (xkb.levelsOf keycode).findIdx? fun syms => syms.any (· == keysym)

def keycodeFromKeysym (xkb : Xkb) (keysym : UInt32) : Option Code :=
  (keycodesBelow xkb.keymap.minKeycode xkb.keymap.maxKeycode).findSome? fun keycode =>
    (xkb.levelOnKey keysym keycode).map fun level =>
      { level := level, code := keycode - evdevOffset }

/-! ### What the lookup is for -/

def Carries (xkb : Xkb) (keysym keycode : UInt32) (level : Nat) : Prop :=
  ∃ syms, (xkb.levelsOf keycode)[level]? = some syms ∧ keysym ∈ syms

/-- The highest key code is valid. -/
def Valid (xkb : Xkb) (keycode : UInt32) : Prop :=
  xkb.keymap.minKeycode ≤ keycode ∧ keycode ≤ xkb.keymap.maxKeycode

/-- The first pair in the lexicographic order of key code and level. -/
structure FirstCarrier (xkb : Xkb) (keysym keycode : UInt32) (level : Nat) : Prop where
  valid : xkb.Valid keycode
  carries : xkb.Carries keysym keycode level
  first : ∀ other otherLevel, xkb.Valid other → xkb.Carries keysym other otherLevel →
    keycode < other ∨ keycode = other ∧ level ≤ otherLevel

structure LookupCorrect (xkb : Xkb) (keysym : UInt32) : Prop where
  complete : xkb.keycodeFromKeysym keysym = none ↔
    ∀ keycode level, xkb.Valid keycode → ¬xkb.Carries keysym keycode level
  canonical : ∀ code, xkb.keycodeFromKeysym keysym = some code →
    ∃ keycode, xkb.FirstCarrier keysym keycode code.level ∧ code.code = keycode - evdevOffset

/-- The symbol lies below the last key, or not on the last key. -/
def FoundBeforeLast (xkb : Xkb) (keysym : UInt32) : Prop :=
  (∃ keycode level, xkb.keymap.minKeycode ≤ keycode ∧ keycode < xkb.keymap.maxKeycode ∧
    xkb.Carries keysym keycode level) ∨
  ∀ level, xkb.Valid xkb.keymap.maxKeycode → ¬xkb.Carries keysym xkb.keymap.maxKeycode level

end Xkb

/-! ### The key codes -/

theorem mem_keycodesBelow {first stop keycode : UInt32} :
    keycode ∈ keycodesBelow first stop ↔ first ≤ keycode ∧ keycode < stop := by
  rw [UInt32.le_iff_toNat_le, UInt32.lt_iff_toNat_lt, keycodesBelow, List.mem_map]
  constructor
  · rintro ⟨number, member, rfl⟩
    rw [List.mem_range'_1] at member
    have small : number < 2 ^ 32 := by
      have := stop.toNat_lt
      omega
    rw [UInt32.toNat_ofNat_of_lt' small]
    omega
  · rintro ⟨above, below⟩
    refine ⟨keycode.toNat, ?_, UInt32.ofNat_toNat⟩
    rw [List.mem_range'_1]
    omega

theorem keycodesBelow_ascending (first stop : UInt32) :
    (keycodesBelow first stop).Pairwise (· < ·) := by
  rw [keycodesBelow, List.pairwise_map]
  refine List.Pairwise.imp_of_mem ?_ List.pairwise_lt_range'
  intro smaller larger smallerIn largerIn below
  rw [List.mem_range'_1] at smallerIn largerIn
  have bound := stop.toNat_lt
  rw [UInt32.lt_iff_toNat_lt, UInt32.toNat_ofNat_of_lt' (show _ < 2 ^ 32 by omega),
    UInt32.toNat_ofNat_of_lt' (show _ < 2 ^ 32 by omega)]
  exact below

/-- In an ascending list a search stops at the least element that has a result. -/
theorem findSome?_ascending {β : Type} {codes : List UInt32} {f : UInt32 → Option β} {result : β}
    (ascending : codes.Pairwise (· < ·)) (found : codes.findSome? f = some result) :
    ∃ code ∈ codes, f code = some result ∧ ∀ other ∈ codes, other < code → f other = none := by
  obtain ⟨before, code, after, rfl, here, nothing⟩ := List.findSome?_eq_some_iff.mp found
  refine ⟨code, by simp, here, ?_⟩
  intro other member below
  rcases List.mem_append.mp member with earlier | later
  · exact nothing other earlier
  · have tail := (List.pairwise_append.mp ascending).2.1
    rcases List.mem_cons.mp later with rfl | inAfter
    · exact absurd below (UInt32.lt_irrefl _)
    · have above := (List.pairwise_cons.mp tail).1 other inAfter
      exact absurd above (UInt32.lt_asymm below)

namespace Xkb

/-! ### One key -/

theorem levelOnKey_eq_none_iff (xkb : Xkb) (keysym keycode : UInt32) :
    xkb.levelOnKey keysym keycode = none ↔ ∀ level, ¬xkb.Carries keysym keycode level := by
  rw [levelOnKey, List.findIdx?_eq_none_iff]
  constructor
  · rintro absent level ⟨syms, listed, member⟩
    have carried : (syms.any (· == keysym)) = true := List.any_eq_true.mpr ⟨keysym, member, by simp⟩
    rw [absent syms (List.mem_of_getElem? listed)] at carried
    cases carried
  · intro absent syms member
    obtain ⟨level, listed⟩ := List.mem_iff_getElem?.mp member
    rw [Bool.eq_false_iff]
    intro carried
    obtain ⟨sym, symIn, same⟩ := List.any_eq_true.mp carried
    rw [eq_of_beq same] at symIn
    exact absent level ⟨syms, listed, symIn⟩

theorem levelOnKey_first {xkb : Xkb} {keysym keycode : UInt32} {level : Nat}
    (found : xkb.levelOnKey keysym keycode = some level) :
    xkb.Carries keysym keycode level ∧
      ∀ other, xkb.Carries keysym keycode other → level ≤ other := by
  rw [levelOnKey, List.findIdx?_eq_some_iff_getElem] at found
  obtain ⟨inside, carried, before⟩ := found
  constructor
  · obtain ⟨sym, symIn, same⟩ := List.any_eq_true.mp carried
    rw [eq_of_beq same] at symIn
    exact ⟨_, List.getElem?_eq_getElem inside, symIn⟩
  · rintro other ⟨syms, listed, member⟩
    by_contra later
    have notBefore := before other (by omega)
    obtain ⟨otherInside, rfl⟩ := List.getElem?_eq_some_iff.mp listed
    exact notBefore (List.any_eq_true.mpr ⟨keysym, member, by simp⟩)

/-! ### The whole keymap -/

theorem keycodeFromKeysym_eq_none_iff (xkb : Xkb) (keysym : UInt32) :
    xkb.keycodeFromKeysym keysym = none ↔
      ∀ keycode level, xkb.keymap.minKeycode ≤ keycode → keycode < xkb.keymap.maxKeycode →
        ¬xkb.Carries keysym keycode level := by
  rw [keycodeFromKeysym, List.findSome?_eq_none_iff]
  constructor
  · intro absent keycode level above below
    have none := absent keycode (mem_keycodesBelow.mpr ⟨above, below⟩)
    rw [Option.map_eq_none_iff, levelOnKey_eq_none_iff] at none
    exact none level
  · intro absent keycode member
    obtain ⟨above, below⟩ := mem_keycodesBelow.mp member
    rw [Option.map_eq_none_iff, levelOnKey_eq_none_iff]
    exact fun level => absent keycode level above below

/-- What is found is the first carrier, also when the last key is counted in. -/
theorem keycodeFromKeysym_first {xkb : Xkb} {keysym : UInt32} {code : Code}
    (found : xkb.keycodeFromKeysym keysym = some code) :
    ∃ keycode, xkb.FirstCarrier keysym keycode code.level ∧ code.code = keycode - evdevOffset := by
  obtain ⟨keycode, member, here, before⟩ :=
    findSome?_ascending (keycodesBelow_ascending _ _) found
  obtain ⟨above, below⟩ := mem_keycodesBelow.mp member
  obtain ⟨level, levelEq, rfl⟩ := Option.map_eq_some_iff.mp here
  obtain ⟨carries, least⟩ := levelOnKey_first levelEq
  refine ⟨keycode, ⟨⟨above, UInt32.le_of_lt below⟩, carries, ?_⟩, rfl⟩
  intro other otherLevel valid otherCarries
  by_cases smaller : keycode < other
  · exact Or.inl smaller
  · right
    by_cases same : keycode = other
    · rw [← same] at otherCarries
      exact ⟨same, least otherLevel otherCarries⟩
    · have larger := UInt32.lt_of_le_of_ne (UInt32.not_lt.mp smaller) (Ne.symm same)
      have none := before other
        (mem_keycodesBelow.mpr ⟨valid.1, UInt32.lt_trans larger below⟩) larger
      rw [Option.map_eq_none_iff, levelOnKey_eq_none_iff] at none
      exact absurd otherCarries (none otherLevel)

/-- The lookup is complete and canonical exactly for the symbols that lie below
the last key or not on it. -/
theorem lookupCorrect_iff (xkb : Xkb) (keysym : UInt32) :
    xkb.LookupCorrect keysym ↔ xkb.FoundBeforeLast keysym := by
  constructor
  · intro correct
    by_cases found : xkb.keycodeFromKeysym keysym = none
    · right
      exact fun level valid => correct.complete.mp found _ level valid
    · left
      rw [keycodeFromKeysym_eq_none_iff] at found
      by_contra absent
      exact found fun keycode level above below carries =>
        absent ⟨keycode, level, above, below, carries⟩
  · intro foundBefore
    refine ⟨?_, fun code found => keycodeFromKeysym_first found⟩
    rw [keycodeFromKeysym_eq_none_iff]
    constructor
    · intro absent keycode level valid carries
      rcases foundBefore with ⟨earlier, earlierLevel, above, below, earlierCarries⟩ | notLast
      · exact absent earlier earlierLevel above below earlierCarries
      · by_cases below : keycode < xkb.keymap.maxKeycode
        · exact absent keycode level valid.1 below carries
        · have last : keycode = xkb.keymap.maxKeycode :=
            UInt32.le_antisymm valid.2 (UInt32.not_lt.mp below)
          rw [last] at valid carries
          exact notLast level valid carries
    · exact fun absent keycode level above below =>
        absent keycode level ⟨above, UInt32.le_of_lt below⟩

/-- One key, and it is the last one. -/
def oneKey : Xkb where
  keymap :=
    { minKeycode := 9
      maxKeycode := 9
      levels := fun keycode _ => if keycode = 9 then [[0x61]] else [] }
  layout := 0

theorem last_key_not_found :
    oneKey.keycodeFromKeysym 0x61 = none ∧ oneKey.FirstCarrier 0x61 9 0 ∧
      ¬oneKey.LookupCorrect 0x61 := by
  have valid : oneKey.Valid 9 := ⟨by decide, by decide⟩
  have carries : oneKey.Carries 0x61 9 0 := ⟨[0x61], by decide, by decide⟩
  refine ⟨by decide, ⟨valid, carries, ?_⟩, ?_⟩
  · intro other otherLevel otherValid _
    exact Or.inr ⟨UInt32.le_antisymm otherValid.1 otherValid.2, Nat.zero_le otherLevel⟩
  · intro correct
    exact correct.complete.mp (by decide) 9 0 valid carries

end Xkb

end Plasma

end KRdp
