/-
The permission reported after login.

FreeRDP authenticates the client against the SAM file and then calls back with
the identity.  The callback looks the user name up among the configured users;
the comparison up to case is a parameter, and the first user that compares equal
decides.
-/

import KRdp.Clipboard.TextCodec

namespace KRdp

open Clipboard (QString)

structure User where
  name : QString
  password : QString
  readOnly : Bool := false
  deriving DecidableEq, Repr

namespace RdpConnection

/-- The identity of the peer: a buffer, if there is one, and how much of it is
the user name. -/
structure Identity where
  user : Option QString
  userLength : Nat
  readable : ∀ units, user = some units → userLength ≤ units.length

def byteOrderMark : UInt16 := 0xFEFF

def byteOrderSwapped : UInt16 := 0xFFFE

def swapBytes (unit : UInt16) : UInt16 := unit <<< 8 ||| unit >>> 8

/-- A leading byte order mark is dropped, and decides about the byte order. -/
def fromUtf16 (units : QString) : QString :=
  match units with
  | [] => []
  | first :: rest =>
      if first = byteOrderMark then rest
      else if first = byteOrderSwapped then rest.map swapBytes
      else units

/-- The units of the user name as the client sent them. -/
def Identity.units (identity : Identity) : QString :=
  match identity.user with
  | some units => units.take identity.userLength
  | none => []

def Identity.username (identity : Identity) : QString :=
  match identity.user with
  | some units =>
      if identity.userLength > 0 then fromUtf16 (units.take identity.userLength) else []
  | none => []

structure Authenticated where
  username : QString
  peerAddress : QString
  readOnly : Bool
  deriving DecidableEq, Repr

/-- What the callback changes in its connection. -/
structure Login where
  authenticated : List Authenticated := []
  audioRequested : Bool := false
  samFile : Bool := true
  deriving DecidableEq, Repr

def lookupReadOnly (equalUpToCase : QString → QString → Bool) (users : List User)
    (username : QString) : Bool :=
  match users.find? fun candidate => equalUpToCase candidate.name username with
  | some user => user.readOnly
  | none => false

def onPostConnect (equalUpToCase : QString → QString → Bool) (users : List User)
    (identity : Identity) (peerAddress : QString) (login : Login) : Bool × Login :=
  let username := identity.username
  let readOnly := lookupReadOnly equalUpToCase users username
  (true,
    { authenticated := login.authenticated ++ [{ username, peerAddress, readOnly }]
      audioRequested := true
      samFile := false })

/-- The callback reports the permission of the user, whatever was reported
before it. -/
def ReportsPermission (equalUpToCase : QString → QString → Bool) (users : List User)
    (identity : Identity) (user : User) : Prop :=
  ∀ (peerAddress : QString) (login : Login),
    ∃ reported,
      (onPostConnect equalUpToCase users identity peerAddress login).2.authenticated =
          login.authenticated ++ [reported] ∧
        reported.readOnly = user.readOnly

/-- The first listed user whose name compares equal has this flag; where there is
none, the flag is false. -/
def FirstMatchHas (equalUpToCase : QString → QString → Bool) (users : List User)
    (username : QString) (readOnly : Bool) : Prop :=
  (∃ before candidate after,
      users = before ++ candidate :: after ∧
        (∀ other ∈ before, equalUpToCase other.name username = false) ∧
        equalUpToCase candidate.name username = true ∧ candidate.readOnly = readOnly) ∨
    (∀ other ∈ users, equalUpToCase other.name username = false) ∧ readOnly = false

theorem lookupReadOnly_eq_iff (equalUpToCase : QString → QString → Bool) (users : List User)
    (username : QString) (readOnly : Bool) :
    lookupReadOnly equalUpToCase users username = readOnly ↔
      FirstMatchHas equalUpToCase users username readOnly := by
  unfold lookupReadOnly FirstMatchHas
  cases found : users.find? fun candidate => equalUpToCase candidate.name username with
  | none =>
      have unequal : ∀ other ∈ users, equalUpToCase other.name username = false := by
        intro other member
        exact Bool.eq_false_iff.mpr (List.find?_eq_none.mp found other member)
      constructor
      · intro flag
        exact .inr ⟨unequal, flag.symm⟩
      · intro first
        rcases first with listed | missing
        · obtain ⟨before, candidate, after, rfl, _, equal, _⟩ := listed
          rw [unequal candidate (by simp)] at equal
          cases equal
        · exact missing.2.symm
  | some first =>
      obtain ⟨equal, before, after, usersEq, earlier⟩ :=
        List.find?_eq_some_iff_append.mp found
      have unequal : ∀ other ∈ before, equalUpToCase other.name username = false := by
        intro other member
        simpa using earlier other member
      constructor
      · intro flag
        exact .inl ⟨before, first, after, usersEq, unequal, equal, flag⟩
      · intro other
        rcases other with listed | missing
        · obtain ⟨front, candidate, back, split, frontUnequal, candidateEqual, flag⟩ := listed
          have foundAgain : users.find? (fun user => equalUpToCase user.name username) =
              some candidate := by
            apply List.find?_eq_some_iff_append.mpr
            refine ⟨candidateEqual, front, back, split, ?_⟩
            intro user member
            simpa using frontUnequal user member
          rw [found] at foundAgain
          cases foundAgain
          exact flag
        · rw [missing.1 first (List.mem_of_find?_eq_some found)] at equal
          cases equal

theorem Identity.username_eq (identity : Identity) :
    identity.username = fromUtf16 identity.units := by
  unfold username units
  cases identity.user with
  | none => rfl
  | some units =>
      by_cases named : identity.userLength > 0
      · exact if_pos named
      · have empty : identity.userLength = 0 := by omega
        simp [empty, fromUtf16]

/-- A user who logged in is reported with the own permission exactly when the
first user that compares equal has the same flag. -/
theorem reportsPermission_iff (equalUpToCase : QString → QString → Bool) (users : List User)
    (identity : Identity) (user : User) (authenticated : identity.units = user.name) :
    ReportsPermission equalUpToCase users identity user ↔
      FirstMatchHas equalUpToCase users (fromUtf16 user.name) user.readOnly := by
  rw [← lookupReadOnly_eq_iff, ← authenticated, ← identity.username_eq]
  constructor
  · intro reports
    obtain ⟨reported, emitted, flag⟩ := reports [] {}
    have reportedEq := List.append_cancel_left emitted
    rw [← flag, ← List.singleton_injective reportedEq]
  · intro flag peerAddress login
    exact ⟨_, rfl, flag⟩

/-- Users whose names differ by more than case are reported correctly in every
order. -/
theorem reportsPermission_of_distinct {equalUpToCase : QString → QString → Bool}
    {users : List User} {identity : Identity} {user : User}
    (authenticated : identity.units = user.name) (listed : user ∈ users)
    (unmarked : fromUtf16 user.name = user.name)
    (reflexive : equalUpToCase user.name user.name = true)
    (distinct : ∀ other ∈ users, equalUpToCase other.name user.name = true → other = user) :
    ReportsPermission equalUpToCase users identity user := by
  rw [reportsPermission_iff equalUpToCase users identity user authenticated,
    ← lookupReadOnly_eq_iff, unmarked]
  unfold lookupReadOnly
  cases found : users.find? fun candidate => equalUpToCase candidate.name user.name with
  | none =>
      exact absurd reflexive (List.find?_eq_none.mp found user listed)
  | some first =>
      have equal := List.find?_some found
      rw [distinct first (List.mem_of_find?_eq_some found) equal]

/-! ### Two spellings of one name -/

def lowerLatin (unit : UInt16) : UInt16 :=
  if 0x41 ≤ unit ∧ unit ≤ 0x5A then unit + 0x20 else unit

/-- Comparison up to case, as it is for names in basic Latin letters. -/
def equalLatin (first second : QString) : Bool :=
  first.map lowerLatin == second.map lowerLatin

def capitalAlice : User :=
  { name := [0x41, 0x6C, 0x69, 0x63, 0x65], password := [0x31] }

def smallAlice : User :=
  { name := [0x61, 0x6C, 0x69, 0x63, 0x65], password := [0x32], readOnly := true }

def Identity.ofName (name : QString) : Identity :=
  { user := some name
    userLength := name.length
    readable := by
      intro units same
      cases same
      exact Nat.le_refl _ }

theorem reportsPermission_iff_smallAlice :
    ReportsPermission equalLatin [smallAlice, capitalAlice] (.ofName smallAlice.name) smallAlice ↔
      FirstMatchHas equalLatin [smallAlice, capitalAlice] (fromUtf16 smallAlice.name) true :=
  reportsPermission_iff equalLatin [smallAlice, capitalAlice] (.ofName smallAlice.name)
    smallAlice (by decide)

/-- In the other order the read-only user is reported as allowed to control the
session. -/
theorem reportsPermission_fails :
    let users := [capitalAlice, smallAlice]
    (users.map User.name).Nodup ∧ smallAlice ∈ users ∧
      (Identity.ofName smallAlice.name).units = smallAlice.name ∧
      (onPostConnect equalLatin users (.ofName smallAlice.name) [] {}).2.authenticated =
        [{ username := smallAlice.name, peerAddress := [], readOnly := false }] ∧
      ¬ReportsPermission equalLatin users (.ofName smallAlice.name) smallAlice := by
  intro users
  refine ⟨by decide, by decide, by decide, by decide, ?_⟩
  intro reports
  obtain ⟨reported, emitted, flag⟩ := reports [] {}
  have reportedEq : [{ username := smallAlice.name, peerAddress := [], readOnly := false }] =
      [reported] := emitted
  rw [← List.singleton_injective reportedEq] at flag
  cases flag

end RdpConnection

end KRdp
