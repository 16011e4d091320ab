/-
From the dialog of the settings to the file that FreeRDP reads.

krdpserver starts a job for the password of every listed user, and adds a user when the
job is finished, so the file of a connection has the users of the jobs that are done by
then, in the order in which they were.
-/

import KRdp.Kcm.Users
import KRdp.RdpConnection.SamFile

namespace KRdp

namespace Logins

open Clipboard (QString QByteArray)
open Kcm (KRDPServerConfig World Action KeepOwnPasswords SparesOthers Consistent readUsers)
open RdpConnection

/-- The users whose jobs are finished. -/
def finishedUsers (finished : List QString) (config : KRDPServerConfig) : List User :=
  readUsers { config with users := finished }

/-- The hash in the first record of a name. -/
def lookUp (name : QString) (file : QByteArray) : Option QByteArray :=
  ((readSam file).find? fun record => record.user == some (toUtf8 name)).bind SamRecord.ntHash

def hashFor (ntowfV1A : Ntowf) (password : QString) : QByteArray :=
  hexForm (ntowfV1A (toUtf8 password)).toList

/-- A name of characters that a line of the file can have. -/
structure TypedName (name : QString) : Prop where
  scalars : ∃ text : List Char, name = Utf16.encode text
  colon : RdpConnection.colon ∉ name
  newline : RdpConnection.newline ∉ name

/-! ### Names in UTF-8 -/

/-- Different names stay different in UTF-8. -/
theorem toUtf8_inj {first second : QString} (typed : TypedName first) (other : TypedName second) :
    toUtf8 first = toUtf8 second ↔ first = second := by
  constructor
  · intro same
    obtain ⟨firstText, rfl⟩ := typed.scalars
    obtain ⟨secondText, rfl⟩ := other.scalars
    rw [toUtf8_encode, toUtf8_encode] at same
    have bytes : firstText.utf8Encode = secondText.utf8Encode := congrArg List.toByteArray same
    rw [← String.toByteArray_ofList, ← String.toByteArray_ofList, String.toByteArray_inj] at bytes
    rw [String.ofList_injective bytes]
  · exact congrArg toUtf8

/-! ### The file -/

/-- The file of typed names has their records in order. -/
theorem readSam_typed (ntowfV1A : Ntowf) {users : List User}
    (typed : ∀ user ∈ users, TypedName user.name) :
    (createSamFile true ntowfV1A users).map readSam =
      some (users.map fun user =>
        { user := some (toUtf8 user.name), ntHash := some (hashFor ntowfV1A user.password) }) := by
  rw [readSam_of_clean ntowfV1A fun user member => (typed user member).newline, Option.some_inj,
    List.map_inj_left]
  exact fun user member => readRecord_samLine ntowfV1A (typed user member).colon

/-- A name finds its own record. -/
theorem lookUp_typed (ntowfV1A : Ntowf) {users : List User} {name : QString}
    (typed : ∀ user ∈ users, TypedName user.name) (named : TypedName name) :
    (createSamFile true ntowfV1A users).bind (lookUp name) =
      (users.find? fun user => user.name == name).map fun user =>
        hashFor ntowfV1A user.password := by
  have file := readSam_typed ntowfV1A typed
  cases written : createSamFile true ntowfV1A users with
  | none =>
      rw [written] at file
      cases file
  | some bytes =>
      rw [written, Option.map_some, Option.some_inj] at file
      rw [Option.bind_some, lookUp, file, List.find?_map]
      have same : ∀ user ∈ users,
          (some (toUtf8 user.name) == some (toUtf8 name)) = (user.name == name) := by
        intro user member
        rw [Bool.eq_iff_iff, beq_iff_eq, beq_iff_eq, Option.some_inj]
        exact toUtf8_inj (typed user member) named
      rw [← List.head?_filter, ← List.head?_filter, ← List.filter_congr same, List.head?_filter,
        List.head?_filter]
      simp only [Function.comp_def]
      cases users.find? _ <;> rfl

/-! ### Every run of the settings -/

/-- Names are typed into the dialog. -/
def NameTyped : Action → Prop
  | .saveUser modal => TypedName modal.username
  | .deleteUser _ => True

/-- Whoever is listed can log in with the password that was last set for exactly this user,
and nobody else can, once the job of the user is finished. -/
def LoginsFollow (ntowfV1A : Ntowf) (world : World) : Prop :=
  ∀ finished : List QString, finished.Subperm world.config.users →
    ∀ name, TypedName name →
      (createSamFile true ntowfV1A (finishedUsers finished world.config)).bind (lookUp name) =
        if name ∈ finished then (world.lastSet name).map (hashFor ntowfV1A) else none

structure Listed (world : World) : Prop where
  consistent : Consistent world
  typed : ∀ user ∈ world.config.users, TypedName user

section Settings

variable {world : World}

/-- Every name of the list was typed. -/
theorem typed_step (named : [] ∉ world.config.users) {action : Action} (typed : NameTyped action)
    (before : ∀ user ∈ world.config.users, TypedName user) :
    ∀ user ∈ (Kcm.step world action).config.users, TypedName user := by
  cases action with
  | saveUser modal =>
      rw [Kcm.step]
      split
      · rename_i issued
        have listed : ∀ kept : List QString, (∀ user ∈ kept, user ∈ world.config.users) →
            ∀ user ∈ kept ++ [modal.username], TypedName user := by
          intro kept among user member
          rcases List.mem_append.mp member with earlier | new
          · exact before user (among user earlier)
          · rw [List.mem_singleton.mp new]
            exact typed
        rcases Kcm.EditUserModal.saveUser_cases issued named with adds | sets | renames
        · rw [adds.2.2]
          exact listed _ fun _ member => member
        · rw [sets.2.2]
          exact before
        · rw [renames.2.2]
          exact listed _ fun _ member => (Kcm.mem_removeAll.mp member).1
      · exact before
  | deleteUser username =>
      simp only [Kcm.step, Kcm.deleteUser]
      split
      · split
        · exact fun user member => before user (Kcm.mem_removeAll.mp member).1
        · exact before
      · exact before

theorem Listed.step (listed : Listed world) {action : Action} (spares : SparesOthers world action)
    (typed : NameTyped action) : Listed (Kcm.step world action) where
  consistent :=
    ⟨(listed.consistent.listing.step action).named, (listed.consistent.step_iff action).mpr spares⟩
  typed := typed_step listed.consistent.named typed listed.typed

theorem finishedUsers_cons (kept : KeepOwnPasswords world) {name : QString}
    (listed : name ∈ world.config.users) (rest : List QString) :
    ∃ password, world.lastSet name = some password ∧
      finishedUsers (name :: rest) world.config =
        { name, password } :: finishedUsers rest world.config := by
  obtain ⟨password, set, stored⟩ := kept.own name listed
  refine ⟨password, set, ?_⟩
  rw [finishedUsers, readUsers, List.filterMap_cons, stored]
  rfl

/-- The finished jobs read the passwords that were last set. -/
theorem find_finished (kept : KeepOwnPasswords world) (ntowfV1A : Ntowf) (name : QString)
    {finished : List QString} (among : ∀ user ∈ finished, user ∈ world.config.users) :
    ((finishedUsers finished world.config).find? fun user => user.name == name).map
        (fun user => hashFor ntowfV1A user.password) =
      if name ∈ finished then (world.lastSet name).map (hashFor ntowfV1A) else none := by
  induction finished with
  | nil => rfl
  | cons first rest ih =>
      obtain ⟨password, set, users⟩ := finishedUsers_cons kept (among first List.mem_cons_self) rest
      rw [users]
      by_cases same : first = name
      · have found : (first == name) = true := beq_iff_eq.mpr same
        simp only [List.find?_cons, found, Option.map_some]
        rw [← same, if_pos List.mem_cons_self, set, Option.map_some]
      · have skipped : (first == name) = false := beq_eq_false_iff_ne.mpr same
        simp only [List.find?_cons, skipped]
        rw [ih fun user member => among user (List.mem_cons_of_mem _ member)]
        simp only [List.mem_cons, Ne.symm same, false_or]

theorem Listed.logins (listed : Listed world) (ntowfV1A : Ntowf) :
    LoginsFollow ntowfV1A world := by
  intro finished jobs name named
  have among : ∀ user ∈ finished, user ∈ world.config.users := jobs.subset
  have typed : ∀ user ∈ finishedUsers finished world.config, TypedName user.name := by
    intro user member
    obtain ⟨userName, isFinished, read⟩ := List.mem_filterMap.mp member
    obtain ⟨password, _, rfl⟩ := Option.map_eq_some_iff.mp read
    exact listed.typed userName (among userName isFinished)
  rw [lookUp_typed ntowfV1A typed named]
  exact find_finished listed.consistent.kept ntowfV1A name among

end Settings

/-- In every run of the settings that touches no entry of another user and types its names,
whoever is listed can log in with the password that was last set for exactly this user. -/
theorem logins_follow_settings (ntowfV1A : Ntowf) (wallet : Kcm.Wallet) (actions : List Action)
    (along : StepRun.Along Kcm.step
      (fun world action => SparesOthers world action ∧ NameTyped action)
      { config := { wallet } } actions) :
    StepRun.Always Kcm.step (LoginsFollow ntowfV1A) { config := { wallet } } actions := by
  refine StepRun.always_of_along Listed ?_ ?_ (fun _ listed => listed.logins ntowfV1A) along
  · exact ⟨⟨List.not_mem_nil, List.nodup_nil, List.forall_mem_nil _⟩, List.forall_mem_nil _⟩
  · intro world action listed condition
    exact listed.step condition.1 condition.2

def adds (username password : QString) : Action :=
  .saveUser { oldUsername := [], username, password, passwordChanged := true }

/-- Two users with entries of their own. -/
theorem logins_follow_settings_two :
    StepRun.Always Kcm.step (LoginsFollow constantHash) { config := { wallet := fun _ => none } }
      [adds [0x61] [0x31], adds [0x62] [0x32]] := by
  have first : TypedName [0x61] := ⟨⟨['a'], by decide⟩, by decide, by decide⟩
  have second : TypedName [0x62] := ⟨⟨['b'], by decide⟩, by decide, by decide⟩
  have users : (Kcm.step { config := { wallet := fun _ => none } }
      (adds [0x61] [0x31])).config.users = [[0x61]] := by decide
  refine logins_follow_settings constantHash _ _ ⟨⟨?_, first⟩, ⟨?_, second⟩, trivial⟩
  · intro _ other member
    cases member
  · intro _ other member _ _
    rw [users] at member
    rw [List.mem_singleton.mp member]
    exact .inr ⟨by decide, by decide⟩

end Logins

end KRdp
