/-
The users of the settings module.

The list of users is keyed by their names, the wallet by the names in Latin-1, in
which every other character is a question mark.  The dialogs add, modify and
delete users; krdpserver reads the password of each listed user when it starts.
-/

import Mathlib.Data.List.Nodup
import KRdp.Library.Run
import KRdp.Library.SharedStore
import KRdp.RdpConnection.PostConnect

namespace KRdp

namespace Kcm

open Clipboard (QString)
open SharedStore (Owns Spared)

/-- The keys of the wallet. -/
def toLatin1 (text : QString) : List UInt8 :=
  text.map fun unit => if unit ≤ 0xFF then unit.toUInt8 else 0x3F

abbrev Wallet := List UInt8 → Option QString

def writePasswordToWallet (user password : QString) (wallet : Wallet) : Wallet :=
  Function.update wallet (toLatin1 user) (some password)

def deletePasswordFromWallet (user : QString) (wallet : Wallet) : Wallet :=
  Function.update wallet (toLatin1 user) none

def readPassword (user : QString) (wallet : Wallet) : Option QString :=
  wallet (toLatin1 user)

structure KRDPServerConfig where
  users : List QString := []
  wallet : Wallet := fun _ => none

def userExists (username : QString) (config : KRDPServerConfig) : Bool :=
  config.users.contains username

def removeAll (username : QString) (users : List QString) : List QString :=
  users.filter fun user => user != username

def addUser (username password : QString) (config : KRDPServerConfig) : KRDPServerConfig :=
  if username ≠ [] then
    { users := config.users ++ [username]
      wallet := writePasswordToWallet username password config.wallet }
  else config

def modifyUser (oldUsername newUsername newPassword : QString) (config : KRDPServerConfig) :
    KRDPServerConfig :=
  if userExists newUsername config then config
  else if newUsername ≠ [] then
    { users := removeAll oldUsername config.users ++ [newUsername]
      wallet := writePasswordToWallet newUsername newPassword
        (deletePasswordFromWallet oldUsername config.wallet) }
  else if oldUsername ≠ [] then
    { config with wallet := writePasswordToWallet oldUsername newPassword config.wallet }
  else config

def deleteUser (username : QString) (config : KRDPServerConfig) : KRDPServerConfig :=
  if username ≠ [] then
    { users := removeAll username config.users
      wallet := deletePasswordFromWallet username config.wallet }
  else config

/-- What krdpserver reads when it starts; a user without an entry is left out. -/
def readUsers (config : KRDPServerConfig) : List User :=
  config.users.filterMap fun userName =>
    (readPassword userName config.wallet).map fun password => { name := userName, password }

/-! ### The dialogs -/

/-- The button of the dialog, by the flags and the fields of the dialog. -/
def saveEnabled (usernameChanged passwordChanged usernameAlreadyExistsError : Bool)
    (username password : QString) : Bool :=
  (usernameChanged || passwordChanged) && (username != [] && password != []) &&
    !usernameAlreadyExistsError

/-- What the button does; without an old name it adds a user. -/
def saveUser (usernameChanged passwordChanged : Bool) (oldUsername username password : QString)
    (config : KRDPServerConfig) : KRDPServerConfig :=
  if oldUsername = [] then addUser username password config
  else if usernameChanged || passwordChanged then
    if oldUsername = username then modifyUser oldUsername [] password config
    else modifyUser oldUsername username password config
  else config

/-- The fields of the dialog when its button is pressed. -/
structure EditUserModal where
  oldUsername : QString
  username : QString
  password : QString
  passwordChanged : Bool
  deriving DecidableEq, Repr

namespace EditUserModal

def usernameChanged (modal : EditUserModal) : Bool :=
  modal.username != modal.oldUsername

def usernameAlreadyExistsError (config : KRDPServerConfig) (modal : EditUserModal) : Bool :=
  userExists modal.username config && modal.username != modal.oldUsername

def saveEnabled (config : KRDPServerConfig) (modal : EditUserModal) : Bool :=
  Kcm.saveEnabled modal.usernameChanged modal.passwordChanged
    (modal.usernameAlreadyExistsError config) modal.username modal.password

/-- The dialog is opened for a user of the list or to add one, and saves only
when its button is enabled. -/
def issued (config : KRDPServerConfig) (modal : EditUserModal) : Bool :=
  (modal.oldUsername == [] || userExists modal.oldUsername config) && modal.saveEnabled config

def saveUser (modal : EditUserModal) (config : KRDPServerConfig) : KRDPServerConfig :=
  Kcm.saveUser modal.usernameChanged modal.passwordChanged modal.oldUsername modal.username
    modal.password config

end EditUserModal

/-- The last field observes the passwords as the user of the dialogs set them. -/
structure World where
  config : KRDPServerConfig := {}
  lastSet : QString → Option QString := fun _ => none

inductive Action where
  | saveUser (modal : EditUserModal)
  | deleteUser (username : QString)
  deriving DecidableEq, Repr

def step (world : World) : Action → World
  | .saveUser modal =>
      if modal.issued world.config then
        { config := modal.saveUser world.config
          lastSet := Function.update world.lastSet modal.username (some modal.password) }
      else world
  | .deleteUser username =>
      if userExists username world.config then
        { config := Kcm.deleteUser username world.config
          lastSet := world.lastSet }
      else world

/-- No user is listed twice, and each reads the password that was last set for
exactly this user. -/
structure KeepOwnPasswords (world : World) : Prop where
  duplicateFree : world.config.users.Nodup
  own : ∀ user ∈ world.config.users, ∃ password,
    world.lastSet user = some password ∧
      readPassword user world.config.wallet = some password

/-- Another user of the list has a key of its own, or the key that is written and
the very password that is written there. -/
def SparesOthers (world : World) : Action → Prop
  | .saveUser modal =>
      modal.issued world.config = true →
        ∀ other ∈ world.config.users, other ≠ modal.oldUsername → other ≠ modal.username →
          Spared toLatin1 (fun place => place = toLatin1 modal.oldUsername) world.lastSet
            modal.username modal.password other
  | .deleteUser username =>
      userExists username world.config = true →
        ∀ other ∈ world.config.users, other ≠ username → toLatin1 other ≠ toLatin1 username

/-! ### One operation -/

/-- What holds of the list alone. -/
structure Listing (users : List QString) : Prop where
  named : [] ∉ users
  distinct : users.Nodup

structure Consistent (world : World) : Prop where
  named : [] ∉ world.config.users
  kept : KeepOwnPasswords world

section Steps

variable {world : World} {modal : EditUserModal} {username other : QString}

theorem mem_removeAll {users : List QString} :
    other ∈ removeAll username users ↔ other ∈ users ∧ other ≠ username := by
  simp [removeAll]

theorem userExists_iff {config : KRDPServerConfig} :
    userExists username config = true ↔ username ∈ config.users := by
  simp [userExists]

/-- What the dialog makes sure of before it saves. -/
theorem EditUserModal.issued_iff {config : KRDPServerConfig} :
    modal.issued config = true ↔
      (modal.oldUsername = [] ∨ modal.oldUsername ∈ config.users) ∧
        (modal.username ≠ modal.oldUsername ∨ modal.passwordChanged = true) ∧
        modal.username ≠ [] ∧ modal.password ≠ [] ∧
        (modal.username ∉ config.users ∨ modal.username = modal.oldUsername) := by
  simp [issued, saveEnabled, Kcm.saveEnabled, usernameChanged, usernameAlreadyExistsError,
    userExists]
  tauto

/-- What saving does: it adds a user, sets a password or renames a user. -/
theorem EditUserModal.saveUser_cases {config : KRDPServerConfig}
    (issued : modal.issued config = true) (named : [] ∉ config.users) :
    (modal.oldUsername = [] ∧ modal.username ∉ config.users ∧
        modal.saveUser config =
          { users := config.users ++ [modal.username]
            wallet := writePasswordToWallet modal.username modal.password config.wallet }) ∨
      (modal.oldUsername = modal.username ∧ modal.username ∈ config.users ∧
        modal.saveUser config =
          { config with
            wallet := writePasswordToWallet modal.username modal.password config.wallet }) ∨
      (modal.oldUsername ∈ config.users ∧ modal.username ∉ config.users ∧
        modal.saveUser config =
          { users := removeAll modal.oldUsername config.users ++ [modal.username]
            wallet := writePasswordToWallet modal.username modal.password
              (deletePasswordFromWallet modal.oldUsername config.wallet) }) := by
  obtain ⟨opened, changed, nonempty, _, free⟩ := issued_iff.mp issued
  have absent : userExists [] config ≠ true := mt userExists_iff.mp named
  unfold saveUser Kcm.saveUser
  by_cases adds : modal.oldUsername = []
  · rw [if_pos adds, addUser, if_pos nonempty]
    refine .inl ⟨adds, ?_, rfl⟩
    rcases free with unlisted | same
    · exact unlisted
    · exact absurd (same.trans adds) nonempty
  · have listed : modal.oldUsername ∈ config.users := opened.resolve_left adds
    have edited : (modal.usernameChanged || modal.passwordChanged) = true := by
      rw [Bool.or_eq_true, usernameChanged, bne_iff_ne]
      exact changed
    rw [if_neg adds, if_pos edited]
    by_cases same : modal.oldUsername = modal.username
    · rw [if_pos same, modifyUser, if_neg absent, if_neg (not_not_intro rfl), if_pos adds]
      refine .inr (.inl ⟨same, same ▸ listed, ?_⟩)
      rw [same]
    · have unlisted : modal.username ∉ config.users := free.resolve_right (Ne.symm same)
      rw [if_neg same, modifyUser, if_neg (mt userExists_iff.mp unlisted), if_pos nonempty]
      exact .inr (.inr ⟨listed, unlisted, rfl⟩)

theorem toLatin1_ne_nil (nonempty : other ≠ []) : toLatin1 other ≠ toLatin1 [] := by
  cases other with
  | nil => exact absurd rfl nonempty
  | cons unit rest => exact List.cons_ne_nil _ _

theorem Listing.append {users : List QString} (listing : Listing users)
    (nonempty : username ≠ []) (fresh : username ∉ users) : Listing (users ++ [username]) where
  named := by
    rw [List.mem_append, List.mem_singleton, not_or]
    exact ⟨listing.named, nonempty.symm⟩
  distinct := by
    rw [← List.concat_eq_append]
    exact listing.distinct.concat fresh

theorem Listing.removeAll {users : List QString} (listing : Listing users) (username : QString) :
    Listing (Kcm.removeAll username users) where
  named := fun kept => listing.named (mem_removeAll.mp kept).1
  distinct := listing.distinct.filter _

theorem Consistent.listing (consistent : Consistent world) : Listing world.config.users :=
  ⟨consistent.named, consistent.kept.duplicateFree⟩

/-- The list without duplicates, and who owns the wallet. -/
theorem keepOwnPasswords_iff :
    KeepOwnPasswords world ↔
      world.config.users.Nodup ∧
        Owns toLatin1 world.config.users world.lastSet world.config.wallet := by
  constructor
  · intro kept
    exact ⟨kept.duplicateFree, kept.own⟩
  · intro both
    exact ⟨both.1, both.2⟩

/-- The three ways of saving differ in the list and in what is erased before the
write. -/
theorem Consistent.write_iff (consistent : Consistent world) {old : QString}
    {users : List QString} {wallet : Wallet} (erased : List UInt8 → Prop)
    (distinct : users.Nodup)
    (others : ∀ other, other ≠ username →
      (other ∈ users ↔ other ∈ world.config.users ∧ other ≠ old))
    (gone : ∀ place, erased place → wallet place = none)
    (kept : ∀ place, ¬erased place → wallet place = world.config.wallet place)
    (erasesOld : ∀ other ∈ world.config.users,
      erased (toLatin1 other) ↔ toLatin1 other = toLatin1 old)
    (password : QString) :
    KeepOwnPasswords
        { config := { users, wallet := writePasswordToWallet username password wallet }
          lastSet := Function.update world.lastSet username (some password) } ↔
      ∀ other ∈ world.config.users, other ≠ old → other ≠ username →
        Spared toLatin1 (fun place => place = toLatin1 old) world.lastSet username password
          other := by
  have owned : ∀ other ∈ users, other ≠ username → ∃ own,
      world.lastSet other = some own ∧ world.config.wallet (toLatin1 other) = some own := by
    intro other member different
    exact consistent.kept.own other ((others other different).mp member).1
  rw [keepOwnPasswords_iff, and_iff_right distinct]
  apply (SharedStore.owns_write_iff owned gone kept).trans
  constructor
  · intro spared other member notOld different
    have spares := spared other ((others other different).mpr ⟨member, notOld⟩) different
    exact (SharedStore.spared_congr (erasesOld other member)).mp spares
  · intro spared other member different
    obtain ⟨listed, notOld⟩ := (others other different).mp member
    have spares := spared other listed notOld different
    exact (SharedStore.spared_congr (erasesOld other listed)).mpr spares

/-- A write after the entry of the old name was deleted. -/
theorem Consistent.replace_iff (consistent : Consistent world) {old : QString}
    {users : List QString} (distinct : users.Nodup)
    (others : ∀ other, other ≠ username →
      (other ∈ users ↔ other ∈ world.config.users ∧ other ≠ old))
    (password : QString) :
    KeepOwnPasswords
        { config :=
            { users
              wallet := writePasswordToWallet username password
                (deletePasswordFromWallet old world.config.wallet) }
          lastSet := Function.update world.lastSet username (some password) } ↔
      ∀ other ∈ world.config.users, other ≠ old → other ≠ username →
        Spared toLatin1 (fun place => place = toLatin1 old) world.lastSet username password
          other := by
  apply consistent.write_iff (fun place => place = toLatin1 old) distinct others
  · intro place same
    rw [deletePasswordFromWallet, same, Function.update_self]
  · intro place different
    exact Function.update_of_ne different _ _
  · intro other _
    exact Iff.rfl

theorem Consistent.add_iff (consistent : Consistent world) (named : username ≠ [])
    (unlisted : username ∉ world.config.users) (password : QString) :
    KeepOwnPasswords
        { config :=
            { users := world.config.users ++ [username]
              wallet := writePasswordToWallet username password world.config.wallet }
          lastSet := Function.update world.lastSet username (some password) } ↔
      ∀ other ∈ world.config.users, other ≠ [] → other ≠ username →
        Spared toLatin1 (fun place => place = toLatin1 []) world.lastSet username password
          other := by
  have nonempty : ∀ other ∈ world.config.users, other ≠ [] := by
    intro other member empty
    exact consistent.named (empty ▸ member)
  apply consistent.write_iff (fun _ => False)
  · exact (consistent.listing.append named unlisted).distinct
  · intro other different
    rw [List.mem_append, List.mem_singleton, or_iff_left different]
    exact (and_iff_left_of_imp (nonempty other)).symm
  · intro _ impossible
    exact impossible.elim
  · intro _ _
    rfl
  · intro other member
    exact iff_of_false id (toLatin1_ne_nil (nonempty other member))

theorem Consistent.set_iff (consistent : Consistent world) (password : QString) :
    KeepOwnPasswords
        { config :=
            { world.config with
              wallet := writePasswordToWallet username password world.config.wallet }
          lastSet := Function.update world.lastSet username (some password) } ↔
      ∀ other ∈ world.config.users, other ≠ username → other ≠ username →
        Spared toLatin1 (fun place => place = toLatin1 username) world.lastSet username password
          other := by
  have overwritten : writePasswordToWallet username password world.config.wallet =
      writePasswordToWallet username password
        (deletePasswordFromWallet username world.config.wallet) :=
    (Function.update_idem _ _ _).symm
  rw [overwritten]
  apply consistent.replace_iff consistent.kept.duplicateFree
  intro other different
  exact (and_iff_left different).symm

theorem Consistent.rename_iff (consistent : Consistent world) (old : QString)
    (named : username ≠ []) (unlisted : username ∉ world.config.users) (password : QString) :
    KeepOwnPasswords
        { config :=
            { users := removeAll old world.config.users ++ [username]
              wallet := writePasswordToWallet username password
                (deletePasswordFromWallet old world.config.wallet) }
          lastSet := Function.update world.lastSet username (some password) } ↔
      ∀ other ∈ world.config.users, other ≠ old → other ≠ username →
        Spared toLatin1 (fun place => place = toLatin1 old) world.lastSet username password
          other := by
  have fresh : username ∉ removeAll old world.config.users :=
    fun kept => unlisted (mem_removeAll.mp kept).1
  apply consistent.replace_iff ((consistent.listing.removeAll old).append named fresh).distinct
  intro other different
  rw [List.mem_append, List.mem_singleton, or_iff_left different, mem_removeAll]

theorem Consistent.saveUser_iff (consistent : Consistent world)
    (issued : modal.issued world.config = true) :
    KeepOwnPasswords (step world (.saveUser modal)) ↔
      SparesOthers world (.saveUser modal) := by
  have stepEq : step world (.saveUser modal) =
      { config := modal.saveUser world.config
        lastSet := Function.update world.lastSet modal.username (some modal.password) } :=
    if_pos issued
  have nonempty := (EditUserModal.issued_iff.mp issued).2.2.1
  rw [stepEq, SparesOthers, imp_iff_right issued]
  rcases EditUserModal.saveUser_cases issued consistent.named with adds | sets | renames
  · rw [adds.2.2, adds.1]
    exact consistent.add_iff nonempty adds.2.1 modal.password
  · rw [sets.2.2, sets.1]
    exact consistent.set_iff modal.password
  · rw [renames.2.2]
    exact consistent.rename_iff modal.oldUsername nonempty renames.2.1 modal.password

theorem Consistent.deleteUser_iff (consistent : Consistent world)
    (listed : userExists username world.config = true) :
    KeepOwnPasswords (step world (.deleteUser username)) ↔
      SparesOthers world (.deleteUser username) := by
  have nonempty : username ≠ [] := by
    intro empty
    exact consistent.named (empty ▸ userExists_iff.mp listed)
  have stepEq : step world (.deleteUser username) =
      { config :=
          { users := removeAll username world.config.users
            wallet := deletePasswordFromWallet username world.config.wallet }
        lastSet := world.lastSet } := by
    rw [step, if_pos listed, deleteUser, if_pos nonempty]
  have owned : ∀ other ∈ removeAll username world.config.users, ∃ own,
      world.lastSet other = some own ∧ world.config.wallet (toLatin1 other) = some own := by
    intro other member
    exact consistent.kept.own other (mem_removeAll.mp member).1
  have distinct : (removeAll username world.config.users).Nodup :=
    (consistent.listing.removeAll username).distinct
  rw [stepEq, SparesOthers, imp_iff_right listed]
  apply (keepOwnPasswords_iff.trans (and_iff_right distinct)).trans
  apply (SharedStore.owns_erase_iff owned).trans
  simp only [mem_removeAll, and_imp]

/-! ### Every sequence of operations -/

theorem Consistent.step_iff (consistent : Consistent world) (action : Action) :
    KeepOwnPasswords (step world action) ↔ SparesOthers world action := by
  cases action with
  | saveUser modal =>
      by_cases issued : modal.issued world.config = true
      · exact consistent.saveUser_iff issued
      · rw [step, if_neg issued]
        exact iff_of_true consistent.kept fun isIssued => absurd isIssued issued
  | deleteUser username =>
      by_cases listed : userExists username world.config = true
      · exact consistent.deleteUser_iff listed
      · rw [step, if_neg listed]
        exact iff_of_true consistent.kept fun isListed => absurd isListed listed

theorem Listing.step (listing : Listing world.config.users) (action : Action) :
    Listing (Kcm.step world action).config.users := by
  cases action with
  | saveUser modal =>
      by_cases issued : modal.issued world.config = true
      · have nonempty := (EditUserModal.issued_iff.mp issued).2.2.1
        rw [Kcm.step, if_pos issued]
        rcases EditUserModal.saveUser_cases issued listing.named with adds | sets | renames
        · rw [adds.2.2]
          exact listing.append nonempty adds.2.1
        · rw [sets.2.2]
          exact listing
        · rw [renames.2.2]
          exact (listing.removeAll _).append nonempty fun kept =>
            renames.2.1 (mem_removeAll.mp kept).1
      · rw [Kcm.step, if_neg issued]
        exact listing
  | deleteUser username =>
      simp only [Kcm.step, deleteUser]
      split
      · split
        · exact listing.removeAll _
        · exact listing
      · exact listing

end Steps

/-- The server reads each user with the own password. -/
theorem KeepOwnPasswords.readUsers_eq {world : World} (kept : KeepOwnPasswords world) :
    (readUsers world.config).map (fun user => (user.name, some user.password)) =
      world.config.users.map fun name => (name, world.lastSet name) := by
  have own := kept.own
  unfold readUsers
  generalize world.config.users = users at own
  induction users with
  | nil => rfl
  | cons name rest ih =>
      obtain ⟨password, set, stored⟩ := own name (List.mem_cons_self ..)
      rw [List.filterMap_cons, stored]
      simp only [Option.map_some, List.map_cons]
      rw [ih fun user member => own user (List.mem_cons_of_mem _ member), set]

/-- The list itself is free of duplicates whatever the names are. -/
theorem duplicateFree_always (wallet : Wallet) (actions : List Action) :
    StepRun.Always step (fun world => world.config.users.Nodup) { config := { wallet } }
      actions := by
  apply StepRun.always_of_invariant fun world => Listing world.config.users
  · exact ⟨List.not_mem_nil, List.nodup_nil⟩
  · intro world action listing
    exact listing.step action
  · intro world listing
    exact listing.distinct

/-- From an empty list and any wallet, over every sequence of operations, each
user keeps the own password exactly when no operation touches the entry of
another user, unless it writes the same password there. -/
theorem keepOwnPasswords_always_iff (wallet : Wallet) (actions : List Action) :
    StepRun.Always step KeepOwnPasswords { config := { wallet } } actions ↔
      StepRun.Along step SparesOthers { config := { wallet } } actions := by
  apply StepRun.always_iff_along Consistent
  · refine ⟨List.not_mem_nil, List.nodup_nil, ?_⟩
    intro user member
    cases member
  · intro world action consistent spares
    exact ⟨(consistent.listing.step action).named, (consistent.step_iff action).mpr spares⟩
  · intro world consistent
    exact consistent.kept
  · intro world action consistent touches kept
    exact touches ((consistent.step_iff action).mp kept)

/-! ### Two names with one key -/

def sun : QString := [0x65E5]

def moon : QString := [0x6708]

def addsSunAndMoon : List Action :=
  [.saveUser { oldUsername := [], username := sun, password := [0x31], passwordChanged := true },
    .saveUser { oldUsername := [], username := moon, password := [0x32], passwordChanged := true }]

/-- The second user overwrites the password of the first. -/
theorem keepOwnPasswords_fails :
    let world := StepRun.run step {} addsSunAndMoon
    world.config.users = [sun, moon] ∧ world.lastSet sun = some [0x31] ∧
      readPassword sun world.config.wallet = some [0x32] ∧ ¬KeepOwnPasswords world := by
  intro world
  have listed : sun ∈ world.config.users := by decide
  refine ⟨by decide, by decide, by decide, ?_⟩
  intro kept
  obtain ⟨password, set, stored⟩ := kept.own sun listed
  have first : world.lastSet sun = some [0x31] := by decide
  have second : readPassword sun world.config.wallet = some [0x32] := by decide
  rw [first] at set
  rw [second, ← set] at stored
  revert stored
  decide

end Kcm

end KRdp
