/-
The dialog that edits a user, and the wallet that answers it.

The dialog asks for the password of its user when it is shown.  The answer comes when
the wallet is done, whatever has been done in the dialog since, and a user may open the
dialog again before the answer to an earlier question is there.
-/

import KRdp.Kcm.Users

namespace KRdp

namespace Kcm

namespace EditUser

open Clipboard (QString)
open StepRun

/-- The fields of the dialog, and the flags that enable its button. -/
structure Dialog where
  opened : Bool := false
  oldUsername : QString := []
  usernameField : QString := []
  passwordField : QString := []
  passwordChanged : Bool := false
  usernameChanged : Bool := false
  usernameAlreadyExistsError : Bool := false
  deriving DecidableEq, Repr

namespace Dialog

def saveEnabled (dialog : Dialog) : Bool :=
  Kcm.saveEnabled dialog.usernameChanged dialog.passwordChanged dialog.usernameAlreadyExistsError
    dialog.usernameField dialog.passwordField

def saveUser (dialog : Dialog) (config : KRDPServerConfig) : KRDPServerConfig :=
  Kcm.saveUser dialog.usernameChanged dialog.passwordChanged dialog.oldUsername
    dialog.usernameField dialog.passwordField config

/-- What the operations of the module see of the dialog. -/
def modal (dialog : Dialog) : EditUserModal :=
  { oldUsername := dialog.oldUsername
    username := dialog.usernameField
    password := dialog.passwordField
    passwordChanged := dialog.passwordChanged }

end Dialog

/-- A password that was written, with what had been typed and what the wallet had. -/
structure Saved where
  password : QString
  typed : Option QString
  stored : Option QString
  deriving DecidableEq, Repr

/-- What the wallet had for a user, and how often the dialog had been shown by then. -/
structure Answer where
  user : QString
  password : Option QString
  showing : Nat
  deriving DecidableEq, Repr

/-- A job reads the wallet some time after it was started, and is answered some time
after that.  The last four fields observe how often the dialog was shown and what was typed
since, the passwords that are saved, and the operations that are issued. -/
structure Screen where
  dialog : Dialog := {}
  config : KRDPServerConfig := {}
  reading : List QString := []
  answers : List Answer := []
  showing : Nat := 0
  typed : Option QString := none
  saves : List Saved := []
  issued : List Kcm.Action := []

inductive Action where
  | modifyUser (user : QString)
  | editUsername (text : QString)
  | editPassword (text : QString)
  | readWallet (index : Nat)
  | finished (index : Nat)
  | saveUser
  | cancel
  | deleteUser (username : QString)
  deriving DecidableEq, Repr

def readPasswordFromWallet (user : QString) (screen : Screen) : Screen :=
  if user = [] then screen else { screen with reading := screen.reading ++ [user] }

/-- The error is not reset. -/
def onAboutToShow (screen : Screen) : Screen :=
  readPasswordFromWallet screen.dialog.oldUsername
    { screen with
      dialog :=
        { screen.dialog with
          passwordChanged := false
          usernameChanged := false
          usernameField := screen.dialog.oldUsername
          passwordField := [] }
      showing := screen.showing + 1
      typed := none }

/-- Without a name the dialog adds a user. -/
def modifyUser (user : QString) (screen : Screen) : Screen :=
  onAboutToShow
    { screen with dialog := { screen.dialog with opened := true, oldUsername := user } }

def onUsernameEdited (text : QString) (screen : Screen) : Screen :=
  { screen with
    dialog :=
      { screen.dialog with
        usernameField := text
        usernameChanged := text != screen.dialog.oldUsername
        usernameAlreadyExistsError :=
          userExists text screen.config && text != screen.dialog.oldUsername } }

def onPasswordEdited (text : QString) (screen : Screen) : Screen :=
  { screen with
    dialog := { screen.dialog with passwordField := text, passwordChanged := true }
    typed := some text }

def onPasswordLoaded (user password : QString) (screen : Screen) : Screen :=
  if user = screen.dialog.oldUsername then
    { screen with dialog := { screen.dialog with passwordField := password } }
  else screen

def readWallet (index : Nat) (screen : Screen) : Screen :=
  match screen.reading[index]? with
  | some user =>
      { screen with
        reading := screen.reading.eraseIdx index
        answers := screen.answers ++
          [{ user := user
             password := readPassword user screen.config.wallet
             showing := screen.showing }] }
  | none => screen

/-- A job that failed leaves the dialog as it is. -/
def finished (index : Nat) (screen : Screen) : Screen :=
  let taken := { screen with answers := screen.answers.eraseIdx index }
  match screen.answers[index]? with
  | some ⟨user, some password, _⟩ => onPasswordLoaded user password taken
  | _ => taken

def saveUser (screen : Screen) : Screen :=
  let dialog := screen.dialog
  { screen with
    dialog := { dialog with opened := false }
    config := dialog.saveUser screen.config
    saves := screen.saves ++
      [{ password := dialog.passwordField
         typed := screen.typed
         stored := readPassword dialog.oldUsername screen.config.wallet }]
    issued := screen.issued ++ [.saveUser dialog.modal] }

def deleteUser (username : QString) (screen : Screen) : Screen :=
  { screen with
    config := Kcm.deleteUser username screen.config
    issued := screen.issued ++ [.deleteUser username] }

/-- The dialog covers the list of users while it is open. -/
def step (screen : Screen) : Action → Screen
  | .modifyUser user =>
      if !screen.dialog.opened && (user == [] || userExists user screen.config) then
        modifyUser user screen
      else screen
  | .editUsername text =>
      if screen.dialog.opened then onUsernameEdited text screen else screen
  | .editPassword text =>
      if screen.dialog.opened then onPasswordEdited text screen else screen
  | .readWallet index => readWallet index screen
  | .finished index => finished index screen
  | .saveUser =>
      if screen.dialog.opened && screen.dialog.saveEnabled then saveUser screen else screen
  | .cancel => { screen with dialog := { screen.dialog with opened := false } }
  | .deleteUser username =>
      if !screen.dialog.opened && userExists username screen.config then
        deleteUser username screen
      else screen

/-! ### What the dialog issues -/

structure Sound (screen : Screen) : Prop where
  user : screen.dialog.opened = true →
    screen.dialog.oldUsername = [] ∨ userExists screen.dialog.oldUsername screen.config = true
  changed : screen.dialog.opened = true →
    screen.dialog.usernameChanged = screen.dialog.modal.usernameChanged
  error : screen.dialog.opened = true → screen.dialog.usernameAlreadyExistsError = false →
    screen.dialog.modal.usernameAlreadyExistsError screen.config = false
  typed : screen.dialog.opened = true → screen.dialog.passwordChanged = screen.typed.isSome

theorem sound_initial (config : KRDPServerConfig) : Sound { config := config } := by
  refine ⟨?_, ?_, ?_, ?_⟩ <;> intro impossible <;> cases impossible

section Steps

variable {screen : Screen}

theorem not_opened {listed : Bool} (guard : (!screen.dialog.opened && listed) = true) :
    screen.dialog.opened = false :=
  (Bool.not_eq_true' _).mp (Bool.and_eq_true_iff.mp guard).1

theorem readPasswordFromWallet_eq (user : QString) (screen : Screen) :
    readPasswordFromWallet user screen =
      { screen with reading := (readPasswordFromWallet user screen).reading } := by
  unfold readPasswordFromWallet
  split <;> rfl

theorem modifyUser_dialog (user : QString) (screen : Screen) :
    (modifyUser user screen).dialog =
      { screen.dialog with
        opened := true
        oldUsername := user
        usernameField := user
        passwordField := []
        passwordChanged := false
        usernameChanged := false } := by
  rw [modifyUser, onAboutToShow, readPasswordFromWallet_eq]

theorem modifyUser_config (user : QString) (screen : Screen) :
    (modifyUser user screen).config = screen.config := by
  rw [modifyUser, onAboutToShow, readPasswordFromWallet_eq]

theorem modifyUser_answers (user : QString) (screen : Screen) :
    (modifyUser user screen).answers = screen.answers := by
  rw [modifyUser, onAboutToShow, readPasswordFromWallet_eq]

theorem modifyUser_showing (user : QString) (screen : Screen) :
    (modifyUser user screen).showing = screen.showing + 1 := by
  rw [modifyUser, onAboutToShow, readPasswordFromWallet_eq]

theorem modifyUser_typed (user : QString) (screen : Screen) :
    (modifyUser user screen).typed = none := by
  rw [modifyUser, onAboutToShow, readPasswordFromWallet_eq]

theorem modifyUser_saves (user : QString) (screen : Screen) :
    (modifyUser user screen).saves = screen.saves := by
  rw [modifyUser, onAboutToShow, readPasswordFromWallet_eq]

theorem modifyUser_issued (user : QString) (screen : Screen) :
    (modifyUser user screen).issued = screen.issued := by
  rw [modifyUser, onAboutToShow, readPasswordFromWallet_eq]

/-- An answer changes the password in the dialog, or nothing there. -/
theorem finished_cases (index : Nat) (screen : Screen) :
    ∃ dialog, finished index screen =
      { screen with
        dialog := dialog
        answers := screen.answers.eraseIdx index } ∧
      (dialog = screen.dialog ∨
        ∃ password showing,
          screen.answers[index]? =
            some ⟨screen.dialog.oldUsername, some password, showing⟩ ∧
          dialog = { screen.dialog with passwordField := password }) := by
  unfold finished
  dsimp only
  split
  · rename_i user password showing found
    unfold onPasswordLoaded
    split
    · rename_i same
      dsimp only at same
      rw [same] at found
      exact ⟨_, rfl, .inr ⟨password, showing, found, rfl⟩⟩
    · exact ⟨_, rfl, .inl rfl⟩
  · exact ⟨_, rfl, .inl rfl⟩

theorem readWallet_eq (index : Nat) (screen : Screen) :
    readWallet index screen =
      { screen with
        reading := (readWallet index screen).reading
        answers := (readWallet index screen).answers } := by
  unfold readWallet
  split <;> rfl

theorem Sound.closed {after : Screen} (closed : after.dialog.opened = false) : Sound after := by
  refine ⟨?_, ?_, ?_, ?_⟩ <;> intro impossible <;> cases closed.symm.trans impossible

theorem Sound.modifyUser (user : QString)
    (listed : user = [] ∨ userExists user screen.config = true) :
    Sound (modifyUser user screen) := by
  refine ⟨?_, ?_, ?_, ?_⟩ <;> rw [modifyUser_dialog]
  · intro _
    rwa [modifyUser_config]
  · intro _
    exact (bne_self_eq_false user).symm
  · intro _ _
    rw [modifyUser_config]
    change (userExists user screen.config && user != user) = false
    rw [bne_self_eq_false, Bool.and_false]
  · intro _
    rw [modifyUser_typed]
    rfl

theorem Sound.step (sound : Sound screen) (action : Action) : Sound (step screen action) := by
  cases action with
  | modifyUser user =>
      rw [EditUser.step]
      split
      · rename_i opens
        obtain ⟨_, listed⟩ := Bool.and_eq_true_iff.mp opens
        rw [Bool.or_eq_true, beq_iff_eq] at listed
        exact Sound.modifyUser user listed
      · exact sound
  | editUsername text =>
      rw [EditUser.step]
      split
      · exact ⟨sound.user, fun _ => rfl, fun _ clear => clear, sound.typed⟩
      · exact sound
  | editPassword text =>
      rw [EditUser.step]
      split
      · exact ⟨sound.user, sound.changed, sound.error, fun _ => rfl⟩
      · exact sound
  | readWallet index =>
      rw [EditUser.step, readWallet_eq]
      exact ⟨sound.user, sound.changed, sound.error, sound.typed⟩
  | finished index =>
      obtain ⟨dialog, taken, unchanged | ⟨password, _, _, changed⟩⟩ := finished_cases index screen
      · rw [EditUser.step, taken, unchanged]
        exact ⟨sound.user, sound.changed, sound.error, sound.typed⟩
      · rw [EditUser.step, taken, changed]
        exact ⟨sound.user, sound.changed, sound.error, sound.typed⟩
  | saveUser =>
      rw [EditUser.step]
      split
      · exact Sound.closed rfl
      · exact sound
  | cancel => exact Sound.closed rfl
  | deleteUser username =>
      rw [EditUser.step]
      split
      · rename_i deletes
        exact Sound.closed (not_opened deletes)
      · exact sound

/-- The flags of the dialog stand for what the module would look up. -/
theorem Sound.issued (sound : Sound screen) (opened : screen.dialog.opened = true)
    (enabled : screen.dialog.saveEnabled = true) :
    screen.dialog.modal.issued screen.config = true := by
  have changed := sound.changed opened
  have error := sound.error opened
  have user := sound.user opened
  simp only [Dialog.saveEnabled, Kcm.saveEnabled, Bool.and_eq_true, Bool.not_eq_true'] at enabled
  obtain ⟨⟨edited, filled⟩, clear⟩ := enabled
  rw [changed] at edited
  simp only [EditUserModal.issued, EditUserModal.saveEnabled, Kcm.saveEnabled, Bool.and_eq_true,
    Bool.or_eq_true, beq_iff_eq, Bool.not_eq_true']
  exact ⟨user, ⟨by rwa [Bool.or_eq_true] at edited, filled⟩, error clear⟩

theorem Sound.saveUser_eq (sound : Sound screen) (opened : screen.dialog.opened = true) :
    screen.dialog.saveUser screen.config = screen.dialog.modal.saveUser screen.config := by
  rw [Dialog.saveUser, sound.changed opened]
  rfl

end Steps

/-- What is issued is what the module expects of its dialogs. -/
def Issued (world : World) : Kcm.Action → Prop
  | .saveUser modal => modal.issued world.config = true
  | .deleteUser username => userExists username world.config = true

section Refinement

variable {screen : Screen}

/-- A step issues nothing, or one operation that the module takes. -/
theorem step_issues (sound : Sound screen) (action : Action) :
    ((step screen action).issued = screen.issued ∧
      (step screen action).config = screen.config) ∨
    ∃ operation, (step screen action).issued = screen.issued ++ [operation] ∧
      ∀ world : World, world.config = screen.config →
        Issued world operation ∧
          (Kcm.step world operation).config = (step screen action).config := by
  cases action with
  | modifyUser user =>
      rw [EditUser.step]
      split
      · exact .inl ⟨modifyUser_issued user screen, modifyUser_config user screen⟩
      · exact .inl ⟨rfl, rfl⟩
  | editUsername text =>
      rw [EditUser.step]
      split
      · exact .inl ⟨rfl, rfl⟩
      · exact .inl ⟨rfl, rfl⟩
  | editPassword text =>
      rw [EditUser.step]
      split
      · exact .inl ⟨rfl, rfl⟩
      · exact .inl ⟨rfl, rfl⟩
  | readWallet index =>
      rw [EditUser.step, readWallet_eq]
      exact .inl ⟨rfl, rfl⟩
  | finished index =>
      obtain ⟨dialog, taken, _⟩ := finished_cases index screen
      rw [EditUser.step, taken]
      exact .inl ⟨rfl, rfl⟩
  | saveUser =>
      rw [EditUser.step]
      split
      · rename_i saves
        obtain ⟨opened, enabled⟩ := Bool.and_eq_true_iff.mp saves
        refine .inr ⟨.saveUser screen.dialog.modal, rfl, ?_⟩
        intro world same
        have issued := sound.issued opened enabled
        rw [← same] at issued
        refine ⟨issued, ?_⟩
        rw [Kcm.step, if_pos issued, same]
        exact (sound.saveUser_eq opened).symm
      · exact .inl ⟨rfl, rfl⟩
  | cancel => exact .inl ⟨rfl, rfl⟩
  | deleteUser username =>
      rw [EditUser.step]
      split
      · rename_i deletes
        obtain ⟨_, listed⟩ := Bool.and_eq_true_iff.mp deletes
        refine .inr ⟨.deleteUser username, rfl, ?_⟩
        intro world same
        rw [← same] at listed
        refine ⟨listed, ?_⟩
        rw [Kcm.step, if_pos listed, same]
        rfl
      · exact .inl ⟨rfl, rfl⟩

/-- The settings are those that a run of the module comes to. -/
structure Refines (config : KRDPServerConfig) (screen : Screen) : Prop where
  taken : Along Kcm.step Issued { config := config } screen.issued
  reached : (run Kcm.step { config := config } screen.issued).config = screen.config

theorem Refines.step {config : KRDPServerConfig} (refines : Refines config screen)
    (sound : Sound screen) (action : Action) : Refines config (step screen action) := by
  rcases step_issues sound action with ⟨issued, same⟩ | ⟨operation, issued, takes⟩
  · refine ⟨?_, ?_⟩ <;> rw [issued]
    · exact refines.taken
    · exact refines.reached.trans same.symm
  · obtain ⟨met, reached⟩ := takes _ refines.reached
    refine ⟨?_, ?_⟩ <;> rw [issued]
    · exact (along_append _ _ _).mpr ⟨refines.taken, met, trivial⟩
    · rw [run_append]
      exact reached

end Refinement

/-! ### The error in the dialog -/

/-- The dialog names the error exactly if another user has the name in the field. -/
def ErrorRight (screen : Screen) : Prop :=
  screen.dialog.opened = true →
    screen.dialog.usernameAlreadyExistsError =
      screen.dialog.modal.usernameAlreadyExistsError screen.config

/-- The dialog is not shown with an error that was left in it. -/
def ShownClear (screen : Screen) : Action → Prop
  | .modifyUser user =>
      (!screen.dialog.opened && (user == [] || userExists user screen.config)) = true →
        screen.dialog.usernameAlreadyExistsError = false
  | _ => True

section Error

variable {screen : Screen}

/-- The name in the field is that of the user, which is no error. -/
theorem errorRight_modifyUser (user : QString) :
    ErrorRight (modifyUser user screen) ↔ screen.dialog.usernameAlreadyExistsError = false := by
  have right : (modifyUser user screen).dialog.modal.usernameAlreadyExistsError
      (modifyUser user screen).config = false := by
    rw [modifyUser_dialog]
    change (userExists user _ && user != user) = false
    rw [bne_self_eq_false, Bool.and_false]
  have opened : (modifyUser user screen).dialog.opened = true := by rw [modifyUser_dialog]
  rw [ErrorRight, imp_iff_right opened, right, modifyUser_dialog]

theorem errorRight_step (right : ErrorRight screen) (action : Action) :
    ErrorRight (step screen action) ↔ ShownClear screen action := by
  cases action with
  | modifyUser user =>
      rw [EditUser.step, ShownClear]
      split
      · rename_i shown
        exact (errorRight_modifyUser user).trans (imp_iff_right shown).symm
      · rename_i hidden
        exact iff_of_true right fun shown => absurd shown hidden
  | editUsername text =>
      refine iff_of_true ?_ trivial
      rw [EditUser.step]
      split
      · exact fun _ => rfl
      · exact right
  | editPassword text =>
      refine iff_of_true ?_ trivial
      rw [EditUser.step]
      split
      · exact right
      · exact right
  | readWallet index =>
      refine iff_of_true ?_ trivial
      rw [EditUser.step, readWallet_eq]
      exact right
  | finished index =>
      refine iff_of_true ?_ trivial
      obtain ⟨dialog, taken, rfl | ⟨password, _, _, rfl⟩⟩ := finished_cases index screen
      · rw [EditUser.step, taken]
        exact right
      · rw [EditUser.step, taken]
        exact right
  | saveUser =>
      refine iff_of_true ?_ trivial
      rw [EditUser.step]
      split
      · intro impossible
        cases impossible
      · exact right
  | cancel =>
      refine iff_of_true ?_ trivial
      intro impossible
      cases impossible
  | deleteUser username =>
      refine iff_of_true ?_ trivial
      rw [EditUser.step]
      split
      · rename_i deletes
        intro opened
        cases (not_opened deletes).symm.trans opened
      · exact right

end Error

/-- In every run the dialogs take the module through a run of its own operations, and show
the error rightly exactly as long as none was left in the dialog when it is shown. -/
theorem dialogs_refine (config : KRDPServerConfig) (actions : List Action) :
    Always step (fun screen =>
      Along Kcm.step Issued { config := config } screen.issued ∧
      (run Kcm.step { config := config } screen.issued).config = screen.config)
      { config := config } actions ∧
    (Always step ErrorRight { config := config } actions ↔
      Along step ShownClear { config := config } actions) := by
  constructor
  · refine always_of_invariant (fun screen => Sound screen ∧ Refines config screen)
      ⟨sound_initial config, trivial, rfl⟩ ?_ ?_ actions
    · intro screen action before
      obtain ⟨sound, refines⟩ := before
      exact ⟨sound.step action, refines.step sound action⟩
    · intro screen before
      obtain ⟨_, refines⟩ := before
      exact ⟨refines.taken, refines.reached⟩
  · refine always_iff_along ErrorRight actions ?_ ?_ ?_ ?_
    · intro impossible
      cases impossible
    · exact fun _ action right clear => (errorRight_step right action).mpr clear
    · exact fun _ right => right
    · exact fun _ action right left shown => left ((errorRight_step right action).mp shown)

/-! ### The password in the dialog -/

/-- A password that belongs in the dialog: what was typed, or what the wallet has. -/
def Shows (screen : Screen) (password : QString) : Prop :=
  match screen.typed with
  | some text => password = text
  | none =>
      password = [] ∨
        readPassword screen.dialog.oldUsername screen.config.wallet = some password

/-- What is written was typed, or is what the wallet already had for the user. -/
def Saved.Kept (saved : Saved) : Prop :=
  saved.typed = some saved.password ∨ saved.typed = none ∧ saved.stored = some saved.password

structure PasswordKept (screen : Screen) : Prop where
  shown : screen.dialog.opened = true → Shows screen screen.dialog.passwordField
  saved : ∀ saved ∈ screen.saves, saved.Kept

/-- No other password was typed meanwhile, and an answer from before the dialog was shown is
still what the wallet has. -/
structure Timely (screen : Screen) (password : QString) (showing : Nat) : Prop where
  untyped : ∀ text, screen.typed = some text → password = text
  current : screen.typed = none → showing ≠ screen.showing → password ≠ [] →
    readPassword screen.dialog.oldUsername screen.config.wallet = some password

/-- The answers for the user of the open dialog come in time. -/
def InTime (screen : Screen) : Action → Prop
  | .finished index => ∀ password showing, screen.dialog.opened = true →
      screen.answers[index]? = some ⟨screen.dialog.oldUsername, some password, showing⟩ →
        Timely screen password showing
  | _ => True

/-- The wallet does not change while the dialog is open. -/
structure Current (screen : Screen) : Prop where
  past : ∀ answer ∈ screen.answers, answer.showing ≤ screen.showing
  current : screen.dialog.opened = true → ∀ answer ∈ screen.answers,
    answer.showing = screen.showing →
      readPassword answer.user screen.config.wallet = answer.password

section Passwords

variable {screen : Screen}

theorem Current.modifyUser (current : Current screen) (user : QString) :
    Current (modifyUser user screen) := by
  refine ⟨?_, ?_⟩
  · intro answer member
    rw [modifyUser_answers] at member
    rw [modifyUser_showing]
    exact Nat.le_succ_of_le (current.past answer member)
  · intro _ answer member same
    rw [modifyUser_answers] at member
    rw [modifyUser_showing] at same
    exact absurd (current.past answer member) (by omega)

theorem Current.readWallet (current : Current screen) (index : Nat) :
    Current (readWallet index screen) := by
  unfold EditUser.readWallet
  split
  · refine ⟨?_, ?_⟩
    · intro answer member
      rcases List.mem_append.mp member with earlier | new
      · exact current.past answer earlier
      · obtain rfl := List.mem_singleton.mp new
        exact Nat.le_refl _
    · intro opened answer member same
      rcases List.mem_append.mp member with earlier | new
      · exact current.current opened answer earlier same
      · obtain rfl := List.mem_singleton.mp new
        rfl
  · exact current

theorem Current.finished (current : Current screen) (index : Nat) :
    Current (finished index screen) := by
  obtain ⟨dialog, taken, changes⟩ := finished_cases index screen
  have opened : dialog.opened = screen.dialog.opened := by
    rcases changes with unchanged | ⟨_, _, _, changed⟩
    · rw [unchanged]
    · rw [changed]
  have kept : screen.answers.eraseIdx index ⊆ screen.answers := List.eraseIdx_subset
  rw [taken]
  refine ⟨fun answer member => current.past answer (kept member), ?_⟩
  intro isOpen answer member
  exact current.current (opened.symm.trans isOpen) answer (kept member)

theorem Current.step (current : Current screen) (action : Action) :
    Current (step screen action) := by
  cases action with
  | modifyUser user =>
      rw [EditUser.step]
      split
      · exact current.modifyUser user
      · exact current
  | editUsername text =>
      rw [EditUser.step]
      split
      · exact ⟨current.past, current.current⟩
      · exact current
  | editPassword text =>
      rw [EditUser.step]
      split
      · exact ⟨current.past, current.current⟩
      · exact current
  | readWallet index => exact current.readWallet index
  | finished index => exact current.finished index
  | saveUser =>
      rw [EditUser.step]
      split
      · refine ⟨current.past, fun impossible => ?_⟩
        cases impossible
      · exact current
  | cancel =>
      refine ⟨current.past, fun impossible => ?_⟩
      cases impossible
  | deleteUser username =>
      rw [EditUser.step]
      split
      · rename_i deletes
        refine ⟨current.past, fun opened => ?_⟩
        cases (not_opened deletes).symm.trans opened
      · exact current

/-- An answer in time is one that belongs in the dialog. -/
theorem Timely.shows {password : QString} {showing : Nat}
    (timely : Timely screen password showing)
    (current : showing = screen.showing →
      readPassword screen.dialog.oldUsername screen.config.wallet = some password) :
    Shows screen password := by
  unfold Shows
  split
  · rename_i text typed
    exact timely.untyped text typed
  · rename_i untyped
    by_cases same : showing = screen.showing
    · exact .inr (current same)
    · exact or_iff_not_imp_left.mpr (timely.current untyped same)

theorem Shows.timely {password : QString} (shows : Shows screen password) (showing : Nat) :
    Timely screen password showing := by
  unfold Shows at shows
  split at shows
  · rename_i text typed
    refine ⟨?_, ?_⟩
    · intro other same
      rw [typed] at same
      exact shows.trans (Option.some.inj same)
    · intro untyped
      cases typed.symm.trans untyped
  · rename_i untyped
    refine ⟨?_, fun _ _ => or_iff_not_imp_left.mp shows⟩
    intro text typed
    cases untyped.symm.trans typed

theorem PasswordKept.saveUser (kept : PasswordKept screen)
    (opened : screen.dialog.opened = true) (enabled : screen.dialog.saveEnabled = true) :
    PasswordKept (saveUser screen) := by
  refine ⟨fun impossible => ?_, ?_⟩
  · cases impossible
  · intro saved member
    rcases List.mem_append.mp member with earlier | new
    · exact kept.saved saved earlier
    · obtain rfl := List.mem_singleton.mp new
      have nonempty : screen.dialog.passwordField ≠ [] := by
        simp only [Dialog.saveEnabled, Kcm.saveEnabled, Bool.and_eq_true, bne_iff_ne] at enabled
        exact enabled.1.2.2
      have shows := kept.shown opened
      unfold Shows at shows
      split at shows
      · rename_i text typed
        left
        rw [shows]
        exact typed
      · rename_i untyped
        exact .inr ⟨untyped, shows.resolve_left nonempty⟩

theorem PasswordKept.finished (kept : PasswordKept screen) (current : Current screen)
    (index : Nat) (inTime : InTime screen (.finished index)) :
    PasswordKept (finished index screen) := by
  obtain ⟨dialog, taken, changes⟩ := finished_cases index screen
  rw [taken]
  rcases changes with rfl | ⟨password, showing, answered, rfl⟩
  · exact ⟨kept.shown, kept.saved⟩
  · refine ⟨fun opened => ?_, kept.saved⟩
    refine (inTime password showing opened answered).shows ?_
    exact current.current opened _ (List.mem_of_getElem? answered)

theorem PasswordKept.step (kept : PasswordKept screen) (current : Current screen)
    (action : Action) (inTime : InTime screen action) : PasswordKept (step screen action) := by
  cases action with
  | modifyUser user =>
      rw [EditUser.step]
      split
      · refine ⟨fun _ => ?_, ?_⟩
        · rw [Shows, modifyUser_typed, modifyUser_dialog]
          exact .inl rfl
        · rw [modifyUser_saves]
          exact kept.saved
      · exact kept
  | editUsername text =>
      rw [EditUser.step]
      split
      · exact ⟨kept.shown, kept.saved⟩
      · exact kept
  | editPassword text =>
      rw [EditUser.step]
      split
      · exact ⟨fun _ => rfl, kept.saved⟩
      · exact kept
  | readWallet index =>
      rw [EditUser.step, readWallet_eq]
      exact ⟨kept.shown, kept.saved⟩
  | finished index => exact kept.finished current index inTime
  | saveUser =>
      rw [EditUser.step]
      split
      · rename_i saves
        obtain ⟨opened, enabled⟩ := Bool.and_eq_true_iff.mp saves
        exact kept.saveUser opened enabled
      · exact kept
  | cancel =>
      refine ⟨fun impossible => ?_, kept.saved⟩
      cases impossible
  | deleteUser username =>
      rw [EditUser.step]
      split
      · rename_i deletes
        refine ⟨fun opened => ?_, kept.saved⟩
        cases (not_opened deletes).symm.trans opened
      · exact kept

/-- A late or outdated answer replaces the password in the dialog. -/
theorem PasswordKept.inTime {action : Action} (kept : PasswordKept (EditUser.step screen action)) :
    InTime screen action := by
  cases action with
  | finished index =>
      intro password showing opened answered
      have loaded : EditUser.step screen (.finished index) =
          { screen with
            answers := screen.answers.eraseIdx index
            dialog := { screen.dialog with passwordField := password } } := by
        rw [EditUser.step, EditUser.finished, answered]
        exact if_pos rfl
      rw [loaded] at kept
      have shows : Shows screen password := kept.shown opened
      exact shows.timely showing
  | _ => trivial

end Passwords

end EditUser

end Kcm

end KRdp
