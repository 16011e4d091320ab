/-
The restore token of the desktop portal.

The portal takes a token once and grants a new one with every session it starts.  All
sessions pass the token that was stored last, so what is stored must be renewed before
the next session asks for its devices.
-/

import KRdp.Library.Register
import KRdp.Session.Portal

namespace KRdp

namespace PortalSession

open Clipboard (QString)

/-! ### What an action does to the token -/

/-- The session is answered that it is created, and passes the token on. -/
def Passes (session : Session) : Action → Prop
  | .response _ request code _ _ =>
      session.destroyed = false ∧ session.requests[request]? = some .onCreateSession ∧ code = 0
  | .newConnection _ _ _ | .pipeWireFinished _ _ _ | .closed _ | .destroy _ => False

/-- The token that a started session stores. -/
def granted (session : Session) : Action → Option QString
  | .response _ request code results _ =>
      if session.destroyed = false ∧ session.requests[request]? = some .onSessionStarted ∧
          code = 0 ∧ results.devices ≠ 0 then some results.restoreToken
      else none
  | .newConnection _ _ _ | .pipeWireFinished _ _ _ | .closed _ | .destroy _ => none

instance decidablePasses (session : Session) (action : Action) :
    Decidable (Passes session action) :=
  match action with
  | .response _ _ _ _ _ => inferInstanceAs (Decidable (_ ∧ _ ∧ _))
  | .newConnection _ _ _ | .pipeWireFinished _ _ _ | .closed _ | .destroy _ =>
      inferInstanceAs (Decidable False)

def passes (log : List TokenEvent) : List QString :=
  log.filterMap fun
    | .passed token => some token
    | .granted _ => none

@[simp] theorem passes_passed (log : List TokenEvent) (token : QString) :
    passes (log ++ [.passed token]) = passes log ++ [token] := by
  simp [passes]

@[simp] theorem passes_granted (log : List TokenEvent) (token : QString) :
    passes (log ++ [.granted token]) = passes log := by
  simp [passes]

/-- Some session has passed the token since it was stored. -/
def usedSince (log : List TokenEvent) : Bool :=
  match log.getLast? with
  | some (.passed _) => true
  | some (.granted _) | none => false

/-- The token that would be passed is one that was not passed before: the stored one has
been renewed, and that of the older version is taken once. -/
def Unused (config : Config) : Prop :=
  if config.restorationToken = [] then
    config.legacyToken = [] ∨ config.legacyToken ∉ passes config.log
  else usedSince config.log = false

/-- What a new token replaces was passed before, or is passed by nobody. -/
def Renewed (world : World) (action : Action) : Prop :=
  ∀ session ∈ target world action, Passes session action → Unused world.config

/-- The portal never grants the same token twice, nor that of the older version. -/
def GrantsFresh (world : World) (action : Action) : Prop :=
  ∀ session ∈ target world action, ∀ token ∈ granted session action,
    token ≠ [] → token ∉ passes world.config.log ∧ token ≠ world.config.legacyToken

/-! ### Single use -/

instance decidableUnused (config : Config) : Decidable (Unused config) :=
  inferInstanceAs (Decidable (ite _ _ _))

instance decidableRenewed (world : World) (action : Action) : Decidable (Renewed world action) :=
  inferInstanceAs (Decidable (∀ session ∈ target world action, _))

instance decidableGrantsFresh (world : World) (action : Action) :
    Decidable (GrantsFresh world action) :=
  inferInstanceAs (Decidable (∀ session ∈ target world action, ∀ token ∈ granted session action, _))

structure Rotates (config : Config) : Prop where
  distinct : (passes config.log).Nodup
  older : config.restorationToken ≠ [] → config.restorationToken ≠ config.legacyToken
  used : config.restorationToken ≠ [] →
    (config.restorationToken ∈ passes config.log ↔ usedSince config.log = true)

section Rotates

variable {config : Config}

theorem unused_iff (rotates : Rotates config) (some : restoreToken config ≠ []) :
    Unused config ↔ restoreToken config ∉ passes config.log := by
  unfold Unused
  unfold restoreToken at some ⊢
  split
  · rename_i empty
    rw [if_pos empty] at some
    rw [or_iff_right some]
  · rename_i nonempty
    rw [rotates.used nonempty, Bool.not_eq_true]

theorem passToken_log (some : restoreToken config ≠ []) :
    passToken config = { config with log := config.log ++ [.passed (restoreToken config)] } := by
  rw [passToken, if_neg some]

theorem Rotates.passToken (rotates : Rotates config) (unused : Unused config) :
    Rotates (passToken config) := by
  by_cases none : restoreToken config = []
  · rw [PortalSession.passToken, if_pos none]
    exact rotates
  · have fresh := (unused_iff rotates none).mp unused
    rw [passToken_log none]
    refine ⟨?_, rotates.older, ?_⟩
    · rw [passes_passed]
      exact List.nodup_append.mpr ⟨rotates.distinct, List.nodup_singleton _, by
        intro earlier member last same
        rw [List.mem_singleton.mp same]
        rintro rfl
        exact fresh member⟩
    · intro nonempty
      have stored : restoreToken config = config.restorationToken := if_neg nonempty
      have last : usedSince (config.log ++ [.passed (restoreToken config)]) = true := by
        simp [usedSince]
      rw [last, passes_passed, stored]
      simp

theorem Rotates.grantToken (rotates : Rotates config) {token : QString}
    (fresh : token ≠ [] → token ∉ passes config.log ∧ token ≠ config.legacyToken) :
    Rotates (grantToken token config) := by
  refine ⟨?_, fun nonempty => (fresh nonempty).2, ?_⟩
  · change (passes (config.log ++ [.granted token])).Nodup
    rw [passes_granted]
    exact rotates.distinct
  · intro nonempty
    have renewed : usedSince (config.log ++ [.granted token]) = false := by simp [usedSince]
    change token ∈ passes (config.log ++ [.granted token]) ↔
      usedSince (config.log ++ [.granted token]) = true
    rw [passes_granted, renewed]
    exact iff_of_false (fresh nonempty).1 Bool.false_ne_true

end Rotates

def storedBy : TokenEvent → Option QString
  | .granted token => some token
  | .passed _ => none

/-- The stored token after these events. -/
def storedAfter (config : Config) (log : List TokenEvent) : Config :=
  { config with restorationToken := (Register.latest storedBy log).getD config.restorationToken }

/-- Every token is the one that was stored last, or else that of the older version. -/
def Chained (start : Config) (log : List TokenEvent) : Prop :=
  ∀ before token after, log = before ++ .passed token :: after →
    token = restoreToken (storedAfter start before)

structure Traced (start config : Config) : Prop where
  legacy : config.legacyToken = start.legacyToken
  stored : config.restorationToken =
    (Register.latest storedBy config.log).getD start.restorationToken
  chained : Chained start config.log

theorem latest_concat (log : List TokenEvent) (event : TokenEvent) :
    Register.latest storedBy (log ++ [event]) =
      (storedBy event).or (Register.latest storedBy log) := by
  rw [Register.latest_append, Register.latest_cons, Register.latest_nil, Option.none_or]

section Traced

variable {start config : Config}

theorem Traced.config_eq (traced : Traced start config) :
    restoreToken config = restoreToken (storedAfter start config.log) := by
  unfold restoreToken storedAfter
  rw [← traced.stored, traced.legacy]

theorem Chained.concat {log : List TokenEvent} (chained : Chained start log) {event : TokenEvent}
    (last : ∀ token, event = .passed token → token = restoreToken (storedAfter start log)) :
    Chained start (log ++ [event]) := by
  intro before token after split
  rcases List.eq_nil_or_concat after with rfl | ⟨rest, final, rfl⟩
  · obtain ⟨same, single⟩ := List.append_inj' split rfl
    rw [← same]
    exact last token (List.singleton_inj.mp single)
  · rw [List.concat_eq_append, ← List.cons_append, ← List.append_assoc] at split
    exact chained before token rest (List.append_inj' split rfl).1

theorem Traced.passToken (traced : Traced start config) : Traced start (passToken config) := by
  by_cases none : restoreToken config = []
  · rw [PortalSession.passToken, if_pos none]
    exact traced
  · rw [passToken_log none]
    refine ⟨traced.legacy, ?_, traced.chained.concat ?_⟩
    · rw [latest_concat]
      exact traced.stored
    · intro token same
      rw [← TokenEvent.passed.inj same]
      exact traced.config_eq

theorem Traced.grantToken (traced : Traced start config) (token : QString) :
    Traced start (grantToken token config) := by
  refine ⟨traced.legacy, ?_, traced.chained.concat ?_⟩
  · change token = (Register.latest storedBy (config.log ++ [.granted token])).getD _
    rw [latest_concat]
    rfl
  · intro other impossible
    cases impossible

end Traced

/-! ### Every run -/

end PortalSession

end KRdp
