/-
What a disabled clipboard lets through.

The record runs the calls of the embedder, the queued sends and the messages of
the client in any order, and keeps what was sent and emitted while the clipboard
was disabled.  Which calls of `close` count as disabling is a parameter; the
clipboard itself ignores a call that finds no context to close.
-/

import Mathlib.Data.List.Forall2
import KRdp.Clipboard.Answers

namespace KRdp

namespace Clipboard

/-! ### Calls -/

inductive Call where
  | initializeClipboard (created started : Bool)
  | setEnabled (enabled : Bool)
  | setServerText (text : QString)
  | close
  | runQueued
  | formatList (formatIds : List UInt32)
  | formatDataRequest (requestedFormatId : UInt32)
  | formatDataResponse (response : FormatDataResponse)
  deriving DecidableEq, Repr

/-- The client is heard only through a context. -/
def perform (locale : Locale) (d : Private) : Call → Private
  | .initializeClipboard created started => (initializeClipboard created started d).2
  | .setEnabled enabled => setEnabled enabled d
  | .setServerText text => setServerText text d
  | .close => close d
  | .runQueued => if d.queuedSends = 0 then d else sendServerData d
  | .formatList formatIds => if d.clipContext then onClientFormatList formatIds d else d
  | .formatDataRequest requestedFormatId =>
      if d.clipContext then onClientFormatDataRequest locale requestedFormatId d else d
  | .formatDataResponse response =>
      if d.clipContext then onClientFormatDataResponse locale response d else d

/-- The call with the host text left out. -/
def Call.withoutText : Call → Call
  | .setServerText _ => .setServerText []
  | .initializeClipboard created started => .initializeClipboard created started
  | .setEnabled enabled => .setEnabled enabled
  | .close => .close
  | .runQueued => .runQueued
  | .formatList formatIds => .formatList formatIds
  | .formatDataRequest requestedFormatId => .formatDataRequest requestedFormatId
  | .formatDataResponse response => .formatDataResponse response

/-! ### The record -/

def ServerMessage.isDataRequest : ServerMessage → Bool
  | .formatDataRequest _ _ => true
  | .formatList _ _ | .formatListResponse _ | .formatDataResponse _ _ => false

/-- Neither a format list nor a data request nor an OK data response. -/
def ServerMessage.Harmless : ServerMessage → Prop
  | .formatListResponse _ => True
  | .formatDataResponse common data => common.msgFlags &&& cbResponseOk = 0 ∧ data = none
  | .formatList _ _ | .formatDataRequest _ _ => False

structure Record where
  d : Private := {}
  disabled : Bool := true
  /-- A data request was sent since the clipboard was last enabled. -/
  requested : Bool := false
  sentDisabled : List ServerMessage := []
  emittedDisabled : List Emission := []
  /-- For each answer delivered, whether such a request had been sent. -/
  delivered : List Bool := []
  deriving DecidableEq, Repr

def Call.disabledAfter (closes : Private → Bool) (d : Private) (disabled : Bool) : Call → Bool
  | .setEnabled enabled => !enabled
  | .close => disabled || closes d
  | .initializeClipboard _ _ | .setServerText _ | .runQueued | .formatList _
  | .formatDataRequest _ | .formatDataResponse _ => disabled

def Call.reenables (disabled : Bool) : Call → Bool
  | .setEnabled enabled => enabled && disabled
  | .initializeClipboard _ _ | .setServerText _ | .close | .runQueued | .formatList _
  | .formatDataRequest _ | .formatDataResponse _ => false

def Record.observe (call : Call) (disabledAfter : Bool) (messages : List ServerMessage)
    (emissions : List Emission) (d : Private) (record : Record) : Record :=
  { d := d
    disabled := disabledAfter
    requested :=
      record.requested && !call.reenables record.disabled ||
        messages.any ServerMessage.isDataRequest
    sentDisabled := record.sentDisabled ++ if record.disabled then messages else []
    emittedDisabled := record.emittedDisabled ++ if record.disabled then emissions else []
    delivered := record.delivered ++ emissions.map fun _ => record.requested }

def Record.step (closes : Private → Bool) (locale : Locale) (record : Record) (call : Call) :
    Record :=
  let d := perform locale record.d call
  record.observe call (call.disabledAfter closes record.d record.disabled)
    (d.sent.drop record.d.sent.length) (d.emitted.drop record.d.emitted.length) d

/-- Nothing of the host or the client gets through while disabled, and no answer
is delivered on account of a request from before. -/
structure LeaksNothing (record : Record) : Prop where
  messages : ∀ message ∈ record.sentDisabled, message.Harmless
  emissions : record.emittedDisabled = []
  answers : ∀ requested ∈ record.delivered, requested = true

/-! ### One call -/

section Calls

variable {locale : Locale} {d : Private}

theorem sendServerData_eq (d : Private) :
    sendServerData d =
      { d with
        queuedSends := d.queuedSends - 1
        sent :=
          if isEnabled d && d.hasServerText && d.clipContext then
            d.sent ++ [.formatList { msgType := cbFormatList } [cfUnicodeText]]
          else d.sent } := by
  cases d with
  | mk clipContext serverText requested hasServerText initialized enabled queued sent emitted =>
      cases clipContext <;> cases hasServerText <;> cases initialized <;> cases enabled <;> rfl

/-- The response to a data request; only its content depends on the host text. -/
def dataResponse (locale : Locale) (requestedFormatId : UInt32) (d : Private) : ServerMessage :=
  let encoded :=
    if d.enabled && d.hasServerText then
      encodeClipboardText locale d.serverText requestedFormatId
    else []
  if encoded.isEmpty then
    .formatDataResponse
      { msgType := cbFormatDataResponse
        msgFlags := cbResponseFail }
      none
  else
    .formatDataResponse
      { msgType := cbFormatDataResponse
        msgFlags := cbResponseOk
        dataLen := .ofNat encoded.length }
      (some encoded)

theorem onClientFormatDataRequest_eq (requestedFormatId : UInt32) (d : Private) :
    onClientFormatDataRequest locale requestedFormatId d =
      send (dataResponse locale requestedFormatId d) d := by
  unfold onClientFormatDataRequest dataResponse
  generalize (if d.enabled && d.hasServerText then
    encodeClipboardText locale d.serverText requestedFormatId else []) = encoded
  cases encoded <;> rfl

theorem dataResponse_disabled (disabled : d.enabled = false) (requestedFormatId : UInt32) :
    dataResponse locale requestedFormatId d =
      .formatDataResponse
        { msgType := cbFormatDataResponse
          msgFlags := cbResponseFail }
        none := by
  simp [dataResponse, disabled]

theorem onClientFormatList_eq (formatIds : List UInt32) (d : Private) :
    onClientFormatList formatIds d =
      { chooseFormat formatIds d with
        sent := d.sent ++
          .formatListResponse
              { msgType := cbFormatListResponse
                msgFlags := cbResponseOk } ::
            if (chooseFormat formatIds d).requestedClientFormat ≠ 0 then
              [.formatDataRequest
                { msgType := cbFormatDataRequest
                  dataLen := 4 }
                (chooseFormat formatIds d).requestedClientFormat]
            else [] } := by
  have sent : d.sent = (chooseFormat formatIds d).sent := rfl
  rw [sent]
  unfold onClientFormatList
  generalize chooseFormat formatIds d = chosen
  by_cases none : chosen.requestedClientFormat = 0
  · simp [none, sendFormatListResponse, send]
  · simp [none, sendFormatListResponse, sendFormatDataRequest, send]

theorem onClientFormatDataResponse_cases (response : FormatDataResponse) (d : Private) :
    onClientFormatDataResponse locale response d = d ∨
      d.enabled = true ∧ d.requestedClientFormat ≠ 0 ∧ ∃ text,
        onClientFormatDataResponse locale response d =
          { d with
            requestedClientFormat := 0
            emitted := d.emitted ++ [⟨d.requestedClientFormat, text⟩] } := by
  simp only [onClientFormatDataResponse]
  cases enabled : d.enabled with
  | false => exact .inl rfl
  | true =>
      cases response.isOk with
      | false => exact .inl rfl
      | true =>
          cases decoded : decodeClipboardText locale response.requestedFormatData
              d.requestedClientFormat with
          | none => exact .inl rfl
          | some text =>
              refine .inr ⟨rfl, ?_, text, rfl⟩
              intro unrequested
              rw [unrequested, decodeClipboardText_zero] at decoded
              cases decoded

theorem setEnabled_fields (enabled : Bool) (d : Private) :
    (setEnabled enabled d).enabled = enabled ∧ (setEnabled enabled d).sent = d.sent ∧
      (setEnabled enabled d).emitted = d.emitted ∧
      (setEnabled enabled d).clipContext = d.clipContext ∧
      (setEnabled enabled d).requestedClientFormat =
        if d.enabled = enabled then d.requestedClientFormat else 0 := by
  unfold setEnabled
  by_cases same : d.enabled = enabled
  · simp [same]
  · simp only [if_neg same]
    split <;> simp [queueSend]

theorem setServerText_fields (text : QString) (d : Private) :
    (setServerText text d).enabled = d.enabled ∧ (setServerText text d).sent = d.sent ∧
      (setServerText text d).emitted = d.emitted ∧
      (setServerText text d).requestedClientFormat = d.requestedClientFormat := by
  simp only [setServerText]
  split <;> simp [queueSend]

theorem initializeClipboard_fields (created started : Bool) (d : Private) :
    (initializeClipboard created started d).2.enabled = d.enabled ∧
      (initializeClipboard created started d).2.sent = d.sent ∧
      (initializeClipboard created started d).2.emitted = d.emitted ∧
      (initializeClipboard created started d).2.requestedClientFormat =
        d.requestedClientFormat := by
  unfold initializeClipboard
  split
  · simp
  · split
    · simp
    · split
      · simp
      · simp only
        split <;> simp [queueSend]

theorem close_fields (d : Private) :
    (close d).enabled = (d.enabled && !d.clipContext) ∧ (close d).sent = d.sent ∧
      (close d).emitted = d.emitted ∧
      (close d).requestedClientFormat =
        if d.clipContext then 0 else d.requestedClientFormat := by
  unfold close
  cases d.clipContext <;> simp

theorem formatDataResponse_fields (locale : Locale) (response : FormatDataResponse) (d : Private) :
    (perform locale d (.formatDataResponse response)).enabled = d.enabled ∧
      (perform locale d (.formatDataResponse response)).sent = d.sent := by
  simp only [perform]
  split
  · rcases onClientFormatDataResponse_cases response d with same | delivered
    · rw [same]
      exact ⟨rfl, rfl⟩
    · obtain ⟨_, _, text, delivered⟩ := delivered
      rw [delivered]
      exact ⟨rfl, rfl⟩
  · exact ⟨rfl, rfl⟩

/-- The flag is the opposite of what the effective calls made of it. -/
theorem perform_enabled (call : Call) :
    (perform locale d call).enabled =
      !call.disabledAfter (fun d => d.clipContext) d (!d.enabled) := by
  cases call with
  | initializeClipboard created started =>
      have unchanged := (initializeClipboard_fields created started d).1
      exact unchanged.trans (Bool.not_not _).symm
  | setEnabled enabled =>
      have set := (setEnabled_fields enabled d).1
      exact set.trans (Bool.not_not _).symm
  | setServerText text =>
      have unchanged := (setServerText_fields text d).1
      exact unchanged.trans (Bool.not_not _).symm
  | close =>
      have closed := (close_fields d).1
      rw [perform, closed, Call.disabledAfter, Bool.not_or, Bool.not_not]
  | runQueued =>
      simp only [perform, sendServerData_eq, Call.disabledAfter, Bool.not_not]
      split <;> rfl
  | formatList formatIds =>
      simp only [perform, onClientFormatList_eq, Call.disabledAfter, Bool.not_not]
      split <;> rfl
  | formatDataRequest requestedFormatId =>
      simp only [perform, onClientFormatDataRequest_eq, Call.disabledAfter, Bool.not_not]
      split <;> rfl
  | formatDataResponse response =>
      have unchanged := (formatDataResponse_fields locale response d).1
      exact unchanged.trans (Bool.not_not _).symm

/-- What a call sends. -/
def messagesOf (locale : Locale) (d : Private) : Call → List ServerMessage
  | .runQueued =>
      if d.queuedSends ≠ 0 ∧ (isEnabled d && d.hasServerText && d.clipContext) = true then
        [.formatList { msgType := cbFormatList } [cfUnicodeText]]
      else []
  | .formatList formatIds =>
      if d.clipContext then
        .formatListResponse
            { msgType := cbFormatListResponse
              msgFlags := cbResponseOk } ::
          if (chooseFormat formatIds d).requestedClientFormat ≠ 0 then
            [.formatDataRequest
              { msgType := cbFormatDataRequest
                dataLen := 4 }
              (chooseFormat formatIds d).requestedClientFormat]
          else []
      else []
  | .formatDataRequest requestedFormatId =>
      if d.clipContext then [dataResponse locale requestedFormatId d] else []
  | .initializeClipboard _ _ | .setEnabled _ | .setServerText _ | .close
  | .formatDataResponse _ => []

theorem perform_sent (call : Call) :
    (perform locale d call).sent = d.sent ++ messagesOf locale d call := by
  cases call with
  | initializeClipboard created started =>
      have unchanged := (initializeClipboard_fields created started d).2.1
      exact unchanged.trans (List.append_nil _).symm
  | setEnabled enabled =>
      have unchanged := (setEnabled_fields enabled d).2.1
      exact unchanged.trans (List.append_nil _).symm
  | setServerText text =>
      have unchanged := (setServerText_fields text d).2.1
      exact unchanged.trans (List.append_nil _).symm
  | close =>
      have unchanged := (close_fields d).2.1
      exact unchanged.trans (List.append_nil _).symm
  | runQueued =>
      simp only [perform, messagesOf, sendServerData_eq]
      by_cases queued : d.queuedSends = 0
      · simp [queued]
      · simp only [if_neg queued]
        cases sends : isEnabled d && d.hasServerText && d.clipContext with
        | true => simp [queued]
        | false => simp
  | formatList formatIds =>
      simp only [perform, messagesOf, onClientFormatList_eq]
      cases d.clipContext <;> simp
  | formatDataRequest requestedFormatId =>
      simp only [perform, messagesOf, onClientFormatDataRequest_eq]
      cases d.clipContext <;> simp [send]
  | formatDataResponse response =>
      have unchanged := (formatDataResponse_fields locale response d).2
      exact unchanged.trans (List.append_nil _).symm

/-- A call delivers at most one answer, and only for a format that was asked
for. -/
theorem perform_emitted (call : Call) :
    (perform locale d call).emitted = d.emitted ∨
      d.enabled = true ∧ d.requestedClientFormat ≠ 0 ∧ ∃ emission,
        (perform locale d call).emitted = d.emitted ++ [emission] := by
  cases call with
  | initializeClipboard created started =>
      exact .inl (initializeClipboard_fields created started d).2.2.1
  | setEnabled enabled => exact .inl (setEnabled_fields enabled d).2.2.1
  | setServerText text => exact .inl (setServerText_fields text d).2.2.1
  | close => exact .inl (close_fields d).2.2.1
  | runQueued =>
      left
      simp only [perform, sendServerData_eq]
      split <;> rfl
  | formatList formatIds =>
      left
      simp only [perform, onClientFormatList_eq]
      split <;> rfl
  | formatDataRequest requestedFormatId =>
      left
      simp only [perform, onClientFormatDataRequest_eq]
      split <;> rfl
  | formatDataResponse response =>
      simp only [perform]
      split
      · rcases onClientFormatDataResponse_cases response d with same | delivered
        · exact .inl (congrArg Private.emitted same)
        · obtain ⟨enabled, requested, text, delivered⟩ := delivered
          exact .inr ⟨enabled, requested, _, congrArg Private.emitted delivered⟩
      · exact .inl rfl

/-- Where a kept format comes from: it was there before and the call does not
enable anew, or the call sends the request for it. -/
theorem perform_requested (call : Call)
    (requested : (perform locale d call).requestedClientFormat ≠ 0) :
    d.requestedClientFormat ≠ 0 ∧ call.reenables (!d.enabled) = false ∨
      (messagesOf locale d call).any ServerMessage.isDataRequest = true := by
  cases call with
  | initializeClipboard created started =>
      left
      rw [perform, (initializeClipboard_fields created started d).2.2.2] at requested
      exact ⟨requested, rfl⟩
  | setEnabled enabled =>
      left
      rw [perform, (setEnabled_fields enabled d).2.2.2.2] at requested
      by_cases same : d.enabled = enabled
      · rw [if_pos same] at requested
        refine ⟨requested, ?_⟩
        rw [Call.reenables, same]
        exact Bool.and_not_self enabled
      · rw [if_neg same] at requested
        exact absurd rfl requested
  | setServerText text =>
      left
      rw [perform, (setServerText_fields text d).2.2.2] at requested
      exact ⟨requested, rfl⟩
  | close =>
      left
      rw [perform, (close_fields d).2.2.2] at requested
      cases context : d.clipContext with
      | true =>
          rw [context, if_pos rfl] at requested
          exact absurd rfl requested
      | false =>
          rw [context, if_neg Bool.false_ne_true] at requested
          exact ⟨requested, rfl⟩
  | runQueued =>
      left
      simp only [perform, sendServerData_eq] at requested
      refine ⟨?_, rfl⟩
      split at requested <;> exact requested
  | formatList formatIds =>
      simp only [perform, onClientFormatList_eq] at requested
      cases context : d.clipContext with
      | true =>
          right
          rw [context, if_pos rfl] at requested
          simp [messagesOf, context, requested, ServerMessage.isDataRequest]
      | false =>
          left
          rw [context, if_neg Bool.false_ne_true] at requested
          exact ⟨requested, rfl⟩
  | formatDataRequest requestedFormatId =>
      left
      simp only [perform, onClientFormatDataRequest_eq] at requested
      refine ⟨?_, rfl⟩
      split at requested <;> exact requested
  | formatDataResponse response =>
      left
      simp only [perform] at requested
      refine ⟨?_, rfl⟩
      split at requested
      · rcases onClientFormatDataResponse_cases response d with same | delivered
        · rw [same] at requested
          exact requested
        · exact delivered.2.1
      · exact requested

end Calls

/-! ### Every run -/

/-- The messages of a call on a disabled clipboard. -/
def quietMessages (clipContext : Bool) : Call → List ServerMessage
  | .formatList _ =>
      if clipContext then
        [.formatListResponse
          { msgType := cbFormatListResponse
            msgFlags := cbResponseOk }]
      else []
  | .formatDataRequest _ =>
      if clipContext then
        [.formatDataResponse
          { msgType := cbFormatDataResponse
            msgFlags := cbResponseFail }
          none]
      else []
  | .initializeClipboard _ _ | .setEnabled _ | .setServerText _ | .close | .runQueued
  | .formatDataResponse _ => []

/-- The messages of a disabled clipboard depend on the client alone. -/
theorem messagesOf_disabled {locale : Locale} {d : Private} (disabled : d.enabled = false)
    (call : Call) :
    messagesOf locale d call = quietMessages d.clipContext call ∧
      ∀ message ∈ messagesOf locale d call, message.Harmless := by
  cases call with
  | initializeClipboard created started => exact ⟨rfl, by simp [messagesOf]⟩
  | setEnabled enabled => exact ⟨rfl, by simp [messagesOf]⟩
  | setServerText text => exact ⟨rfl, by simp [messagesOf]⟩
  | close => exact ⟨rfl, by simp [messagesOf]⟩
  | formatDataResponse response => exact ⟨rfl, by simp [messagesOf]⟩
  | runQueued =>
      have silent : isEnabled d = false := by simp [isEnabled, disabled]
      simp [messagesOf, quietMessages, silent]
  | formatList formatIds =>
      have unrequested : (chooseFormat formatIds d).requestedClientFormat = 0 := by
        simp [chooseFormat, disabled]
      cases context : d.clipContext <;>
        simp [messagesOf, quietMessages, context, unrequested, ServerMessage.Harmless]
  | formatDataRequest requestedFormatId =>
      have fails : cbResponseFail &&& cbResponseOk = 0 := by decide
      cases context : d.clipContext <;>
        simp [messagesOf, quietMessages, context, dataResponse_disabled disabled,
          ServerMessage.Harmless, fails]

def effectiveClose (d : Private) : Bool := d.clipContext

theorem Record.step_eq (closes : Private → Bool) (locale : Locale) (record : Record)
    (call : Call) :
    ∃ emissions,
      (emissions = [] ∨ record.d.enabled = true ∧ record.d.requestedClientFormat ≠ 0) ∧
      (perform locale record.d call).emitted = record.d.emitted ++ emissions ∧
      record.step closes locale call =
        record.observe call (call.disabledAfter closes record.d record.disabled)
          (messagesOf locale record.d call) emissions (perform locale record.d call) := by
  have emitted := @perform_emitted locale record.d call
  cases emitted with
  | inl same =>
      refine ⟨[], .inl rfl, by rw [same, List.append_nil], ?_⟩
      rw [Record.step, perform_sent, List.drop_left, same, List.drop_length]
  | inr delivers =>
      obtain ⟨enabled, requested, emission, delivered⟩ := delivers
      refine ⟨[emission], .inr ⟨enabled, requested⟩, delivered, ?_⟩
      rw [Record.step, perform_sent, List.drop_left, delivered, List.drop_left]

structure Record.Guarded (record : Record) : Prop extends LeaksNothing record where
  flag : record.disabled = !record.d.enabled
  asked : record.d.requestedClientFormat ≠ 0 → record.requested = true

theorem Record.Guarded.step {record : Record} (guarded : record.Guarded) (locale : Locale)
    (call : Call) : (record.step effectiveClose locale call).Guarded := by
  obtain ⟨emissions, allowed, _, stepEq⟩ := Record.step_eq effectiveClose locale record call
  rw [stepEq]
  constructor
  · constructor
    · intro message member
      rcases List.mem_append.mp member with earlier | latest
      · exact guarded.messages message earlier
      · cases disabled : record.disabled with
        | false =>
            rw [disabled] at latest
            cases latest
        | true =>
            rw [disabled] at latest
            have off : record.d.enabled = false := by
              simpa [disabled] using guarded.flag
            exact (messagesOf_disabled off call).2 message latest
    · simp only [Record.observe, guarded.emissions, List.nil_append]
      cases disabled : record.disabled with
      | false => rfl
      | true =>
          rcases allowed with none | enabled
          · exact none
          · rw [guarded.flag, enabled.1] at disabled
            cases disabled
    · intro requested member
      rcases List.mem_append.mp member with earlier | latest
      · exact guarded.answers requested earlier
      · obtain ⟨emission, emissionMember, rfl⟩ := List.mem_map.mp latest
        rcases allowed with none | enabled
        · rw [none] at emissionMember
          cases emissionMember
        · exact guarded.asked enabled.2
  · change call.disabledAfter effectiveClose record.d record.disabled =
      !(perform locale record.d call).enabled
    rw [perform_enabled, Bool.not_not, guarded.flag]
    rfl
  · intro kept
    rcases perform_requested call kept with before | sends
    · have asked := guarded.asked before.1
      simp only [Record.observe, asked, guarded.flag, before.2]
      rfl
    · simp only [Record.observe, sends, Bool.or_true]

theorem Record.Guarded.initial : Record.Guarded {} where
  messages := by
    intro message member
    cases member
  emissions := rfl
  answers := by
    intro requested member
    cases member
  flag := rfl
  asked := by
    intro requested
    exact absurd rfl requested

/-! ### Two runs -/

def Private.withoutText (d : Private) : Private :=
  { d with
    serverText := []
    sent := [] }

/-- What a call does to the rest of the state does not depend on the text. -/
theorem perform_withoutText (locale : Locale) (d : Private) (call : Call) :
    (perform locale d call).withoutText =
      (perform locale d.withoutText call.withoutText).withoutText := by
  cases d with
  | mk clipContext serverText requested hasServerText initialized enabled queued sent emitted =>
      cases call with
      | initializeClipboard created started =>
          cases clipContext <;> cases created <;> cases started <;> cases enabled <;>
            cases hasServerText <;> rfl
      | setEnabled flag =>
          cases flag <;> cases enabled <;> cases initialized <;> cases hasServerText <;> rfl
      | setServerText text => cases initialized <;> cases enabled <;> rfl
      | close => cases clipContext <;> rfl
      | runQueued =>
          cases queued with
          | zero => rfl
          | succ queued =>
              simp only [Call.withoutText, perform, sendServerData_eq, Private.withoutText]
              rfl
      | formatList formatIds =>
          cases clipContext with
          | false => rfl
          | true =>
              simp only [Call.withoutText, perform, onClientFormatList_eq, Private.withoutText]
              rfl
      | formatDataRequest requestedFormatId =>
          cases clipContext with
          | false => rfl
          | true =>
              simp only [Call.withoutText, perform, onClientFormatDataRequest_eq,
                Private.withoutText]
              rfl
      | formatDataResponse response =>
          cases clipContext with
          | false => rfl
          | true =>
              simp only [Call.withoutText, perform, Private.withoutText,
                onClientFormatDataResponse]
              cases enabled with
              | false => rfl
              | true =>
                  cases response.isOk with
                  | false => rfl
                  | true =>
                      cases decodeClipboardText locale response.requestedFormatData requested <;>
                        rfl

/-- Two records that differ at most in the host texts and in what was sent while
the clipboard was enabled. -/
structure Record.Alike (first second : Record) : Prop where
  firstGuarded : first.Guarded
  secondGuarded : second.Guarded
  state : first.d.withoutText = second.d.withoutText
  sent : first.sentDisabled = second.sentDisabled

theorem quietMessages_withoutText (clipContext : Bool) (call : Call) :
    quietMessages clipContext call.withoutText = quietMessages clipContext call := by
  cases call <;> rfl

theorem Record.Alike.step {first second : Record} (alike : first.Alike second) (locale : Locale)
    {call other : Call} (same : call.withoutText = other.withoutText) :
    (first.step effectiveClose locale call).Alike (second.step effectiveClose locale other) := by
  obtain ⟨_, _, _, firstEq⟩ := Record.step_eq effectiveClose locale first call
  obtain ⟨_, _, _, secondEq⟩ := Record.step_eq effectiveClose locale second other
  constructor
  · exact alike.firstGuarded.step locale call
  · exact alike.secondGuarded.step locale other
  · rw [firstEq, secondEq]
    change (perform locale first.d call).withoutText = (perform locale second.d other).withoutText
    rw [perform_withoutText, alike.state, same, ← perform_withoutText]
  · rw [firstEq, secondEq]
    have enabledEq : first.d.enabled = second.d.enabled := by
      have fieldEq := congrArg Private.enabled alike.state
      exact fieldEq
    have contextEq : first.d.clipContext = second.d.clipContext := by
      have fieldEq := congrArg Private.clipContext alike.state
      exact fieldEq
    simp only [Record.observe, alike.sent, alike.firstGuarded.flag, alike.secondGuarded.flag,
      enabledEq]
    cases enabled : second.d.enabled with
    | true => rfl
    | false =>
        rw [(messagesOf_disabled (enabledEq.trans enabled) call).1,
          (messagesOf_disabled enabled other).1, contextEq,
          ← quietMessages_withoutText _ call, same, quietMessages_withoutText]

/-- Over every two runs that differ only in the host texts: a disabled clipboard
sends the same messages in both, nothing of the host or the client gets through
it, and no answer is delivered on account of a request from before it was last
enabled.  A call of `close` disables when it finds a context to close. -/
theorem disabled_leaks_nothing (locale : Locale) (calls others : List Call)
    (same : calls.map Call.withoutText = others.map Call.withoutText) :
    let first := StepRun.run (Record.step effectiveClose locale) {} calls
    let second := StepRun.run (Record.step effectiveClose locale) {} others
    first.sentDisabled = second.sentDisabled ∧ LeaksNothing first ∧ LeaksNothing second := by
  intro first second
  have matched : List.Forall₂
      (fun call other => Call.withoutText call = Call.withoutText other) calls others := by
    have equal := List.forall₂_eq_eq_eq.symm ▸ same
    exact List.forall₂_map_right_iff.mp (List.forall₂_map_left_iff.mp equal)
  have alike : first.Alike second := StepRun.run_related
    (fun _ _ _ _ alike same => alike.step locale same)
    { firstGuarded := .initial
      secondGuarded := .initial
      state := rfl
      sent := rfl } matched
  exact ⟨alike.sent, alike.firstGuarded.toLeaksNothing, alike.secondGuarded.toLeaksNothing⟩

/-! ### Two texts, and a close before the context -/

def shareThenDisable (text : QString) : List Call :=
  [.setServerText text, .initializeClipboard true true, .setEnabled true, .runQueued,
    .formatDataRequest cfUnicodeText, .setEnabled false, .formatDataRequest cfUnicodeText]

theorem disabled_leaks_nothing_twoTexts :
    let first := StepRun.run (Record.step effectiveClose latin1) {} (shareThenDisable [0x61])
    let second := StepRun.run (Record.step effectiveClose latin1) {} (shareThenDisable [0x62])
    first.sentDisabled = second.sentDisabled ∧ LeaksNothing first ∧ LeaksNothing second :=
  disabled_leaks_nothing latin1 (shareThenDisable [0x61]) (shareThenDisable [0x62]) rfl

def closeBeforeContext : List Call :=
  [.setEnabled true, .close, .setServerText [0x61], .initializeClipboard true true, .runQueued]

/-- If every call of `close` counts as disabling, a format list gets out: a close
before there is a context leaves the clipboard enabled. -/
theorem disabled_leaks_formatList :
    let record := StepRun.run (Record.step (fun _ => true) latin1) {} closeBeforeContext
    record.disabled = true ∧
      record.sentDisabled = [.formatList { msgType := cbFormatList } [cfUnicodeText]] ∧
      ¬LeaksNothing record := by
  intro record
  have leaked : record.sentDisabled =
      [.formatList { msgType := cbFormatList } [cfUnicodeText]] := by decide
  refine ⟨by decide, leaked, ?_⟩
  intro leaks
  have harmless := leaks.messages (.formatList { msgType := cbFormatList } [cfUnicodeText])
    (by rw [leaked]; exact List.mem_singleton_self _)
  exact harmless

end Clipboard

end KRdp
