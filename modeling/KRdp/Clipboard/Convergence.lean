/-
The clipboard and a client that follows it.

The client asks for the text of the host when and as often as it likes, copies text
of its own, and answers the requests of the server.  The messages of either side
travel on a link that keeps their order, and a close cuts both links.  What the
client holds is the data of the answer it has received last.
-/

import KRdp.Library.Announce
import KRdp.Clipboard.Disabled
import KRdp.Clipboard.RoundTrip

namespace KRdp

namespace Clipboard

/-! ### Both ends -/

/-- A message of the client on its way; it asks for the one format it is offered. -/
inductive Packet where
  | formatList (formatIds : List UInt32)
  | formatDataRequest
  | formatDataResponse (response : FormatDataResponse)
  deriving DecidableEq, Repr

def Packet.call : Packet → Call
  | .formatList formatIds => .formatList formatIds
  | .formatDataRequest => .formatDataRequest cfUnicodeText
  | .formatDataResponse response => .formatDataResponse response

structure Exchange where
  d : Private := {}
  toClient : List ServerMessage := []
  toServer : List Packet := []
  /-- A format list has arrived that the client has not asked about. -/
  announced : Bool := false
  held : Option QByteArray := none
  deriving DecidableEq, Repr

inductive Exchange.Action where
  | initializeClipboard (created started : Bool)
  | setEnabled (enabled : Bool)
  | setServerText (text : QString)
  | close
  | runQueued
  | copy (formatIds : List UInt32)
  | ask
  | respond (response : FormatDataResponse)
  | deliverToServer
  | deliverToClient
  deriving DecidableEq, Repr

/-- The links and the client work without the host or the user doing anything. -/
def Exchange.Action.Internal : Exchange.Action → Prop
  | .runQueued | .ask | .deliverToServer | .deliverToClient => True
  | .initializeClipboard _ _ | .setEnabled _ | .setServerText _ | .close | .copy _
  | .respond _ => False

def Exchange.perform (locale : Locale) (call : Call) (exchange : Exchange) : Exchange :=
  let d := Clipboard.perform locale exchange.d call
  { exchange with
    d := d
    toClient := exchange.toClient ++ d.sent.drop exchange.d.sent.length }

def Exchange.post (packet : Packet) (exchange : Exchange) : Exchange :=
  { exchange with toServer := exchange.toServer ++ [packet] }

def Exchange.receive (message : ServerMessage) (exchange : Exchange) : Exchange :=
  match message with
  | .formatList _ _ => { exchange with announced := true }
  | .formatListResponse _ | .formatDataRequest _ _ => exchange
  | .formatDataResponse _ requestedFormatData => { exchange with held := requestedFormatData }

def Exchange.closeLinks (exchange : Exchange) : Exchange :=
  if exchange.d.clipContext then
    { d := Clipboard.close exchange.d
      held := exchange.held }
  else exchange

def Exchange.step (locale : Locale) (exchange : Exchange) : Action → Exchange
  | .initializeClipboard created started =>
      exchange.perform locale (.initializeClipboard created started)
  | .setEnabled enabled => exchange.perform locale (.setEnabled enabled)
  | .setServerText text => exchange.perform locale (.setServerText text)
  | .close => exchange.closeLinks
  | .runQueued => exchange.perform locale .runQueued
  | .copy formatIds => exchange.post (.formatList formatIds)
  | .ask => { exchange.post .formatDataRequest with announced := false }
  | .respond response => exchange.post (.formatDataResponse response)
  | .deliverToServer =>
      match exchange.toServer with
      | [] => exchange
      | packet :: rest => { exchange with toServer := rest }.perform locale packet.call
  | .deliverToClient =>
      match exchange.toClient with
      | [] => exchange
      | message :: rest => { exchange with toClient := rest }.receive message

/-! ### What is under way -/

def ServerMessage.isFormatList : ServerMessage → Bool
  | .formatList _ _ => true
  | .formatListResponse _ | .formatDataRequest _ _ | .formatDataResponse _ _ => false

def ServerMessage.answer : ServerMessage → Option (Option QByteArray)
  | .formatDataResponse _ requestedFormatData => some requestedFormatData
  | .formatList _ _ | .formatListResponse _ | .formatDataRequest _ _ => none

def Packet.isRequest : Packet → Bool
  | .formatDataRequest => true
  | .formatList _ | .formatDataResponse _ => false

/-- Nothing is left that tells the client to ask, asks, or answers. -/
structure Exchange.Quiet (exchange : Exchange) : Prop where
  queuedSends : exchange.d.queuedSends = 0
  formatLists : exchange.toClient.any ServerMessage.isFormatList = false
  announced : exchange.announced = false
  requests : exchange.toServer.any Packet.isRequest = false
  answers : exchange.toClient.filterMap ServerMessage.answer = []

def sharedText (locale : Locale) (d : Private) : Option QByteArray :=
  if isEnabled d && d.hasServerText then
    some (encodeClipboardText locale d.serverText cfUnicodeText)
  else none

/-- The exchange as the announcing of a value. -/
def Exchange.view (locale : Locale) (exchange : Exchange) : Announce QByteArray :=
  { shared := sharedText locale exchange.d
    owed := exchange.d.queuedSends != 0 || exchange.toClient.any ServerMessage.isFormatList ||
      exchange.announced || exchange.toServer.any Packet.isRequest
    answers := exchange.toClient.filterMap ServerMessage.answer
    held := exchange.held }

theorem Exchange.Quiet.settled {exchange : Exchange} (quiet : exchange.Quiet) (locale : Locale) :
    (exchange.view locale).Settled where
  owed := by simp [Exchange.view, quiet.queuedSends, quiet.formatLists, quiet.announced,
    quiet.requests]
  answers := quiet.answers

/-! ### The calls of the embedder -/

section Calls

variable {locale : Locale}

theorem sharedText_of_silent {d : Private} (silent : (isEnabled d && d.hasServerText) = false) :
    sharedText locale d = none := by
  rw [sharedText, silent]
  exact if_neg Bool.false_ne_true

/-- An initialized clipboard has its context. -/
def Wired (d : Private) : Prop := d.initialized = true → d.clipContext = true

/-- A call changes what is shared with an announcement in the queue, unless it stops
the sharing. -/
def Announces (locale : Locale) (d next : Private) : Prop :=
  sharedText locale next = none ∨ next.queuedSends ≠ 0 ∨
    sharedText locale next = sharedText locale d ∧ next.queuedSends = d.queuedSends

theorem queueSend_announces (d next : Private) : Announces locale d (queueSend next) :=
  .inr (.inl (Nat.succ_ne_zero _))

theorem initializeClipboard_announces {d : Private} (wired : Wired d) (created started : Bool) :
    Announces locale d (initializeClipboard created started d).2 := by
  unfold initializeClipboard
  cases context : d.clipContext with
  | true => exact .inr (.inr ⟨rfl, rfl⟩)
  | false =>
      have uninitialized : d.initialized = false := by
        by_contra initialized
        rw [wired (Bool.eq_true_of_not_eq_false initialized)] at context
        cases context
      cases created with
      | false => exact .inr (.inr ⟨rfl, rfl⟩)
      | true =>
          cases started with
          | false => exact .inr (.inr ⟨rfl, rfl⟩)
          | true =>
              cases shares : d.enabled && d.hasServerText with
              | true =>
                  simp only [shares]
                  exact queueSend_announces _ _
              | false =>
                  simp only [shares]
                  exact .inl (sharedText_of_silent shares)

theorem setEnabled_announces (enabled : Bool) (d : Private) :
    Announces locale d (setEnabled enabled d) := by
  unfold setEnabled
  by_cases same : d.enabled = enabled
  · rw [if_pos same]
    exact .inr (.inr ⟨rfl, rfl⟩)
  · rw [if_neg same]
    cases shares : enabled && d.initialized && d.hasServerText with
    | true =>
        simp only [shares]
        exact queueSend_announces _ _
    | false =>
        simp only [shares]
        refine .inl (sharedText_of_silent ?_)
        change (d.initialized && enabled && d.hasServerText) = false
        rw [Bool.and_comm d.initialized]
        exact shares

theorem setServerText_announces (text : QString) (d : Private) :
    Announces locale d (setServerText text d) := by
  unfold setServerText
  cases enabled : isEnabled d with
  | true =>
      have stays : isEnabled { d with serverText := text, hasServerText := true } = true := enabled
      simp only [stays]
      exact queueSend_announces _ _
  | false =>
      have stays : isEnabled { d with serverText := text, hasServerText := true } = false :=
        enabled
      simp only [stays]
      refine .inl (sharedText_of_silent ?_)
      simp [stays]

theorem perform_wired {d : Private} (wired : Wired d) (call : Call) :
    Wired (perform locale d call) := by
  cases call with
  | initializeClipboard created started =>
      simp only [perform, initializeClipboard]
      split
      · exact wired
      · split
        · exact wired
        · split
          · intro _
            rfl
          · split
            · intro _
              rfl
            · intro _
              rfl
  | setEnabled enabled =>
      simp only [perform, setEnabled]
      split
      · exact wired
      · split
        · exact wired
        · exact wired
  | setServerText text =>
      simp only [perform, setServerText]
      split
      · exact wired
      · exact wired
  | close =>
      simp only [perform, close]
      split
      · exact wired
      · intro initialized
        cases initialized
  | runQueued =>
      simp only [perform, sendServerData_eq]
      split
      · exact wired
      · exact wired
  | formatList formatIds =>
      simp only [perform, onClientFormatList_eq]
      split
      · exact wired
      · exact wired
  | formatDataRequest requestedFormatId =>
      simp only [perform, onClientFormatDataRequest_eq]
      split
      · exact wired
      · exact wired
  | formatDataResponse response =>
      simp only [perform]
      split
      · rcases onClientFormatDataResponse_cases response d with same | delivered
        · rw [same]
          exact wired
        · obtain ⟨_, _, text, delivered⟩ := delivered
          rw [delivered]
          exact wired
      · exact wired

end Calls

/-! ### Every step is one of the protocol -/

section Steps

variable {locale : Locale}

theorem Exchange.perform_view (call : Call) (exchange : Exchange) :
    (exchange.perform locale call).view locale =
      { shared := sharedText locale (Clipboard.perform locale exchange.d call)
        owed := (Clipboard.perform locale exchange.d call).queuedSends != 0 ||
          (exchange.toClient.any ServerMessage.isFormatList ||
            (messagesOf locale exchange.d call).any ServerMessage.isFormatList) ||
          exchange.announced || exchange.toServer.any Packet.isRequest
        answers := exchange.toClient.filterMap ServerMessage.answer ++
          (messagesOf locale exchange.d call).filterMap ServerMessage.answer
        held := exchange.held } := by
  simp only [Exchange.view, Exchange.perform, perform_sent, List.drop_left, List.any_append,
    List.filterMap_append]

/-- The calls that send nothing themselves. -/
theorem Exchange.perform_silent {call : Call} {exchange : Exchange}
    (silent : messagesOf locale exchange.d call = [])
    (announces : Announces locale exchange.d (Clipboard.perform locale exchange.d call)) :
    Announce.Step (exchange.view locale) ((exchange.perform locale call).view locale) := by
  rw [Exchange.perform_view, silent, List.filterMap_nil, List.append_nil, List.any_nil,
    Bool.or_false]
  refine Announce.Step.change (exchange.view locale) ?_
  rcases announces with none | queued | ⟨same, queued⟩
  · exact .inl none
  · refine .inr (.inl ?_)
    simp [queued]
  · refine .inr (.inr ⟨same, ?_⟩)
    rw [queued]
    rfl

/-- A queued call sends the announcement, or is dropped where nothing is shared. -/
theorem Exchange.runQueued_step (exchange : Exchange) (wired : Wired exchange.d) :
    Announce.Step (exchange.view locale) ((exchange.perform locale .runQueued).view locale) := by
  by_cases queued : exchange.d.queuedSends = 0
  · refine Exchange.perform_silent (by simp [messagesOf, queued]) ?_
    rw [Clipboard.perform, if_pos queued]
    exact .inr (.inr ⟨rfl, rfl⟩)
  · cases shares : isEnabled exchange.d && exchange.d.hasServerText with
    | false =>
        have silent : messagesOf locale exchange.d .runQueued = [] := by
          simp [messagesOf, shares]
        refine Exchange.perform_silent silent (.inl (sharedText_of_silent ?_))
        rw [Clipboard.perform, if_neg queued, sendServerData_eq]
        exact shares
    | true =>
        have initialized : exchange.d.initialized = true := by
          simp only [isEnabled, Bool.and_eq_true] at shares
          exact shares.1.1
        have announces : messagesOf locale exchange.d .runQueued =
            [.formatList { msgType := cbFormatList } [cfUnicodeText]] := by
          simp [messagesOf, queued, shares, wired initialized]
        rw [Exchange.perform_view, announces]
        simp only [List.filterMap_cons, ServerMessage.answer, List.filterMap_nil,
          List.append_nil]
        exact Announce.Step.change (exchange.view locale)
          (.inr (.inl (by simp [ServerMessage.isFormatList])))

/-- The text that is shared is the answer to a request. -/
theorem dataResponse_answer (d : Private) :
    ∃ other, (dataResponse locale cfUnicodeText d).answer =
      some ((sharedText locale d).or other) := by
  cases shares : isEnabled d && d.hasServerText with
  | false =>
      rw [sharedText_of_silent shares]
      simp only [Option.none_or, dataResponse]
      generalize (if d.enabled && d.hasServerText then
        encodeClipboardText locale d.serverText cfUnicodeText else []) = encoded
      cases encoded with
      | nil => exact ⟨none, rfl⟩
      | cons byte rest => exact ⟨some (byte :: rest), rfl⟩
  | true =>
      have encodes : (d.enabled && d.hasServerText) = true := by
        simp only [isEnabled, Bool.and_eq_true] at shares
        simp [shares.1.2, shares.2]
      have nonempty : ¬(encodeClipboardText locale d.serverText cfUnicodeText).isEmpty = true := by
        intro empty
        have length := length_encodeClipboardText locale d.serverText
        rw [List.isEmpty_iff.mp empty, List.length_nil] at length
        omega
      refine ⟨none, ?_⟩
      simp only [dataResponse, encodes, if_true, if_neg nonempty, ServerMessage.answer,
        sharedText, shares, Option.some_or]

/-- What the client sends neither changes what is shared nor announces it again. -/
theorem packet_quiet (d : Private) (packet : Packet) :
    sharedText locale (perform locale d packet.call) = sharedText locale d ∧
      (perform locale d packet.call).queuedSends = d.queuedSends ∧
      (messagesOf locale d packet.call).any ServerMessage.isFormatList = false := by
  cases packet with
  | formatList formatIds =>
      simp only [Packet.call, perform, onClientFormatList_eq, messagesOf]
      cases d.clipContext with
      | false => exact ⟨rfl, rfl, rfl⟩
      | true =>
          refine ⟨rfl, rfl, ?_⟩
          simp only [if_true, List.any_cons]
          split <;> rfl
  | formatDataRequest =>
      simp only [Packet.call, perform, onClientFormatDataRequest_eq, messagesOf, dataResponse]
      cases d.clipContext with
      | false => exact ⟨rfl, rfl, rfl⟩
      | true =>
          refine ⟨rfl, rfl, ?_⟩
          simp only [if_true]
          split <;> split <;> rfl
  | formatDataResponse response =>
      simp only [Packet.call, perform, messagesOf]
      split
      · rcases onClientFormatDataResponse_cases response d with same | delivered
        · rw [same]
          exact ⟨rfl, rfl, rfl⟩
        · obtain ⟨_, _, text, delivered⟩ := delivered
          rw [delivered]
          exact ⟨rfl, rfl, rfl⟩
      · exact ⟨rfl, rfl, rfl⟩

/-- Only a request is answered. -/
theorem packet_answers (d : Private) (packet : Packet) :
    (messagesOf locale d packet.call).filterMap ServerMessage.answer =
      if packet.isRequest && d.clipContext then
        (dataResponse locale cfUnicodeText d).answer.toList
      else [] := by
  cases packet with
  | formatList formatIds =>
      simp only [Packet.call, messagesOf]
      split
      · split <;> rfl
      · rfl
  | formatDataRequest =>
      simp only [Packet.call, messagesOf, Packet.isRequest, Bool.true_and]
      cases d.clipContext with
      | false => rfl
      | true =>
          simp only [if_true, List.filterMap_cons, List.filterMap_nil]
          cases (dataResponse locale cfUnicodeText d).answer <;> rfl
  | formatDataResponse response => rfl

theorem Exchange.packet_step (exchange : Exchange) (wired : Wired exchange.d) (packet : Packet)
    (rest : List Packet) (next : exchange.toServer = packet :: rest) :
    Announce.Step (exchange.view locale)
      (({ exchange with toServer := rest }.perform locale packet.call).view locale) := by
  obtain ⟨shared, queued, announces⟩ := @packet_quiet locale exchange.d packet
  rw [Exchange.perform_view]
  dsimp only
  rw [shared, queued, announces, packet_answers]
  cases request : packet.isRequest with
  | false =>
      have same : rest.any Packet.isRequest = exchange.toServer.any Packet.isRequest := by
        rw [next, List.any_cons, request, Bool.false_or]
      rw [same, Bool.or_false, Bool.false_and, if_neg Bool.false_ne_true, List.append_nil]
      exact .idle (exchange.view locale)
  | true =>
      cases context : exchange.d.clipContext with
      | false =>
          have silent : sharedText locale exchange.d = none := by
            apply sharedText_of_silent
            cases initialized : exchange.d.initialized with
            | false => simp [isEnabled, initialized]
            | true =>
                rw [wired initialized] at context
                cases context
          rw [silent, Bool.and_false, if_neg Bool.false_ne_true, List.append_nil]
          exact .withdraw (exchange.view locale) _
      | true =>
          obtain ⟨other, answer⟩ := @dataResponse_answer locale exchange.d
          rw [answer, Bool.and_true, if_pos rfl]
          exact .answer (exchange.view locale) other _

theorem Exchange.step_simulates (exchange : Exchange) (action : Action)
    (wired : Wired exchange.d) :
    Announce.Step (exchange.view locale) ((exchange.step locale action).view locale) := by
  cases action with
  | initializeClipboard created started =>
      exact perform_silent rfl (initializeClipboard_announces wired created started)
  | setEnabled enabled => exact perform_silent rfl (setEnabled_announces enabled exchange.d)
  | setServerText text => exact perform_silent rfl (setServerText_announces text exchange.d)
  | close =>
      simp only [Exchange.step, closeLinks]
      split
      · rename_i context
        convert Announce.Step.cut (exchange.view locale) (exchange.d.queuedSends != 0) using 1
        simp [Exchange.view, close, context, sharedText, isEnabled]
      · exact .idle _
  | runQueued => exact exchange.runQueued_step wired
  | copy formatIds =>
      convert Announce.Step.idle (exchange.view locale) using 1
      simp [Exchange.step, post, Exchange.view, Packet.isRequest]
  | ask =>
      convert Announce.Step.ask (exchange.view locale) using 1
      simp [Exchange.step, post, Exchange.view, Packet.isRequest]
  | respond response =>
      convert Announce.Step.idle (exchange.view locale) using 1
      simp [Exchange.step, post, Exchange.view, Packet.isRequest]
  | deliverToServer =>
      simp only [Exchange.step]
      split
      · exact .idle _
      · rename_i packet rest next
        exact exchange.packet_step wired packet rest next
  | deliverToClient =>
      simp only [Exchange.step]
      split
      · exact .idle _
      · rename_i message rest next
        cases message with
        | formatList common formatIds =>
            convert Announce.Step.ask (exchange.view locale) using 1
            simp [receive, Exchange.view, next, List.filterMap_cons, ServerMessage.answer]
        | formatListResponse common =>
            convert Announce.Step.idle (exchange.view locale) using 1
            simp [receive, Exchange.view, next, List.filterMap_cons, ServerMessage.answer,
              ServerMessage.isFormatList]
        | formatDataRequest common requestedFormatId =>
            convert Announce.Step.idle (exchange.view locale) using 1
            simp [receive, Exchange.view, next, List.filterMap_cons, ServerMessage.answer,
              ServerMessage.isFormatList]
        | formatDataResponse common requestedFormatData =>
            convert Announce.Step.receive (exchange.view locale) requestedFormatData
              (rest.filterMap ServerMessage.answer) ?_ using 1
            · simp [receive, Exchange.view, next, ServerMessage.isFormatList]
            · simp [Exchange.view, next, ServerMessage.answer]

theorem Exchange.step_wired (exchange : Exchange) (action : Action) (wired : Wired exchange.d) :
    Wired (exchange.step locale action).d := by
  cases action with
  | initializeClipboard created started => exact perform_wired wired _
  | setEnabled enabled => exact perform_wired wired _
  | setServerText text => exact perform_wired wired _
  | close =>
      simp only [Exchange.step, closeLinks]
      split
      · have closed : Wired (Clipboard.perform locale exchange.d .close) :=
          perform_wired wired .close
        exact closed
      · exact wired
  | runQueued => exact perform_wired wired _
  | copy formatIds => exact wired
  | ask => exact wired
  | respond response => exact wired
  | deliverToServer =>
      simp only [Exchange.step]
      split
      · exact wired
      · exact perform_wired wired _
  | deliverToClient =>
      simp only [Exchange.step]
      split
      · exact wired
      · rename_i message rest next
        cases message <;> exact wired

end Steps

/-! ### Coming to rest -/

/-- More than any one message leads to. -/
def ServerMessage.weight (message : ServerMessage) : Nat := if message.isFormatList then 4 else 1

def Packet.weight : Packet → Nat
  | .formatList _ => 3
  | .formatDataRequest => 2
  | .formatDataResponse _ => 1

def Exchange.weight (exchange : Exchange) : Nat :=
  5 * exchange.d.queuedSends + (exchange.toClient.map ServerMessage.weight).sum +
    3 * exchange.announced.toNat + (exchange.toServer.map Packet.weight).sum

section Rest

variable {locale : Locale}

theorem Exchange.perform_weight (call : Call) (exchange : Exchange) :
    (exchange.perform locale call).weight =
      5 * (Clipboard.perform locale exchange.d call).queuedSends +
        ((exchange.toClient.map ServerMessage.weight).sum +
          ((messagesOf locale exchange.d call).map ServerMessage.weight).sum) +
        3 * exchange.announced.toNat + (exchange.toServer.map Packet.weight).sum := by
  simp only [Exchange.weight, Exchange.perform, perform_sent, List.drop_left, List.map_append,
    List.sum_append]

theorem dataResponse_weight (requestedFormatId : UInt32) (d : Private) :
    (dataResponse locale requestedFormatId d).weight = 1 := by
  simp only [dataResponse]
  generalize (if d.enabled && d.hasServerText then
    encodeClipboardText locale d.serverText requestedFormatId else []) = encoded
  cases encoded <;> rfl

theorem packet_weight (d : Private) (packet : Packet) :
    ((messagesOf locale d packet.call).map ServerMessage.weight).sum < packet.weight := by
  cases packet with
  | formatList formatIds =>
      simp only [Packet.call, messagesOf]
      split
      · split <;> simp [ServerMessage.weight, ServerMessage.isFormatList, Packet.weight]
      · exact Nat.zero_lt_succ _
  | formatDataRequest =>
      simp only [Packet.call, messagesOf]
      split
      · simp [dataResponse_weight, Packet.weight]
      · exact Nat.zero_lt_succ _
  | formatDataResponse response => exact Nat.zero_lt_succ _

theorem runQueued_weight (d : Private) (queued : d.queuedSends ≠ 0) :
    5 * (perform locale d .runQueued).queuedSends +
      ((messagesOf locale d .runQueued).map ServerMessage.weight).sum < 5 * d.queuedSends := by
  have sent : ((messagesOf locale d .runQueued).map ServerMessage.weight).sum ≤ 4 := by
    simp only [messagesOf]
    split <;> simp [ServerMessage.weight, ServerMessage.isFormatList]
  rw [perform, if_neg queued, sendServerData_eq]
  dsimp only
  omega

theorem Exchange.receive_weight (message : ServerMessage) (exchange : Exchange) :
    (exchange.receive message).weight < exchange.weight + message.weight := by
  cases message with
  | formatList common formatIds =>
      have told : (3 : Nat) * true.toNat < 3 * exchange.announced.toNat + 4 := by
        rw [Bool.toNat_true]
        omega
      simp only [receive, weight, ServerMessage.weight, ServerMessage.isFormatList, if_true]
      omega
  | formatListResponse common => exact Nat.lt_succ_self _
  | formatDataRequest common requestedFormatId => exact Nat.lt_succ_self _
  | formatDataResponse common requestedFormatData => exact Nat.lt_succ_self _

/-- Until it is quiet, the exchange has a step of its own that lowers the weight. -/
theorem Exchange.progress (locale : Locale) (exchange : Exchange) (restless : ¬exchange.Quiet) :
    ∃ action : Action, action.Internal ∧
      (exchange.step locale action).weight < exchange.weight := by
  by_cases queued : exchange.d.queuedSends = 0
  · cases incoming : exchange.toClient with
    | cons message rest =>
        refine ⟨.deliverToClient, trivial, ?_⟩
        have lighter := ({ exchange with toClient := rest } : Exchange).receive_weight message
        simp only [Exchange.step, incoming]
        simp only [Exchange.weight, incoming, List.map_cons, List.sum_cons] at lighter ⊢
        omega
    | nil =>
        cases told : exchange.announced with
        | true =>
            refine ⟨.ask, trivial, ?_⟩
            simp [Exchange.step, Exchange.post, Exchange.weight, told, Packet.weight]
            omega
        | false =>
            cases outgoing : exchange.toServer with
            | cons packet rest =>
                refine ⟨.deliverToServer, trivial, ?_⟩
                have lighter := @packet_weight locale exchange.d packet
                have queuedSends := (@packet_quiet locale exchange.d packet).2.1
                simp only [Exchange.step, outgoing]
                rw [Exchange.perform_weight, queuedSends, Exchange.weight, outgoing,
                  List.map_cons, List.sum_cons]
                dsimp only
                omega
            | nil =>
                refine absurd ⟨queued, ?_, told, ?_, ?_⟩ restless
                · rw [incoming, List.any_nil]
                · rw [outgoing, List.any_nil]
                · rw [incoming, List.filterMap_nil]
  · refine ⟨.runQueued, trivial, ?_⟩
    have lighter := @runQueued_weight locale exchange.d queued
    simp only [Exchange.step]
    rw [Exchange.perform_weight, Exchange.weight]
    omega

end Rest

/-- Whatever the host, the user and the links do, a client that has asked since the
last announcement and has all its answers holds the latest text of an enabled
clipboard; and from any state the exchange can come to rest by itself. -/
theorem client_holds_latest (locale : Locale) (actions : List Exchange.Action) :
    StepRun.Always (Exchange.step locale)
        (fun exchange => exchange.Quiet → isEnabled exchange.d = true →
          exchange.d.hasServerText = true →
          exchange.held = some (encodeClipboardText locale exchange.d.serverText cfUnicodeText))
        {} actions ∧
      ∃ more : List Exchange.Action, (∀ action ∈ more, action.Internal) ∧
        (StepRun.run (Exchange.step locale) {} (actions ++ more)).Quiet := by
  constructor
  · refine Announce.always_of_fresh (Exchange.view locale) (fun exchange => Wired exchange.d)
      (fun exchange action wired => exchange.step_wired action wired)
      (fun exchange action wired => exchange.step_simulates action wired) ?_
      (fun initialized => by cases initialized) (Announce.fresh_of_nothing rfl) actions
    intro exchange _ fresh quiet enabled hasText
    refine fresh.held (quiet.settled locale) ?_
    simp only [Exchange.view, sharedText, enabled, hasText, Bool.and_self, if_true]
  · obtain ⟨more, internal, quiet⟩ := StepRun.exists_run_of_measure Exchange.Quiet
      Exchange.weight (Exchange.progress locale)
      (StepRun.run (Exchange.step locale) {} actions)
    exact ⟨more, internal, by rwa [StepRun.run_append]⟩

end Clipboard

end KRdp
