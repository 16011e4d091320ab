/-
Requests and answers on the two channels of the clipboard.

The client announces formats at any time and answers the data requests in the
order in which it receives them.  Each request is numbered, and carries the
number of the format list it was issued for, so that an answer can be compared
with the request it belongs to; the server itself only keeps one format.
-/

import KRdp.Clipboard.Server
import KRdp.Library.Run

namespace KRdp

namespace Clipboard

/-! ### The two channels -/

/-- A data request in flight; `list` numbers the format list it was issued for. -/
structure Request where
  number : Nat
  list : Nat
  format : UInt32
  deriving DecidableEq, Repr

inductive ClientMessage where
  | formatList (formatIds : List UInt32)
  | formatDataResponse (request : Request) (response : FormatDataResponse)
  deriving DecidableEq, Repr

structure Handled where
  request : Request
  /-- No newer request had been issued. -/
  newest : Bool
  response : FormatDataResponse
  emission : Option Emission
  deriving DecidableEq, Repr

structure World where
  d : Private
  toClient : List Request := []
  toServer : List ClientMessage := []
  lists : Nat := 0
  issued : Nat := 0
  handled : List Handled := []
  deriving DecidableEq, Repr

inductive Action where
  | announce (formatIds : List UInt32)
  | answer (response : FormatDataResponse)
  | deliver
  deriving DecidableEq, Repr

def announceFormats (formatIds : List UInt32) (world : World) : World :=
  { world with toServer := world.toServer ++ [.formatList formatIds] }

/-- A failure, or data that can be decoded in the format asked for. -/
def FormatDataResponse.AnswersFormat (locale : Locale) (format : UInt32)
    (response : FormatDataResponse) : Prop :=
  response.isOk = true →
    (decodeClipboardText locale response.requestedFormatData format).isSome = true

instance (locale : Locale) (format : UInt32) (response : FormatDataResponse) :
    Decidable (response.AnswersFormat locale format) :=
  inferInstanceAs (Decidable (_ → _))

def answerRequest (locale : Locale) (response : FormatDataResponse) (world : World) : World :=
  match world.toClient with
  | [] => world
  | request :: rest =>
      if response.AnswersFormat locale request.format then
        { world with
          toClient := rest
          toServer := world.toServer ++ [.formatDataResponse request response] }
      else world

def issue (world : World) : ServerMessage → World
  | .formatDataRequest _ requestedFormatId =>
      { world with
        toClient := world.toClient ++ [⟨world.issued, world.lists, requestedFormatId⟩]
        issued := world.issued + 1 }
  | _ => world

def handleList (formatIds : List UInt32) (world : World) : World :=
  let d := onClientFormatList formatIds world.d
  (d.sent.drop world.d.sent.length).foldl issue
    { world with
      d := d
      lists := world.lists + 1 }

def handleResponse (locale : Locale) (request : Request) (response : FormatDataResponse)
    (world : World) : World :=
  let d := onClientFormatDataResponse locale response world.d
  { world with
    d := d
    handled := world.handled ++
      [{ request := request
         newest := request.number + 1 == world.issued
         response := response
         emission := (d.emitted.drop world.d.emitted.length).head? }] }

def deliverMessage (locale : Locale) (world : World) : World :=
  match world.toServer with
  | [] => world
  | .formatList formatIds :: rest => handleList formatIds { world with toServer := rest }
  | .formatDataResponse request response :: rest =>
      handleResponse locale request response { world with toServer := rest }

def step (locale : Locale) (world : World) : Action → World
  | .announce formatIds => announceFormats formatIds world
  | .answer response => answerRequest locale response world
  | .deliver => deliverMessage locale world

def freshlyEnabled : World := { d := setEnabled true (initializeClipboard true true {}).2 }

/-! ### Matching -/

/-- What a handled response must have led to: a text decoded in the format of
its own request if any, and some text if it was good and its request the newest. -/
structure Handled.Matched (handled : Handled) : Prop where
  decodedWith : ∀ emission, handled.emission = some emission →
    emission.format = handled.request.format
  delivered : handled.newest = true → handled.response.isOk = true →
    handled.emission.isSome = true

def AllMatched (world : World) : Prop := ∀ handled ∈ world.handled, handled.Matched

/-- A good answer to the request of the latest list needs the format that the
request has set; a list that has overtaken the answer must have led to a newer
request, and the data must not pass for another format. -/
def AllowsResponse (locale : Locale) (world : World) (request : Request)
    (response : FormatDataResponse) : Prop :=
  response.isOk = true →
    if request.list = world.lists then world.d.requestedClientFormat ≠ 0
    else
      request.number + 1 < world.issued ∧
        (world.d.requestedClientFormat = request.format ∨
          decodeClipboardText locale response.requestedFormatData
            world.d.requestedClientFormat = none)

def AllowsDelivery (locale : Locale) (world : World) : Action → Prop
  | .deliver =>
      match world.toServer with
      | .formatDataResponse request response :: _ =>
          AllowsResponse locale world request response
      | _ => True
  | _ => True

/-! ### What is known of a request in flight -/

/-- The one format kept is that of the request issued for the latest list, or
none.  A request that was overtaken by lists without a text is the newest one
still, but its format is gone. -/
structure Tracked (world : World) (request : Request) : Prop where
  listed : request.list ≤ world.lists
  numbered : request.number < world.issued
  current : request.list = world.lists →
    request.number + 1 = world.issued ∧
      (world.d.requestedClientFormat = 0 ∨ world.d.requestedClientFormat = request.format)
  overtaken : request.list < world.lists → request.number + 1 = world.issued →
    world.d.requestedClientFormat = 0

def MessageTracked (locale : Locale) (world : World) : ClientMessage → Prop
  | .formatList _ => True
  | .formatDataResponse request response =>
      Tracked world request ∧ response.AnswersFormat locale request.format

structure Consistent (locale : Locale) (world : World) : Prop where
  enabled : world.d.enabled = true
  toClient : ∀ request ∈ world.toClient, Tracked world request
  toServer : ∀ message ∈ world.toServer, MessageTracked locale world message
  matched : AllMatched world

/-! ### Handling a response -/

section Response

variable {locale : Locale} {world : World}

theorem onClientFormatDataResponse_enabled (response : FormatDataResponse) (d : Private) :
    (onClientFormatDataResponse locale response d).enabled = d.enabled := by
  unfold onClientFormatDataResponse
  split
  · rfl
  · split <;> rfl

theorem onClientFormatDataResponse_format (response : FormatDataResponse) (d : Private) :
    (onClientFormatDataResponse locale response d).requestedClientFormat = 0 ∨
      (onClientFormatDataResponse locale response d).requestedClientFormat =
        d.requestedClientFormat := by
  unfold onClientFormatDataResponse
  split
  · exact Or.inr rfl
  · split
    · exact Or.inr rfl
    · exact Or.inl rfl

def emissionOf (locale : Locale) (response : FormatDataResponse) (d : Private) : Option Emission :=
  if response.isOk then
    (decodeClipboardText locale response.requestedFormatData d.requestedClientFormat).map
      (Emission.mk d.requestedClientFormat)
  else none

theorem onClientFormatDataResponse_emitted {d : Private} (enabled : d.enabled = true)
    (response : FormatDataResponse) :
    ((onClientFormatDataResponse locale response d).emitted.drop d.emitted.length).head? =
      emissionOf locale response d := by
  unfold onClientFormatDataResponse emissionOf
  rw [enabled]
  cases ok : response.isOk with
  | false => simp
  | true =>
      cases decodeClipboardText locale response.requestedFormatData d.requestedClientFormat with
      | none => simp
      | some text => simp

def handledEntry (locale : Locale) (request : Request) (response : FormatDataResponse)
    (world : World) : Handled :=
  { request := request
    newest := request.number + 1 == world.issued
    response := response
    emission := emissionOf locale response world.d }

theorem handleResponse_handled (enabled : world.d.enabled = true) (request : Request)
    (response : FormatDataResponse) :
    (handleResponse locale request response world).handled =
      world.handled ++ [handledEntry locale request response world] := by
  rw [handleResponse, handledEntry, onClientFormatDataResponse_emitted enabled]

private theorem handledEntry_of_fail {request : Request} {response : FormatDataResponse}
    (fails : response.isOk = false) :
    (handledEntry locale request response world).Matched := by
  have silent : emissionOf locale response world.d = none := by simp [emissionOf, fails]
  constructor
  · intro emission emitted
    cases silent.symm.trans emitted
  · intro _ isOk
    cases fails.symm.trans isOk

private theorem handledEntry_of_ok {request : Request} {response : FormatDataResponse}
    (ok : response.isOk = true) :
    let decoded := decodeClipboardText locale response.requestedFormatData
      world.d.requestedClientFormat
    (handledEntry locale request response world).Matched ↔
      (decoded ≠ none → world.d.requestedClientFormat = request.format) ∧
        (request.number + 1 = world.issued → decoded ≠ none) := by
  intro decoded
  have emission : (handledEntry locale request response world).emission =
      decoded.map (Emission.mk world.d.requestedClientFormat) := if_pos ok
  constructor
  · intro matched
    constructor
    · intro some
      obtain ⟨text, found⟩ := Option.ne_none_iff_exists'.mp some
      exact matched.decodedWith ⟨_, text⟩ (by rw [emission, found]; rfl)
    · intro newest none
      have delivered := matched.delivered (beq_iff_eq.mpr newest) ok
      rw [emission, none] at delivered
      cases delivered
  · rintro ⟨format, delivered⟩
    constructor
    · intro made found
      rw [emission] at found
      obtain ⟨text, isSome, rfl⟩ := Option.map_eq_some_iff.mp found
      exact format (by rw [isSome]; exact Option.some_ne_none _)
    · intro newest _
      rw [emission, Option.isSome_map, Option.isSome_iff_ne_none]
      exact delivered (beq_iff_eq.mp newest)

/-- A tracked request gets its due exactly under the condition. -/
theorem handledEntry_matched_iff {request : Request} {response : FormatDataResponse}
    (tracked : Tracked world request) (answers : response.AnswersFormat locale request.format) :
    (handledEntry locale request response world).Matched ↔
      AllowsResponse locale world request response := by
  cases ok : response.isOk with
  | false =>
      constructor
      · intro _ isOk
        cases ok.symm.trans isOk
      · intro _
        exact handledEntry_of_fail ok
  | true =>
      have decodes := Option.isSome_iff_ne_none.mp (answers ok)
      have nothing := decodeClipboardText_zero locale response.requestedFormatData
      have listed := tracked.listed
      have numbered := tracked.numbered
      rw [show _ ↔ _ from handledEntry_of_ok ok]
      unfold AllowsResponse
      split
      · rename_i latest
        obtain ⟨newest, format⟩ := tracked.current latest
        constructor
        · rintro ⟨_, delivered⟩ _ cleared
          rw [cleared] at delivered
          exact delivered newest nothing
        · intro kept
          rcases format with cleared | format
          · exact absurd cleared (kept ok)
          · rw [format]
            exact ⟨fun _ => rfl, fun _ => decodes⟩
      · rename_i older
        have overtaken := tracked.overtaken (by omega)
        constructor
        · rintro ⟨format, delivered⟩ _
          constructor
          · by_contra last
            have newest : request.number + 1 = world.issued := by omega
            rw [overtaken newest] at delivered
            exact delivered newest nothing
          · by_cases none : decodeClipboardText locale response.requestedFormatData
                world.d.requestedClientFormat = none
            · exact Or.inr none
            · exact Or.inl (format none)
        · intro allows
          obtain ⟨newer, harmless⟩ := allows ok
          refine ⟨?_, fun newest => by omega⟩
          intro some
          exact harmless.resolve_right some

end Response

/-! ### Tracking through a step -/

section Steps

variable {locale : Locale} {world after : World}

theorem Tracked.settle {request : Request} (tracked : Tracked world request)
    (lists : after.lists = world.lists) (issued : after.issued = world.issued)
    (format : after.d.requestedClientFormat = 0 ∨
      after.d.requestedClientFormat = world.d.requestedClientFormat) :
    Tracked after request := by
  obtain ⟨listed, numbered, current, overtaken⟩ := tracked
  rw [← lists] at listed current overtaken
  rw [← issued] at numbered current overtaken
  refine ⟨listed, numbered, ?_, ?_⟩
  · intro latest
    obtain ⟨newest, known⟩ := current latest
    refine ⟨newest, ?_⟩
    rcases format with cleared | kept
    · exact Or.inl cleared
    · rw [kept]
      exact known
  · intro older newest
    rcases format with cleared | kept
    · exact cleared
    · rw [kept]
      exact overtaken older newest

theorem Tracked.overtake {request : Request} (tracked : Tracked world request)
    (lists : after.lists = world.lists + 1)
    (issued : (after.issued = world.issued ∧ after.d.requestedClientFormat = 0) ∨
      after.issued = world.issued + 1) :
    Tracked after request := by
  obtain ⟨listed, numbered, _, _⟩ := tracked
  refine ⟨by omega, by omega, fun latest => by omega, ?_⟩
  intro _ newest
  rcases issued with ⟨_, none⟩ | more
  · exact none
  · omega

theorem MessageTracked.imp {message : ClientMessage}
    (tracked : MessageTracked locale world message)
    (keeps : ∀ request, Tracked world request → Tracked after request) :
    MessageTracked locale after message := by
  cases message with
  | formatList formatIds => trivial
  | formatDataResponse request response => exact ⟨keeps request tracked.1, tracked.2⟩

theorem onClientFormatList_enabled (formatIds : List UInt32) (d : Private) :
    (onClientFormatList formatIds d).enabled = d.enabled := by
  simp only [onClientFormatList]
  split <;> rfl

/-- A request is issued for a list exactly when a format is kept. -/
theorem handleList_eq (formatIds : List UInt32) (world : World) :
    let d := onClientFormatList formatIds world.d
    handleList formatIds world =
      if d.requestedClientFormat = 0 then
        { world with
          d := d
          lists := world.lists + 1 }
      else
        { world with
          d := d
          lists := world.lists + 1
          toClient := world.toClient ++
            [⟨world.issued, world.lists + 1, d.requestedClientFormat⟩]
          issued := world.issued + 1 } := by
  simp only [handleList, onClientFormatList, ne_eq, ite_not]
  split
  · rename_i none
    simp [sendFormatListResponse, chooseFormat, send, issue]
  · rename_i some
    have kept (d : Private) :
        (sendFormatDataRequest d).requestedClientFormat = d.requestedClientFormat := rfl
    rw [kept, if_neg some]
    simp [sendFormatListResponse, sendFormatDataRequest, chooseFormat, send, issue]

theorem consistent_announce (consistent : Consistent locale world) (formatIds : List UInt32) :
    Consistent locale (announceFormats formatIds world) := by
  have keeps (request : Request) (tracked : Tracked world request) :
      Tracked (announceFormats formatIds world) request :=
    tracked.settle rfl rfl (Or.inr rfl)
  refine ⟨consistent.enabled, ?_, ?_, consistent.matched⟩
  · intro request member
    exact keeps request (consistent.toClient request member)
  · intro message member
    rcases List.mem_append.mp member with old | new
    · exact (consistent.toServer message old).imp keeps
    · obtain rfl := List.mem_singleton.mp new
      trivial

theorem consistent_answer (consistent : Consistent locale world)
    (response : FormatDataResponse) :
    Consistent locale (answerRequest locale response world) := by
  unfold answerRequest
  split
  · exact consistent
  · rename_i request rest queue
    split
    · rename_i answers
      have toClient := consistent.toClient
      rw [queue] at toClient
      obtain ⟨first, others⟩ := List.forall_mem_cons.mp toClient
      have keeps (other : Request) (tracked : Tracked world other) :
          Tracked
            { world with
              toClient := rest
              toServer := world.toServer ++ [.formatDataResponse request response] }
            other :=
        tracked.settle rfl rfl (Or.inr rfl)
      refine ⟨consistent.enabled, ?_, ?_, consistent.matched⟩
      · intro other member
        exact keeps other (others other member)
      · intro message member
        rcases List.mem_append.mp member with old | new
        · exact (consistent.toServer message old).imp keeps
        · obtain rfl := List.mem_singleton.mp new
          exact ⟨keeps request first, answers⟩
    · exact consistent

private theorem consistent_handleList (consistent : Consistent locale world)
    (formatIds : List UInt32) : Consistent locale (handleList formatIds world) := by
  have enabled := (onClientFormatList_enabled formatIds world.d).trans consistent.enabled
  rw [handleList_eq]
  split
  · rename_i none
    have keeps (request : Request) (tracked : Tracked world request) :
        Tracked
          { world with
            d := onClientFormatList formatIds world.d
            lists := world.lists + 1 }
          request :=
      tracked.overtake rfl (Or.inl ⟨rfl, none⟩)
    refine ⟨enabled, ?_, ?_, consistent.matched⟩
    · intro request member
      exact keeps request (consistent.toClient request member)
    · intro message member
      exact (consistent.toServer message member).imp keeps
  · rename_i some
    have keeps (request : Request) (tracked : Tracked world request) :
        Tracked
          { world with
            d := onClientFormatList formatIds world.d
            lists := world.lists + 1
            toClient := world.toClient ++
              [⟨world.issued, world.lists + 1,
                (onClientFormatList formatIds world.d).requestedClientFormat⟩]
            issued := world.issued + 1 }
          request :=
      tracked.overtake rfl (Or.inr rfl)
    refine ⟨enabled, ?_, ?_, consistent.matched⟩
    · intro request member
      rcases List.mem_append.mp member with old | new
      · exact keeps request (consistent.toClient request old)
      · obtain rfl := List.mem_singleton.mp new
        exact ⟨Nat.le_refl _, Nat.lt_succ_self _, fun _ => ⟨rfl, Or.inr rfl⟩,
          fun older => absurd older (Nat.lt_irrefl _)⟩
    · intro message member
      exact (consistent.toServer message member).imp keeps

private theorem handleResponse_spec (consistent : Consistent locale world) {request : Request}
    {response : FormatDataResponse} (tracked : Tracked world request)
    (answers : response.AnswersFormat locale request.format) :
    (AllowsResponse locale world request response →
        Consistent locale (handleResponse locale request response world)) ∧
      (AllMatched (handleResponse locale request response world) →
        AllowsResponse locale world request response) := by
  have entries :=
    @handleResponse_handled locale world consistent.enabled request response
  have due := handledEntry_matched_iff tracked answers
  have keeps (other : Request) (known : Tracked world other) :
      Tracked (handleResponse locale request response world) other :=
    known.settle rfl rfl (onClientFormatDataResponse_format response world.d)
  constructor
  · intro allows
    refine ⟨(onClientFormatDataResponse_enabled _ _).trans consistent.enabled, ?_, ?_, ?_⟩
    · intro other member
      exact keeps other (consistent.toClient other member)
    · intro message member
      exact (consistent.toServer message member).imp keeps
    · intro handled member
      rw [entries] at member
      rcases List.mem_append.mp member with old | new
      · exact consistent.matched handled old
      · obtain rfl := List.mem_singleton.mp new
        exact due.mpr allows
  · intro allMatched
    refine due.mp (allMatched _ ?_)
    rw [entries]
    exact List.mem_append_right _ (List.mem_singleton_self _)

private theorem consistent_taken (consistent : Consistent locale world)
    {rest : List ClientMessage} (subset : ∀ message ∈ rest, message ∈ world.toServer) :
    Consistent locale { world with toServer := rest } := by
  have keeps (request : Request) (tracked : Tracked world request) :
      Tracked { world with toServer := rest } request :=
    tracked.settle rfl rfl (Or.inr rfl)
  refine ⟨consistent.enabled, ?_, ?_, consistent.matched⟩
  · intro request member
    exact keeps request (consistent.toClient request member)
  · intro message member
    exact (consistent.toServer message (subset message member)).imp keeps

private theorem deliverMessage_spec (consistent : Consistent locale world) :
    (AllowsDelivery locale world .deliver → Consistent locale (deliverMessage locale world)) ∧
      (AllMatched (deliverMessage locale world) → AllowsDelivery locale world .deliver) := by
  unfold deliverMessage AllowsDelivery
  cases queue : world.toServer with
  | nil => exact ⟨fun _ => consistent, fun _ => trivial⟩
  | cons message rest =>
      have messages := consistent.toServer
      rw [queue] at messages
      obtain ⟨first, _⟩ := List.forall_mem_cons.mp messages
      have taken : Consistent locale { world with toServer := rest } := by
        refine consistent_taken consistent ?_
        intro other member
        rw [queue]
        exact List.mem_cons_of_mem message member
      cases message with
      | formatList formatIds =>
          exact ⟨fun _ => consistent_handleList taken formatIds, fun _ => trivial⟩
      | formatDataResponse request response =>
          obtain ⟨tracked, answers⟩ := first
          exact handleResponse_spec taken (tracked.settle rfl rfl (Or.inr rfl)) answers

/-! ### Runs -/

theorem consistent_step {action : Action} (consistent : Consistent locale world)
    (allows : AllowsDelivery locale world action) :
    Consistent locale (step locale world action) := by
  cases action with
  | announce formatIds => exact consistent_announce consistent formatIds
  | answer response => exact consistent_answer consistent response
  | deliver => exact (deliverMessage_spec consistent).1 allows

theorem mismatched_of_delivery {action : Action} (consistent : Consistent locale world)
    (mixes : ¬AllowsDelivery locale world action) : ¬AllMatched (step locale world action) := by
  cases action with
  | announce formatIds => exact absurd trivial mixes
  | answer response => exact absurd trivial mixes
  | deliver => exact fun matched => mixes ((deliverMessage_spec consistent).2 matched)

end Steps

/-- Answers are matched with their requests throughout a run exactly when each
good answer is handled before a newer list, with the format of its request
still kept, or after one that makes it harmless. -/
theorem allMatched_iff (locale : Locale) (actions : List Action) :
    StepRun.Always (step locale) AllMatched freshlyEnabled actions ↔
      StepRun.Along (step locale) (AllowsDelivery locale) freshlyEnabled actions :=
  StepRun.always_iff_along (Consistent locale) actions
    ⟨rfl, nofun, nofun, nofun⟩
    (fun _ _ consistent allows => consistent_step consistent allows)
    (fun _ consistent => consistent.matched)
    (fun _ _ consistent mixes => mismatched_of_delivery consistent mixes)

def latin1 : Locale where
  toLocal8Bit text := text.map UInt16.toUInt8
  fromLocal8Bit data := data.map UInt8.toUInt16

/-- A copy of 8-bit text overtakes the answer to the request for Unicode text. -/
theorem allMatched_fails :
    ¬StepRun.Always (step latin1) AllMatched freshlyEnabled
      [.announce [cfUnicodeText], .deliver, .announce [cfText],
        .answer { msgFlags := cbResponseOk, requestedFormatData := some [65, 0, 0, 0] },
        .deliver, .deliver] := by
  refine mt StepRun.Always.at_end ?_
  intro matched
  have same := (matched _ (List.mem_singleton_self _)).decodedWith ⟨cfText, [65]⟩ (by decide)
  cases same

end Clipboard

end KRdp
