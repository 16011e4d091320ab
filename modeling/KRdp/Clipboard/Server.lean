/-
The clipboard channel of the server.

Messages are appended to a log as they are sent, and so are the texts that the
embedder is told about, each with the format it was decoded in.  The one field
for the requested format stands for every request that is still unanswered.
-/

import KRdp.Clipboard.TextCodec

namespace KRdp

namespace Clipboard

/-! ### Messages -/

def cbFormatList : UInt16 := 2

def cbFormatListResponse : UInt16 := 3

def cbFormatDataRequest : UInt16 := 4

def cbFormatDataResponse : UInt16 := 5

def cbResponseOk : UInt16 := 1

def cbResponseFail : UInt16 := 2

structure CliprdrHeader where
  msgType : UInt16
  msgFlags : UInt16 := 0
  dataLen : UInt32 := 0
  deriving DecidableEq, Repr

inductive ServerMessage where
  | formatList (common : CliprdrHeader) (formatIds : List UInt32)
  | formatListResponse (common : CliprdrHeader)
  | formatDataRequest (common : CliprdrHeader) (requestedFormatId : UInt32)
  | formatDataResponse (common : CliprdrHeader) (requestedFormatData : Option QByteArray)
  deriving DecidableEq, Repr

/-- A response of the client; `dataLen` is the length of the data. -/
structure FormatDataResponse where
  msgFlags : UInt16
  requestedFormatData : Option QByteArray := none
  deriving DecidableEq, Repr

def FormatDataResponse.isOk (response : FormatDataResponse) : Bool :=
  response.msgFlags &&& cbResponseOk != 0

/-! ### State -/

structure Emission where
  format : UInt32
  text : QString
  deriving DecidableEq, Repr

structure Private where
  clipContext : Bool := false
  serverText : QString := []
  requestedClientFormat : UInt32 := 0
  hasServerText : Bool := false
  initialized : Bool := false
  enabled : Bool := false
  /-- Calls of `sendServerData` in the event queue. -/
  queuedSends : Nat := 0
  sent : List ServerMessage := []
  emitted : List Emission := []
  deriving DecidableEq, Repr

def send (message : ServerMessage) (d : Private) : Private :=
  { d with sent := d.sent ++ [message] }

def queueSend (d : Private) : Private := { d with queuedSends := d.queuedSends + 1 }

/-! ### The interface of the embedder -/

/-- Whether the context can be created and started is the channel's answer. -/
def initializeClipboard (created started : Bool) (d : Private) : Bool × Private :=
  if d.clipContext then (true, d)
  else if !created then (false, d)
  else if !started then (false, { d with clipContext := true })
  else
    let d :=
      { d with
        clipContext := true
        initialized := true }
    (true, if d.enabled && d.hasServerText then queueSend d else d)

def setEnabled (enabled : Bool) (d : Private) : Private :=
  if d.enabled = enabled then d
  else
    let d :=
      { d with
        enabled := enabled
        requestedClientFormat := 0 }
    if enabled && d.initialized && d.hasServerText then queueSend d else d

def isEnabled (d : Private) : Bool := d.initialized && d.enabled

def setServerText (text : QString) (d : Private) : Private :=
  let d :=
    { d with
      serverText := text
      hasServerText := true }
  if isEnabled d then queueSend d else d

def close (d : Private) : Private :=
  if !d.clipContext then d
  else
    { d with
      clipContext := false
      initialized := false
      enabled := false
      requestedClientFormat := 0 }

def sendServerData (d : Private) : Private :=
  let d := { d with queuedSends := d.queuedSends - 1 }
  if !isEnabled d || !d.hasServerText || !d.clipContext then d
  else send (.formatList { msgType := cbFormatList } [cfUnicodeText]) d

/-! ### Messages of the client -/

/-- Unicode text ends the search; otherwise the first of the 8-bit formats is
kept. -/
def selectFormat (requestedClientFormat : UInt32) : List UInt32 → UInt32
  | [] => requestedClientFormat
  | formatId :: rest =>
      if formatId = cfUnicodeText then cfUnicodeText
      else if requestedClientFormat = 0 ∧ (formatId = cfText ∨ formatId = cfOemText) then
        selectFormat formatId rest
      else selectFormat requestedClientFormat rest

def chooseFormat (formatIds : List UInt32) (d : Private) : Private :=
  { d with requestedClientFormat := if d.enabled then selectFormat 0 formatIds else 0 }

def sendFormatListResponse (d : Private) : Private :=
  send
    (.formatListResponse
      { msgType := cbFormatListResponse
        msgFlags := cbResponseOk })
    d

def sendFormatDataRequest (d : Private) : Private :=
  send
    (.formatDataRequest
      { msgType := cbFormatDataRequest
        dataLen := 4 }
      d.requestedClientFormat)
    d

def onClientFormatList (formatIds : List UInt32) (d : Private) : Private :=
  let d := sendFormatListResponse (chooseFormat formatIds d)
  if d.requestedClientFormat ≠ 0 then sendFormatDataRequest d else d

def onClientFormatDataRequest (locale : Locale) (requestedFormatId : UInt32)
    (d : Private) : Private :=
  let encoded :=
    if d.enabled && d.hasServerText then
      encodeClipboardText locale d.serverText requestedFormatId
    else []
  if encoded.isEmpty then
    send
      (.formatDataResponse
        { msgType := cbFormatDataResponse
          msgFlags := cbResponseFail }
        none)
      d
  else
    send
      (.formatDataResponse
        { msgType := cbFormatDataResponse
          msgFlags := cbResponseOk
          dataLen := .ofNat encoded.length }
        (some encoded))
      d

def onClientFormatDataResponse (locale : Locale) (response : FormatDataResponse)
    (d : Private) : Private :=
  if !d.enabled || !response.isOk then d
  else
    match decodeClipboardText locale response.requestedFormatData d.requestedClientFormat with
    | none => d
    | some text =>
        { d with
          requestedClientFormat := 0
          emitted := d.emitted ++ [⟨d.requestedClientFormat, text⟩] }

end Clipboard

end KRdp
