import AISummoner.Opencode.Event
import AISummoner.Relational.Table
import AISummoner.Streams.Feed

/-! # The event tracker

`eventTracker` of `internal/opencode/sse.go`, its fields grouped by who writes
them.  A handler returns the state also if it fails, for what it has emitted by
then is not taken back.
-/

namespace AISummoner.Opencode

open Encoding Relational Streams

/-! ## Emissions -/

inductive Call where
  | text (delta : Text)
  | reasoning (delta : Text)
  | providerState (state : Text)
  deriving DecidableEq, Repr

/-- The part a fragment was received for; a compatibility delta may name none. -/
structure Origin where
  messageID : Text
  partID : Text
  family : Family
  deriving DecidableEq, Repr

structure Emission where
  call : Call
  origin : Option Origin
  deriving DecidableEq, Repr

structure Setup where
  externalSessionID : Text
  /-- `encoding/json` on one record. -/
  decode : Text → Option ProviderEvent
  /-- `strings.ToLower`. -/
  toLower : Text → Text
  /-- The error of a call, after the calls before it. -/
  sink : List Call → Call → Option Failure

structure TextPart where
  key : Text
  text : Text
  kind : PartKind
  deriving DecidableEq, Repr

structure Delivery where
  assistantActivity : Bool := false
  firstTextFamily : Text → Option Family := fun _ => none
  fallbackFamily : Text → Option Family := fun _ => none
  families : Text → Option Family := fun _ => none
  parts : Table TextPart.key := Table.empty
  /-- What was sent to the sink. -/
  emitted : List Emission := []

namespace Delivery

def recordFirstFamily (delivery : Delivery) (messageID : Text) (family : Family) : Delivery :=
  if delivery.firstTextFamily messageID = none then
    { delivery with
      firstTextFamily := Function.update delivery.firstTextFamily messageID (some family) }
  else delivery

def send (setup : Setup) (delivery : Delivery) (call : Call) (origin : Option Origin) :
    Delivery × Option Failure :=
  ({ delivery with emitted := delivery.emitted ++ [⟨call, origin⟩] },
    setup.sink (delivery.emitted.map Emission.call) call)

/-- A fragment of a message that answers the prompt. -/
def sendText (setup : Setup) (delivery : Delivery) (call : Call) (origin : Origin) :
    Delivery × Option Failure :=
  { delivery.recordFirstFamily origin.messageID origin.family with
    assistantActivity := true }.send setup call (some origin)

/-- The family of a message's deltas without a part, decided by the first of them. -/
def decideFallback (delivery : Delivery) (messageID : Text) : Family :=
  (delivery.fallbackFamily messageID).getD
    ((delivery.firstTextFamily messageID).getD .compatibility)

def setFallback (delivery : Delivery) (messageID : Text) (family : Family) : Delivery :=
  { delivery with fallbackFamily := Function.update delivery.fallbackFamily messageID (some family) }

def setFamily (delivery : Delivery) (key : Text) (family : Family) : Delivery :=
  { delivery with families := Function.update delivery.families key (some family) }

def emitCompatibility (setup : Setup) (delivery : Delivery) (messageID textID delta : Text) :
    Delivery × Option Failure :=
  if textID = [] then
    match delivery.decideFallback messageID with
    | .messagePart => (delivery.setFallback messageID .messagePart, none)
    | .compatibility =>
      (delivery.setFallback messageID .compatibility).sendText setup (.text delta)
        ⟨messageID, textID, .compatibility⟩
  else
    match delivery.fallbackFamily messageID with
    | some .messagePart => (delivery, none)
    | some .compatibility =>
      delivery.sendText setup (.text delta) ⟨messageID, textID, .compatibility⟩
    | none =>
      if delivery.families (partKey messageID textID) = some .messagePart then (delivery, none)
      else
        (delivery.setFamily (partKey messageID textID) .compatibility).sendText setup (.text delta)
          ⟨messageID, textID, .compatibility⟩

/-- Fragments of message parts are not emitted for a message or a part the other family
    has taken. -/
def taken (delivery : Delivery) (messageID key : Text) : Bool :=
  delivery.fallbackFamily messageID = some .compatibility ||
    delivery.families key = some .compatibility

def setPart (delivery : Delivery) (part : TextPart) : Delivery :=
  { delivery with parts := delivery.parts.put part }

def getPart (delivery : Delivery) (key : Text) (kind : Option PartKind) :
    Except Failure (Delivery × TextPart) :=
  if key = [] then .error (protocolError "OpenCode text part lacks identity")
  else
    match delivery.parts.get key with
    | some part =>
      if kind = none ∨ kind = some part.kind then .ok (delivery, part)
      else .error (protocolError "OpenCode message part type changed")
    | none =>
      if maximumTextParts ≤ delivery.parts.rows.length then
        .error (protocolError "too many OpenCode text parts")
      else
        .ok (delivery.setPart ⟨key, [], kind.getD .text⟩, ⟨key, [], kind.getD .text⟩)

def emitPartDelta (setup : Setup) (delivery : Delivery) (kind : PartKind) (delta : Text)
    (origin : Origin) : Delivery × Option Failure :=
  match kind with
  | .reasoning => delivery.sendText setup (.reasoning delta) origin
  | .text => delivery.sendText setup (.text delta) origin

def extendPart (setup : Setup) (delivery : Delivery) (messageID partID : Text) (part : TextPart)
    (text delta : Text) : Delivery × Option Failure :=
  ((delivery.setFamily part.key .messagePart).setPart { part with text := text }).emitPartDelta setup
    part.kind delta ⟨messageID, partID, .messagePart⟩

def emitDelta (setup : Setup) (delivery : Delivery) (messageID partID delta : Text) :
    Delivery × Option Failure :=
  if delivery.taken messageID (partKey messageID partID) then (delivery, none)
  else
    match delivery.getPart (partKey messageID partID) none with
    | .error failure => (delivery, some failure)
    | .ok (delivery, part) =>
      delivery.extendPart setup messageID partID part (part.text ++ delta) delta

def emitFull (setup : Setup) (delivery : Delivery) (messageID partID : Text) (kind : PartKind)
    (text : Text) : Delivery × Option Failure :=
  if delivery.taken messageID (partKey messageID partID) then (delivery, none)
  else
    match delivery.getPart (partKey messageID partID) (some kind) with
    | .error failure => (delivery, some failure)
    | .ok (delivery, part) =>
      if text <+: part.text then (delivery, none)
      else if part.text <+: text then
        delivery.extendPart setup messageID partID part text (text.drop part.text.length)
      else (delivery, some (protocolError "OpenCode text part changed non-monotonically"))

end Delivery

/-! ## Texts that wait for their message -/

/-- `kind` and `full` belong to a snapshot of a part, `delta` to the other two. -/
structure PendingText where
  family : Family
  partID : Text
  kind : PartKind := .text
  full : Option Text := none
  delta : Text := []
  deriving DecidableEq, Repr

def PendingText.size (text : PendingText) : Nat :=
  match text.full with
  | some full => full.length
  | none => text.delta.length

/-- In the order of arrival, each with its message. -/
structure Queue where
  pending : List (Text × PendingText) := []
  pendingRecords : Int := 0
  pendingBytes : Int := 0
  deriving DecidableEq, Repr

namespace Queue

def pendingOf (queue : Queue) (messageID : Text) : List PendingText :=
  (queue.pending.filter fun entry => entry.1 = messageID).map Prod.snd

def add (queue : Queue) (messageID : Text) (text : PendingText) : Queue × Option Failure :=
  if messageID = [] then (queue, none)
  else if maximumPendingParts ≤ queue.pendingRecords ∨ maxMessageBytes < text.size ∨
      (maxMessageBytes - text.size : Int) < queue.pendingBytes then
    (queue, some (protocolError "too many unassociated OpenCode parts"))
  else
    ({ pending := queue.pending ++ [(messageID, text)]
       pendingRecords := queue.pendingRecords + 1
       pendingBytes := queue.pendingBytes + text.size }, none)

/-- The bytes `clearPending` takes off for one text. -/
def released (text : PendingText) : Nat := text.delta.length + (text.full.getD []).length

def clearPending (queue : Queue) (messageID : Text) : Queue where
  pending := queue.pending.filter fun entry => entry.1 ≠ messageID
  pendingRecords := queue.pendingRecords - (queue.pendingOf messageID).length
  pendingBytes := queue.pendingBytes - ((queue.pendingOf messageID).map released).sum

end Queue

/-! ## Messages -/

structure MessageRow where
  id : Text
  role : Role
  parentID : Text
  deriving DecidableEq, Repr

structure Correlation where
  promptMessageID : Text := []
  promptSeen : Bool := false
  assistantFinal : Bool := false
  idleObserved : Bool := false
  /-- `messageRoles` and `messageParents`, which are written together. -/
  messages : Table MessageRow.id := Table.empty
  currentAssistants : Text → Bool := fun _ => false
  queue : Queue := {}
  delivery : Delivery := {}

def finalAssistantFinish (setup : Setup) (value : Text) : Except Failure Bool :=
  if value = [] then .ok false
  else if 128 < value.length ∨ validString value = false then
    .error (protocolError "invalid OpenCode assistant finish")
  else
    .ok (setup.toLower value ≠ utf8 "tool-calls" && setup.toLower value ≠ utf8 "tool_calls")

def parseProviderState (setup : Setup) : RawStatus → Except Failure Text
  | .absent => .error (protocolError "OpenCode status lacks state")
  | .malformed => .error (protocolError "malformed OpenCode status")
  | .named state =>
    let state := setup.toLower state
    if state = [] ∨ 128 < state.length ∨ validString state = false then
      .error (protocolError "invalid OpenCode status")
    else .ok state

def sessionErrorCode (encoded : Text) : String :=
  if contains encoded "rate" || contains encoded "quota" || contains encoded "429" then
    "rate_limited"
  else if contains encoded "unauthorized" || contains encoded "forbidden" ||
      contains encoded "credential" || contains encoded "401" || contains encoded "403" then
    "unauthorized"
  else "provider_unavailable"

def classifySessionError (setup : Setup) (raw : Text) : Failure :=
  .adapter (sessionErrorCode (setup.toLower raw)) "OpenCode session failed"

namespace Correlation

/-- Both ends were seen: of the session's work and of the answer. -/
def turnEnded (correlation : Correlation) : Bool :=
  correlation.idleObserved && correlation.assistantFinal

def emitPending (setup : Setup) (delivery : Delivery) (messageID : Text) (text : PendingText) :
    Delivery × Option Failure :=
  match text.family, text.full with
  | .compatibility, _ => delivery.emitCompatibility setup messageID text.partID text.delta
  | .messagePart, some full => delivery.emitFull setup messageID text.partID text.kind full
  | .messagePart, none => delivery.emitDelta setup messageID text.partID text.delta

def emitAll (setup : Setup) (messageID : Text) : Delivery → List PendingText → Delivery × Option Failure
  | delivery, [] => (delivery, none)
  | delivery, text :: texts =>
    match emitPending setup delivery messageID text with
    | (delivery, none) => emitAll setup messageID delivery texts
    | (delivery, some failure) => (delivery, some failure)

/-- The message was recorded with other data, or there is no room for it. -/
def refuses (correlation : Correlation) (row : MessageRow) : Option Failure :=
  match correlation.messages.get row.id with
  | some existing =>
    if existing = row then none else some (protocolError "OpenCode message identity changed")
  | none =>
    if maximumMessageRoles ≤ correlation.messages.rows.length then
      some (protocolError "too many OpenCode messages")
    else none

/-- The first user message after the prompt was dispatched is the prompt. -/
def notePrompt (correlation : Correlation) (id : Text) : Correlation :=
  if correlation.promptMessageID = [] then
    { correlation with promptMessageID := id, promptSeen := true }
  else { correlation with promptSeen := correlation.promptSeen || id = correlation.promptMessageID }

def noteAssistant (correlation : Correlation) (id parentID : Text) : Correlation :=
  if correlation.promptMessageID ≠ [] ∧ parentID = correlation.promptMessageID then
    { correlation with
      currentAssistants := Function.update correlation.currentAssistants id true
      delivery := { correlation.delivery with assistantActivity := true } }
  else correlation

def note (correlation : Correlation) (row : MessageRow) : Correlation :=
  match row.role with
  | .user => { correlation with messages := correlation.messages.put row }.notePrompt row.id
  | .assistant =>
    { correlation with messages := correlation.messages.put row }.noteAssistant row.id row.parentID
  | .system => { correlation with messages := correlation.messages.put row }

/-- What an update says about the end of a message that answers the prompt. -/
def finishOf (setup : Setup) (info : MessageInfo) : Except Failure Bool :=
  if info.error ≠ [] ∧ info.error ≠ utf8 "null" ∧ info.error ≠ utf8 "\x7b\x7d" then
    .error (classifySessionError setup info.error)
  else finalAssistantFinish setup info.finish

/-- The texts of a message that answers the prompt are emitted. -/
def replay (setup : Setup) (correlation : Correlation) (messageID : Text) :
    Correlation × Except Failure Bool :=
  match emitAll setup messageID correlation.delivery (correlation.queue.pendingOf messageID) with
  | (delivery, some failure) => ({ correlation with delivery := delivery }, .error failure)
  | (delivery, none) =>
    ({ correlation with
       delivery := delivery, queue := correlation.queue.clearPending messageID },
      .ok correlation.turnEnded)

/-- The end of an update: the texts of the message are emitted, or given up. -/
def release (setup : Setup) (correlation : Correlation) (info : MessageInfo) :
    Correlation × Except Failure Bool :=
  if correlation.currentAssistants info.id then
    match finishOf setup info with
    | .error failure => (correlation, .error failure)
    | .ok final =>
      { correlation with
        assistantFinal := correlation.assistantFinal || final }.replay setup info.id
  else
    ({ correlation with queue := correlation.queue.clearPending info.id },
      .ok correlation.turnEnded)

def messageUpdated (setup : Setup) (correlation : Correlation) (properties : EventProperties) :
    Correlation × Except Failure Bool :=
  match properties.info with
  | none => (correlation, .ok false)
  | some info =>
    if validEventIdentity info.id = false then
      (correlation, .error (protocolError "invalid OpenCode message identity"))
    else if info.parentID ≠ [] ∧ validEventIdentity info.parentID = false then
      (correlation, .error (protocolError "invalid OpenCode parent identity"))
    else
      match roleOf (setup.toLower info.role) with
      | none => (correlation, .ok false)
      | some role =>
        match correlation.refuses ⟨info.id, role, info.parentID⟩ with
        | some failure => (correlation, .error failure)
        | none => (correlation.note ⟨info.id, role, info.parentID⟩).release setup info

/-! ## Texts -/

def enqueue (correlation : Correlation) (messageID : Text) (text : PendingText) :
    Correlation × Except Failure Bool :=
  match correlation.queue.add messageID text with
  | (queue, none) => ({ correlation with queue := queue }, .ok false)
  | (_, some failure) => (correlation, .error failure)

def withDelivery (correlation : Correlation) (emitted : Delivery × Option Failure) :
    Correlation × Except Failure Bool :=
  ({ correlation with delivery := emitted.1 }, match emitted.2 with
    | none => .ok false
    | some failure => .error failure)

def known (correlation : Correlation) (messageID : Text) : Bool :=
  (correlation.messages.get messageID).isSome

def isAssistant (correlation : Correlation) (messageID : Text) : Bool :=
  (correlation.messages.get messageID).map MessageRow.role = some .assistant

def messageDelta (setup : Setup) (correlation : Correlation) (properties : EventProperties) :
    Correlation × Except Failure Bool :=
  if properties.field ≠ utf8 "text" ∨ properties.delta = [] ∨
      validString properties.delta = false then
    (correlation, .ok false)
  else if validEventIdentity properties.messageID = false ∨
      validEventIdentity properties.partID = false then
    (correlation, .error (protocolError "invalid OpenCode text identity"))
  else if correlation.known properties.messageID ∧
      correlation.currentAssistants properties.messageID = false then
    (correlation, .ok false)
  else if correlation.isAssistant properties.messageID = false ∨
      correlation.currentAssistants properties.messageID = false then
    correlation.enqueue properties.messageID
      { family := .messagePart, partID := properties.partID, delta := properties.delta }
  else
    correlation.withDelivery
      (correlation.delivery.emitDelta setup properties.messageID properties.partID properties.delta)

def messagePartUpdated (setup : Setup) (correlation : Correlation) (properties : EventProperties) :
    Correlation × Except Failure Bool :=
  match properties.part with
  | none => (correlation, .ok false)
  | some part =>
    match partKindOf part.type with
    | none => (correlation, .ok false)
    | some kind =>
      if validString part.text = false then (correlation, .ok false)
      else if validEventIdentity part.messageID = false ∨ validEventIdentity part.id = false then
        (correlation, .error (protocolError "invalid OpenCode text identity"))
      else if part.role ≠ [] ∧ setup.toLower part.role ≠ utf8 "assistant" then
        (correlation, .ok false)
      else if correlation.known part.messageID ∧
          correlation.currentAssistants part.messageID = false then
        (correlation, .ok false)
      else if correlation.isAssistant part.messageID = false ∨
          correlation.currentAssistants part.messageID = false then
        correlation.enqueue part.messageID
          { family := .messagePart, partID := part.id, kind := kind, full := some part.text }
      else
        correlation.withDelivery
          (correlation.delivery.emitFull setup part.messageID part.id kind part.text)

def compatibilityDelta (setup : Setup) (correlation : Correlation)
    (assistantMessageID textID delta : Text) : Correlation × Except Failure Bool :=
  if delta = [] ∨ validString delta = false then (correlation, .ok false)
  else if assistantMessageID = [] then (correlation, .ok false)
  else if validEventIdentity assistantMessageID = false ∨
      (textID ≠ [] ∧ validEventIdentity textID = false) then
    (correlation, .error (protocolError "invalid OpenCode compatibility identity"))
  else if correlation.known assistantMessageID ∧
      correlation.currentAssistants assistantMessageID = false then
    (correlation, .ok false)
  else if correlation.currentAssistants assistantMessageID = false then
    correlation.enqueue assistantMessageID
      { family := .compatibility, partID := textID, delta := delta }
  else
    correlation.withDelivery
      (correlation.delivery.emitCompatibility setup assistantMessageID textID delta)

/-! ## Events -/

/-- An idle counts once a message has answered the prompt. -/
def noteIdle (correlation : Correlation) : Correlation :=
  if correlation.delivery.assistantActivity then { correlation with idleObserved := true }
  else correlation

def tell (setup : Setup) (correlation : Correlation) (state : Text) :
    Correlation × Except Failure Bool :=
  match correlation.delivery.send setup (.providerState state) none with
  | (delivery, some failure) => ({ correlation with delivery := delivery }, .error failure)
  | (delivery, none) =>
    if state = utf8 "idle" then
      ({ correlation with delivery := delivery }.noteIdle,
        .ok { correlation with delivery := delivery }.noteIdle.turnEnded)
    else ({ correlation with delivery := delivery }, .ok correlation.turnEnded)

def sessionStatus (setup : Setup) (correlation : Correlation) (status : RawStatus) :
    Correlation × Except Failure Bool :=
  match parseProviderState setup status with
  | .error failure => (correlation, .error failure)
  | .ok state => correlation.tell setup state

/-- The switch of `consume`; an answer `true` ends the Turn. -/
def handle (setup : Setup) (correlation : Correlation) (event : Received) :
    Correlation × Except Failure Bool :=
  match event.type with
  | .messageUpdated => correlation.messageUpdated setup event.properties
  | .messagePartDelta => correlation.messageDelta setup event.properties
  | .messagePartUpdated => correlation.messagePartUpdated setup event.properties
  | .compatibilityDelta =>
    correlation.compatibilityDelta setup event.properties.assistantMessageID
      event.properties.textID event.properties.delta
  | .sessionStatus => correlation.sessionStatus setup event.properties.status
  | .sessionIdle => (correlation.noteIdle, .ok correlation.noteIdle.turnEnded)
  | .sessionError =>
    if correlation.promptSeen || correlation.delivery.assistantActivity then
      (correlation, .error (classifySessionError setup event.properties.error))
    else (correlation, .ok false)
  | .other tool =>
    if tool && correlation.currentAssistants event.properties.messageID then
      ({ correlation with
         delivery := { correlation.delivery with assistantActivity := true } }, .ok false)
    else (correlation, .ok false)

end Correlation

structure Tracker where
  armed : Bool := false
  seenIDs : List Text := []
  correlation : Correlation := {}

/-- The tracker of `consumeEvents`; production gives no prompt message. -/
def newTracker (promptMessageID : Text) : Tracker where
  correlation := { promptMessageID := promptMessageID }

namespace Tracker

def arm (tracker : Tracker) (dispatched : Bool) : Tracker :=
  { tracker with armed := tracker.armed || dispatched }

/-- The rest of `consume`, for a record that can be looked at. -/
def accept (setup : Setup) (tracker : Tracker) (event : Received) :
    Tracker × Except Failure Bool :=
  if event.sessionID ≠ setup.externalSessionID then (tracker, .ok false)
  else if tracker.armed = false then (tracker, .ok false)
  else if event.id ∈ tracker.seenIDs then (tracker, .ok false)
  else if maximumEventIDs ≤ tracker.seenIDs.length then
    (tracker, .error (protocolError "too many OpenCode events"))
  else
    ({ tracker with
       seenIDs := tracker.seenIDs ++ [event.id]
       correlation := (tracker.correlation.handle setup event).1 },
      (tracker.correlation.handle setup event).2)

/-- A record comes with whether `dispatched` was closed when it was looked at. -/
def consume (setup : Setup) (tracker : Tracker) (record : Bool × Text) :
    Tracker × Except Failure Bool :=
  match receive (setup.decode record.2) with
  | .error failure => (tracker.arm record.1, .error failure)
  | .ok event => (tracker.arm record.1).accept setup event

def emitted (tracker : Tracker) : List Emission := tracker.correlation.delivery.emitted

end Tracker

/-- The loop of `consumeEvents` over the records of its stream. -/
def consumeRecords (setup : Setup) (tracker : Tracker) (records : List (Bool × Text)) :
    Tracker × Except Failure Unit :=
  match feed (Tracker.consume setup) tracker records with
  | (tracker, .ok true) => (tracker, .ok ())
  | (tracker, .ok false) =>
    (tracker, .error (protocolError "OpenCode event stream ended before terminal event"))
  | (tracker, .error failure) => (tracker, .error failure)

/-- The events that are handled: of this session, after the prompt was dispatched, each id
    once, up to a record that is refused. -/
def accepted (setup : Setup) (armed : Bool) (seen : List Text) : List (Bool × Text) → List Received
  | [] => []
  | (dispatched, record) :: records =>
    match receive (setup.decode record) with
    | .error _ => []
    | .ok event =>
      if event.sessionID = setup.externalSessionID ∧ (armed || dispatched) = true ∧
          event.id ∉ seen then
        if maximumEventIDs ≤ seen.length then []
        else event :: accepted setup (armed || dispatched) (seen ++ [event.id]) records
      else accepted setup (armed || dispatched) seen records

end AISummoner.Opencode
