import AISummoner.Opencode.Event
import AISummoner.Relational.Table
import AISummoner.Sse.Reader

/-! # The reply of the direct provider

`consumeStream` of `internal/deepseek/adapter.go`.  A record is a list of updates;
fragments of tool calls are collected by their index.  A reply counts after its
finish reason and the `[DONE]` record.
-/

namespace AISummoner.Deepseek

open Encoding
open Opencode (Text Failure protocolError maxMessageBytes)
open Relational Sse Streams

def maximumStreamRecords : Nat := 4096
def maximumToolCallsPerReply : Nat := 64
def maximumToolArgumentBytes : Nat := 128 * 1024

/-! ## Decoded records -/

structure StreamToolCallDelta where
  index : Option Int
  id : Text := []
  type : Text := []
  name : Text := []
  arguments : Text := []
  deriving DecidableEq, Repr

structure StreamChoice where
  index : Int := 0
  content : Option Text := none
  reasoningContent : Option Text := none
  toolCalls : List StreamToolCallDelta := []
  finishReason : Option Text := none
  deriving DecidableEq, Repr

structure StreamChunk where
  choices : List StreamChoice := []
  deriving DecidableEq, Repr

inductive Update where
  | choice (index : Int)
  | reasoning (delta : Text)
  | content (delta : Text)
  | toolCall (delta : StreamToolCallDelta)
  | finish (reason : Text)
  deriving DecidableEq, Repr

/-- In the order `consumeRecord` takes them; an absent or empty fragment asks for nothing. -/
def StreamChoice.updates (choice : StreamChoice) : List Update :=
  .choice choice.index ::
    ((choice.reasoningContent.filter (· ≠ [])).map Update.reasoning).toList ++
    ((choice.content.filter (· ≠ [])).map Update.content).toList ++
    choice.toolCalls.map .toolCall ++
    (choice.finishReason.map Update.finish).toList

def StreamChunk.updates (chunk : StreamChunk) : List Update :=
  chunk.choices.flatMap StreamChoice.updates

/-! ## State -/

inductive Call where
  | reasoning (delta : Text)
  | text (delta : Text)
  deriving DecidableEq, Repr

structure Setup where
  /-- `encoding/json` on one record. -/
  decode : Text → Option StreamChunk
  /-- `json.Valid`. -/
  validJSON : Text → Bool
  /-- Whether a call is refused after the calls before it, and `ctx.Err()` then. -/
  sink : List Call → Call → Option (Option Failure)
  /-- `ctx.Err()` when a line is read. -/
  context : Nat → Option Failure
  /-- The error of the response body. -/
  readError : Failure

/-- `wireToolCall`, whose type is always `function`. -/
structure WireToolCall where
  index : Nat
  id : Text := []
  name : Text := []
  arguments : Text := []
  deriving DecidableEq, Repr

structure Progress where
  content : Text := []
  reasoning : Text := []
  finish : Text := []
  doneMarker : Bool := false
  finishSeen : Bool := false
  records : Nat := 0
  toolCalls : Table WireToolCall.index := Table.empty
  /-- What was sent to the sink. -/
  emitted : List Call := []

namespace Progress

/-- Send a fragment; `rejected` is the error if the sink refuses it. -/
def send (setup : Setup) (progress : Progress) (call : Call) (rejected : String) :
    Progress × Option Failure :=
  ({ progress with emitted := progress.emitted ++ [call] },
    match setup.sink progress.emitted call with
    | none => none
    | some (some cancelled) => some cancelled
    | some none => some (protocolError rejected))

def takeReasoning (setup : Setup) (progress : Progress) (delta : Text) :
    Progress × Option Failure :=
  if validString delta = false ∨ maxMessageBytes < progress.reasoning.length + delta.length then
    (progress, some (protocolError "DeepSeek reasoning exceeds limit"))
  else
    match progress.send setup (.reasoning delta) "DeepSeek reasoning was rejected" with
    | (progress, some failure) => (progress, some failure)
    | (progress, none) => ({ progress with reasoning := progress.reasoning ++ delta }, none)

def takeContent (setup : Setup) (progress : Progress) (delta : Text) :
    Progress × Option Failure :=
  if validString delta = false ∨ maxMessageBytes < progress.content.length + delta.length then
    (progress, some (protocolError "DeepSeek answer exceeds limit"))
  else
    match progress.send setup (.text delta) "DeepSeek answer was rejected" with
    | (progress, some failure) => (progress, some failure)
    | (progress, none) => ({ progress with content := progress.content ++ delta }, none)

def callAt (progress : Progress) (index : Nat) : Except Failure WireToolCall :=
  match progress.toolCalls.get index with
  | some call => .ok call
  | none =>
    if maximumToolCallsPerReply ≤ progress.toolCalls.rows.length then
      .error (protocolError "too many DeepSeek tool calls")
    else .ok { index := index }

end Progress

def WireToolCall.extend (call : WireToolCall) (delta : StreamToolCallDelta) :
    Except Failure WireToolCall :=
  if delta.id ≠ [] ∧ call.id ≠ [] ∧ call.id ≠ delta.id then
    .error (protocolError "DeepSeek tool-call identity changed")
  else if delta.type ≠ [] ∧ delta.type ≠ utf8 "function" then
    .error (protocolError "unsupported DeepSeek tool-call type")
  else if delta.name ≠ [] ∧ call.name ≠ [] ∧ call.name ≠ delta.name then
    .error (protocolError "DeepSeek tool-call name changed")
  else if maximumToolArgumentBytes < call.arguments.length + delta.arguments.length then
    .error (protocolError "DeepSeek tool arguments exceed limit")
  else
    .ok
      { index := call.index
        id := if delta.id = [] then call.id else delta.id
        name := if delta.name = [] then call.name else delta.name
        arguments := call.arguments ++ delta.arguments }

namespace Progress

def takeToolCall (progress : Progress) (delta : StreamToolCallDelta) :
    Except Failure Progress :=
  match delta.index with
  | none => .error (protocolError "invalid DeepSeek tool-call index")
  | some index =>
    if index < 0 ∨ maximumToolCallsPerReply ≤ index then
      .error (protocolError "invalid DeepSeek tool-call index")
    else do
      let call ← progress.callAt index.toNat
      let call ← call.extend delta
      return { progress with toolCalls := progress.toolCalls.put call }

def takeFinish (progress : Progress) (reason : Text) : Except Failure Progress :=
  if progress.finishSeen ∨ reason = [] ∨ 64 < reason.length then
    .error (protocolError "invalid DeepSeek finish reason")
  else .ok { progress with finishSeen := true, finish := reason }

/-- The result of an update that sends nothing: its state is lost with its error. -/
def settle (progress : Progress) : Except Failure Progress → Progress × Except Failure Bool
  | .ok next => (next, .ok false)
  | .error failure => (progress, .error failure)

def sent : Progress × Option Failure → Progress × Except Failure Bool
  | (next, none) => (next, .ok false)
  | (next, some failure) => (next, .error failure)

def apply (setup : Setup) (progress : Progress) : Update → Progress × Except Failure Bool
  | .choice index =>
    if index = 0 then (progress, .ok false)
    else (progress, .error (protocolError "unexpected DeepSeek stream choice"))
  | .reasoning delta => sent (progress.takeReasoning setup delta)
  | .content delta => sent (progress.takeContent setup delta)
  | .toolCall delta => progress.settle (progress.takeToolCall delta)
  | .finish reason => progress.settle (progress.takeFinish reason)

/-- An answer `true` ends the loop. -/
def consumeRecord (setup : Setup) (progress : Progress) (encoded : Text) :
    Progress × Except Failure Bool :=
  if encoded = utf8 "[DONE]" then ({ progress with doneMarker := true }, .ok true)
  else if maximumStreamRecords < progress.records + 1 then
    ({ progress with records := progress.records + 1 },
      .error (protocolError "too many DeepSeek stream records"))
  else
    match setup.decode encoded with
    | none =>
      ({ progress with records := progress.records + 1 },
        .error (protocolError "malformed DeepSeek stream record"))
    | some chunk =>
      feed (apply setup) { progress with records := progress.records + 1 } chunk.updates

end Progress

structure StreamResult where
  content : Text
  reasoning : Text
  finish : Text
  toolCalls : List WireToolCall
  doneMarker : Bool
  deriving DecidableEq, Repr

/-- Bytes outside ASCII are read as characters beyond it. -/
def validVisibleASCII (value : Text) (maximumBytes : Nat) : Bool :=
  value ≠ [] && value.length ≤ maximumBytes &&
    (decodeRunes value).all fun character => 0x21 ≤ character.toNat && character.toNat ≤ 0x7e

/-- The calls in the order of their indexes, each checked. -/
def checkCalls (setup : Setup) : Nat → List Text → List WireToolCall → Except Failure Unit
  | _, _, [] => .ok ()
  | expected, identities, call :: calls =>
    if call.index ≠ expected then
      .error (protocolError "DeepSeek tool-call indexes are not contiguous")
    else if validVisibleASCII call.id 512 = false ∨ call.name ≠ utf8 "remote_exec" ∨
        setup.validJSON call.arguments = false then
      .error (protocolError "invalid DeepSeek remote tool call")
    else if call.id ∈ identities then
      .error (protocolError "duplicate DeepSeek tool-call identity")
    else checkCalls setup (expected + 1) (call.id :: identities) calls

namespace Progress

def sortedCalls (progress : Progress) : List WireToolCall :=
  progress.toolCalls.rows.insertionSort fun first second => first.index ≤ second.index

def result (setup : Setup) (progress : Progress) : Except Failure StreamResult :=
  if progress.finishSeen = false ∨ progress.doneMarker = false then
    .error (protocolError "DeepSeek stream ended before completion")
  else do
    checkCalls setup 0 [] progress.sortedCalls
    return ⟨progress.content, progress.reasoning, progress.finish, progress.sortedCalls,
      progress.doneMarker⟩

end Progress

/-! ## The stream -/

def recordReader (setup : Setup) : Reader Progress Failure where
  oversizedLine := protocolError "DeepSeek SSE line exceeds limit"
  oversizedRecord := protocolError "DeepSeek SSE record exceeds limit"
  context := setup.context
  consume := fun progress record => progress.consumeRecord setup record.2

/-- `scanner.Err()` as an error of the reader. -/
def scanFailure (setup : Setup) : Stop → Failure
  | .tooLong => .passed "bufio.Scanner: token too long"
  | .ended _ => setup.readError

structure Reply where
  progress : Progress
  /-- The records that were consumed, each with the number of its line. -/
  records : List (Nat × Text)
  outcome : Except Failure StreamResult

/-- What follows the loop, once the scanner has no error. -/
def finishStream (setup : Setup) (read : Run Progress Failure) (lines : Nat) (record : Text) :
    Reply :=
  if record = [] then ⟨read.state, read.records, read.state.result setup⟩
  else
    match read.state.consumeRecord setup record with
    | (progress, .error failure) => ⟨progress, read.records ++ [(lines, record)], .error failure⟩
    | (progress, .ok _) =>
      ⟨progress, read.records ++ [(lines, record)], progress.result setup⟩

/-- The loop ends with the `[DONE]` record or with the stream; either way the scanner's error at
    that time comes first. -/
def concludeStream (setup : Setup) (read : Run Progress Failure) (errs : List (Option Stop))
    (last : Option Stop) : Reply :=
  match read.ended with
  | .failed failure => ⟨read.state, read.records, .error failure⟩
  | .stopped line =>
    match errs[line]?.join with
    | some stop => ⟨read.state, read.records, .error (scanFailure setup stop)⟩
    | none => finishStream setup read line []
  | .exhausted lines record =>
    match last with
    | some stop => ⟨read.state, read.records, .error (scanFailure setup stop)⟩
    | none => finishStream setup read lines record

def consumeStream (setup : Setup) (source : Source UInt8) : Reply :=
  concludeStream setup
    (readLines (recordReader setup) 0 {} [] ((scanned source).1.map Prod.fst))
    ((scanned source).1.map Prod.snd) (scanned source).2

end AISummoner.Deepseek
