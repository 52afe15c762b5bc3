import AISummoner.Concurrency.History
import AISummoner.Protocol.Control

/-! # Concurrent writers

Frames are written under a lock, by `writeFull`, which goes on after a partial
write.  `lock` carries the frame that is going to be written and `returned` marks
a call that has succeeded; neither changes what the program does.
-/

namespace AISummoner.Protocol

open Concurrency Encoding

/-! ## Values to write -/

inductive Value where
  | header (header : StreamHeader)
  | message (message : Message)
  deriving DecidableEq, Repr

def Json.encode (json : Json) : Value → Option Bytes
  | .header header => json.encodeHeader header
  | .message message => json.encodeMessage message

/-- What `WriteHeader` and `WriteMessage` have checked. -/
def Value.Writable : Value → Prop
  | .header written => checkHeader written = .ok ()
  | .message written => written.version = Protocol.version ∧
      knownMessageType written.type = true ∧ validateRequestID written.requestID = .ok ()

/-- A value that may be written, and its JSON. -/
structure Frame (json : Json) where
  value : Value
  encoded : Bytes
  encodes : json.encode value = some encoded
  fits : fitsFrame encoded
  writable : value.Writable

def Frame.bytes {json : Json} (frame : Frame json) : Bytes := frameBytes frame.encoded

/-- The arguments of `WriteHeader` and `WriteMessage`; a payload comes as what `json.Marshal`
    makes of it. -/
inductive Outgoing where
  | header (header : StreamHeader)
  | message (messageType requestID : Bytes) (payload : Option Bytes)
  deriving DecidableEq, Repr

/-- `writeJSON`, before it takes the lock. -/
def makeFrame (json : Json) (value : Value) (writable : value.Writable) :
    Except ProtocolError (Frame json) :=
  match encodes : json.encode value with
  | none => .error (.encode "encode protocol frame")
  | some encoded =>
    if empty : encoded.length = 0 then .error .malformedFrame
    else if large : maxControlFrameBytes < encoded.length then .error .frameTooLarge
    else .ok ⟨value, encoded, encodes, ⟨Nat.pos_of_ne_zero empty, Nat.le_of_not_lt large⟩, writable⟩

def prepare (json : Json) : Outgoing → Except ProtocolError (Frame json)
  | .header header =>
    match passes : checkHeader header with
    | .error error => .error error
    | .ok () => makeFrame json (.header header) passes
  | .message messageType requestID payload =>
    if known : knownMessageType messageType = true then
      match passes : validateRequestID requestID with
      | .error error => .error error
      | .ok () =>
        match payload with
        | none => .error (.encode "encode protocol payload")
        | some payload =>
          makeFrame json (.message ⟨version, messageType, requestID, payload⟩)
            ⟨rfl, known, passes⟩
    else .error .unsupported

/-! ## Programs -/

inductive Operation (json : Json) where
  | lock (frame : Frame json)
  | write (contents : Bytes)
  | unlock
  | returned (frame : Frame json)

/-- `Write` returns how much it has taken, or an error. -/
def Operation.Response {json : Json} : Operation json → Type
  | .write _ => Option Nat
  | _ => Unit

def signature (json : Json) : Signature := ⟨Operation json, Operation.Response⟩

/-- A program of a codec; a thread is given the values it writes. -/
abbrev Writes (json : Json) (α : Type) := Program (signature json) (List Outgoing) α

section Programs

variable {json : Json}

def perform {α : Type} (operation : Operation json) (next : operation.Response → Writes json α) :
    Writes json α :=
  .perform (S := signature json) operation next

/-- The loop of `writeFull`; every write takes a byte at least. -/
def writeFullLoop : Nat → Bytes → Writes json (Except WriteError Unit)
  | 0, _ => .done (.ok ())
  | rounds + 1, contents =>
    if contents = [] then .done (.ok ())
    else perform (.write contents) fun
      | none => .done (.error .failed)
      | some 0 => .done (.error .shortWrite)
      | some (written + 1) => writeFullLoop rounds (contents.drop (written + 1))

def writeFull (contents : Bytes) : Writes json (Except WriteError Unit) :=
  writeFullLoop contents.length contents

/-- The two writes of `writeJSON`. -/
def writeParts (encoded : Bytes) : Writes json (Except ProtocolError Unit) :=
  (writeFull (putUint32 encoded.length)).bind fun
    | .error error => .done (.error (.write "write protocol frame length" error))
    | .ok () => (writeFull encoded).bind fun
      | .error error => .done (.error (.write "write protocol frame" error))
      | .ok () => .done (.ok ())

def writeFrame (frame : Frame json) : Writes json (Except ProtocolError Unit) :=
  perform (.lock frame) fun _ =>
    (writeParts frame.encoded).bind fun result =>
      perform .unlock fun _ => .done result

def writeValue (outgoing : Outgoing) : Writes json (Except ProtocolError Unit) :=
  match prepare json outgoing with
  | .error error => .done (.error error)
  | .ok frame =>
    (writeFrame frame).bind fun
      | .error error => .done (.error error)
      | .ok () => perform (.returned frame) fun _ => .done (.ok ())

/-- A writer goes on after an error; it may also give up, and then has less to write. -/
def writeAll : List Outgoing → Writes json Unit
  | [] => .done ()
  | outgoing :: rest => (writeValue outgoing).bind fun _ => writeAll rest

end Programs

structure Connection (json : Json) where
  wire : Bytes := []
  /-- Who holds `writeMu`. -/
  holder : Option Nat := none
  /-- The frames in the order in which the lock was taken for them. -/
  order : List (Nat × Frame json) := []
  /-- The calls that have succeeded. -/
  returned : List (Nat × Frame json) := []

/-- How much of a write the connection takes, and whether the write then fails. -/
inductive Choice where
  | accept (count : Nat)
  | fail (count : Nat)
  deriving DecidableEq, Repr

def execute {json : Json} (thread : Nat) (operation : Operation json) (choice : Choice)
    (state : Connection json) : Option (operation.Response × Connection json) :=
  match operation with
  | .lock frame =>
    if state.holder = none then
      some ((), { state with holder := some thread, order := state.order ++ [(thread, frame)] })
    else none
  | .write contents =>
    match choice with
    | .accept count =>
      if count ≤ contents.length then
        some (some count, { state with wire := state.wire ++ contents.take count })
      else none
    | .fail count => some (none, { state with wire := state.wire ++ contents.take count })
  | .unlock => if state.holder = none then none else some ((), { state with holder := none })
  | .returned frame => some ((), { state with returned := state.returned ++ [(thread, frame)] })

def codecSystem (json : Json) : System (signature json) (List Outgoing) (Connection json) Choice where
  execute := execute
  body := writeAll
  enter _ _ _ state := some state
  admits _ _ := true
  restart _ := none

/-- Every write takes something and none fails. -/
def progressing {json : Json} {σ : Type} :
    System.Action (signature json) (List Outgoing) Choice → σ → Bool
  | .perform _ (.write _) (.accept count), _ => 0 < count
  | .perform _ (.write _) (.fail _), _ => false
  | _, _ => true

end AISummoner.Protocol
