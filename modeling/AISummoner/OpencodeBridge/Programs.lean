import AISummoner.Concurrency.History
import AISummoner.OpencodeBridge.Bridge

/-! # Callbacks and the Adapters that allow them

The callbacks of a Runtime, the callers of `Activation.Close` and `Bridge.Close`,
and `Run` of the OpenCode and the DSH Adapter, which have the same frame.

A loop over a provider's stream is given a number of rounds; every finite
behaviour has enough of them.  What the stream holds is left open.
-/

namespace AISummoner.OpencodeBridge

open Concurrency
open Agent (AgentError)

/-- `RunRequest`, without the model and the target, which only the provider sees. -/
structure RunRequest where
  sessionID : String
  externalSessionID : String
  userText : String
  remoteExec : Option Nat
  deriving DecidableEq, Repr

inductive Goroutine where
  /-- A callback whose proof for the external session is valid. -/
  | serveHTTP (externalSessionID : String)
  /-- A user of the bridge other than the two Adapters. -/
  | activate (productSessionID externalSessionID : String) (invoker : Nat)
  | closeActivation (entry : Nat)
  | closeBridge
  /-- The context of the Turn ends. -/
  | turnEnds (entry : Nat)
  | openCodeRun (request : RunRequest) (rounds : Nat)
  | dshRun (request : RunRequest) (rounds : Nat)
  -- started by the others
  | awaitCalls (entry : Nat)
  | finishClose (entries : List Nat)
  | consumeEvents (stream rounds : Nat)
  | readStream (stream : Nat)
  deriving DecidableEq, Repr

abbrev Code (α : Type) := Program Calls Goroutine α

def operate (operation : Operation) : Code operation.Response := .perform operation .done

def onEntry (entry : Nat) (operation : EntryOperation) : Code operation.Response :=
  operate (.entry entry operation)

def onBridge (operation : BridgeOperation) : Code operation.Response := operate (.bridge operation)

def onAdapter (operation : AdapterOperation) : Code operation.Response := operate (.adapter operation)

def deferring {α : Type} (body : Code α) (deferred : Code Unit) : Code α :=
  body.bind fun result => deferred.bind fun _ => .done result

/-! ## Closing -/

def startClose (entry : Nat) : Code Unit :=
  (onEntry entry .enterClose).bind fun first =>
  if first then
    (onEntry entry .deactivate).bind fun _ =>
    (onBridge (.remove entry)).bind fun _ =>
    .fork (.awaitCalls entry) <|
    onEntry entry .leaveClose
  else .done ()

/-- The goroutine `startClose` leaves behind. -/
def awaitCalls (entry : Nat) : Code Unit :=
  (onEntry entry .waitCalls).bind fun _ =>
  (onEntry entry .closeDone).bind fun _ =>
  onBridge (.finished entry)

/-- `Activation.Close`. -/
def closeActivation (entry : Nat) : Code Unit :=
  (startClose entry).bind fun _ => onEntry entry .awaitClosed

def startCloseEach : List Nat → Code Unit
  | [] => .done ()
  | entry :: entries => (startClose entry).bind fun _ => startCloseEach entries

def awaitClosedEach : List Nat → Code Unit
  | [] => .done ()
  | entry :: entries => (onEntry entry .awaitClosed).bind fun _ => awaitClosedEach entries

def finishClose (entries : List Nat) : Code Unit :=
  (startCloseEach entries).bind fun _ =>
  (awaitClosedEach entries).bind fun _ =>
  onBridge .closeDone

/-- `Bridge.Close`. -/
def closeBridge : Code Unit :=
  (onBridge .close).bind fun
  | some entries => .fork (.finishClose entries) <| (onBridge .awaitDone).bind fun _ => .done ()
  | none => (onBridge .awaitDone).bind fun _ => .done ()

def reportFatal (entry : Nat) (error : AgentError) : Code Unit :=
  (onEntry entry (.reportFatal error)).bind fun first =>
  if first then
    (onEntry entry (.sendFatal error)).bind fun _ =>
    (startClose entry).bind fun _ =>
    onEntry entry .leaveFatal
  else .done ()

def protocolError : AgentError := .adapter "protocol_error"

/-- The part of a callback that holds the gate. -/
def invokeGated (entry : Nat) : Code Unit :=
  (onEntry entry .callErr).bind fun ended =>
  if ended then .done ()
  else
    (onEntry entry .marshalArguments).bind fun marshalled =>
    if !marshalled then reportFatal entry protocolError
    else
      (onEntry entry .invoke).bind fun _ =>
      (onEntry entry .invoked).bind fun
      | .error error => reportFatal entry error
      | .ok _ =>
        (onEntry entry .respond).bind fun delivered =>
        if delivered then .done () else reportFatal entry protocolError

/-- The part of a callback that is counted by `inflight`. -/
def callBegun (entry : Nat) : Code Unit :=
  (onEntry entry .acquireGate).bind fun acquired =>
  if acquired then deferring (invokeGated entry) (onEntry entry .releaseGate) else .done ()

def serveHTTP (externalSessionID : String) : Code Unit :=
  (onBridge (.lookup externalSessionID)).bind fun
  | none => .done ()
  | some entry =>
    (onEntry entry .beginCall).bind fun begun =>
    if begun then deferring (callBegun entry) (onEntry entry .doneCall) else .done ()

/-! ## Adapters -/

def provider (call : ProviderCall) : Code (Except AgentError String) := onAdapter (.provider call)

/-- The last part of both `cleanup` functions. -/
def cleanup (stream entry : Nat) (runErr : Except AgentError Unit) : Code (Except AgentError Unit) :=
  (closeActivation entry).bind fun _ =>
  (onAdapter (.awaitStream stream)).bind fun _ =>
  (onEntry entry .receiveFatal).bind fun
  | some fatal => .done (.error fatal)
  | none => .done runErr

/-- `Activate` with the Adapter's error. -/
def activateFor (request : RunRequest) (externalSessionID : String) (invoker : Nat) :
    Code (Except AgentError Nat) :=
  (onBridge (.activate request.sessionID externalSessionID invoker)).bind fun
  | .ok entry => .done (.ok entry)
  | .error _ => .done (.error protocolError)

def failureOr (entry : Nat) (result : Except AgentError Unit) : Code (Except AgentError Unit) :=
  (onEntry entry .receiveFatal).bind fun
  | some fatal => .done (.error fatal)
  | none => .done result

def waitForTurn (stream entry : Nat) : Code (Except AgentError Unit) :=
  (onEntry entry .receiveFatal).bind fun
  | some fatal => .done (.error fatal)
  | none =>
    (onAdapter (.selectTurn stream entry)).bind fun
    | .fatal fatal => .done (.error fatal)
    | .received result => failureOr entry result
    | .ended cause => failureOr entry (.error cause)

/-- The external session of an OpenCode Turn: a new one is reported to the sink. -/
def openCodeSession (stream : Nat) (externalSessionID : String) : Code (Except AgentError String) :=
  if externalSessionID = "" then
    (provider .createSession).chain fun created =>
    (onAdapter (.sink stream)).chain fun _ => .done (.ok created)
  else if validExternalSessionID externalSessionID then .done (.ok externalSessionID)
  else .done (.error protocolError)

/-- `abort` after a failed Turn. -/
def stopFailed : Except AgentError Unit → Code (Except AgentError Unit)
  | .ok _ => .done (.ok ())
  | .error error => (provider .stop).bind fun _ => .done (.error error)

def openCodeTurn (stream : Nat) (request : RunRequest) (invoker rounds : Nat)
    (externalSessionID : String) : Code (Except AgentError Unit) :=
  (provider .subscribe).chain fun _ =>
  (activateFor request externalSessionID invoker).chain fun entry =>
  .fork (.consumeEvents stream rounds) <|
  (provider .prompt).bind fun
  | .error error => (cleanup stream entry (.error error)).bind stopFailed
  | .ok _ =>
    (waitForTurn stream entry).bind fun waited =>
    (cleanup stream entry waited).bind stopFailed

def openCodeRun (stream : Nat) (request : RunRequest) (rounds : Nat) :
    Code (Except AgentError Unit) :=
  match request.remoteExec with
  | none => .done (.error protocolError)
  | some invoker =>
    if request.sessionID = "" then .done (.error protocolError)
    else
      (provider .prepareWorkspace).bind fun
      | .error _ => .done (.error protocolError)
      | .ok _ =>
        (openCodeSession stream request.externalSessionID).chain
          (openCodeTurn stream request invoker rounds)

/-- The result of the parser and the end of its goroutine. -/
def parsed (stream : Nat) (result : Except AgentError Unit) : Code Unit :=
  (onAdapter (.sendResult stream result)).bind fun _ => onAdapter (.closeStream stream)

/-- The goroutine that runs `consumeEvents` of the OpenCode Adapter. -/
def consumeEvents (stream : Nat) : Nat → Code Unit
  | 0 => (onAdapter .never).bind nofun
  | rounds + 1 =>
    (onAdapter (.nextEvent stream)).bind fun
    | .quiet => consumeEvents stream rounds
    | .delta =>
      (onAdapter (.sink stream)).bind fun
      | .error error => parsed stream (.error error)
      | .ok _ => consumeEvents stream rounds
    | .ended result => parsed stream result

def consumeTurn (stream entry : Nat) : Nat → Code (Except AgentError Unit)
  | 0 => (onAdapter .never).bind nofun
  | rounds + 1 =>
    (onEntry entry .selectItem).bind fun
    | .fatal fatal => .done (.error fatal)
    | .ended cause => .done (.error cause)
    | .received .quiet => consumeTurn stream entry rounds
    | .received .delta =>
      (onAdapter (.sink stream)).bind fun
      | .error error => .done (.error error)
      | .ok _ => consumeTurn stream entry rounds
    | .received (.ended result) => .done result

/-- `cleanup` of the DSH Adapter, which stops the Runtime first. -/
def stopAndCleanup (stream entry : Nat) (runErr : Except AgentError Unit) :
    Code (Except AgentError Unit) :=
  (stopFailed runErr).bind fun runErr => cleanup stream entry runErr

def dshTurn (stream : Nat) (request : RunRequest) (invoker rounds : Nat)
    (externalSessionID : String) : Code (Except AgentError Unit) :=
  (provider .subscribe).chain fun _ =>
  (activateFor request externalSessionID invoker).chain fun entry =>
  .fork (.readStream stream) <|
  (provider .prompt).bind fun
  | .error error => stopAndCleanup stream entry (.error error)
  | .ok _ =>
    (consumeTurn stream entry rounds).bind fun result => stopAndCleanup stream entry result

/-- The external session of a DSH Turn: a new one is reported to the sink. -/
def dshSession (stream : Nat) (request : RunRequest) : Code (Except AgentError String) :=
  (provider .prepareSession).chain fun externalSessionID =>
  if request.externalSessionID = "" then
    (onAdapter (.sink stream)).chain fun _ => .done (.ok externalSessionID)
  else .done (.ok externalSessionID)

def dshRun (stream : Nat) (request : RunRequest) (rounds : Nat) : Code (Except AgentError Unit) :=
  match request.remoteExec with
  | none => .done (.error protocolError)
  | some invoker =>
    if request.sessionID = "" ∨ request.userText = "" then .done (.error protocolError)
    else (dshSession stream request).chain (dshTurn stream request invoker rounds)

def running (run : Nat → Code (Except AgentError Unit)) : Code Unit :=
  (onAdapter .newStream).bind fun stream =>
  (run stream).bind fun result => onAdapter (.returned stream result)

/-! ## The system -/

def body : Goroutine → Code Unit
  | .serveHTTP externalSessionID => serveHTTP externalSessionID
  | .activate productSessionID externalSessionID invoker =>
    (onBridge (.activate productSessionID externalSessionID invoker)).bind fun _ => .done ()
  | .closeActivation entry => closeActivation entry
  | .closeBridge => closeBridge
  | .turnEnds entry => onEntry entry .cancelTurn
  | .openCodeRun request rounds => running fun stream => openCodeRun stream request rounds
  | .dshRun request rounds => running fun stream => dshRun stream request rounds
  | .awaitCalls entry => awaitCalls entry
  | .finishClose entries => finishClose entries
  | .consumeEvents stream rounds => consumeEvents stream rounds
  | .readStream stream => onAdapter (.closeStream stream)

def admits : Goroutine → Bool
  | .awaitCalls _ => false
  | .finishClose _ => false
  | .consumeEvents _ _ => false
  | .readStream _ => false
  | _ => true

def callbacks : System Calls Goroutine Process Choice where
  execute _ := perform
  body := body
  enter _ _ _ process := some process
  admits goroutine _ := admits goroutine
  restart _ := none

abbrev Past := System.Traced Calls Goroutine Process

abbrev Entry := System.Entry Calls Goroutine Process

abbrev Step := System.Action Calls Goroutine Choice

end AISummoner.OpencodeBridge
