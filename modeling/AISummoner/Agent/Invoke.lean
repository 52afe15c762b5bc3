import AISummoner.Agent.Arguments
import AISummoner.SshClient.Dialer

/-! # The lifecycle of one tool call

`turnInvoker.Invoke` and what it calls.  A call that needs approval waits for a
decision, which contends in the database with the timeout and the cancellation;
only a call whose row says `started` is executed.
-/

namespace AISummoner.Agent.Service

open Concurrency Store AISummoner.Runtime App

def textBytes (text : String) : Bytes := text.toUTF8.data.toList

def lookupTool (site : Site) (ownerUserID toolCallID : String) :
    Code (Except StoreError ToolCall) :=
  cleanup fun ctx => statement ctx site (.agentToolCallByOwner ownerUserID toolCallID)

/-! ## Approval -/

/-- The second look is for a decision that was recorded before the waiter became
    visible.  The send is a plain one. -/
def installPending (session : AgentSession) (toolCallID : String) : Code (Except AgentError Unit) :=
  (agent (.installPending toolCallID
    { sessionID := session.id, deviceID := session.deviceID, userID := session.userID })).chain fun _ =>
  (lookupTool .reconcile session.userID toolCallID).bind fun
  | .error error =>
    (agent (.removePending toolCallID)).bind fun _ => .done (.error (.store error))
  | .ok toolCall =>
    match toolCall.decision with
    | none => .done (.ok ())
    | some decision => (agent (.sendDecision toolCallID decision)).bind fun _ => .done (.ok ())

/-- One attempt at failing a call that is still undecided. -/
def failPending (session : AgentSession) (toolCallID : String) (excerpt : Bytes) (site : Site) :
    Code (Except (StoreError × Option ToolCall) ToolCall) :=
  cleanup fun ctx => clock.bind fun now =>
    failPendingAgentToolCall (statement ctx site) session.userID toolCallID excerpt now

/-- What a conflict with the abort means to the waiter. -/
def abortConflict (cause : AgentError) : Option ToolCall → Except AgentError Decision
  | none => .error (.invalidState "")
  | some toolCall =>
    match toolCall.status, toolCall.decision with
    | .pending, some decision => .ok decision
    | .failed, _ => .error cause
    | _, _ => .error (.invalidState "")

/-- The loop of `resolvePendingAbort` from one attempt on. -/
def resolvePendingAbortFrom (session : AgentSession) (toolCallID : String) (cause : AgentError)
    (attempt : Nat) (lastError : Option StoreError) : Nat → Code (Except AgentError Decision)
  | 0 => .done (.error (.persistence "persist approval abort" lastError))
  | remaining + 1 =>
    (failPending session toolCallID (textBytes "approval timed out or was canceled")
      (.abort attempt)).bind fun
    | .ok _ => .done (.error cause)
    | .error (.conflict, toolCall) => .done (abortConflict cause toolCall)
    | .error (error, _) =>
      resolvePendingAbortFrom session toolCallID cause (attempt + 1) (some error) remaining

/-- If the abort wins, the row is failed; if a decision won, it is resumed. -/
def resolvePendingAbort (session : AgentSession) (toolCallID : String) (cause : AgentError) :
    Code (Except AgentError Decision) :=
  resolvePendingAbortFrom session toolCallID cause 0 none 2

/-- `waitForDecision` once the channel has delivered. -/
def resumeDecision (ctx : Context) (session : AgentSession) (toolCallID : String)
    (decision : Decision) : Code (Except AgentError Decision) :=
  (lookupTool .single session.userID toolCallID).bind fun
  | .error error => .done (.error (.store error))
  | .ok toolCall =>
    if toolCall.status ≠ .pending ∨ toolCall.decision ≠ some decision then
      .done (.error (.invalidState ""))
    else
      clock.bind fun now =>
      (storedRaw ctx (.updateAgentSessionState session.userID session.id .running now)).chain fun _ =>
      (publish session.id (.sessionState .running)).bind fun _ =>
      .done (.ok decision)

def awaitDecision (ctx : Context) (session : AgentSession) (toolCallID : String) :
    Code (Except AgentError Decision) :=
  clock.bind fun now =>
  (statement ctx .single
    (.updateAgentSessionState session.userID session.id .waitingApproval now)).bind fun
  | .error error => resolvePendingAbort session toolCallID (.store error)
  | .ok _ =>
    (publish session.id (.sessionState .waitingApproval)).bind fun _ =>
    (agent (.awaitDecision toolCallID ctx)).bind fun
    | .error cause => resolvePendingAbort session toolCallID cause
    | .ok decision => resumeDecision ctx session toolCallID decision

def waitForDecision (ctx : Context) (session : AgentSession) (toolCallID : String) :
    Code (Except AgentError Decision) :=
  (deferring (awaitDecision ctx session toolCallID) (agent (.removePending toolCallID))).bind
    fun result =>
  (observe (.waited toolCallID result)).bind fun _ => .done result

/-! ## Settling a call -/

def terminalToolStatus : ToolStatus → Bool
  | .completed | .denied | .failed => true
  | .pending | .started => false

/-- The status `finishTool` may announce, and its error. -/
abbrev Settled := Option ToolStatus × Option AgentError

/-- What a conflict with `FailPendingAgentToolCall` tells `finishTool`: a result,
    or whether to leave the loop. -/
def failureConflict : Option ToolCall → Option Settled × Bool
  | none => (none, false)
  | some toolCall =>
    if terminalToolStatus toolCall.status then
      if toolCall.status = .failed then (some (some .failed, none), false)
      else (some (some toolCall.status,
        some (.failed "tool terminal state changed before failure finalization")), false)
    else (none, toolCall.status = .started || toolCall.decision.isSome)

/-- The first loop of `finishTool`; without a result, the error it ends with. -/
def abortTool (session : AgentSession) (toolCallID : String) (excerpt : Bytes) (attempt : Nat)
    (abortError : Option StoreError) : Nat → Code (Except (Option StoreError) Settled)
  | 0 => .done (.error abortError)
  | remaining + 1 =>
    (failPending session toolCallID excerpt (.attempt attempt)).bind fun
    | .ok _ => .done (.ok (some .failed, none))
    | .error (.conflict, toolCall) =>
      match failureConflict toolCall with
      | (some settled, _) => .done (.ok settled)
      | (none, true) => .done (.error abortError)
      | (none, false) =>
        abortTool session toolCallID excerpt (attempt + 1) (some .conflict) remaining
    | .error (error, _) =>
      abortTool session toolCallID excerpt (attempt + 1) (some error) remaining

def finish (session : AgentSession) (toolCallID : String) (attempt : Nat) (status : ToolStatus)
    (code : Option Int) (excerpt : Bytes) : Code (Except StoreError Unit) :=
  cleanup fun ctx => clock.bind fun now =>
    finishAgentToolCall (statement ctx (.attempt attempt)) session.userID toolCallID status code
      (some excerpt) now

/-- The terminal status a second look finds. -/
def reconcile (session : AgentSession) (toolCallID : String) : Code (Option ToolStatus) :=
  (lookupTool .single session.userID toolCallID).bind fun
  | .error _ => .done none
  | .ok toolCall =>
    .done (if terminalToolStatus toolCall.status then some toolCall.status else none)

/-- The loop that writes the failure a finalization left behind. -/
def compensate (session : AgentSession) (toolCallID : String) (attempt : Nat)
    (lastError : Option StoreError) : Nat → Code Settled
  | 0 => .done (none, some (.persistence "tool terminal persistence failed" lastError))
  | remaining + 1 =>
    (finish session toolCallID attempt .failed none
      (textBytes "tool finalization persistence failed")).bind fun
    | .ok _ =>
      .done (some .failed, some (.persistence "tool finalization compensated" lastError))
    | .error error =>
      (reconcile session toolCallID).bind fun
      | some status =>
        .done (some status, some (.persistence "tool finalization reconciled" (some error)))
      | none => compensate session toolCallID (attempt + 1) (some error) remaining

def finalize (session : AgentSession) (toolCallID : String) (desired : ToolStatus)
    (exitCode : Option Int) (excerpt : Bytes) (attempt : Nat) (lastError : Option StoreError) :
    Nat → Code Settled
  | 0 =>
    if desired ≠ .failed then compensate session toolCallID 0 lastError 2
    else .done (none, some (.persistence "tool terminal persistence failed" lastError))
  | remaining + 1 =>
    (finish session toolCallID attempt desired exitCode excerpt).bind fun
    | .ok _ => .done (some desired, none)
    | .error error =>
      (reconcile session toolCallID).bind fun
      | some status =>
        .done (some status, if status = desired then none
          else some (.failed "tool terminal state changed before finalization"))
      | none =>
        finalize session toolCallID desired exitCode excerpt (attempt + 1) (some error) remaining

/-- The lookup between the two loops: a call that is still undecided is left alone. -/
def stillUndecided (session : AgentSession) (toolCallID : String) : Code Bool :=
  (lookupTool .single session.userID toolCallID).bind fun
  | .error _ => .done false
  | .ok toolCall => .done (toolCall.status = .pending && toolCall.decision.isNone)

def settleTool (session : AgentSession) (toolCallID : String) (desired : ToolStatus)
    (exitCode : Option Int) (excerpt : Bytes) : Code Settled :=
  if desired = .failed then
    (abortTool session toolCallID excerpt 0 none 2).bind fun
    | .ok settled => .done settled
    | .error abortError =>
      (stillUndecided session toolCallID).bind fun undecided =>
      if undecided then
        .done (none, some (.persistence "atomic pending-tool failure persistence failed" abortError))
      else finalize session toolCallID desired exitCode excerpt 0 none 2
  else finalize session toolCallID desired exitCode excerpt 0 none 2

def finishTool (session : AgentSession) (toolCallID : String) (desired : ToolStatus)
    (exitCode : Option Int) (excerpt : Bytes) : Code Settled :=
  (settleTool session toolCallID desired exitCode excerpt).bind fun settled =>
  (observe (.finished toolCallID settled.1 settled.2)).bind fun _ => .done settled

/-- `EventToolCompleted`, if a terminal status is known. -/
def announce (session : AgentSession) (toolCallID : String) (details : CompletionDetails) :
    Option ToolStatus → Code Unit
  | none => .done ()
  | some status => publish session.id (.toolCompleted toolCallID status details)

/-- A call given up with an error before it was executed. -/
def abandonTool (session : AgentSession) (toolCallID excerpt : String) (error : AgentError) :
    Code (Except AgentError ToolResult) :=
  (finishTool session toolCallID .failed none (textBytes excerpt)).bind fun (status, terminalError) =>
  (announce session toolCallID {} status).bind fun _ =>
  .done (.error (terminalError.getD error))

def deniedFailure : ToolFailure := ⟨failureCommandDenied, "command denied by user"⟩

def deniedResult (toolCallID : String) : ToolResult :=
  { toolCallID, denied := true, failure := some deniedFailure }

def denyTool (session : AgentSession) (toolCallID : String) : Code (Except AgentError ToolResult) :=
  (finishTool session toolCallID .denied none (textBytes failureCommandDenied)).bind
    fun (status, terminalError) =>
  (announce session toolCallID { denied := some true, failure := some deniedFailure } status).bind
    fun _ =>
  match terminalError with
  | some error => .done (.error error)
  | none => .done (.ok (deniedResult toolCallID))

/-! ## Execution -/

/-- The context's error, or a cancellation if the session is revoked. -/
def executionCanceled (ctx : Context) (sessionID : String) : Code (Option AgentError) :=
  (contextErr ctx).bind fun
  | some cause => .done (some (contextError cause))
  | none =>
    (agent (.isRevoked sessionID)).bind fun revoked =>
    .done (if revoked then some .canceled else none)

def toolFailure (code message : String) (error : AgentError) : ToolResult × Option AgentError :=
  ({ failure := some ⟨code, message⟩ }, some error)

def canceledExecution : AgentError → ToolResult × Option AgentError :=
  toolFailure failureExecCanceled "remote execution canceled"

/-- The code of a failed execution, from its error and the error of its context. -/
def executionFailureCode (error : AgentError) (ended : Option AgentError) : String :=
  if error = .deadlineExceeded ∨ ended = some .deadlineExceeded then failureExecTimeout
  else if error = .canceled ∨ ended = some .canceled then failureExecCanceled
  else
    match error with
    | .execution code => if code ≠ "" then stableFailureCode code else failureExecTransport
    | _ => failureExecTransport

/-- The call of the executor under its own timeout. -/
def runRemote (ctx : Context) (session : AgentSession) (target : ExecutionTarget)
    (arguments : RemoteExecArguments) : Code (ToolResult × Option AgentError) :=
  withTimeout.bind fun scope =>
  let execCtx := scope :: ctx
  deferring
    ((observe (.exec
      { ctx := execCtx, timeoutMS := arguments.timeoutMS, deviceID := session.deviceID, target
        command := arguments.command, cwd := arguments.cwd })).bind fun _ =>
    (SshClient.exec execCtx session.deviceID target arguments.command arguments.cwd).bind fun
    | .error error => (contextErr execCtx).bind fun cause =>
      .done (toolFailure (executionFailureCode error (cause.map contextError))
        "remote execution failed" error)
    | .ok execution =>
      let (stdout, stderr, truncated) :=
        truncateOutput execution.stdout execution.stderr maxToolOutputBytes
      .done ({ stdout, stderr, exitCode := execution.exitCode, truncated }, none)) (cancel scope)

def execute (ctx : Context) (session : AgentSession) (target : ExecutionTarget)
    (arguments : RemoteExecArguments) : Code (ToolResult × Option AgentError) :=
  (executionCanceled ctx session.id).bind fun
  | some error => .done (canceledExecution error)
  | none =>
    (statement ctx .single (.deviceByOwner session.userID session.deviceID)).bind fun
    | .error _ => .done (toolFailure failureDeviceNotFound "device not found" .notFound)
    | .ok _ =>
      (tunnel (.isOnline session.deviceID)).bind fun online =>
      if !online then .done (toolFailure failureDeviceOffline "device is offline" .deviceOffline)
      else
        (executionCanceled ctx session.id).bind fun
        | some error => .done (canceledExecution error)
        | none => runRemote ctx session target arguments

/-! ## The invocation -/

/-- What `tool_call.completed` says of a failed execution. -/
def ToolResult.details (result : ToolResult) : CompletionDetails where
  stdout := some result.stdout
  stderr := some result.stderr
  exitCode := some result.exitCode
  truncated := some result.truncated
  denied := some result.denied
  failure := result.failure

/-- `Invoke` once the executor has returned an error. -/
def settleFailure (ctx : Context) (session : AgentSession) (toolCallID : String)
    (result : ToolResult) (error : AgentError) : Code (Except AgentError ToolResult) :=
  (finishTool session toolCallID .failed none (outputExcerpt result)).bind fun (status, terminalError) =>
  (announce session toolCallID (ToolResult.details result) status).bind fun _ =>
  match terminalError with
  | some terminalError => .done (.error terminalError)
  | none =>
    (contextErr ctx).bind fun ended =>
    .done (if result.failure.isSome && ended.isNone then .ok result else .error error)

/-- `Invoke` once the executor has returned an output. -/
def settleSuccess (session : AgentSession) (toolCallID : String) (result : ToolResult) :
    Code (Except AgentError ToolResult) :=
  (finishTool session toolCallID .completed (some result.exitCode) (outputExcerpt result)).bind fun
  | (status, some terminalError) =>
    (announce session toolCallID {} status).bind fun _ => .done (.error terminalError)
  | (_, none) =>
    (publish session.id (.toolOutput toolCallID result.stdout result.stderr result.exitCode
      result.truncated)).bind fun _ =>
    (publish session.id (.toolCompleted toolCallID .completed
      { exitCode := some result.exitCode })).bind fun _ =>
    .done (.ok result)

/-- `Invoke` for a call whose row says `started`. -/
def runTool (ctx : Context) (session : AgentSession) (target : ExecutionTarget)
    (toolCallID : String) (arguments : RemoteExecArguments) : Code (Except AgentError ToolResult) :=
  (publish session.id (.toolStarted toolCallID arguments)).bind fun _ =>
  (execute ctx session target arguments).bind fun (executed, failure) =>
  let result := { executed with toolCallID }
  match failure with
  | some error => settleFailure ctx session toolCallID result error
  | none => settleSuccess session toolCallID result

/-- The part of `Invoke` that needs an approval.  An error is the result `Invoke`
    returns early with. -/
def approveTool (turn : Nat) (ctx : Context) (session : AgentSession) (toolCallID : String)
    (arguments : RemoteExecArguments) : Code (Except (Except AgentError ToolResult) Unit) :=
  (installPending session toolCallID).bind fun
  | .error error =>
    (abandonTool session toolCallID "tool approval registration failed" error).bind
      fun result => .done (.error result)
  | .ok _ =>
    (publish session.id (.toolPending toolCallID arguments)).bind fun _ =>
    (waitForDecision ctx session toolCallID).bind fun
    | .error error =>
      (abandonTool session toolCallID "approval timed out or was canceled" error).bind
        fun result => .done (.error result)
    | .ok .deny => (denyTool session toolCallID).bind fun result => .done (.error result)
    | .ok decision =>
      (startAgentToolCall (statement ctx .single) session.userID toolCallID).bind fun
      | .error error =>
        (abandonTool session toolCallID "tool start failed" (.store error)).bind
          fun result => .done (.error result)
      | .ok _ =>
        (skipIf (decision ≠ .approveSession) (agent (.upgradeApprovalMode turn))).bind fun _ =>
        .done (.ok ())

def newToolCall (toolCallID : String) (session : AgentSession) (arguments : RemoteExecArguments)
    (now : Time) : ToolCall where
  id := toolCallID
  sessionID := session.id
  name := toolRemoteExec
  argumentsJSON := marshalArguments arguments
  status := if session.approvalMode = .perCommand then .pending else .started
  decision := none
  exitCode := none
  outputExcerpt := none
  createdAt := now
  completedAt := none

/-- `Invoke` between taking and returning the gate. -/
def invokeSerialized (turn : Nat) (ctx : Context) (request : ToolRequest) :
    Code (Except AgentError ToolResult) :=
  (checkContext ctx).chain fun _ =>
  if request.name ≠ toolRemoteExec then .done (.error (.invalidTool ""))
  else
    match parseRemoteExecArguments request.arguments with
    | .error error => .done (.error error)
    | .ok arguments =>
      (freshID "tool").chain fun toolCallID =>
      clock.bind fun now =>
      -- the gate keeps the session copy from changing under this goroutine
      (agent (.invoker turn)).bind fun (session, target) =>
      let toolCall := newToolCall toolCallID session arguments now
      (storedRaw ctx (.createAgentToolCall session.userID toolCall)).chain fun _ =>
      if toolCall.status = .pending then
        (approveTool turn ctx session toolCallID arguments).bind fun
        | .error result => .done result
        | .ok _ => runTool ctx session target toolCallID arguments
      else runTool ctx session target toolCallID arguments

/-- A queued callback can still be canceled. -/
def invoke (turn : Nat) (ctx : Context) (request : ToolRequest) :
    Code (Except AgentError ToolResult) :=
  (agent (.acquireGate turn ctx)).chain fun _ =>
  deferring (invokeSerialized turn ctx request) (agent (.releaseGate turn))

end AISummoner.Agent.Service
