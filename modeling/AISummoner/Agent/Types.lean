import AISummoner.Store.Agent

/-! # Errors, events and targets of the Agent service

The vocabulary of `internal/agent/types.go` and `target.go`.  Errors are
compared with `errors.Is` and `errors.As`, so a wrapped error is modelled as
the error it wraps.
-/

namespace AISummoner.Agent

open Store (StoreError SessionState ToolStatus Bytes)

def toolRemoteExec : String := "remote_exec"

def maxMessageBytes : Nat := 32 * 1024
def maxCommandBytes : Nat := 8192
def maxCWDBytes : Nat := 4096
def maxToolOutputBytes : Nat := 256 * 1024
def maxOutputExcerpt : Nat := 8192
def defaultExecTimeoutMS : Int := 30000
def maximumExecTimeoutMS : Int := 60000
def minimumExecTimeoutMS : Int := 1000

inductive AgentError where
  | notFound
  | invalidRequest
  | invalidState (detail : String)
  | turnInProgress
  | deviceOffline
  | approvalTimeout
  | invalidTool (detail : String)
  | serviceClosed
  /-- `AdapterError`. -/
  | adapter (code : String)
  /-- `ExecutionError`. -/
  | execution (code : String)
  | store (error : StoreError)
  /-- `context.Canceled`. -/
  | canceled
  /-- `context.DeadlineExceeded`. -/
  | deadlineExceeded
  /-- `errors.New` and `fmt.Errorf` without a sentinel. -/
  | failed (message : String)
  /-- `fmt.Errorf` around the last error of a loop of retries. -/
  | persistence (message : String) (cause : Option StoreError)
  deriving DecidableEq, Repr

/-- What a call out of the process fails with: never one of the service's own refusals. -/
inductive OutsideError where
  | adapter (code : String)
  | canceled
  | deadlineExceeded
  | failed (message : String)
  deriving DecidableEq, Repr

def OutsideError.reported : OutsideError → AgentError
  | .adapter code => .adapter code
  | .canceled => .canceled
  | .deadlineExceeded => .deadlineExceeded
  | .failed message => .failed message

def mapStoreNotFound : StoreError → AgentError
  | .notFound => .notFound
  | error => .store error

/-! ## Failure codes -/

def failureDeviceOffline : String := "DEVICE_OFFLINE"
def failureDeviceNotFound : String := "DEVICE_NOT_FOUND"
def failureCommandDenied : String := "COMMAND_DENIED"
def failureApprovalTimeout : String := "APPROVAL_TIMEOUT"
def failureExecTimeout : String := "REMOTE_EXEC_TIMEOUT"
def failureExecCanceled : String := "REMOTE_EXEC_CANCELED"
def failureExecTransport : String := "REMOTE_EXEC_TRANSPORT"
def failureInvalidCWD : String := "REMOTE_CWD_INVALID"
def failurePowerShell : String := "REMOTE_POWERSHELL_FAILURE"

def stableFailureCode (code : String) : String :=
  if code = "" ∨ code.utf8ByteSize > 64 ∨ code.toList.any (fun character =>
      !(character.isUpper || character == '_' || character.isDigit)) then failureExecTransport
  else code

def safeAdapterFailureCode (code : String) : String :=
  if code = "rate_limited" ∨ code = "unauthorized" ∨ code = "provider_unavailable" ∨
      code = "provider_rejected" ∨ code = "protocol_error" then code
  else "provider_error"

def safeTurnFailureMessage (code : String) : String :=
  if code = "rate_limited" then "Agent provider is rate limited. Try again later."
  else if code = "unauthorized" then "Agent provider authentication failed."
  else if code = "provider_unavailable" ∨ code = "provider_error" then
    "Agent provider is unavailable. Try again."
  else if code = "provider_rejected" then
    "Agent provider rejected the request or model configuration."
  else if code = "protocol_error" then
    "Agent provider returned an unsupported response. Start a new conversation and try again."
  else if code = failureDeviceOffline then "The remote device is offline."
  else if code = failureApprovalTimeout then "Command approval timed out."
  else if code = failureExecTimeout then "Remote command timed out."
  else if code = failureExecCanceled then "Agent turn was canceled."
  else if code = failureInvalidCWD then "The remote working directory is invalid."
  else if code = failurePowerShell then "Windows PowerShell could not start the remote command."
  else "Agent turn failed."

/-- The code `runTurn` reports for the error of a Turn. -/
def turnFailureCode : AgentError → String
  | .deadlineExceeded => failureExecTimeout
  | .canceled => failureExecCanceled
  | .approvalTimeout => failureApprovalTimeout
  | .deviceOffline => failureDeviceOffline
  | .adapter code => safeAdapterFailureCode code
  | _ => failureExecTransport

/-! ## Tool requests and results -/

/-- `ToolRequest`: the arguments are the raw JSON of the provider. -/
structure ToolRequest where
  name : String
  arguments : Bytes
  deriving DecidableEq, Repr

structure RemoteExecArguments where
  command : String
  cwd : String
  timeoutMS : Int
  deriving DecidableEq, Repr

structure ToolFailure where
  code : String
  message : String
  deriving DecidableEq, Repr

structure ToolResult where
  toolCallID : String := ""
  stdout : Bytes := []
  stderr : Bytes := []
  exitCode : Int := 0
  truncated : Bool := false
  denied : Bool := false
  failure : Option ToolFailure := none
  deriving DecidableEq, Repr

structure RemoteExecution where
  stdout : Bytes
  stderr : Bytes
  exitCode : Int
  deriving DecidableEq, Repr

def truncateOutput (stdout stderr : Bytes) (maximum : Nat) : Bytes × Bytes × Bool :=
  if stdout.length + stderr.length ≤ maximum then (stdout, stderr, false)
  else
    let stdoutLimit := min stdout.length maximum
    let stderrLimit := min stderr.length (maximum - stdoutLimit)
    (stdout.take stdoutLimit, stderr.take stderrLimit, true)

/-- The longest prefix of at most `count` bytes that is valid UTF-8. -/
def longestValid (contents : Bytes) : Nat → Bytes
  | 0 => []
  | count + 1 =>
    let candidate := contents.take (count + 1)
    if candidate.toByteArray.validateUTF8 then candidate else longestValid contents count

def outputExcerpt (result : ToolResult) : Bytes :=
  let contents := match result.failure with
    | some failure => failure.code.toUTF8.data.toList
    | none => result.stdout ++ result.stderr
  if contents.length > maxOutputExcerpt then longestValid contents maxOutputExcerpt else contents

inductive ExecutionShell where
  | posixUser
  | windowsPowerShell
  deriving DecidableEq, Repr

inductive PathFlavor where
  | posix
  | windows
  deriving DecidableEq, Repr

inductive DefaultCWDPolicy where
  | inherit
  | userProfile
  deriving DecidableEq, Repr

structure ExecutionTarget where
  platform : String
  arch : String
  shell : ExecutionShell
  pathFlavor : PathFlavor
  defaultCWDPolicy : DefaultCWDPolicy
  deriving DecidableEq, Repr

def executionTarget (platform arch : String) : Except AgentError ExecutionTarget :=
  if arch = "" then .error (.invalidState "device architecture is unavailable")
  else if platform = "linux" then
    .ok ⟨platform, arch, .posixUser, .posix, .inherit⟩
  else if platform = "windows" then
    if arch ≠ "amd64" then .error (.invalidState "Windows device architecture is unsupported")
    else .ok ⟨platform, arch, .windowsPowerShell, .windows, .userProfile⟩
  else .error (.invalidState "device platform is unsupported")

/-- The optional fields of `tool_call.completed`; each place that publishes it
    sends those it knows. -/
structure CompletionDetails where
  stdout : Option Bytes := none
  stderr : Option Bytes := none
  exitCode : Option Int := none
  truncated : Option Bool := none
  denied : Option Bool := none
  failure : Option ToolFailure := none
  deriving DecidableEq, Repr

/-- The payload of an event; the constructor is its type. -/
inductive Payload where
  | sessionState (state : SessionState)
  | providerState (state : String)
  | reasoningDelta (delta : String)
  | reasoningDone (text : String)
  | textDelta (delta : String)
  | textDone (text : String)
  | toolPending (toolCallID : String) (arguments : RemoteExecArguments)
  | toolStarted (toolCallID : String) (arguments : RemoteExecArguments)
  | toolOutput (toolCallID : String) (stdout stderr : Bytes) (exitCode : Int) (truncated : Bool)
  | toolCompleted (toolCallID : String) (status : ToolStatus) (details : CompletionDetails)
  | turnCompleted
  | turnFailed (code message : String)
  deriving DecidableEq, Repr

structure Event where
  id : String
  sessionID : String
  createdAt : Store.Time
  payload : Payload
  deriving DecidableEq, Repr

/-- `Event.Validate`: every payload built by the service is valid JSON of a known type. -/
def Event.valid (event : Event) : Bool :=
  decide (event.id ≠ "") && decide (event.sessionID ≠ "")

def validateMessage (content : String) : Bool :=
  content ≠ "" && content.utf8ByteSize ≤ maxMessageBytes &&
    !(Store.trimSpace content.toList).isEmpty

end AISummoner.Agent
