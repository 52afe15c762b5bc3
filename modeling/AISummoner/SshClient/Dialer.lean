import AISummoner.Tunnel.Gateway

/-! # Remote execution and terminals over SSH

`internal/sshclient` and the adapters of `internal/app` around it.  The SSH
protocol itself is outside the model; what matters here is which connection a
command or a terminal reaches, and which checks stand before that.
-/

namespace AISummoner.SshClient

open Concurrency Agent AISummoner.Runtime App

def publicKeySize : Nat := 32

/-! ## Working directories -/

def isASCIILetter (character : Char) : Bool :=
  ('A' ≤ character && character ≤ 'Z') || ('a' ≤ character && character ≤ 'z')

def validWindowsPathSegment (segment : List Char) : Bool :=
  segment ≠ [] && segment ≠ ['.'] && segment ≠ ['.', '.'] &&
    !segment.any fun character => character ∈ ['<', '>', ':', '"', '|', '?', '*']

/-- `strings.Split` at the backslash. -/
def splitPath : List Char → List (List Char)
  | [] => [[]]
  | character :: characters =>
    match splitPath characters with
    | [] => []
    | segment :: segments =>
      if character = '\\' then [] :: segment :: segments
      else (character :: segment) :: segments

def validWindowsPathSegments (remainder : List Char) : Bool :=
  remainder.isEmpty || (splitPath remainder).all validWindowsPathSegment

def isCleanAbsoluteWindowsPath (value : List Char) : Bool :=
  if '/' ∈ value then false
  else
    match value with
    | '\\' :: '\\' :: remainder =>
      if ['?', '\\'].isPrefixOf remainder || ['.', '\\'].isPrefixOf remainder then false
      else
        let segments := splitPath remainder
        2 ≤ segments.length && segments.all validWindowsPathSegment
    | drive :: ':' :: '\\' :: remainder =>
      isASCIILetter drive && validWindowsPathSegments remainder
    | _ => false

def validateTargetCWD (value platform : String) : Bool :=
  if platform ≠ "linux" && platform ≠ "windows" then false
  else if value = "" then true
  else if value.utf8ByteSize > maxCWDBytes || '\x00' ∈ value.toList then false
  else if platform = "linux" then ['/'].isPrefixOf value.toList
  else isCleanAbsoluteWindowsPath value.toList

/-- The connection an SSH transport to the Device runs over. -/
def dial (ctx : Context) (deviceID : String) : Code (Except AgentError Nat) :=
  (checkContext ctx).chain fun _ =>
  (storedRaw ctx (.deviceByID deviceID)).chain fun device =>
  if device.publicKey.length ≠ publicKeySize then
    .done (.error (.failed "remote SSH host key does not match Device Identity"))
  else
    (Tunnel.openSSH ctx deviceID).chain fun connection =>
    (external (.sshHandshake connection)).chain fun _ =>
    .done (.ok connection)

/-- `remoteExecutor.Exec` over `Dialer.Exec`. -/
def exec (ctx : Context) (deviceID : String) (target : ExecutionTarget) (command cwd : String) :
    Code (Except AgentError RemoteExecution) :=
  if command = "" || command.utf8ByteSize > maxCommandBytes || '\x00' ∈ command.toList then
    .done (.error (.failed "SSH command must be between 1 and 8192 bytes"))
  else if !validateTargetCWD cwd target.platform then
    .done (.error (.execution failureInvalidCWD))
  else
    (dial ctx deviceID).chain fun connection =>
    (operate (.remoteCommand connection)).bind fun result =>
    (checkContext ctx).chain fun _ =>
    .done result

def openPTY (ctx : Context) (deviceID : String) : Code (Except AgentError Nat) :=
  (dial ctx deviceID).chain fun connection =>
  (external (.openPTYSession connection)).chain fun _ =>
  .done (.ok connection)

end AISummoner.SshClient
