import AISummoner.App.World

/-! # Goroutines and the code they run

The goroutines of the server, named by what they were started for.  Requests,
callbacks of an Adapter and timers are started from outside; the rest is
started by other goroutines.  `Code` is a program over the server's operations.
-/

namespace AISummoner.App

open Concurrency (Program)
open Store Agent AISummoner.Runtime

inductive SinkCall where
  | reasoningDelta (delta : Bytes)
  | textDelta (delta : Bytes)
  | providerState (state : Bytes)
  | setExternalSessionID (externalSessionID : String)
  deriving DecidableEq, Repr

/-- The approval mode of a request: the empty string, a known mode, or another string. -/
inductive RequestedMode where
  | default
  | mode (mode : ApprovalMode)
  | unknown
  deriving DecidableEq, Repr

structure ModelSelection where
  provider : String
  model : String
  reasoningEffort : String
  deriving DecidableEq, Repr

/-- What a Device presents in its hello; its identifier is derived from its key. -/
structure Hello where
  deviceID : String
  publicKey : Bytes
  deviceName : String
  platform : String
  arch : String
  clientVersion : String
  deriving DecidableEq, Repr

inductive Goroutine where
  -- requests to the Agent service
  | setAdapter (provider : String) (adapter : Adapter)
  | createSession (ctx : Context) (ownerUserID deviceID : String) (mode : RequestedMode)
  | sessionModels (ctx : Context) (ownerUserID sessionID : String)
  | selectSessionModel (ctx : Context) (ownerUserID sessionID : String) (selection : ModelSelection)
  | updateSettings (ctx : Context) (ownerUserID : String) (mode : RequestedMode)
  | updateSessionApprovalMode (ctx : Context) (ownerUserID sessionID : String) (mode : RequestedMode)
  | setSessionArchived (ctx : Context) (ownerUserID sessionID : String) (archived : Bool)
  | deleteSession (ctx : Context) (ownerUserID sessionID : String)
  | startTurn (ctx : Context) (ownerUserID sessionID content : String)
  | decide (ctx : Context) (ownerUserID toolCallID : String) (decision : Option Decision)
  | subscribe (ctx : Context) (ownerUserID sessionID : String)
  | unsubscribe (sessionID subscriberID : String)
  | cancelDevice (deviceID : String)
  | closeAgent
  -- a Turn and the calls its Adapter makes
  | runTurn (turn : Nat) (scope : Scope) (session : AgentSession) (message : AgentMessage)
      (target : ExecutionTarget)
  | invoke (turn : Nat) (ctx : Context) (request : ToolRequest)
  | sink (turn : Nat) (ctx : Context) (ownerUserID sessionID : String) (call : SinkCall)
  -- Devices
  | serveTransport (ctx : Context) (hello : Hello)
  | heartbeatLoop (ctx : Context) (connection : Nat) (deviceID : String)
  | reapConnection (connection : Nat)
  | closeTunnels
  | claimPairing (ctx : Context) (userID : String) (digest : Bytes)
  | unpair (ctx : Context) (ownerUserID deviceID : String)
  | joinTunnel (detached : Option Nat)
  | cancelTerminals (deviceID : String)
  | invalidateAgent (ctx : Context) (deviceID : String) (sessionIDs : List String)
  -- terminals
  | terminal (ctx : Context) (userID deviceID : String)
  | closeTerminals
  -- timers, and requests that are given up
  | expire (scope : Scope) (cause : Cause)
  deriving Repr

abbrev Code (α : Type) := Program Server Goroutine α

/-! ## Single operations -/

def operate (operation : Operation) : Code operation.Response := .perform operation .done

def statement (ctx : Context) (site : Site) (operation : Statement) :
    Code (Except StoreError operation.Result) :=
  operate (.store ctx site operation)

/-- A statement whose error a caller of the service sees. -/
def stored (ctx : Context) (operation : Statement) : Code (Except AgentError operation.Result) :=
  (statement ctx .single operation).bind fun result => .done (result.mapError mapStoreNotFound)

/-- A statement whose error is passed on as it is. -/
def storedRaw (ctx : Context) (operation : Statement) : Code (Except AgentError operation.Result) :=
  (statement ctx .single operation).bind fun result => .done (result.mapError .store)

def clock : Code Time := operate .clock

def newID (kind : String) : Code (Option String) := operate (.newID kind)

/-- `id.New` whose error ends the caller. -/
def freshID (kind : String) : Code (Except AgentError String) :=
  (newID kind).bind fun
  | some id => .done (.ok id)
  | none => .done (.error (.failed "read random token"))

def withCancel : Code Scope := operate (.context .withCancel)

def withTimeout : Code Scope := operate (.context .withTimeout)

def cancel (scope : Scope) : Code Unit := operate (.context (.cancel scope .canceled))

def cancelCause (scope : Scope) (cause : Cause) : Code Unit := operate (.context (.cancel scope cause))

def contextErr (ctx : Context) : Code (Option Cause) := operate (.context (.err ctx))

/-- `if err := ctx.Err(); err != nil { return err }`. -/
def checkContext (ctx : Context) : Code (Except AgentError Unit) :=
  (contextErr ctx).bind fun
  | some cause => .done (.error (contextError cause))
  | none => .done (.ok ())

def agent (operation : AgentOperation) : Code operation.Response := operate (.agent operation)

def tunnel (operation : TunnelOperation) : Code operation.Response := operate (.tunnel operation)

def gate (operation : GateOperation) : Code operation.Response := operate (.gate operation)

def terminal (operation : TerminalOperation) : Code operation.Response := operate (.terminal operation)

def external (call : ExternalCall) : Code (Except AgentError String) :=
  (operate (.external call)).bind fun answer => .done (answer.mapError OutsideError.reported)

def observe (observation : Observation) : Code Unit := operate (.observe observation)

def cancelEach : List Scope → Code Unit
  | [] => .done ()
  | scope :: scopes => (cancel scope).bind fun _ => cancelEach scopes

/-- `if !condition { body }`. -/
def skipIf (condition : Bool) (body : Code Unit) : Code Unit :=
  if condition then .done () else body

/-- A result kept while deferred calls run. -/
def deferring {α : Type} (body : Code α) (deferred : Code Unit) : Code α :=
  body.bind fun result => deferred.bind fun _ => .done result

/-! ## What they perform

With these, `simp` computes the operations of a program. -/

variable {op : Statement} {ctx : Context}

section Performs

open Concurrency.Program

variable {al : Operation → Prop} {sw : Goroutine → Prop} {α β : Type}

theorem performs_operate {op : Operation} : (operate op).performs al sw ↔ al op := by
  simp [operate, performs]

theorem performs_step {op : Operation} {next : op.Response → Code α}
    (rule : al op) (rest : ∀ r, (next r).performs al sw) :
    ((operate op).bind next).performs al sw :=
  ⟨rule, rest⟩

theorem performs_stored : (stored ctx op).performs al sw ↔ al (.store ctx .single op) := by
  simp [stored, statement, operate, performs]

theorem performs_storedRaw : (storedRaw ctx op).performs al sw ↔ al (.store ctx .single op) := by
  simp [storedRaw, statement, operate, performs]

theorem performs_freshID {kind : String} : (freshID kind).performs al sw ↔ al (.newID kind) := by
  simp [freshID, newID, operate, performs, Option.forall]

theorem performs_checkContext : (checkContext ctx).performs al sw ↔ al (.context (.err ctx)) := by
  simp [checkContext, contextErr, operate, performs, Option.forall]

theorem performs_deferring {body : Code α} {deferred : Code Unit}
    (a : body.performs al sw) (last : deferred.performs al sw) :
    (deferring body deferred).performs al sw :=
  performs_bind a fun _ => performs_bind last fun _ => trivial

theorem performs_skipIf {gd : Bool} {body : Code Unit}
    (hp : body.performs al sw) : (skipIf gd body).performs al sw :=
  performs_ite trivial hp

theorem performs_cancelEach {scopes : List Scope}
    (cancels : ∀ scp, al (.context (.cancel scp .canceled))) :
    (cancelEach scopes).performs al sw := by
  induction scopes with
  | nil => trivial
  | cons scp scopes ih => exact ⟨cancels scp, fun _ => ih⟩

end Performs

end AISummoner.App
