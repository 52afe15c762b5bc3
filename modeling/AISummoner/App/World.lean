import AISummoner.Concurrency.Machine
import AISummoner.Store.Calls
import AISummoner.Agent.State
import AISummoner.Device.Gate
import AISummoner.Tunnel.Manager
import AISummoner.Terminal.Registry

/-! # The state of the server and its atomic operations

An operation is what the source does without letting another goroutine in
between: one statement of the store, one critical section of a mutex, one ready
case of a `select`.  What it leaves open is settled by a `Choice`: the fault of a
statement, the time, a random identifier, the case of a `select`, and the answer
of whatever is outside the process.
-/

namespace AISummoner.App

open Concurrency (Program Signature System)
open Store Agent AISummoner.Runtime

structure Choice where
  fault : Fault := .none
  time : Time := 0
  /-- The identifier `id.New` makes; `none` if the random source fails. -/
  id : Option String := none
  /-- The case of a `select`. -/
  branch : Nat := 0
  answer : Except OutsideError String := .ok ""
  /-- What `Adapter.Run` returns. -/
  outcome : Except AgentError Unit := .ok ()
  execution : Except AgentError RemoteExecution := .ok ⟨[], [], 0⟩
  deriving Inhabited

/-! ## Operations -/

/-- Where a statement is issued, as far as its failure is handled differently. -/
inductive Site where
  | single
  /-- In a loop of bounded retries. -/
  | attempt (number : Nat)
  /-- In the loop of `resolvePendingAbort`. -/
  | abort (number : Nat)
  /-- The second look of `installPending`. -/
  | reconcile
  /-- The first look of `StartTurn`. -/
  | admission
  /-- `BeginAgentTurn`. -/
  | begin
  /-- The second look of `StartTurn`. -/
  | reread
  deriving DecidableEq, Repr

inductive ContextOperation where
  | withCancel
  | withTimeout
  | cancel (scope : Scope) (cause : Cause)
  | err (ctx : Context)
  deriving DecidableEq, Repr

inductive AgentOperation where
  | setAdapter (provider : String) (adapter : Adapter)
  | currentProvider
  | adapterForProvider (provider : String)
  | beginMutation
  | endMutation
  | reserveSessionConfiguration (sessionID : String)
  | releaseSessionConfiguration (sessionID : String)
  | reserveTurn (sessionID deviceID userID : String) (scope : Scope)
  | releaseTurn (sessionID : String)
  | isRevoked (sessionID : String)
  | installPending (toolCallID : String) (pending : PendingDecision)
  | removePending (toolCallID : String)
  | sendDecision (toolCallID : String) (decision : Decision)
  /-- The `select` of `waitForDecision`: the context, the timer, the channel. -/
  | awaitDecision (toolCallID : String) (ctx : Context)
  | deliverDecision (toolCallID sessionID ownerUserID : String) (decision : Decision)
  | subscribe (sessionID : String)
  | unsubscribe (sessionID subscriberID : String)
  | publish (event : Event)
  | closeSession (sessionID : String)
  | setArchived (sessionID deviceID : String) (archived : Bool)
  | setDeleted (sessionID deviceID : String)
  | markDeviceRevoked (deviceID : String) (sessionIDs : List String)
  | deviceScopes (deviceID : String)
  | revokedTurns (deviceID : String)
  /-- Wait for `done` of a Turn or for the context. -/
  | awaitTurn (turn : Nat) (ctx : Context)
  | close
  | awaitClosed
  | finishClose
  | closeHub
  | awaitMutations
  | awaitTurns
  /-- `newTurnInvoker` and the call of `Adapter.Run`. -/
  | beginRun (turn : Nat) (session : AgentSession) (target : ExecutionTarget)
  /-- `Adapter.Run` returns. -/
  | endRun (turn : Nat)
  | transcript (turn : Nat)
  | appendReasoning (turn : Nat) (delta : Bytes) (now : Time)
  | appendText (turn : Nat) (delta : Bytes)
  /-- `invoker.gate <- struct{}{}`, or the context. -/
  | acquireGate (turn : Nat) (ctx : Context)
  | releaseGate (turn : Nat)
  | invoker (turn : Nat)
  | upgradeApprovalMode (turn : Nat)
  /-- `Invoke` returns to the Adapter. -/
  | endInvoke (turn : Nat)
  /-- A method of the sink returns to the Adapter. -/
  | endSink (turn : Nat)
  deriving Repr

inductive GateOperation where
  | addReference (deviceID : String)
  /-- The `select` of `LockDevice`. -/
  | takeToken (deviceID : String) (ctx : Context)
  | returnToken (deviceID : String)
  | dropReference (deviceID : String)
  deriving DecidableEq, Repr

/-- Why `OpenSSH` gives no stream. -/
inductive OpenError where
  | context (cause : Cause)
  | deviceOffline
  | connectionReplaced
  | failed
  deriving DecidableEq, Repr

inductive TunnelOperation where
  | newConnection (id deviceID : String)
  | register (connection : Nat)
  | remove (connection : Nat)
  | detachDevice (deviceID : String)
  | isOnline (deviceID : String)
  | selectLive (deviceID : String)
  /-- The first `select` of `OpenSSH`: the context, the connection's end, a free slot. -/
  | acquireSetup (connection : Nat) (ctx : Context)
  | releaseSetup (connection : Nat)
  /-- The last `select` of `OpenSSH`, after which it returns the stream. -/
  | returnStream (connection : Nat) (ctx : Context)
  | close (connection : Nat)
  | finishCleanup (connection : Nat)
  | awaitCleanup (connection : Nat)
  | reap (connection : Nat)
  | closeAll
  deriving DecidableEq, Repr

inductive TerminalOperation where
  | deviceGeneration (deviceID : String)
  | admitSession (ctx : Context) (userID deviceID : String) (generation : Nat)
  | release (session : Nat)
  | cancelDevice (deviceID : String)
  | closeAll
  | awaitSession (session : Nat)
  deriving DecidableEq, Repr

/-- What is asked of the world outside the process. -/
inductive ExternalCall where
  | prepareSession (provider externalSessionID : String)
  | preflightTurn (provider : String)
  | models (provider externalSessionID : String)
  | selectModel (provider externalSessionID : String)
  | openStream (connection : Nat)
  | writeHeader (connection : Nat)
  | sshHandshake (connection : Nat)
  | openPTYSession (connection : Nat)
  | authenticateDevice
  /-- A random pairing code; the answer stands for its digest. -/
  | generateCode
  | writeAuthenticated (connection : Nat)
  | writePairingOffer (connection : Nat)
  | clearDeadlines (connection : Nat)
  /-- The next heartbeat of the Device. -/
  | readHeartbeat (connection : Nat)
  | acknowledge (connection : Nat)
  /-- The cleanups an unpair has started report, or their time is over. -/
  | cleanupReports
  | authenticateUser
  | acceptWebSocket
  | terminalTraffic
  deriving DecidableEq, Repr

/-- A call of `RemoteExecutor.Exec`; `ctx` ends after `timeoutMS`. -/
structure ExecRequest where
  ctx : Context
  timeoutMS : Int
  deviceID : String
  target : ExecutionTarget
  command : String
  cwd : String
  deriving DecidableEq, Repr

/-- Calls and returns that are no operations of their own. -/
inductive Observation where
  /-- `publish` is called. -/
  | publishing (sessionID : String) (payload : Payload)
  /-- `waitForDecision` returns. -/
  | waited (toolCallID : String) (result : Except AgentError Decision)
  /-- `finishTool` returns. -/
  | finished (toolCallID : String) (status : Option ToolStatus) (failure : Option AgentError)
  /-- `executor.Exec` is called. -/
  | exec (request : ExecRequest)
  /-- `StartTurn` returns. -/
  | startTurnReply (result : Except AgentError AgentMessage)

inductive Operation where
  | store (ctx : Context) (site : Site) (statement : Statement)
  | clock
  | newID (kind : String)
  | context (operation : ContextOperation)
  | agent (operation : AgentOperation)
  | gate (operation : GateOperation)
  | tunnel (operation : TunnelOperation)
  | terminal (operation : TerminalOperation)
  | external (call : ExternalCall)
  /-- The output of the remote command, or the transport's error. -/
  | remoteCommand (connection : Nat)
  | observe (observation : Observation)

@[reducible] def ContextOperation.Response : ContextOperation → Type
  | .withCancel => Scope
  | .withTimeout => Scope
  | .cancel _ _ => Unit
  | .err _ => Option Cause

@[reducible] def AgentOperation.Response : AgentOperation → Type
  | .setAdapter _ _ => Except AgentError Unit
  | .currentProvider => Except AgentError String
  | .adapterForProvider _ => Option Adapter
  | .beginMutation => Except AgentError Unit
  | .endMutation => Unit
  | .reserveSessionConfiguration _ => Except AgentError Unit
  | .releaseSessionConfiguration _ => Unit
  | .reserveTurn _ _ _ _ => Except AgentError Nat
  | .releaseTurn _ => Unit
  | .isRevoked _ => Bool
  | .installPending _ _ => Except AgentError Unit
  | .removePending _ => Unit
  | .sendDecision _ _ => Unit
  | .awaitDecision _ _ => Except AgentError Decision
  | .deliverDecision _ _ _ _ => Except AgentError Unit
  | .subscribe _ => Except AgentError Unit
  | .unsubscribe _ _ => Unit
  | .publish _ => Bool
  | .closeSession _ => Unit
  | .setArchived _ _ _ => Unit
  | .setDeleted _ _ => Unit
  | .markDeviceRevoked _ _ => List Scope
  | .deviceScopes _ => List Scope
  | .revokedTurns _ => List (Nat × Scope)
  | .awaitTurn _ _ => Option Cause
  | .close => Bool
  | .awaitClosed => Unit
  | .finishClose => Unit
  | .closeHub => Unit
  | .awaitMutations => Unit
  | .awaitTurns => Unit
  | .beginRun _ _ _ => Unit
  | .endRun _ => Except AgentError Unit
  | .transcript _ => String × String × Option Time
  | .appendReasoning _ _ _ => Except AgentError String
  | .appendText _ _ => Except AgentError String
  | .acquireGate _ _ => Except AgentError Unit
  | .releaseGate _ => Unit
  | .invoker _ => AgentSession × ExecutionTarget
  | .upgradeApprovalMode _ => Unit
  | .endInvoke _ => Unit
  | .endSink _ => Unit

@[reducible] def GateOperation.Response : GateOperation → Type
  | .addReference _ => Unit
  | .takeToken _ _ => Option Cause
  | .returnToken _ => Unit
  | .dropReference _ => Unit

@[reducible] def TunnelOperation.Response : TunnelOperation → Type
  | .newConnection _ _ => Nat
  | .register _ => Bool
  | .remove _ => Unit
  | .detachDevice _ => Option Nat
  | .isOnline _ => Bool
  | .selectLive _ => Option Nat
  | .acquireSetup _ _ => Except OpenError Unit
  | .releaseSetup _ => Unit
  | .returnStream _ _ => Except OpenError Unit
  | .close _ => Unit
  | .finishCleanup _ => Unit
  | .awaitCleanup _ => Unit
  | .reap _ => Unit
  | .closeAll => List Nat

@[reducible] def TerminalOperation.Response : TerminalOperation → Type
  | .deviceGeneration _ => Nat
  | .admitSession _ _ _ _ => Except Terminal.TerminalError (Nat × Scope)
  | .release _ => Unit
  | .cancelDevice _ => List (Nat × Scope)
  | .closeAll => List (Nat × Scope)
  | .awaitSession _ => Unit

@[reducible] def Operation.Response : Operation → Type
  | .store _ _ statement => Except StoreError statement.Result
  | .clock => Time
  | .newID _ => Option String
  | .context operation => operation.Response
  | .agent operation => operation.Response
  | .gate operation => operation.Response
  | .tunnel operation => operation.Response
  | .terminal operation => operation.Response
  | .external _ => Except OutsideError String
  | .remoteCommand _ => Except AgentError RemoteExecution
  | .observe _ => Unit

/-- The operations of the server. -/
@[reducible] def Server : Signature := ⟨Operation, Operation.Response⟩

/-! ## The state -/

structure Configuration where
  provider : String
  adapter : Adapter
  subscriberBuffer : Nat

structure World where
  configuration : Configuration
  db : Db
  agent : Memory
  contexts : Contexts
  gate : Device.Gate
  tunnel : Tunnel.Manager
  terminal : Terminal.Registry
  /-- Every identifier made so far: 128 random bits do not repeat. -/
  issued : List String

namespace World

/-- A process that has just opened the database. -/
def boot (configuration : Configuration) (db : Db) : World where
  configuration := configuration
  db := db
  agent := .fresh configuration.provider configuration.adapter configuration.subscriberBuffer
  contexts := .empty
  gate := .empty
  tunnel := .empty
  terminal := .empty
  issued := db.identifiers

/-- The process is killed and started again on the same database.  The values
    of the old process are kept as positions that nothing refers to any more, so
    that a position means the same value in a whole history. -/
def reboot (world : World) : World :=
  let fresh := boot world.configuration world.db
  { fresh with
    agent := { fresh.agent with
      turns := world.agent.turns.map fun turn =>
        { turn with done := true, active := false, invokes := [], sinks := [] } }
    contexts := { world.contexts with cause := fun _ => none }
    tunnel := { fresh.tunnel with
      connections := world.tunnel.connections.map fun connection =>
        { connection with closed := true, cleaned := true } }
    terminal := { fresh.terminal with
      sessions := world.terminal.sessions.map fun session => { session with done := true } }
    issued := world.issued }

/-- A statement of a canceled context is not even begun. -/
def storeFault (world : World) (ctx : Context) (choice : Choice) : Fault :=
  if world.contexts.isDone ctx then .lost else choice.fault

def cancelAll (contexts : Contexts) : List Scope → Contexts
  | [] => contexts
  | scope :: scopes => cancelAll (contexts.cancel scope .canceled) scopes

end World

/-- What a goroutine sees of a cause: a custom cause reads as `context.Canceled`. -/
def contextError : Cause → AgentError
  | .deadlineExceeded => .deadlineExceeded
  | _ => .canceled

/-- The case of a `select` that waits for a context. -/
def ready {ρ : Type} (contexts : Contexts) (ctx : Context) (result : Cause → ρ) : Option ρ :=
  (contexts.err ctx).map result

/-! ## Their meaning -/

def performContext (operation : ContextOperation) (world : World) :
    operation.Response × World :=
  match operation with
  | .withCancel => let (scope, contexts) := world.contexts.withCancel; (scope, { world with contexts })
  | .withTimeout => let (scope, contexts) := world.contexts.withTimeout; (scope, { world with contexts })
  | .cancel scope cause => ((), { world with contexts := world.contexts.cancel scope cause })
  | .err ctx => (world.contexts.err ctx, world)

def stepAgent (thread : Nat) (operation : AgentOperation) (choice : Choice) (contexts : Contexts)
    (memory : Memory) : Option (operation.Response × Memory) :=
  match operation with
  | .setAdapter provider adapter => some (memory.setAdapter provider adapter)
  | .currentProvider => some (memory.currentProvider, memory)
  | .adapterForProvider provider => some (memory.adapters provider, memory)
  | .beginMutation => some memory.beginMutation
  | .endMutation => some ((), memory.endMutation)
  | .reserveSessionConfiguration sessionID => some (memory.reserveSessionConfiguration sessionID)
  | .releaseSessionConfiguration sessionID =>
    some ((), memory.releaseSessionConfiguration sessionID)
  | .reserveTurn sessionID deviceID userID scope =>
    some (memory.reserveTurn sessionID deviceID userID scope)
  | .releaseTurn sessionID => some ((), memory.releaseTurn sessionID)
  | .isRevoked sessionID => some ((memory.revoked sessionID).isSome, memory)
  | .installPending toolCallID pending => some (memory.installPending toolCallID pending)
  | .removePending toolCallID => some ((), memory.removePending toolCallID)
  | .sendDecision toolCallID decision =>
    (memory.sendDecision toolCallID decision).map fun filled => ((), filled)
  | .awaitDecision toolCallID ctx =>
    if choice.branch = 0 then
      ready contexts ctx fun cause => (.error (contextError cause), memory)
    else if choice.branch = 1 then some (.error .approvalTimeout, memory)
    else (memory.receiveDecision toolCallID).map fun (decision, emptied) => (.ok decision, emptied)
  | .deliverDecision toolCallID sessionID ownerUserID decision =>
    some (memory.deliverDecision toolCallID sessionID ownerUserID decision)
  | .subscribe sessionID => some (memory.subscribe choice.id sessionID)
  | .unsubscribe sessionID subscriberID =>
    some ((), { memory with hub := memory.hub.remove sessionID subscriberID })
  | .publish event => some (memory.publish event)
  | .closeSession sessionID => some ((), { memory with hub := memory.hub.closeSession sessionID })
  | .setArchived sessionID deviceID archived =>
    some ((), memory.setArchived sessionID deviceID archived)
  | .setDeleted sessionID deviceID => some ((), memory.setDeleted sessionID deviceID)
  | .markDeviceRevoked deviceID sessionIDs => some (memory.markDeviceRevoked deviceID sessionIDs)
  | .deviceScopes deviceID => some (memory.deviceScopes deviceID, memory)
  | .revokedTurns deviceID => some (memory.revokedTurns deviceID, memory)
  | .awaitTurn turn ctx =>
    if choice.branch = 0 then
      if (memory.turns[turn]?).all Turn.done then some (none, memory) else none
    else ready contexts ctx fun cause => (some cause, memory)
  | .close => some ((memory.close).1.isSome, (memory.close).2)
  | .awaitClosed => if memory.closeDone then some ((), memory) else none
  | .finishClose => some ((), { memory with closeDone := true })
  | .closeHub => some ((), { memory with hub := memory.hub.close })
  | .awaitMutations => if memory.mutations = 0 then some ((), memory) else none
  | .awaitTurns => if memory.activeTurns = 0 then some ((), memory) else none
  | .beginRun turn session target => some ((), memory.updateTurn turn (Turn.beginRun session target))
  | .endRun turn => some (choice.outcome, memory.updateTurn turn Turn.endRun)
  | .transcript turn =>
    some (((memory.turns[turn]?).elim ("", "", none) fun value =>
      (value.reasoning, value.text, value.reasoningStartedAt)), memory)
  | .appendReasoning turn delta now =>
    (memory.turns[turn]?).map fun value =>
      match acceptDelta value.reasoning delta with
      | none => (.error .invalidRequest, memory)
      | some text => (.ok text, memory.updateTurn turn (Turn.appendReasoning text now))
  | .appendText turn delta =>
    (memory.turns[turn]?).map fun value =>
      match acceptDelta value.text delta with
      | none => (.error .invalidRequest, memory)
      | some text => (.ok text, memory.updateTurn turn (Turn.appendText text))
  | .acquireGate turn ctx =>
    if choice.branch = 0 then
      ready contexts ctx fun cause => (.error (contextError cause), memory)
    else if (memory.turns[turn]?).all Turn.gate then none
    else some (.ok (), memory.updateTurn turn (Turn.setGate true))
  | .releaseGate turn => some ((), memory.updateTurn turn (Turn.setGate false))
  | .invoker turn => (memory.invokerOf turn).map fun invoker => (invoker, memory)
  | .upgradeApprovalMode turn => some ((), memory.upgradeApprovalMode turn)
  | .endInvoke turn => some ((), memory.updateTurn turn (Turn.endInvoke thread))
  | .endSink turn => some ((), memory.updateTurn turn (Turn.endSink thread))

/-- The scopes an operation cancels before it gives up the mutex. -/
def canceledScopes (operation : AgentOperation) (memory : Memory) : List Scope :=
  match operation with
  | .close => (memory.close).1.getD []
  | _ => []

def performAgent (thread : Nat) (operation : AgentOperation) (choice : Choice) (world : World) :
    Option (operation.Response × World) :=
  (stepAgent thread operation choice world.contexts world.agent).map fun (response, agent) =>
    (response, { world with
      agent, contexts := World.cancelAll world.contexts (canceledScopes operation world.agent) })

def performGate (thread : Nat) (operation : GateOperation) (choice : Choice) (world : World) :
    Option (operation.Response × World) :=
  match operation with
  | .addReference deviceID =>
    some ((), { world with gate := world.gate.addReference deviceID })
  | .takeToken deviceID ctx =>
    if choice.branch = 0 then ready world.contexts ctx fun cause => (some cause, world)
    else (world.gate.takeToken thread deviceID).map fun gate => (none, { world with gate })
  | .returnToken deviceID => some ((), { world with gate := world.gate.returnToken deviceID })
  | .dropReference deviceID => some ((), { world with gate := world.gate.dropReference deviceID })

def performTunnel (operation : TunnelOperation) (choice : Choice) (world : World) :
    Option (operation.Response × World) :=
  let manager := world.tunnel
  match operation with
  | .newConnection id deviceID =>
    let (connection, tunnel) := manager.newConnection id deviceID
    some (connection, { world with tunnel })
  | .register connection =>
    let (accepted, tunnel) := manager.register connection
    some (accepted, { world with tunnel })
  | .remove connection => some ((), { world with tunnel := manager.remove connection })
  | .detachDevice deviceID =>
    let (connection, tunnel) := manager.detachDevice deviceID
    some (connection, { world with tunnel })
  | .isOnline deviceID => some (manager.isOnline deviceID, world)
  | .selectLive deviceID => some (manager.selectLive deviceID, world)
  | .acquireSetup connection ctx =>
    if choice.branch = 0 then
      ready world.contexts ctx fun cause => (.error (.context cause), world)
    else if choice.branch = 1 then
      if manager.isClosed connection then some (.error .connectionReplaced, world) else none
    else if (manager.connections[connection]?).any (fun value => value.setups < Tunnel.maxSetups) then
      some (.ok (), { world with tunnel := manager.update connection fun value =>
        { value with setups := value.setups + 1 } })
    else none
  | .releaseSetup connection =>
    some ((), { world with tunnel := manager.update connection fun value =>
      { value with setups := value.setups - 1 } })
  | .returnStream connection ctx =>
    -- a ready case excludes the default
    if world.contexts.isDone ctx && (choice.branch = 0 || !manager.isClosed connection) then
      ready world.contexts ctx fun cause => (.error (.context cause), world)
    else if manager.isClosed connection then some (.error .connectionReplaced, world)
    else some (.ok (), world)
  | .close connection => some ((), { world with tunnel := manager.close connection })
  | .finishCleanup connection =>
    if manager.isClosed connection then
      some ((), { world with tunnel := manager.update connection fun value =>
        { value with cleaned := true } })
    else none
  | .awaitCleanup connection =>
    if (manager.connections[connection]?).all Tunnel.Connection.cleaned then some ((), world) else none
  | .reap connection => some ((), { world with tunnel := manager.reap connection })
  | .closeAll =>
    let (owned, tunnel) := manager.closeAll
    some (owned, { world with tunnel })

def performTerminal (operation : TerminalOperation) (world : World) :
    Option (operation.Response × World) :=
  let registry := world.terminal
  match operation with
  | .deviceGeneration deviceID => some (registry.generations deviceID, world)
  | .admitSession ctx userID deviceID generation =>
    let (scope, contexts) := world.contexts.withCancel
    match registry.admitSession (world.contexts.isDone ctx) userID deviceID generation scope with
    | (.ok session, terminal) => some (.ok (session, scope), { world with terminal, contexts })
    | (.error error, _) => some (.error error, world)
  | .release session => some ((), { world with terminal := registry.release session })
  | .cancelDevice deviceID =>
    let (sessions, terminal) := registry.cancelDevice deviceID
    some (sessions.map fun (index, session) => (index, session.scope), { world with terminal })
  | .closeAll =>
    let (sessions, terminal) := registry.closeAll
    some (sessions.map fun (index, session) => (index, session.scope), { world with terminal })
  | .awaitSession session =>
    if (registry.sessions[session]?).all Terminal.ActiveSession.done then some ((), world) else none

def perform (thread : Nat) (operation : Operation) (choice : Choice) (world : World) :
    Option (operation.Response × World) :=
  match operation with
  | .store ctx _ statement =>
    let (result, db) := statement.body.run (world.storeFault ctx choice) world.db
    some (result, { world with db })
  | .clock => some (choice.time, world)
  | .newID _ =>
    match choice.id with
    | none => some (none, world)
    | some id =>
      if id = "" ∨ id ∈ world.issued then none
      else some (some id, { world with issued := id :: world.issued })
  | .context operation => some (performContext operation world)
  | .agent operation => performAgent thread operation choice world
  | .gate operation => performGate thread operation choice world
  | .tunnel operation => performTunnel operation choice world
  | .terminal operation => performTerminal operation world
  | .external _ => some (choice.answer, world)
  | .remoteCommand _ => some (choice.execution, world)
  | .observe _ => some ((), world)

end AISummoner.App
