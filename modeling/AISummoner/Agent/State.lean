import AISummoner.Agent.Types
import AISummoner.Runtime.Context

/-! # The memory of the Agent service

What `agent.Service` keeps besides the database, and the critical sections of
`Service.mu` as functions on it.  `runningTurn` and `pendingDecision` values are
shared by pointer in the source; here a Turn is a position in `turns` and a
pending decision is found under its tool call.
-/

namespace AISummoner.Agent

open Store (AgentSession ApprovalMode Decision Time)
open AISummoner.Runtime (Scope)

/-! ## The event hub -/

structure Subscriber where
  id : String
  sessionID : String
  /-- The buffered channel, oldest event first. -/
  events : List Event
  deriving Repr

structure Hub where
  subscribers : List Subscriber
  bufferSize : Nat
  closed : Bool
  deriving Repr

namespace Hub

def subscribe (hub : Hub) (subscriberID sessionID : String) : Except AgentError Unit × Hub :=
  if hub.closed then (.error .serviceClosed, hub)
  else (.ok (), { hub with subscribers := ⟨subscriberID, sessionID, []⟩ :: hub.subscribers })

/-- A subscriber of the session whose buffer is full is closed and dropped. -/
def publish (hub : Hub) (event : Event) : Hub :=
  if hub.closed then hub
  else
    { hub with
      subscribers := hub.subscribers.filterMap fun subscriber =>
        if subscriber.sessionID ≠ event.sessionID then some subscriber
        else if subscriber.events.length < hub.bufferSize then
          some { subscriber with events := subscriber.events ++ [event] }
        else none }

def remove (hub : Hub) (sessionID subscriberID : String) : Hub :=
  { hub with
    subscribers := hub.subscribers.filter fun subscriber =>
      !(subscriber.sessionID = sessionID && subscriber.id = subscriberID) }

def closeSession (hub : Hub) (sessionID : String) : Hub :=
  { hub with
    subscribers := hub.subscribers.filter fun subscriber => subscriber.sessionID ≠ sessionID }

def close (hub : Hub) : Hub := { hub with subscribers := [], closed := true }

end Hub

/-! ## Turns and pending decisions -/

/-- A `runningTurn`, and what the goroutine of the Turn shares with its Adapter:
    the session copy and the gate of `turnInvoker`, and the texts of `turnSink`. -/
structure Turn where
  sessionID : String
  deviceID : String
  userID : String
  /-- The scope `cancel` ends. -/
  scope : Scope
  /-- The `done` channel is closed. -/
  done : Bool := false
  /-- `Adapter.Run` is executing. -/
  active : Bool := false
  /-- The invoker's copy of the session, and its target, once there is an invoker. -/
  invoker : Option (AgentSession × ExecutionTarget) := none
  /-- The gate of the invoker is taken. -/
  gate : Bool := false
  /-- The goroutines that are inside `Invoke`. -/
  invokes : List Nat := []
  /-- The goroutines that are inside a method of the sink. -/
  sinks : List Nat := []
  reasoning : String := ""
  text : String := ""
  reasoningStartedAt : Option Time := none
  deriving Repr

namespace Turn

def identity (turn : Turn) : String × String × String × Scope :=
  (turn.sessionID, turn.deviceID, turn.userID, turn.scope)

def beginRun (session : AgentSession) (target : ExecutionTarget) (turn : Turn) : Turn :=
  { turn with active := true, invoker := some (session, target) }

def endRun (turn : Turn) : Turn := { turn with active := false }

def setGate (taken : Bool) (turn : Turn) : Turn := { turn with gate := taken }

def beginInvoke (thread : Nat) (turn : Turn) : Turn :=
  { turn with invokes := thread :: turn.invokes }

def endInvoke (thread : Nat) (turn : Turn) : Turn :=
  { turn with invokes := turn.invokes.filter (· ≠ thread) }

def beginSink (thread : Nat) (turn : Turn) : Turn := { turn with sinks := thread :: turn.sinks }

def endSink (thread : Nat) (turn : Turn) : Turn :=
  { turn with sinks := turn.sinks.filter (· ≠ thread) }

def appendReasoning (delta : String) (now : Time) (turn : Turn) : Turn :=
  { turn with
    reasoning := turn.reasoning ++ delta
    reasoningStartedAt := if turn.reasoning = "" then some now else turn.reasoningStartedAt }

def appendText (delta : String) (turn : Turn) : Turn := { turn with text := turn.text ++ delta }

/-- `invoker.session.ApprovalMode = store.AgentApprovalFullAccess`. -/
def upgrade (turn : Turn) : Turn :=
  { turn with
    invoker := turn.invoker.map fun (session, target) =>
      ({ session with approvalMode := .fullAccess }, target) }

def finish (turn : Turn) : Turn := { turn with done := true }

end Turn

/-- A `pendingDecision`; its channel has a buffer of one. -/
structure PendingDecision where
  sessionID : String
  deviceID : String
  userID : String
  decision : Option Decision := none
  deriving DecidableEq, Repr

/-- What the sink adds to its buffer: a delta that is valid UTF-8 and still fits. -/
def acceptDelta (buffer : String) (delta : Store.Bytes) : Option String :=
  match String.fromUTF8? delta.toByteArray with
  | none => none
  | some text =>
    if buffer.utf8ByteSize + text.utf8ByteSize > maxMessageBytes then none else some text

/-- The optional capabilities of an Adapter. -/
structure Adapter where
  /-- `RuntimeSessionAdapter`. -/
  runtimeSession : Bool
  /-- `TurnPreflighter`. -/
  preflight : Bool
  deriving DecidableEq, Repr

structure Memory where
  turns : List Turn
  running : String → Option Nat
  configuring : String → Bool
  /-- Which tool calls the `pending` map holds. -/
  pending : String → Bool
  /-- Every `pendingDecision` made, by tool call. -/
  decisions : String → Option PendingDecision
  revoked : String → Option String
  archived : String → Option String
  closed : Bool
  /-- The channel `closeDone` is closed. -/
  closeDone : Bool
  adapters : String → Option Adapter
  provider : String
  /-- The counters of the two wait groups. -/
  mutations : Nat
  activeTurns : Nat
  hub : Hub

def replace {ρ : Type} (map : String → ρ) (key : String) (value : ρ) : String → ρ :=
  fun other => if other = key then value else map other

@[simp] theorem replace_self {ρ : Type} (map : String → ρ) (key : String) (v : ρ) :
    replace map key v key = v := by
  simp [replace]

theorem replace_ne {ρ : Type} (map : String → ρ) {key o : String} (v : ρ)
    (ne : o ≠ key) : replace map key v o = map o := by
  simp [replace, ne]

namespace Memory

/-- `NewService`. -/
def fresh (provider : String) (adapter : Adapter) (bufferSize : Nat) : Memory where
  turns := []
  running := fun _ => none
  configuring := fun _ => false
  pending := fun _ => false
  decisions := fun _ => none
  revoked := fun _ => none
  archived := fun _ => none
  closed := false
  closeDone := false
  adapters := replace (fun _ => none) provider (some adapter)
  provider := provider
  mutations := 0
  activeTurns := 0
  hub := ⟨[], bufferSize, false⟩

def setAdapter (memory : Memory) (provider : String) (adapter : Adapter) :
    Except AgentError Unit × Memory :=
  if memory.closed then (.error .serviceClosed, memory)
  else (.ok (), { memory with
    adapters := replace memory.adapters provider (some adapter), provider := provider })

def currentProvider (memory : Memory) : Except AgentError String :=
  if memory.closed then .error .serviceClosed else .ok memory.provider

def beginMutation (memory : Memory) : Except AgentError Unit × Memory :=
  if memory.closed then (.error .serviceClosed, memory)
  else (.ok (), { memory with mutations := memory.mutations + 1 })

def endMutation (memory : Memory) : Memory := { memory with mutations := memory.mutations - 1 }

def turnOf (memory : Memory) (sessionID : String) : Option (Nat × Turn) := do
  let turn ← memory.running sessionID
  let value ← memory.turns[turn]?
  some (turn, value)

/-- The registered Turns, as ranging over the `running` map finds them. -/
def registered (memory : Memory) : List (Nat × Turn) :=
  (memory.turns.zipIdx.map fun (turn, index) => (index, turn)).filter fun (index, turn) =>
    memory.running turn.sessionID = some index

def invokerOf (memory : Memory) (turn : Nat) : Option (AgentSession × ExecutionTarget) :=
  (memory.turns[turn]?).bind Turn.invoker

def updateTurn (memory : Memory) (turn : Nat) (change : Turn → Turn) : Memory :=
  { memory with turns := memory.turns.modify turn change }

/-- The refusals `reserveTurn` and `reserveSessionConfiguration` share. -/
def refusal (memory : Memory) (sessionID : String) : Option AgentError :=
  if memory.closed then some .serviceClosed
  else if (memory.revoked sessionID).isSome then some .notFound
  else if (memory.archived sessionID).isSome then some .notFound
  else if (memory.running sessionID).isSome then some .turnInProgress
  else if memory.configuring sessionID then some .turnInProgress
  else none

def reserveSessionConfiguration (memory : Memory) (sessionID : String) :
    Except AgentError Unit × Memory :=
  match memory.refusal sessionID with
  | some error => (.error error, memory)
  | none => (.ok (), { memory with configuring := replace memory.configuring sessionID true })

def releaseSessionConfiguration (memory : Memory) (sessionID : String) : Memory :=
  { memory with configuring := replace memory.configuring sessionID false }

def reserveTurn (memory : Memory) (sessionID deviceID userID : String) (scope : Scope) :
    Except AgentError Nat × Memory :=
  match memory.refusal sessionID with
  | some error => (.error error, memory)
  | none =>
    let turn := memory.turns.length
    (.ok turn, { memory with
      turns := memory.turns ++ [{ sessionID, deviceID, userID, scope }]
      running := replace memory.running sessionID (some turn)
      activeTurns := memory.activeTurns + 1 })

/-- The names are the session's: whatever Turn is registered for it is dropped. -/
def releaseTurn (memory : Memory) (sessionID : String) : Memory :=
  { memory with
    turns := match memory.running sessionID with
      | some turn => memory.turns.modify turn Turn.finish
      | none => memory.turns
    running := replace memory.running sessionID none
    pending := fun toolCallID => memory.pending toolCallID &&
      !(memory.decisions toolCallID).any (fun pending => pending.sessionID = sessionID)
    activeTurns := memory.activeTurns - 1 }

def upgradeApprovalMode (memory : Memory) (turn : Nat) : Memory :=
  memory.updateTurn turn Turn.upgrade

/-! ## Approvals -/

def installPending (memory : Memory) (toolCallID : String) (pending : PendingDecision) :
    Except AgentError Unit × Memory :=
  if memory.closed then (.error .serviceClosed, memory)
  else if (memory.revoked pending.sessionID).isSome then (.error .notFound, memory)
  else (.ok (), { memory with
    pending := replace memory.pending toolCallID true
    decisions := replace memory.decisions toolCallID (some pending) })

def removePending (memory : Memory) (toolCallID : String) : Memory :=
  { memory with pending := replace memory.pending toolCallID false }

def fill (memory : Memory) (toolCallID : String) (pending : PendingDecision)
    (decision : Decision) : Memory :=
  { memory with
    decisions := replace memory.decisions toolCallID (some { pending with decision := some decision }) }

/-- `pending.decision <- decision`; `none` while the channel is full. -/
def sendDecision (memory : Memory) (toolCallID : String) (decision : Decision) : Option Memory :=
  match memory.decisions toolCallID with
  | some pending =>
    if pending.decision.isSome then none else some (memory.fill toolCallID pending decision)
  | none => none

/-- `<-pending.decision`; `none` while the channel is empty. -/
def receiveDecision (memory : Memory) (toolCallID : String) : Option (Decision × Memory) :=
  match memory.decisions toolCallID with
  | some pending =>
    pending.decision.map fun decision => (decision, { memory with
      decisions := replace memory.decisions toolCallID (some { pending with decision := none }) })
  | none => none

/-- The critical section of `Decide`: the send has a default case. -/
def deliverDecision (memory : Memory) (toolCallID sessionID ownerUserID : String)
    (decision : Decision) : Except AgentError Unit × Memory :=
  if (memory.revoked sessionID).isSome then (.error .notFound, memory)
  else if memory.pending toolCallID then
    match memory.decisions toolCallID with
    | some pending =>
      if pending.userID = ownerUserID ∧ pending.decision.isNone then
        (.ok (), memory.fill toolCallID pending decision)
      else (.ok (), memory)
    | none => (.ok (), memory)
  else (.ok (), memory)

/-- `subscriberID` is what `id.New` gives inside the section. -/
def subscribe (memory : Memory) (subscriberID : Option String) (sessionID : String) :
    Except AgentError Unit × Memory :=
  if memory.closed then (.error .serviceClosed, memory)
  else if (memory.revoked sessionID).isSome then (.error .notFound, memory)
  else if (memory.archived sessionID).isSome then (.error .notFound, memory)
  else
    match subscriberID with
    | none => (.error (.failed "read random token"), memory)
    | some subscriberID =>
      let (result, hub) := memory.hub.subscribe subscriberID sessionID
      (result, { memory with hub })

/-- Whether the event was handed to the hub. -/
def publish (memory : Memory) (event : Event) : Bool × Memory :=
  if (memory.revoked event.sessionID).isSome then (false, memory)
  else if (memory.archived event.sessionID).isSome then (false, memory)
  else (true, { memory with hub := memory.hub.publish event })

/-! ## Archiving, deletion, revocation and shutdown -/

def setArchived (memory : Memory) (sessionID deviceID : String) (archived : Bool) : Memory :=
  { memory with
    archived := replace memory.archived sessionID (if archived then some deviceID else none) }

def setDeleted (memory : Memory) (sessionID deviceID : String) : Memory :=
  { memory with
    archived := replace memory.archived sessionID none
    revoked := replace memory.revoked sessionID (some deviceID) }

/-- The first half of `MarkDeviceRevoked`: the tombstones, and the scopes to cancel. -/
def markDeviceRevoked (memory : Memory) (deviceID : String) : List String → List Scope × Memory
  | [] => ([], memory)
  | sessionID :: sessionIDs =>
    if sessionID = "" then memory.markDeviceRevoked deviceID sessionIDs
    else
      let (scopes, marked) := { memory with
        revoked := replace memory.revoked sessionID (some deviceID) }.markDeviceRevoked deviceID sessionIDs
      ((memory.turnOf sessionID).toList.map (fun (_, turn) => turn.scope) ++ scopes, marked)

def deviceScopes (memory : Memory) (deviceID : String) : List Scope :=
  (memory.registered.filter fun (_, turn) => turn.deviceID = deviceID).map fun (_, turn) => turn.scope

def revokedTurns (memory : Memory) (deviceID : String) : List (Nat × Scope) :=
  (memory.registered.filter fun (_, turn) =>
    memory.revoked turn.sessionID = some deviceID).map fun (index, turn) => (index, turn.scope)

/-- The critical section of `Close`: the scopes to cancel, unless it ran before. -/
def close (memory : Memory) : Option (List Scope) × Memory :=
  if memory.closed then (none, memory)
  else (some (.root :: memory.registered.map fun (_, turn) => turn.scope),
    { memory with closed := true })

end Memory

end AISummoner.Agent
