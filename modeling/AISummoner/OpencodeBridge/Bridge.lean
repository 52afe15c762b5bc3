import AISummoner.Agent.Types
import AISummoner.Concurrency.Program

/-! # The callback bridge

`internal/opencodebridge`: an Adapter activates a capability for the external
session of its Turn, the Runtime calls it back, and the Adapter closes it.  A
`*mapping` is a position in `entries`; what is done to one mapping is an
`EntryOperation`.  The channels between `Run` and its reader are here as well.
-/

namespace AISummoner.OpencodeBridge

open Agent (AgentError)

def maximumExternalIDSize : Nat := 512

def validExternalSessionID (value : String) : Bool :=
  decide (4 < value.utf8ByteSize ∧ value.utf8ByteSize ≤ maximumExternalIDSize) &&
    value.startsWith "ses_" &&
    (value.toList.drop 4).all fun character =>
      character.isAlphanum || character == '_' || character == '-'

/-! ## State -/

/-- `sync.Once`. -/
inductive Once where
  | fresh
  | running
  | done
  deriving DecidableEq, Repr

/-- Whether the caller runs the function; others wait until it has returned. -/
def Once.enter : Once → Option (Bool × Once)
  | .fresh => some (true, .running)
  | .running => none
  | .done => some (false, .done)

structure Mapping where
  productSessionID : String
  externalSessionID : String
  invoker : Nat
  active : Bool := true
  /-- `ctx` has ended: by `cancel`, or because the Turn's context has. -/
  canceled : Bool := false
  inflight : Nat := 0
  /-- The gate is taken. -/
  gate : Bool := false
  /-- The one slot of `fatal`. -/
  fatal : Option AgentError := none
  closeOnce : Once := .fresh
  fatalOnce : Once := .fresh
  closeDone : Bool := false
  deriving DecidableEq, Repr

def Mapping.new (productSessionID externalSessionID : String) (invoker : Nat) : Mapping where
  productSessionID := productSessionID
  externalSessionID := externalSessionID
  invoker := invoker

structure Bridge where
  entries : List Mapping
  mappings : String → Option Nat
  all : List Nat
  closed : Bool
  closeDone : Bool

/-- The channels from the reader of a provider's stream to `Run`. -/
structure Stream where
  /-- The one slot of `parserResults`. -/
  parserResults : Option (Except AgentError Unit) := none
  /-- `parserDone` or `streamDone` is closed. -/
  done : Bool := false

structure Process where
  bridge : Bridge
  streams : List Stream

def Bridge.new : Bridge := ⟨[], fun _ => none, [], false, false⟩

def Process.new : Process := ⟨.new, []⟩

/-! ## Operations -/

/-- What the next part of a provider's stream amounts to. -/
inductive StreamEvent where
  /-- Nothing for the sink. -/
  | quiet
  /-- A call of the sink. -/
  | delta
  | ended (result : Except AgentError Unit)

/-- The case a `select` over failures, the context and a source of `α` has taken. -/
inductive Selected (α : Type) where
  | fatal (error : AgentError)
  | ended (cause : AgentError)
  | received (value : α)

inductive EntryOperation where
  | beginCall
  | deactivate
  | enterClose
  | leaveClose
  | reportFatal (error : AgentError)
  | sendFatal (error : AgentError)
  | leaveFatal
  | receiveFatal
  | selectItem
  | acquireGate
  | callErr
  | marshalArguments
  | invoke
  | invoked
  | respond
  | releaseGate
  | doneCall
  | waitCalls
  | closeDone
  | awaitClosed
  | cancelTurn
  deriving DecidableEq, Repr

@[reducible] def EntryOperation.Response : EntryOperation → Type
  | .beginCall => Bool
  | .enterClose => Bool
  | .reportFatal _ => Bool
  | .receiveFatal => Option AgentError
  | .selectItem => Selected StreamEvent
  | .acquireGate => Bool
  | .callErr => Bool
  | .marshalArguments => Bool
  | .invoked => Except AgentError Unit
  | .respond => Bool
  | _ => Unit

inductive ActivateError where
  | invalidActivation
  | bridgeClosed
  | duplicateMapping
  deriving DecidableEq, Repr

inductive BridgeOperation where
  | activate (productSessionID externalSessionID : String) (invoker : Nat)
  | lookup (externalSessionID : String)
  | remove (entry : Nat)
  | finished (entry : Nat)
  /-- The critical section of `Close`. -/
  | close
  | closeDone
  | awaitDone
  deriving DecidableEq, Repr

@[reducible] def BridgeOperation.Response : BridgeOperation → Type
  | .activate _ _ _ => Except ActivateError Nat
  | .lookup _ => Option Nat
  | .close => Option (List Nat)
  | .awaitDone => Bool
  | _ => Unit

inductive ProviderCall where
  | prepareWorkspace
  | createSession
  | prepareSession
  | subscribe
  | prompt
  | stop
  deriving DecidableEq, Repr

inductive AdapterOperation where
  | newStream
  | provider (call : ProviderCall)
  | sink (stream : Nat)
  | nextEvent (stream : Nat)
  | sendResult (stream : Nat) (result : Except AgentError Unit)
  | closeStream (stream : Nat)
  | awaitStream (stream : Nat)
  /-- The `select` of `waitForTurn`. -/
  | selectTurn (stream entry : Nat)
  /-- `Run` returns. -/
  | returned (stream : Nat) (result : Except AgentError Unit)
  /-- Beyond the rounds of a loop that a run is given. -/
  | never

@[reducible] def AdapterOperation.Response : AdapterOperation → Type
  | .newStream => Nat
  | .provider _ => Except AgentError String
  | .sink _ => Except AgentError Unit
  | .nextEvent _ => StreamEvent
  | .selectTurn _ _ => Selected (Except AgentError Unit)
  | .never => Empty
  | _ => Unit

inductive Operation where
  | entry (entry : Nat) (operation : EntryOperation)
  | bridge (operation : BridgeOperation)
  | adapter (operation : AdapterOperation)

@[reducible] def Operation.Response : Operation → Type
  | .entry _ operation => operation.Response
  | .bridge operation => operation.Response
  | .adapter operation => operation.Response

@[reducible] def Calls : Concurrency.Signature := ⟨Operation, Operation.Response⟩

/-- What a step leaves open: the case of a `select`, whether a deadline has passed
    or a write succeeds, and what is answered from outside. -/
structure Choice where
  branch : Nat := 0
  flag : Bool := false
  answer : Except AgentError String := .ok ""
  event : StreamEvent := .quiet
  cause : AgentError := .canceled

/-! ## What they do -/

def EntryOperation.perform (operation : EntryOperation) (choice : Choice) (entry : Mapping) :
    Option (operation.Response × Mapping) :=
  match operation with
  | .beginCall =>
    some (if !entry.active || entry.canceled then (false, entry)
      else (true, { entry with inflight := entry.inflight + 1 }))
  | .deactivate => some ((), { entry with active := false, canceled := true })
  | .enterClose => entry.closeOnce.enter.map fun (first, once) =>
      (first, { entry with closeOnce := once })
  | .leaveClose => some ((), { entry with closeOnce := .done })
  | .reportFatal _ => entry.fatalOnce.enter.map fun (first, once) =>
      (first, { entry with fatalOnce := once })
  -- the send does not block: a full slot keeps what it has
  | .sendFatal error => some ((), { entry with fatal := some (entry.fatal.getD error) })
  | .leaveFatal => some ((), { entry with fatalOnce := .done })
  | .receiveFatal => some (entry.fatal, { entry with fatal := none })
  | .selectItem =>
    match choice.branch with
    | 0 => entry.fatal.map fun error => (.fatal error, { entry with fatal := none })
    | 1 => some (.ended choice.cause, entry)
    | _ => some (.received choice.event, entry)
  -- the call's context can end at any time, by its deadline or its request
  | .acquireGate =>
    if choice.flag then some (false, entry)
    else if entry.gate then none
    else some (true, { entry with gate := true })
  | .callErr => some (entry.canceled || choice.flag, entry)
  | .marshalArguments => some (choice.flag, entry)
  | .invoke => some ((), entry)
  | .invoked => some (choice.answer.map fun _ => (), entry)
  | .respond => some (choice.flag, entry)
  | .releaseGate => if entry.gate then some ((), { entry with gate := false }) else none
  | .doneCall => some ((), { entry with inflight := entry.inflight - 1 })
  | .waitCalls => if entry.inflight = 0 then some ((), entry) else none
  | .closeDone => some ((), { entry with closeDone := true })
  | .awaitClosed => if entry.closeDone then some ((), entry) else none
  | .cancelTurn => some ((), { entry with canceled := true })

namespace Bridge

def setEntry (bridge : Bridge) (entry : Nat) (changed : Mapping) : Bridge :=
  { bridge with entries := bridge.entries.set entry changed }

def setMapping (bridge : Bridge) (externalSessionID : String) (entry : Option Nat) : Bridge :=
  { bridge with
    mappings := fun other =>
      if other = externalSessionID then entry else bridge.mappings other }

def install (bridge : Bridge) (entry : Mapping) : Bridge :=
  { bridge with
    entries := bridge.entries ++ [entry]
    all := bridge.entries.length :: bridge.all }.setMapping entry.externalSessionID
      (some bridge.entries.length)

def activate (bridge : Bridge) (productSessionID externalSessionID : String) (invoker : Nat) :
    Except ActivateError Nat × Bridge :=
  if productSessionID = "" ∨ !validExternalSessionID externalSessionID then
    (.error .invalidActivation, bridge)
  else if bridge.closed then (.error .bridgeClosed, bridge)
  else if (bridge.mappings externalSessionID).isSome then (.error .duplicateMapping, bridge)
  else
    (.ok bridge.entries.length, bridge.install (.new productSessionID externalSessionID invoker))

def lookup (bridge : Bridge) (externalSessionID : String) : Option Nat :=
  if bridge.closed then none else bridge.mappings externalSessionID

/-- The map entry goes only while it is this mapping. -/
def remove (bridge : Bridge) (entry : Nat) : Bridge :=
  match bridge.entries[entry]? with
  | none => bridge
  | some mapping =>
    if bridge.mappings mapping.externalSessionID = some entry then
      bridge.setMapping mapping.externalSessionID none
    else bridge

def finished (bridge : Bridge) (entry : Nat) : Bridge :=
  { bridge with all := bridge.all.filter (· ≠ entry) }

/-- The mappings to close, for the first caller. -/
def close (bridge : Bridge) : Option (List Nat) × Bridge :=
  if bridge.closed then (none, bridge) else (some bridge.all, { bridge with closed := true })

end Bridge

def BridgeOperation.perform (operation : BridgeOperation) (choice : Choice) (bridge : Bridge) :
    Option (operation.Response × Bridge) :=
  match operation with
  | .activate productSessionID externalSessionID invoker =>
    some (bridge.activate productSessionID externalSessionID invoker)
  | .lookup externalSessionID => some (bridge.lookup externalSessionID, bridge)
  | .remove entry => some ((), bridge.remove entry)
  | .finished entry => some ((), bridge.finished entry)
  | .close => some bridge.close
  | .closeDone => some ((), { bridge with closeDone := true })
  -- `false`: the caller's context has ended
  | .awaitDone =>
    if choice.flag then some (false, bridge)
    else if bridge.closeDone then some (true, bridge) else none

namespace Process

def setStream (process : Process) (stream : Nat) (change : Stream → Stream) : Process :=
  { process with streams := process.streams.modify stream change }

def setEntry (process : Process) (entry : Nat) (changed : Mapping) : Process :=
  { process with bridge := process.bridge.setEntry entry changed }

def selectTurn (process : Process) (stream entry : Nat) (choice : Choice) :
    Option (Selected (Except AgentError Unit) × Process) :=
  match choice.branch with
  | 0 => do
    let mapping ← process.bridge.entries[entry]?
    let error ← mapping.fatal
    some (.fatal error, process.setEntry entry { mapping with fatal := none })
  | 1 => do
    let reader ← process.streams[stream]?
    let result ← reader.parserResults
    some (.received result,
      process.setStream stream fun reader => { reader with parserResults := none })
  | _ => some (.ended choice.cause, process)

end Process

def AdapterOperation.perform (operation : AdapterOperation) (choice : Choice) (process : Process) :
    Option (operation.Response × Process) :=
  match operation with
  | .newStream => some (process.streams.length, { process with streams := process.streams ++ [{}] })
  | .provider _ => some (choice.answer, process)
  | .sink _ => some (choice.answer.map fun _ => (), process)
  | .nextEvent _ => some (choice.event, process)
  | .sendResult stream result =>
    some ((), process.setStream stream fun reader => { reader with parserResults := some result })
  | .closeStream stream =>
    some ((), process.setStream stream fun reader => { reader with done := true })
  | .awaitStream stream =>
    if (process.streams[stream]?).any Stream.done then some ((), process) else none
  | .selectTurn stream entry => process.selectTurn stream entry choice
  | .returned _ _ => some ((), process)
  | .never => none

def perform (operation : Operation) (choice : Choice) (process : Process) :
    Option (operation.Response × Process) :=
  match operation with
  | .entry entry operation =>
    (process.bridge.entries[entry]?).bind fun mapping =>
      (operation.perform choice mapping).map fun (response, changed) =>
        (response, process.setEntry entry changed)
  | .bridge operation =>
    (operation.perform choice process.bridge).map fun (response, bridge) =>
      (response, { process with bridge })
  | .adapter operation => operation.perform choice process

end AISummoner.OpencodeBridge
