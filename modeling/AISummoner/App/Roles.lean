import AISummoner.App.System

/-! # Who performs what

Most operations that matter are performed by one kind of goroutine only:
`performers` is the table, and `body_performs` says that every program keeps to
it.
-/

namespace AISummoner.App

open Concurrency Concurrency.Program Store Agent AISummoner.Runtime

inductive Role where
  | createSession
  | deleteSession
  | archiveSession
  | configuration
  | startTurn
  | decide
  | closeAgent
  | runTurn
  | invoke
  | sink
  | settings
  | serveTransport
  | unpair
  | cancelTerminals
  | invalidateAgent
  | terminal
  | other
  deriving DecidableEq, Repr

def Goroutine.role : Goroutine → Role
  | .createSession .. => .createSession
  | .deleteSession .. => .deleteSession
  | .setSessionArchived .. => .archiveSession
  | .sessionModels .. | .selectSessionModel .. => .configuration
  | .startTurn .. => .startTurn
  | .decide .. => .decide
  | .closeAgent => .closeAgent
  | .runTurn .. => .runTurn
  | .invoke .. => .invoke
  | .sink .. => .sink
  | .updateSettings .. | .updateSessionApprovalMode .. => .settings
  | .serveTransport .. => .serveTransport
  | .unpair .. => .unpair
  | .cancelTerminals .. => .cancelTerminals
  | .invalidateAgent .. => .invalidateAgent
  | .terminal .. => .terminal
  | _ => .other

def statementPerformers : Statement → Option (List Role)
  | .createAgentSession _ => some [.createSession]
  | .deleteAgentSessionByOwner _ _ => some [.deleteSession]
  | .updateArchived .. => some [.archiveSession]
  | .updateAgentSessionState .. => some [.startTurn, .runTurn, .invoke]
  | .beginTurn .. => some [.startTurn]
  | .upsertAgentSettings .. | .updateApprovalMode .. => some [.settings]
  | .updateAgentExternalSessionID .. => some [.configuration, .startTurn, .sink]
  | .createAgentMessage .. => some [.startTurn, .runTurn]
  | .decideAgentToolCall .. => some [.decide]
  | .createAgentToolCall .. | .agentToolCallByOwner .. | .failPendingToolCall .. | .startToolCall ..
  | .finishToolCall .. => some [.invoke]
  | .upsertDevice _ => some [.serveTransport]
  | .unpairDevice .. => some [.unpair]
  | _ => none

def mutators : List Role :=
  [.createSession, .deleteSession, .archiveSession, .configuration, .settings, .startTurn, .decide]

def payloadPerformers : Payload → List Role
  | .sessionState _ => [.runTurn, .invoke]
  | .providerState _ | .reasoningDelta _ | .textDelta _ => [.sink]
  | .reasoningDone _ | .textDone _ | .turnCompleted | .turnFailed .. => [.runTurn]
  | .toolPending .. | .toolStarted .. | .toolOutput .. | .toolCompleted .. => [.invoke]

def observationPerformers : Observation → List Role
  | .publishing _ payload => payloadPerformers payload
  | .waited .. | .finished .. | .exec _ => [.invoke]
  | .startTurnReply _ => [.startTurn]

def agentPerformers : AgentOperation → Option (List Role)
  | .beginMutation | .endMutation => some mutators
  | .publish event => some (payloadPerformers event.payload)
  | .transcript _ => some [.runTurn]
  | .appendReasoning .. | .appendText .. | .endSink _ => some [.sink]
  | .reserveSessionConfiguration _ | .releaseSessionConfiguration _ => some [.configuration]
  | .reserveTurn .. => some [.startTurn]
  | .releaseTurn _ => some [.startTurn, .runTurn]
  | .beginRun .. | .endRun _ => some [.runTurn]
  | .installPending .. | .removePending _ | .sendDecision .. | .awaitDecision .. | .acquireGate ..
  | .releaseGate _ | .invoker _ | .upgradeApprovalMode _ | .endInvoke _ => some [.invoke]
  | .deliverDecision .. => some [.decide]
  | .setArchived .. => some [.archiveSession]
  | .setDeleted .. => some [.deleteSession]
  | .markDeviceRevoked .. => some [.unpair, .invalidateAgent]
  | .close | .awaitMutations | .awaitTurns | .finishClose => some [.closeAgent]
  | _ => none

def tunnelPerformers : TunnelOperation → Option (List Role)
  | .newConnection .. | .register _ => some [.serveTransport]
  | .detachDevice _ => some [.unpair]
  | .acquireSetup .. | .releaseSetup _ | .returnStream .. => some [.invoke, .terminal]
  | _ => none

def terminalPerformers : TerminalOperation → Option (List Role)
  | .deviceGeneration _ | .admitSession .. | .release _ => some [.terminal]
  | .cancelDevice _ => some [.cancelTerminals]
  | _ => none

/-- The goroutines an operation belongs to; `none` if any may perform it. -/
def performers : Operation → Option (List Role)
  | .store _ site (.agentSessionByOwner ..) =>
    if site = .admission ∨ site = .begin ∨ site = .reread then some [.startTurn] else none
  | .store _ _ statement => statementPerformers statement
  | .newID kind =>
    if kind = "tool" then some [.invoke] else if kind = "ags" then some [.createSession] else none
  | .agent operation => agentPerformers operation
  | .gate _ => some [.serveTransport, .unpair]
  | .tunnel operation => tunnelPerformers operation
  | .terminal operation => terminalPerformers operation
  | .remoteCommand _ => some [.invoke]
  | .observe observation => some (observationPerformers observation)
  | _ => none

def Role.mayPerform (role : Role) (operation : Operation) : Prop :=
  (performers operation).all fun roles => role ∈ roles

/-- Who starts a goroutine that the outside cannot start. -/
def spawnedBy : Goroutine → Option Role
  | .runTurn .. => some .startTurn
  | .joinTunnel _ | .cancelTerminals _ | .invalidateAgent .. => some .unpair
  | .reapConnection _ => some .serveTransport
  | _ => none

def Role.maySpawn (role : Role) (child : Goroutine) : Prop :=
  match child with
  | .heartbeatLoop .. => role = .serveTransport ∨ role = .other
  | _ => spawnedBy child = some role

theorem mayPerform_of_open {role : Role} {op : Operation}
    (hun : performers op = none) : role.mayPerform op := by
  simp [Role.mayPerform, hun]

/-- The operations `OpenSSH` needs besides those that belong to nobody. -/
structure OpensStreams (allowed : Operation → Prop) (ctx : Context) : Prop where
  acquires : ∀ connection, allowed (.tunnel (.acquireSetup connection ctx))
  releases : ∀ connection, allowed (.tunnel (.releaseSetup connection))
  returns : ∀ connection, allowed (.tunnel (.returnStream connection ctx))

/-! ## Streams and commands

Whoever may perform what belongs to nobody may run these, given the few operations named
in their lemmas. -/

section Streams

variable {al : Operation → Prop} {sw : Goroutine → Prop} {ctx : Context} {did : String}
  (hun : ∀ op, performers op = none → al op)
include hun

theorem performs_executionCanceled {sid : String} :
    (Service.executionCanceled ctx sid).performs al sw := by
  refine ⟨hun _ rfl, fun ed => ?_⟩
  cases ed with
  | some _ => trivial
  | none => exact ⟨hun _ rfl, fun _ => trivial⟩

variable (streams : OpensStreams al ctx)
include streams

theorem performs_openSSH : (Tunnel.openSSH ctx did).performs al sw := by
  refine performs_chain (performs_checkContext.mpr (hun _ rfl)) fun _ =>
    ⟨hun _ rfl, fun sel => ?_⟩
  cases sel with
  | none => trivial
  | some _ =>
    refine ⟨streams.acquires _, fun acquired => ?_⟩
    cases acquired with
    | error err => trivial
    | ok _ =>
      refine ⟨hun _ rfl, fun op => ⟨streams.releases _, fun _ => ?_⟩⟩
      cases op with
      | error err => trivial
      | ok _ =>
        refine performs_chain (performs_freshID.mpr (hun _ rfl)) fun _ =>
          performs_chain ⟨hun _ rfl, fun _ => trivial⟩ fun _ => ⟨streams.returns _, ?_⟩
        intro rt
        cases rt with
        | error err | ok _ => trivial

theorem performs_dial : (SshClient.dial ctx did).performs al sw :=
  performs_chain (performs_checkContext.mpr (hun _ rfl)) fun _ =>
    performs_chain (performs_storedRaw.mpr (hun _ rfl)) fun _ =>
      performs_ite trivial <| performs_chain (performs_openSSH hun streams) fun _ =>
        performs_chain ⟨hun _ rfl, fun _ => trivial⟩ fun _ => trivial

theorem performs_remoteExec {cmd cwd : String} {tg : ExecutionTarget}
    (commands : ∀ cn, al (.remoteCommand cn)) :
    (SshClient.exec ctx did tg cmd cwd).performs al sw :=
  performs_ite trivial <| performs_ite trivial <|
    performs_chain (performs_dial hun streams) fun _ => ⟨commands _, fun _ =>
      performs_chain (performs_checkContext.mpr (hun _ rfl)) fun _ => trivial⟩

theorem performs_openPTY : (SshClient.openPTY ctx did).performs al sw :=
  performs_chain (performs_dial hun streams) fun _ =>
    performs_chain ⟨hun _ rfl, fun _ => trivial⟩ fun _ => trivial

end Streams

end AISummoner.App
