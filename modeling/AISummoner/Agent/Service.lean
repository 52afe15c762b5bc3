import AISummoner.App.Goroutine

/-! # The methods of the Agent service

`internal/agent/service.go`, one definition per method.  What stands between two
operations of a method runs without the service's mutex.  Audit records and log
lines are left out.
-/

namespace AISummoner.Agent.Service

open Concurrency Store AISummoner.Runtime App

/-- `beginMutation`, `mutationContext` and their deferred ends. -/
def mutation {α : Type} (ctx : Context) (body : Context → Code (Except AgentError α)) :
    Code (Except AgentError α) :=
  (agent .beginMutation).chain fun _ =>
  withCancel.bind fun scope =>
  deferring (body (scope :: .root :: ctx)) ((cancel scope).bind fun _ => agent .endMutation)

/-- Work under `cleanupContext`, which no Turn or request can cancel. -/
def cleanup {α : Type} (body : Context → Code α) : Code α :=
  withTimeout.bind fun scope => deferring (body [scope]) (cancel scope)

def publish (sessionID : String) (payload : Payload) : Code Unit :=
  (observe (.publishing sessionID payload)).bind fun _ =>
  (newID "evt").bind fun
  | none => .done ()
  | some id =>
    clock.bind fun now =>
    let event : Event := ⟨id, sessionID, now, payload⟩
    if event.valid then (agent (.publish event)).bind fun _ => .done () else .done ()

def updateSessionState (ownerUserID sessionID : String) (state : SessionState) (attempt : Nat) :
    Code (Except StoreError Unit) :=
  cleanup fun ctx => clock.bind fun now =>
    statement ctx (.attempt attempt) (.updateAgentSessionState ownerUserID sessionID state now)

def persistSessionStateFrom (ownerUserID sessionID : String) (state : SessionState) (attempt : Nat)
    (lastError : StoreError) : Nat → Code (Except StoreError Unit)
  | 0 => .done (.error lastError)
  | remaining + 1 =>
    (updateSessionState ownerUserID sessionID state attempt).bind fun
    | .ok _ => .done (.ok ())
    | .error .notFound => .done (.error .notFound)
    | .error error =>
      persistSessionStateFrom ownerUserID sessionID state (attempt + 1) error remaining

def persistSessionState (ownerUserID sessionID : String) (state : SessionState) :
    Code (Except StoreError Unit) :=
  persistSessionStateFrom ownerUserID sessionID state 0 .unavailable 2

def failTurn (session : AgentSession) (code : String) : Code Unit :=
  (agent (.isRevoked session.id)).bind fun revoked =>
  skipIf revoked <|
    (persistSessionState session.userID session.id .failed).bind fun
    | .error .notFound => .done ()
    -- the second look only decides whether the failure is logged
    | .error _ => (agent (.isRevoked session.id)).bind fun _ => .done ()
    | .ok _ =>
      (publish session.id (.turnFailed code (safeTurnFailureMessage code))).bind fun _ =>
      publish session.id (.sessionState .failed)

/-! ## Adapters and sessions -/

def validProvider (provider : String) : Bool :=
  provider ≠ "" && provider.toList.all fun character =>
    ('a' ≤ character && character ≤ 'z') || character = '_' || character = '-' ||
      ('0' ≤ character && character ≤ '9')

def setAdapter (provider : String) (adapter : Adapter) : Code (Except AgentError Unit) :=
  if provider.utf8ByteSize > 64 || !validProvider provider then .done (.error .invalidRequest)
  else agent (.setAdapter provider adapter)

def requireMode : RequestedMode → Except AgentError ApprovalMode
  | .mode mode => .ok mode
  | .default | .unknown => .error .invalidRequest

/-- The mode of a new session: the requested one, or the owner's default. -/
def sessionApprovalMode (ctx : Context) (ownerUserID : String) :
    RequestedMode → Code (Except AgentError ApprovalMode)
  | .default =>
    (stored ctx (.agentSettingsByOwner ownerUserID)).chain fun settings =>
    .done (.ok settings.defaultApprovalMode)
  | other => .done (requireMode other)

def createSession (ctx : Context) (ownerUserID deviceID : String) (mode : RequestedMode) :
    Code (Except AgentError AgentSession) :=
  mutation ctx fun ctx =>
  (agent .currentProvider).chain fun provider =>
  (sessionApprovalMode ctx ownerUserID mode).chain fun approvalMode =>
  (stored ctx (.deviceByOwner ownerUserID deviceID)).chain fun _ =>
  (tunnel (.isOnline deviceID)).bind fun online =>
  if !online then .done (.error .deviceOffline)
  else
    (freshID "ags").chain fun sessionID =>
    clock.bind fun now =>
    let session : AgentSession :=
      { id := sessionID, userID := ownerUserID, deviceID, approvalMode, provider
        externalSessionID := none, state := .idle, createdAt := now, updatedAt := now
        archivedAt := none }
    (stored ctx (.createAgentSession session)).chain fun _ =>
    .done (.ok session)

/-- The session a Runtime has prepared, with the new identifier persisted. -/
def prepareExternalSession (ctx : Context) (ownerUserID : String) (session : AgentSession) :
    Code (Except AgentError String) :=
  let externalID := session.externalSessionID.getD ""
  (external (.prepareSession session.provider externalID)).chain fun preparedID =>
  if preparedID = "" then .done (.error (.adapter "protocol_error"))
  else if preparedID = externalID then .done (.ok externalID)
  else
    clock.bind fun now =>
    (stored ctx (.updateAgentExternalSessionID ownerUserID session.id preparedID now)).chain fun _ =>
    .done (.ok preparedID)

/-- On success the session stays reserved for configuration. -/
def prepareRuntimeSession (ctx : Context) (ownerUserID sessionID : String) :
    Code (Except AgentError (AgentSession × String)) :=
  (stored ctx (.agentSessionByOwner ownerUserID sessionID)).chain fun session =>
  (stored ctx (.deviceByOwner ownerUserID session.deviceID)).chain fun device =>
  match executionTarget device.platform device.arch with
  | .error error => .done (.error error)
  | .ok _ =>
    (agent (.adapterForProvider session.provider)).bind fun
    | none => .done (.error (.adapter "provider_unavailable"))
    | some adapter =>
      if !adapter.runtimeSession then .done (.error .notFound)
      else
        (agent (.reserveSessionConfiguration session.id)).chain fun _ =>
        (prepareExternalSession ctx ownerUserID session).bind fun
        | .ok externalID => .done (.ok (session, externalID))
        | .error error =>
          (agent (.releaseSessionConfiguration session.id)).bind fun _ => .done (.error error)

def sessionModels (ctx : Context) (ownerUserID sessionID : String) :
    Code (Except AgentError String) :=
  mutation ctx fun ctx =>
  (prepareRuntimeSession ctx ownerUserID sessionID).chain fun (session, externalID) =>
  deferring (external (.models session.provider externalID))
    (agent (.releaseSessionConfiguration session.id))

def maxProviderIDBytes : Nat := 128
def maxModelIDBytes : Nat := 256
def maxReasoningIDBytes : Nat := 64

def validRuntimeText (value : String) (maximum : Nat) : Bool :=
  value ≠ "" && value.utf8ByteSize ≤ maximum && trimSpace value.toList == value.toList

def validModelSelection (selection : ModelSelection) : Bool :=
  validRuntimeText selection.provider maxProviderIDBytes &&
    validRuntimeText selection.model maxModelIDBytes &&
    (selection.reasoningEffort = "" || validRuntimeText selection.reasoningEffort maxReasoningIDBytes)

def selectSessionModel (ctx : Context) (ownerUserID sessionID : String)
    (selection : ModelSelection) : Code (Except AgentError String) :=
  if !validModelSelection selection then .done (.error .invalidRequest)
  else
    mutation ctx fun ctx =>
    (prepareRuntimeSession ctx ownerUserID sessionID).chain fun (session, externalID) =>
    deferring (external (.selectModel session.provider externalID))
      (agent (.releaseSessionConfiguration session.id))

def updateSettings (ctx : Context) (ownerUserID : String) (mode : RequestedMode) :
    Code (Except AgentError AgentSettings) :=
  mutation ctx fun ctx =>
  match requireMode mode with
  | .error error => .done (.error error)
  | .ok approvalMode =>
    clock.bind fun now =>
    (updateAgentSettings (statement ctx .single) ownerUserID approvalMode now).bind fun result =>
    .done (result.mapError mapStoreNotFound)

/-- A conflict means that the session is not settled. -/
def mapConflict : StoreError → AgentError
  | .conflict => .turnInProgress
  | error => mapStoreNotFound error

def updateSessionApprovalMode (ctx : Context) (ownerUserID sessionID : String)
    (mode : RequestedMode) : Code (Except AgentError AgentSession) :=
  mutation ctx fun ctx =>
  match requireMode mode with
  | .error error => .done (.error error)
  | .ok approvalMode =>
    clock.bind fun now =>
    (updateAgentSessionApprovalMode (statement ctx .single) ownerUserID sessionID approvalMode
      now).bind fun result =>
    .done (result.mapError mapConflict)

def setSessionArchived (ctx : Context) (ownerUserID sessionID : String) (archived : Bool) :
    Code (Except AgentError AgentSession) :=
  mutation ctx fun ctx =>
  clock.bind fun now =>
  (setAgentSessionArchived (statement ctx .single) ownerUserID sessionID archived now).bind fun
  | .error error => .done (.error (mapConflict error))
  | .ok session =>
    (agent (.setArchived session.id session.deviceID archived)).bind fun _ =>
    (skipIf (!archived) (agent (.closeSession session.id))).bind fun _ =>
    .done (.ok session)

def deleteSession (ctx : Context) (ownerUserID sessionID : String) :
    Code (Except AgentError Unit) :=
  mutation ctx fun ctx =>
  (statement ctx .single (.deleteAgentSessionByOwner ownerUserID sessionID)).bind fun
  | .error error => .done (.error (mapConflict error))
  | .ok session =>
    (agent (.setDeleted session.id session.deviceID)).bind fun _ =>
    (agent (.closeSession session.id)).bind fun _ =>
    .done (.ok ())

/-! ## Turns -/

/-- What `StartTurn` does after a store error once the session may be running.
    `releaseID` is the session the deferred `releaseTurn` then names. -/
def failAdmission (ownerUserID sessionID : String) (error : StoreError) (releaseID : String) :
    Code (Except (AgentError × String) AgentMessage) :=
  (agent (.isRevoked sessionID)).bind fun revoked =>
  (skipIf revoked
    ((persistSessionState ownerUserID sessionID .failed).bind fun _ => .done ())).bind fun _ =>
  .done (.error (mapStoreNotFound error, releaseID))

/-- `StartTurn` from the reservation of the Turn on. -/
def admitTurn (ctx : Context) (ownerUserID sessionID content : String) (session : AgentSession)
    (adapter : Adapter) (target : ExecutionTarget) (turn : Nat) (scope : Scope) :
    Code (Except (AgentError × String) AgentMessage) :=
  let refuse {ρ : Type} (result : Except AgentError ρ) : Code (Except (AgentError × String) ρ) :=
    .done (result.mapError fun error => (error, session.id))
  ((if adapter.runtimeSession then prepareExternalSession ctx ownerUserID session
    else .done (.ok (session.externalSessionID.getD ""))).bind refuse).chain fun _ =>
  ((if adapter.preflight then external (.preflightTurn session.provider)
    else .done (.ok "")).bind refuse).chain fun _ =>
  ((freshID "msg").bind refuse).chain fun messageID =>
  clock.bind fun now =>
  (beginAgentTurn (statement ctx .begin) ownerUserID session.id now).bind fun
  | .error .conflict => .done (.error (.turnInProgress, session.id))
  | .error error => failAdmission ownerUserID session.id error session.id
  | .ok _ =>
    (statement ctx .reread (.agentSessionByOwner ownerUserID session.id)).bind fun
    -- the variable the deferred call reads now holds the zero session
    | .error error => failAdmission ownerUserID sessionID error ""
    | .ok session =>
      let message : AgentMessage :=
        { id := messageID, sessionID := session.id, role := .user, content, createdAt := now }
      (statement ctx .single (.createAgentMessage ownerUserID message)).bind fun
      | .error error => failAdmission ownerUserID session.id error session.id
      | .ok _ => .fork (.runTurn turn scope session message target) (.done (.ok message))

def startTurn (ctx : Context) (ownerUserID sessionID content : String) :
    Code (Except AgentError AgentMessage) :=
  mutation ctx fun ctx =>
  if !validateMessage content then .done (.error .invalidRequest)
  else
    ((statement ctx .admission (.agentSessionByOwner ownerUserID sessionID)).bind fun result =>
      .done (result.mapError mapStoreNotFound)).chain fun session =>
    (agent (.adapterForProvider session.provider)).bind fun
    | none => .done (.error (.adapter "provider_unavailable"))
    | some adapter =>
      (stored ctx (.deviceByOwner ownerUserID session.deviceID)).chain fun device =>
      match executionTarget device.platform device.arch with
      | .error error => .done (.error error)
      | .ok target =>
        withTimeout.bind fun scope =>
        (agent (.reserveTurn session.id session.deviceID ownerUserID scope)).bind fun
        | .error error => (cancel scope).bind fun _ => .done (.error error)
        | .ok turn =>
          (admitTurn ctx ownerUserID sessionID content session adapter target turn scope).bind fun
          | .ok message => .done (.ok message)
          | .error (error, releaseID) =>
            (cancel scope).bind fun _ =>
            (agent (.releaseTurn releaseID)).bind fun _ =>
            .done (.error error)

def timeOrNow : Option Time → Code Time
  | some time => .done time
  | none => clock

/-- One message of the transcript; an empty text is not stored. -/
def persistMessage (session : AgentSession) (role : MessageRole) (content : String)
    (createdAt : Option Time) : Code (Except AgentError Unit) :=
  if content = "" then .done (.ok ())
  else
    (freshID "msg").chain fun messageID =>
    (timeOrNow createdAt).bind fun time =>
    cleanup fun ctx => storedRaw ctx (.createAgentMessage session.userID
      { id := messageID, sessionID := session.id, role, content, createdAt := time })

def persistTurnTranscript (session : AgentSession) (reasoning text : String)
    (reasoningStartedAt : Option Time) : Code (Except AgentError Unit) :=
  clock.bind fun completedAt =>
  (persistMessage session .reasoning reasoning reasoningStartedAt).chain fun _ =>
  persistMessage session .assistant text (some completedAt)

/-- The error of a Turn whose Adapter has returned: its own, or the context's. -/
def turnOutcome (ctx : Context) : Except AgentError Unit → Code (Except AgentError Unit)
  | .error error => .done (.error error)
  | .ok _ => checkContext ctx

/-- `runTurn` after `Adapter.Run` has returned. -/
def concludeTurn (ctx : Context) (turn : Nat) (session : AgentSession)
    (result : Except AgentError Unit) : Code Unit :=
  (turnOutcome ctx result).bind fun outcome =>
  (agent (.transcript turn)).bind fun (reasoning, text, reasoningStartedAt) =>
  (persistTurnTranscript session reasoning text reasoningStartedAt).bind fun
  | .error _ => failTurn session "PERSISTENCE_FAILURE"
  | .ok _ =>
    (skipIf (reasoning = "") (publish session.id (.reasoningDone reasoning))).bind fun _ =>
    (skipIf (text = "") (publish session.id (.textDone text))).bind fun _ =>
    match outcome with
    | .error error => failTurn session (turnFailureCode error)
    | .ok _ =>
      (persistSessionState session.userID session.id .idle).bind fun
      | .error .notFound => .done ()
      | .error _ => failTurn session "PERSISTENCE_FAILURE"
      | .ok _ =>
        (publish session.id .turnCompleted).bind fun _ =>
        publish session.id (.sessionState .idle)

/-- `runTurn` without its deferred calls. -/
def runTurnBody (turn : Nat) (scope : Scope) (session : AgentSession) (target : ExecutionTarget) :
    Code Unit :=
  let ctx : Context := [scope, .root]
  (publish session.id (.sessionState .running)).bind fun _ =>
  (agent (.adapterForProvider session.provider)).bind fun
  | none => failTurn session "provider_unavailable"
  | some _ =>
    (statement ctx .single (.agentSnapshotByOwner session.userID session.id)).bind fun
    | .error _ =>
      (agent (.isRevoked session.id)).bind fun revoked =>
      skipIf revoked (failTurn session "PERSISTENCE_FAILURE")
    | .ok _ =>
      (agent (.beginRun turn session target)).bind fun _ =>
      (agent (.endRun turn)).bind fun result =>
      concludeTurn ctx turn session result

def runTurn (turn : Nat) (scope : Scope) (session : AgentSession) (target : ExecutionTarget) :
    Code Unit :=
  deferring (runTurnBody turn scope session target)
    ((agent (.releaseTurn session.id)).bind fun _ => cancel scope)

def sink (turn : Nat) (ctx : Context) (ownerUserID sessionID : String) :
    SinkCall → Code (Except AgentError Unit)
  | .reasoningDelta delta =>
    (checkContext ctx).chain fun _ =>
    clock.bind fun now =>
    (agent (.appendReasoning turn delta now)).chain fun text =>
    (publish sessionID (.reasoningDelta text)).bind fun _ => .done (.ok ())
  | .textDelta delta =>
    (checkContext ctx).chain fun _ =>
    (agent (.appendText turn delta)).chain fun text =>
    (publish sessionID (.textDelta text)).bind fun _ => .done (.ok ())
  | .providerState state =>
    (checkContext ctx).chain fun _ =>
    if state = [] ∨ state.length > 128 then .done (.error .invalidRequest)
    else
      match String.fromUTF8? state.toByteArray with
      | none => .done (.error .invalidRequest)
      | some text => (publish sessionID (.providerState text)).bind fun _ => .done (.ok ())
  | .setExternalSessionID externalSessionID =>
    (checkContext ctx).chain fun _ =>
    clock.bind fun now =>
    storedRaw ctx (.updateAgentExternalSessionID ownerUserID sessionID externalSessionID now)

def decide (ctx : Context) (ownerUserID toolCallID : String) (decision : Option Decision) :
    Code (Except AgentError ToolCall) :=
  mutation ctx fun ctx =>
  match decision with
  | none => .done (.error .invalidRequest)
  | some decision =>
    clock.bind fun now =>
    (statement ctx .single (.decideAgentToolCall ownerUserID toolCallID decision now)).bind fun
    | .error .notFound => .done (.error .notFound)
    | .error .conflict => .done (.error (.invalidState ""))
    | .error error => .done (.error (.store error))
    | .ok (toolCall, _) =>
      (agent (.deliverDecision toolCallID toolCall.sessionID ownerUserID decision)).chain fun _ =>
      -- the session is read for the audit record only
      (statement ctx .single (.agentSessionByOwner ownerUserID toolCall.sessionID)).bind fun _ =>
      .done (.ok toolCall)

def subscribe (ctx : Context) (ownerUserID sessionID : String) : Code (Except AgentError Unit) :=
  (stored ctx (.agentSessionByOwner ownerUserID sessionID)).chain fun _ =>
  agent (.subscribe sessionID)

/-! ## Revocation and shutdown -/

def cancelDevice (deviceID : String) : Code Unit :=
  (agent (.deviceScopes deviceID)).bind cancelEach

def markDeviceRevoked (deviceID : String) (sessionIDs : List String) : Code Unit :=
  (agent (.markDeviceRevoked deviceID sessionIDs)).bind cancelEach

def closeSessions : List String → Code Unit
  | [] => .done ()
  | sessionID :: sessionIDs => (agent (.closeSession sessionID)).bind fun _ => closeSessions sessionIDs

/-- Join the Turns, or give up with the context. -/
def awaitTurns (ctx : Context) : List Nat → Code Unit
  | [] => .done ()
  | turn :: turns =>
    (agent (.awaitTurn turn ctx)).bind fun
    | some _ => .done ()
    | none => awaitTurns ctx turns

def invalidateDevice (ctx : Context) (deviceID : String) (sessionIDs : List String) : Code Unit :=
  (markDeviceRevoked deviceID sessionIDs).bind fun _ =>
  (agent (.revokedTurns deviceID)).bind fun turns =>
  (closeSessions sessionIDs).bind fun _ =>
  (cancelEach (turns.map Prod.snd)).bind fun _ =>
  awaitTurns ctx (turns.map Prod.fst)

/-- A second call waits for the first. -/
def close : Code Unit :=
  (agent .close).bind fun
  | false => agent .awaitClosed
  | true =>
    (agent .closeHub).bind fun _ =>
    (agent .awaitMutations).bind fun _ =>
    (agent .awaitTurns).bind fun _ =>
    agent .finishClose

end AISummoner.Agent.Service
