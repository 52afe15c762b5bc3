import AISummoner.Concurrency.Program
import AISummoner.Store.Agent

/-! # The store as a set of calls

One statement, or one `BeginTx`..`Commit` block, runs at a time: `Statement` names
those units, and a store method is a program over them.  A `StoreCall` is one method
with its arguments; a history of calls is run one after another, each statement
under whatever fault the storage engine shows.
-/

namespace AISummoner.Store

open Concurrency (Program Signature)

inductive Statement where
  | upsertDevice (device : Device)
  | deviceByID (deviceID : String)
  | deviceByOwner (ownerUserID deviceID : String)
  | devicesByOwner (ownerUserID : String)
  | updateDeviceLastSeen (deviceID : String) (now : Time)
  | unpairDevice (ownerUserID deviceID : String) (now : Time)
  | createPairingCode (pairing : PairingCode) (now : Time)
  | claimPairing (userID : String) (digest : Bytes) (now : Time)
  | createAgentSession (session : AgentSession)
  | agentSessionByOwner (ownerUserID sessionID : String)
  | agentSessionByManagingOwner (ownerUserID sessionID : String)
  | agentSnapshotByOwner (ownerUserID sessionID : String)
  | latestAgentSnapshotByDeviceOwner (ownerUserID deviceID : String)
  | recentAgentSessionsByDeviceOwner (ownerUserID deviceID : String)
  | archivedAgentSessionsByOwner (ownerUserID : String)
  | agentSettingsByOwner (ownerUserID : String)
  | upsertAgentSettings (ownerUserID : String) (approvalMode : ApprovalMode) (now : Time)
  | updateApprovalMode (ownerUserID sessionID : String) (approvalMode : ApprovalMode) (now : Time)
  | updateArchived (ownerUserID sessionID : String) (archived : Bool) (now : Time)
  | deleteAgentSessionByOwner (ownerUserID sessionID : String)
  | updateAgentSessionState (ownerUserID sessionID : String) (state : SessionState) (now : Time)
  | beginTurn (ownerUserID sessionID : String) (now : Time)
  | updateAgentExternalSessionID (ownerUserID sessionID externalSessionID : String) (now : Time)
  | createAgentMessage (ownerUserID : String) (message : AgentMessage)
  | createAgentToolCall (ownerUserID : String) (toolCall : ToolCall)
  | agentToolCallByOwner (ownerUserID toolCallID : String)
  | decideAgentToolCall (ownerUserID toolCallID : String) (decision : Decision) (now : Time)
  | failPendingToolCall (ownerUserID toolCallID : String) (outputExcerpt : Bytes) (now : Time)
  | startToolCall (ownerUserID toolCallID : String)
  | finishToolCall (ownerUserID toolCallID : String) (status : ToolStatus) (exitCode : Option Int)
      (outputExcerpt : Option Bytes) (now : Time)
  deriving DecidableEq, Repr

@[reducible] def Statement.Result : Statement → Type
  | .upsertDevice _ => Unit
  | .deviceByID _ => Device
  | .deviceByOwner _ _ => Device
  | .devicesByOwner _ => List Device
  | .updateDeviceLastSeen _ _ => Unit
  | .unpairDevice _ _ _ => UnpairResult
  | .createPairingCode _ _ => Unit
  | .claimPairing _ _ _ => Device
  | .createAgentSession _ => Unit
  | .agentSessionByOwner _ _ => AgentSession
  | .agentSessionByManagingOwner _ _ => AgentSession
  | .agentSnapshotByOwner _ _ => AgentSnapshot
  | .latestAgentSnapshotByDeviceOwner _ _ => AgentSnapshot
  | .recentAgentSessionsByDeviceOwner _ _ => List AgentSessionSummary
  | .archivedAgentSessionsByOwner _ => List AgentSessionSummary
  | .agentSettingsByOwner _ => AgentSettings
  | .upsertAgentSettings _ _ _ => Unit
  | .updateApprovalMode _ _ _ _ => Nat
  | .updateArchived _ _ _ _ => Nat
  | .deleteAgentSessionByOwner _ _ => AgentSession
  | .updateAgentSessionState _ _ _ _ => Unit
  | .beginTurn _ _ _ => Nat
  | .updateAgentExternalSessionID _ _ _ _ => Unit
  | .createAgentMessage _ _ => Unit
  | .createAgentToolCall _ _ => Unit
  | .agentToolCallByOwner _ _ => ToolCall
  | .decideAgentToolCall _ _ _ _ => ToolCall × AgentSession
  | .failPendingToolCall _ _ _ _ => Nat
  | .startToolCall _ _ => Nat
  | .finishToolCall _ _ _ _ _ _ => Nat

def Statement.body : (operation : Statement) → Transaction operation.Result
  | .upsertDevice device => Store.upsertDevice device
  | .deviceByID deviceID => Store.deviceByID deviceID
  | .deviceByOwner owner deviceID => Store.deviceByOwner owner deviceID
  | .devicesByOwner owner => Store.devicesByOwner owner
  | .updateDeviceLastSeen deviceID now => Store.updateDeviceLastSeen deviceID now
  | .unpairDevice owner deviceID now => Store.unpairDevice owner deviceID now
  | .createPairingCode pairing now => Store.createPairingCode pairing now
  | .claimPairing userID digest now => Store.claimPairing userID digest now
  | .createAgentSession session => Store.createAgentSession session
  | .agentSessionByOwner owner sessionID => Store.agentSessionByOwner owner sessionID
  | .agentSessionByManagingOwner owner sessionID => Store.agentSessionByManagingOwner owner sessionID
  | .agentSnapshotByOwner owner sessionID => Store.agentSnapshotByOwner owner sessionID
  | .latestAgentSnapshotByDeviceOwner owner deviceID =>
    Store.latestAgentSnapshotByDeviceOwner owner deviceID
  | .recentAgentSessionsByDeviceOwner owner deviceID =>
    Store.recentAgentSessionsByDeviceOwner owner deviceID
  | .archivedAgentSessionsByOwner owner => Store.archivedAgentSessionsByOwner owner
  | .agentSettingsByOwner owner => Store.agentSettingsByOwner owner
  | .upsertAgentSettings owner mode now => Store.upsertAgentSettings owner mode now
  | .updateApprovalMode owner sessionID mode now => Store.updateApprovalMode owner sessionID mode now
  | .updateArchived owner sessionID archived now => Store.updateArchived owner sessionID archived now
  | .deleteAgentSessionByOwner owner sessionID => Store.deleteAgentSessionByOwner owner sessionID
  | .updateAgentSessionState owner sessionID state now =>
    Store.updateAgentSessionState owner sessionID state now
  | .beginTurn owner sessionID now => Store.beginTurn owner sessionID now
  | .updateAgentExternalSessionID owner sessionID externalID now =>
    Store.updateAgentExternalSessionID owner sessionID externalID now
  | .createAgentMessage owner message => Store.createAgentMessage owner message
  | .createAgentToolCall owner toolCall => Store.createAgentToolCall owner toolCall
  | .agentToolCallByOwner owner toolCallID => Store.agentToolCallByOwner owner toolCallID
  | .decideAgentToolCall owner toolCallID decision now =>
    Store.decideAgentToolCall owner toolCallID decision now
  | .failPendingToolCall owner toolCallID excerpt now =>
    Store.failPendingToolCall owner toolCallID excerpt now
  | .startToolCall owner toolCallID => Store.startToolCall owner toolCallID
  | .finishToolCall owner toolCallID status exitCode excerpt now =>
    Store.finishToolCall owner toolCallID status exitCode excerpt now

/-! ## Methods of several statements -/

section Methods

variable {S : Signature} {C : Type}
  (statement : (op : Statement) → Program S C (Except StoreError op.Result))

def registerDevice (device : Device) : Program S C (Except StoreError Device) :=
  (statement (.upsertDevice device)).chain fun _ =>
  statement (.deviceByID device.id)

def updateAgentSettings (ownerUserID : String) (approvalMode : ApprovalMode) (now : Time) :
    Program S C (Except StoreError AgentSettings) :=
  (statement (.upsertAgentSettings ownerUserID approvalMode now)).chain fun _ =>
  statement (.agentSettingsByOwner ownerUserID)

def updateAgentSessionApprovalMode (ownerUserID sessionID : String) (approvalMode : ApprovalMode)
    (now : Time) : Program S C (Except StoreError AgentSession) :=
  (statement (.updateApprovalMode ownerUserID sessionID approvalMode now)).chain
    fun affected =>
  if affected ≠ 1 then
    (statement (.agentSessionByOwner ownerUserID sessionID)).chain fun _ =>
    .done (.error .conflict)
  else statement (.agentSessionByOwner ownerUserID sessionID)

def setAgentSessionArchived (ownerUserID sessionID : String) (archived : Bool) (now : Time) :
    Program S C (Except StoreError AgentSession) :=
  (statement (.updateArchived ownerUserID sessionID archived now)).chain fun affected =>
  if affected ≠ 1 then
    (statement (.agentSessionByManagingOwner ownerUserID sessionID)).chain fun _ =>
    .done (.error .conflict)
  else statement (.agentSessionByManagingOwner ownerUserID sessionID)

def beginAgentTurn (ownerUserID sessionID : String) (now : Time) :
    Program S C (Except StoreError Unit) :=
  (statement (.beginTurn ownerUserID sessionID now)).chain fun affected =>
  if affected ≠ 1 then
    (statement (.agentSessionByOwner ownerUserID sessionID)).chain fun _ =>
    .done (.error .conflict)
  else .done (.ok ())

/-- An error may come with the row the method read after losing to a decision. -/
def failPendingAgentToolCall (ownerUserID toolCallID : String) (outputExcerpt : Bytes) (now : Time) :
    Program S C (Except (StoreError × Option ToolCall) ToolCall) :=
  (statement (.failPendingToolCall ownerUserID toolCallID outputExcerpt now)).bind fun
  | .error failure => .done (.error (failure, none))
  | .ok affected =>
    (statement (.agentToolCallByOwner ownerUserID toolCallID)).bind fun
    | .error failure => .done (.error (failure, none))
    | .ok toolCall =>
      if affected ≠ 1 then .done (.error (.conflict, some toolCall)) else .done (.ok toolCall)

/-- `requireOneRow` of the tool-call updates: a miss is told apart by a lookup. -/
def toolCallConflict (ownerUserID toolCallID : String) (affected : Nat) :
    Program S C (Except StoreError Unit) :=
  if affected ≠ 1 then
    (statement (.agentToolCallByOwner ownerUserID toolCallID)).chain fun _ =>
    .done (.error .conflict)
  else .done (.ok ())

def startAgentToolCall (ownerUserID toolCallID : String) : Program S C (Except StoreError Unit) :=
  (statement (.startToolCall ownerUserID toolCallID)).chain fun affected =>
  toolCallConflict statement ownerUserID toolCallID affected

def finishAgentToolCall (ownerUserID toolCallID : String) (status : ToolStatus)
    (exitCode : Option Int) (outputExcerpt : Option Bytes) (now : Time) :
    Program S C (Except StoreError Unit) :=
  (statement (.finishToolCall ownerUserID toolCallID status exitCode outputExcerpt now)).chain fun affected =>
  toolCallConflict statement ownerUserID toolCallID affected

end Methods

/-! ## Histories of calls -/

/-- The store with nothing built on it: its operations are the statements. -/
@[reducible] def Query : Signature := ⟨Statement, fun operation => Except StoreError operation.Result⟩

instance : Inhabited Fault := ⟨.none⟩

def Query.execute (operation : Statement) (fault : Fault) (db : Db) :
    Except StoreError operation.Result × Db :=
  operation.body.run fault db

def Query.statement (operation : Statement) :
    Program Query Empty (Except StoreError operation.Result) :=
  .perform operation .done

/-- One method of the store with its arguments.  `ctx` arguments are the faults of its statements. -/
inductive StoreCall where
  | registerDevice (device : Device)
  | unpairDevice (ownerUserID deviceID : String) (now : Time)
  | createPairingCode (pairing : PairingCode) (now : Time)
  | claimPairing (userID : String) (digest : Bytes) (now : Time)
  | createAgentSession (session : AgentSession)
  | agentSessionByOwner (ownerUserID sessionID : String)
  | agentSnapshotByOwner (ownerUserID sessionID : String)
  | latestAgentSnapshotByDeviceOwner (ownerUserID deviceID : String)
  | recentAgentSessionsByDeviceOwner (ownerUserID deviceID : String)
  | archivedAgentSessionsByOwner (ownerUserID : String)
  | updateAgentSessionApprovalMode (ownerUserID sessionID : String) (approvalMode : ApprovalMode)
      (now : Time)
  | setAgentSessionArchived (ownerUserID sessionID : String) (archived : Bool) (now : Time)
  | deleteAgentSessionByOwner (ownerUserID sessionID : String)
  | updateAgentSessionState (ownerUserID sessionID : String) (state : SessionState) (now : Time)
  | beginAgentTurn (ownerUserID sessionID : String) (now : Time)
  | updateAgentExternalSessionID (ownerUserID sessionID externalSessionID : String) (now : Time)
  | createAgentMessage (ownerUserID : String) (message : AgentMessage)
  | createAgentToolCall (ownerUserID : String) (toolCall : ToolCall)
  | agentToolCallByOwner (ownerUserID toolCallID : String)
  | decideAgentToolCall (ownerUserID toolCallID : String) (decision : Decision) (now : Time)
  | failPendingAgentToolCall (ownerUserID toolCallID : String) (outputExcerpt : Bytes) (now : Time)
  | startAgentToolCall (ownerUserID toolCallID : String)
  | finishAgentToolCall (ownerUserID toolCallID : String) (status : ToolStatus)
      (exitCode : Option Int) (outputExcerpt : Option Bytes) (now : Time)
  deriving DecidableEq, Repr

/-- Everything of the agent tables a call hands back, and its error. -/
structure Reply where
  error : Option StoreError := none
  device : Option Device := none
  sessions : List AgentSession := []
  summaries : List AgentSessionSummary := []
  messages : List AgentMessage := []
  toolCalls : List ToolCall := []
  revokedAgentSessionIDs : List String := []
  deriving DecidableEq, Repr

def Reply.ofExcept {β : Type} (present : β → Reply) : Except StoreError β → Reply
  | .ok value => present value
  | .error failure => { error := some failure }

def Reply.ofSnapshot (snapshot : AgentSnapshot) : Reply :=
  { sessions := [snapshot.session], messages := snapshot.messages, toolCalls := snapshot.toolCalls }

def Reply.ofFailPending : Except (StoreError × Option ToolCall) ToolCall → Reply
  | .ok toolCall => { toolCalls := [toolCall] }
  | .error (failure, existing) => { error := some failure, toolCalls := existing.toList }

def StoreCall.program : StoreCall → Program Query Empty Reply
  | .registerDevice device =>
    (Store.registerDevice Query.statement device).bind fun result =>
    .done (.ofExcept (fun device => { device := some device }) result)
  | .unpairDevice owner deviceID now =>
    .perform (.unpairDevice owner deviceID now) fun result =>
    .done (.ofExcept (fun result => { revokedAgentSessionIDs := result.revokedAgentSessionIDs }) result)
  | .createPairingCode pairing now =>
    .perform (.createPairingCode pairing now) fun result =>
    .done (.ofExcept (fun _ => {}) result)
  | .claimPairing userID digest now =>
    .perform (.claimPairing userID digest now) fun result =>
    .done (.ofExcept (fun device => { device := some device }) result)
  | .createAgentSession session =>
    .perform (.createAgentSession session) fun result =>
    .done (.ofExcept (fun _ => {}) result)
  | .agentSessionByOwner owner sessionID =>
    .perform (.agentSessionByOwner owner sessionID) fun result =>
    .done (.ofExcept (fun session => { sessions := [session] }) result)
  | .agentSnapshotByOwner owner sessionID =>
    .perform (.agentSnapshotByOwner owner sessionID) fun result =>
    .done (.ofExcept .ofSnapshot result)
  | .latestAgentSnapshotByDeviceOwner owner deviceID =>
    .perform (.latestAgentSnapshotByDeviceOwner owner deviceID) fun result =>
    .done (.ofExcept .ofSnapshot result)
  | .recentAgentSessionsByDeviceOwner owner deviceID =>
    .perform (.recentAgentSessionsByDeviceOwner owner deviceID) fun result =>
    .done (.ofExcept (fun summaries => { summaries := summaries }) result)
  | .archivedAgentSessionsByOwner owner =>
    .perform (.archivedAgentSessionsByOwner owner) fun result =>
    .done (.ofExcept (fun summaries => { summaries := summaries }) result)
  | .updateAgentSessionApprovalMode owner sessionID mode now =>
    (Store.updateAgentSessionApprovalMode Query.statement owner sessionID mode now).bind fun result =>
    .done (.ofExcept (fun session => { sessions := [session] }) result)
  | .setAgentSessionArchived owner sessionID archived now =>
    (Store.setAgentSessionArchived Query.statement owner sessionID archived now).bind fun result =>
    .done (.ofExcept (fun session => { sessions := [session] }) result)
  | .deleteAgentSessionByOwner owner sessionID =>
    .perform (.deleteAgentSessionByOwner owner sessionID) fun result =>
    .done (.ofExcept (fun session => { sessions := [session] }) result)
  | .updateAgentSessionState owner sessionID state now =>
    .perform (.updateAgentSessionState owner sessionID state now) fun result =>
    .done (.ofExcept (fun _ => {}) result)
  | .beginAgentTurn owner sessionID now =>
    (Store.beginAgentTurn Query.statement owner sessionID now).bind fun result =>
    .done (.ofExcept (fun _ => {}) result)
  | .updateAgentExternalSessionID owner sessionID externalID now =>
    .perform (.updateAgentExternalSessionID owner sessionID externalID now) fun result =>
    .done (.ofExcept (fun _ => {}) result)
  | .createAgentMessage owner message =>
    .perform (.createAgentMessage owner message) fun result =>
    .done (.ofExcept (fun _ => {}) result)
  | .createAgentToolCall owner toolCall =>
    .perform (.createAgentToolCall owner toolCall) fun result =>
    .done (.ofExcept (fun _ => {}) result)
  | .agentToolCallByOwner owner toolCallID =>
    .perform (.agentToolCallByOwner owner toolCallID) fun result =>
    .done (.ofExcept (fun toolCall => { toolCalls := [toolCall] }) result)
  | .decideAgentToolCall owner toolCallID decision now =>
    .perform (.decideAgentToolCall owner toolCallID decision now) fun result =>
    .done (.ofExcept (fun (toolCall, session) =>
      { toolCalls := [toolCall], sessions := [session] }) result)
  | .failPendingAgentToolCall owner toolCallID excerpt now =>
    (Store.failPendingAgentToolCall Query.statement owner toolCallID excerpt now).bind fun result =>
    .done (.ofFailPending result)
  | .startAgentToolCall owner toolCallID =>
    (Store.startAgentToolCall Query.statement owner toolCallID).bind fun result =>
    .done (.ofExcept (fun _ => {}) result)
  | .finishAgentToolCall owner toolCallID status exitCode excerpt now =>
    (Store.finishAgentToolCall Query.statement owner toolCallID status exitCode excerpt now).bind
      fun result => .done (.ofExcept (fun _ => {}) result)

/-- Run one call whose statements meet the given faults. -/
def StoreCall.run (call : StoreCall) (faults : List Fault) (db : Db) : Reply × Db :=
  call.program.evaluate Query.execute faults db

def runCalls : List (StoreCall × List Fault) → Db → Db
  | [], db => db
  | (call, faults) :: later, db => runCalls later (call.run faults db).2

theorem runCalls_append (pre k' : List (StoreCall × List Fault)) (db : Db) :
    runCalls (pre ++ k') db = runCalls k' (runCalls pre db) := by
  induction pre generalizing db with
  | nil => rfl
  | cons _ _ ih => exact ih _

theorem performs_toolCallConflict (al : Statement → Prop) {ow cid : String}
    (lookup : al (.agentToolCallByOwner ow cid)) (af : Nat) :
    (toolCallConflict Query.statement ow cid af).performs al (fun _ => False) := by
  exact Program.performs_ite
    (Program.performs_chain ⟨lookup, fun _ => trivial⟩ (fun _ => trivial)) trivial

end AISummoner.Store
