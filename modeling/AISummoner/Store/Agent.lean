import AISummoner.Store.Devices

/-! # Agent sessions, messages and tool calls

The statements and transactions of `internal/store/agent.go`.  The store functions
that follow a statement with a second read are assembled in `Store.Calls`.
-/

namespace AISummoner.Store

open Relational (Table)

def recentAgentSessionLimit : Nat := 50
def agentSessionTitleRunes : Nat := 80
def maxExternalSessionIDBytes : Nat := 512
def maxOutputExcerptBytes : Nat := 8192

/-- `agentSessionOwnershipPredicate`. -/
def Db.agentSessionOwnership (db : Db) (ownerUserID : String) (session : AgentSession) : Bool :=
  decide (session.userID = ownerUserID) && decide (session.state ≠ .revoked) &&
    db.ownedBy session.userID session.deviceID

/-- `agentSessionOwnerPredicate`. -/
def Db.agentSessionOwner (db : Db) (ownerUserID : String) (session : AgentSession) : Bool :=
  db.agentSessionOwnership ownerUserID session && session.archivedAt.isNone

/-- `agentToolOwnerPredicate`. -/
def Db.agentToolOwner (db : Db) (ownerUserID : String) (toolCall : ToolCall) : Bool :=
  (db.agentSessions.get toolCall.sessionID).any (db.agentSessionOwner ownerUserID)

def validAgentSessionState (state : SessionState) : Bool := state ≠ .revoked

/-- `state IN ('idle', 'failed')`. -/
def SessionState.settled : SessionState → Bool
  | .idle | .failed => true
  | .running | .waitingApproval | .revoked => false

/-! ## Sessions -/

/-- `external_session_id` is `UNIQUE`; the row being written does not collide with itself. -/
def Db.externalIDTaken (db : Db) (sessionID : String) (externalSessionID : Option String) : Bool :=
  externalSessionID.isSome && db.agentSessions.rows.any (fun session =>
    decide (session.id ≠ sessionID) && decide (session.externalSessionID = externalSessionID))

def createAgentSession (session : AgentSession) : Transaction Unit := fun db =>
  if session.id = "" ∨ session.userID = "" ∨ session.deviceID = "" ∨ session.provider = "" ∨
      ¬ validAgentSessionState session.state then
    .error (.rejected "invalid agent session")
  else if db.ownedBy session.userID session.deviceID then
    if db.externalIDTaken session.id session.externalSessionID then
      .error (.constraint "create agent session")
    else if db.users.contains session.userID then
      -- the INSERT names every column but archived_at
      match db.agentSessions.insert? { session with archivedAt := none } with
      | some agentSessions => .ok ((), { db with agentSessions })
      | none => .error (.constraint "create agent session")
    else .error (.constraint "create agent session")
  else .error .notFound

/-- `agentSessionByOwnerQuery`. -/
def agentSessionByOwner (ownerUserID sessionID : String) : Transaction AgentSession := fun db =>
  match (db.agentSessions.get sessionID).filter (db.agentSessionOwner ownerUserID) with
  | some session => .ok (session, db)
  | none => .error .notFound

/-- `agentSessionByManagingOwnerQuery`. -/
def agentSessionByManagingOwner (ownerUserID sessionID : String) : Transaction AgentSession := fun db =>
  match (db.agentSessions.get sessionID).filter (db.agentSessionOwnership ownerUserID) with
  | some session => .ok (session, db)
  | none => .error .notFound

/-- The shape shared by every `UPDATE agent_sessions SET ... WHERE id = ? AND <predicate>`:
    the number of rows it matched and the rewritten table. -/
def Db.updateSession (db : Db) (sessionID : String) (condition : AgentSession → Bool)
    (change : AgentSession → AgentSession)
    (keepsKey : ∀ row, (change row).id = row.id := by intro; rfl) : Nat × Db :=
  let matching := fun session : AgentSession => decide (session.id = sessionID) && condition session
  let agentSessions := db.agentSessions.update matching change keepsKey
  (db.agentSessions.affected matching, { db with agentSessions })

def requireOneRow : Nat × Db → Except StoreError (Unit × Db)
  | (affected, db) => if affected = 1 then .ok ((), db) else .error .notFound

def updateApprovalMode (ownerUserID sessionID : String) (approvalMode : ApprovalMode) (now : Time) :
    Transaction Nat := fun db =>
  .ok (db.updateSession sessionID
    (fun session => session.state.settled && db.agentSessionOwner ownerUserID session)
    (fun session => { session with approvalMode := approvalMode, updatedAt := now }))

def updateArchived (ownerUserID sessionID : String) (archived : Bool) (now : Time) : Transaction Nat :=
  fun db => .ok (db.updateSession sessionID
    (fun session => session.state.settled && db.agentSessionOwnership ownerUserID session)
    (fun session => { session with
      archivedAt := if archived then some now else none, updatedAt := now }))

/-- Deleting a session cascades to its messages and tool calls. -/
def Db.dropSession (db : Db) (sessionID : String) : Db :=
  { db with
    agentSessions := db.agentSessions.delete (fun session => session.id = sessionID)
    agentMessages := db.agentMessages.delete (fun message => message.sessionID = sessionID)
    toolCalls := db.toolCalls.delete (fun toolCall => toolCall.sessionID = sessionID) }

def deleteAgentSessionByOwner (ownerUserID sessionID : String) : Transaction AgentSession := fun db =>
  match (db.agentSessions.get sessionID).filter (db.agentSessionOwnership ownerUserID) with
  | none => .error .notFound
  | some session =>
    if session.state.settled then .ok (session, db.dropSession sessionID) else .error .conflict

def updateAgentSessionState (ownerUserID sessionID : String) (state : SessionState) (now : Time) :
    Transaction Unit := fun db =>
  if validAgentSessionState state then
    requireOneRow (db.updateSession sessionID (db.agentSessionOwner ownerUserID)
      (fun session => { session with state := state, updatedAt := now }))
  else .error (.rejected "invalid agent session state")

/-- The `UPDATE` of `BeginAgentTurn`. -/
def beginTurn (ownerUserID sessionID : String) (now : Time) : Transaction Nat := fun db =>
  .ok (db.updateSession sessionID
    (fun session => session.state.settled && db.agentSessionOwner ownerUserID session)
    (fun session => { session with state := .running, updatedAt := now }))

def updateAgentExternalSessionID (ownerUserID sessionID externalSessionID : String) (now : Time) :
    Transaction Unit := fun db =>
  if externalSessionID = "" ∨ externalSessionID.utf8ByteSize > maxExternalSessionIDBytes then
    .error (.rejected "invalid external agent session id")
  else
    let updated := db.updateSession sessionID (db.agentSessionOwner ownerUserID)
      (fun session => { session with externalSessionID := some externalSessionID, updatedAt := now })
    -- a collision can only be reported for a row the UPDATE would write
    if updated.1 = 1 ∧ db.externalIDTaken sessionID (some externalSessionID) then
      .error (.constraint "update external agent session id")
    else requireOneRow updated

/-! ## Messages and snapshots -/

def createAgentMessage (ownerUserID : String) (message : AgentMessage) : Transaction Unit := fun db =>
  if message.id = "" ∨ message.sessionID = "" ∨ message.content = "" then
    .error (.rejected "invalid agent message")
  else if (db.agentSessions.get message.sessionID).any (db.agentSessionOwner ownerUserID) then
    match db.agentMessages.insert? message with
    | some agentMessages => .ok ((), { db with agentMessages })
    | none => .error (.constraint "create agent message")
  else .error .notFound

/-- `ORDER BY created_at, id`. -/
def chronological {ρ : Type} (createdAt : ρ → Time) (id : ρ → String) (rows : List ρ) : List ρ :=
  rows.insertionSort (fun first second =>
    createdAt first < createdAt second ∨ createdAt first = createdAt second ∧ id first ≤ id second)

def Db.agentMessagesByOwner (db : Db) (ownerUserID sessionID : String) : List AgentMessage :=
  if (db.agentSessions.get sessionID).any (db.agentSessionOwner ownerUserID) then
    chronological AgentMessage.createdAt AgentMessage.id
      (db.agentMessages.rows.filter (fun message => message.sessionID = sessionID))
  else []

def Db.agentToolCallsByOwner (db : Db) (ownerUserID sessionID : String) : List ToolCall :=
  chronological ToolCall.createdAt ToolCall.id (db.toolCalls.rows.filter (fun toolCall =>
    decide (toolCall.sessionID = sessionID) && db.agentToolOwner ownerUserID toolCall))

structure AgentSnapshot where
  session : AgentSession
  messages : List AgentMessage
  toolCalls : List ToolCall
  deriving DecidableEq, Repr

def agentSnapshotByOwner (ownerUserID sessionID : String) : Transaction AgentSnapshot := fun db =>
  match (db.agentSessions.get sessionID).filter (db.agentSessionOwner ownerUserID) with
  | none => .error .notFound
  | some session =>
    .ok (⟨session, db.agentMessagesByOwner ownerUserID sessionID,
      db.agentToolCallsByOwner ownerUserID sessionID⟩, db)

/-- `ORDER BY created_at DESC, id DESC LIMIT 1`. -/
def newestSession (sessions : List AgentSession) : Option AgentSession :=
  (sessions.insertionSort (fun first second => second.createdAt < first.createdAt ∨
      second.createdAt = first.createdAt ∧ second.id ≤ first.id)).head?

def latestAgentSnapshotByDeviceOwner (ownerUserID deviceID : String) : Transaction AgentSnapshot :=
  fun db =>
  match newestSession (db.agentSessions.rows.filter (fun session =>
      session.boundTo ownerUserID deviceID && db.agentSessionOwner ownerUserID session)) with
  | none => .error .notFound
  | some session =>
    .ok (⟨session, db.agentMessagesByOwner ownerUserID session.id,
      db.agentToolCallsByOwner ownerUserID session.id⟩, db)

/-! ## Session index -/

/-- `unicode.IsSpace`. -/
def isSpace (character : Char) : Bool :=
  let code := character.toNat
  (9 ≤ code && code ≤ 13) || code == 0x20 || code == 0x85 || code == 0xA0 || code == 0x1680 ||
    (0x2000 ≤ code && code ≤ 0x200A) || code == 0x2028 || code == 0x2029 || code == 0x202F ||
    code == 0x205F || code == 0x3000

/-- `strings.Fields`: the maximal runs of non-space characters.  `current` is
    the reversed run being read. -/
def fields (current : List Char) : List Char → List (List Char)
  | [] => if current = [] then [] else [current.reverse]
  | character :: rest =>
    if isSpace character then
      if current = [] then fields [] rest else current.reverse :: fields [] rest
    else fields (character :: current) rest

/-- `strings.TrimSpace`. -/
def trimSpace (characters : List Char) : List Char :=
  ((characters.dropWhile isSpace).reverse.dropWhile isSpace).reverse

def normalizeAgentSessionTitle (value : List Char) : List Char :=
  let joined := [' '].intercalate (fields [] value)
  if joined = [] then "New conversation".toList
  else if joined.length ≤ agentSessionTitleRunes then joined
  else trimSpace (joined.take (agentSessionTitleRunes - 1)) ++ ['…']

structure AgentSessionSummary where
  id : String
  deviceID : String
  deviceName : String
  approvalMode : ApprovalMode
  provider : String
  state : SessionState
  title : List Char
  createdAt : Time
  updatedAt : Time
  archivedAt : Option Time
  deriving DecidableEq, Repr

/-- SQLite's `substr(value, 1, count)`, which ends at a NUL. -/
def substr (value : List Char) (count : Nat) : List Char :=
  (value.takeWhile (· ≠ Char.ofNat 0)).take count

/-- `substr(content, 1, 512)` of the first user message, or the empty string. -/
def Db.titleSource (db : Db) (sessionID : String) : List Char :=
  match (chronological AgentMessage.createdAt AgentMessage.id (db.agentMessages.rows.filter
      (fun message => decide (message.sessionID = sessionID) && decide (message.role = .user)))).head? with
  | some message => substr message.content.toList 512
  | none => []

/-- The projection of one joined `agent_sessions`/`devices` row. -/
def Db.summarize (db : Db) (session : AgentSession) : Option AgentSessionSummary :=
  (db.devices.get session.deviceID).map (fun device =>
    { id := session.id, deviceID := session.deviceID, deviceName := device.name
      approvalMode := session.approvalMode, provider := session.provider, state := session.state
      title := normalizeAgentSessionTitle (db.titleSource session.id)
      createdAt := session.createdAt, updatedAt := session.updatedAt
      archivedAt := session.archivedAt })

def recentAgentSessionsByDeviceOwner (ownerUserID deviceID : String) :
    Transaction (List AgentSessionSummary) := fun db =>
  let visible := db.agentSessions.rows.filter (fun session =>
    session.boundTo ownerUserID deviceID && db.agentSessionOwner ownerUserID session)
  let ordered := visible.insertionSort (fun first second =>
    second.updatedAt < first.updatedAt ∨ second.updatedAt = first.updatedAt ∧
      (second.createdAt < first.createdAt ∨
        second.createdAt = first.createdAt ∧ second.id ≤ first.id))
  .ok ((ordered.take recentAgentSessionLimit).filterMap db.summarize, db)

def archivedAgentSessionsByOwner (ownerUserID : String) : Transaction (List AgentSessionSummary) :=
  fun db =>
  let archived := db.agentSessions.rows.filter (fun session =>
    session.archivedAt.isSome && db.agentSessionOwnership ownerUserID session)
  let ordered := archived.insertionSort (fun first second =>
    second.archivedAt.getD 0 < first.archivedAt.getD 0 ∨
      second.archivedAt.getD 0 = first.archivedAt.getD 0 ∧ (second.updatedAt < first.updatedAt ∨
          second.updatedAt = first.updatedAt ∧ second.id ≤ first.id))
  .ok ((ordered.take recentAgentSessionLimit).filterMap db.summarize, db)

structure AgentSettings where
  defaultApprovalMode : ApprovalMode
  updatedAt : Option Time
  deriving DecidableEq, Repr

def agentSettingsByOwner (ownerUserID : String) : Transaction AgentSettings := fun db =>
  match db.agentUserSettings.get ownerUserID with
  | some settings =>
    if db.users.contains ownerUserID then
      .ok (⟨settings.defaultApprovalMode, some settings.updatedAt⟩, db)
    else .error .notFound
  | none =>
    if db.users.contains ownerUserID then .ok (⟨.perCommand, none⟩, db) else .error .notFound

/-- The `INSERT ... ON CONFLICT(user_id) DO UPDATE` of `UpdateAgentSettings`. -/
def upsertAgentSettings (ownerUserID : String) (approvalMode : ApprovalMode) (now : Time) :
    Transaction Unit := fun db =>
  if db.users.contains ownerUserID then
    match db.agentUserSettings.insert? ⟨ownerUserID, approvalMode, now⟩ with
    | some agentUserSettings => .ok ((), { db with agentUserSettings })
    | none =>
      let agentUserSettings := db.agentUserSettings.update (fun row => row.userID = ownerUserID)
        (fun row => { row with defaultApprovalMode := approvalMode, updatedAt := now })
      .ok ((), { db with agentUserSettings })
  else .error .notFound

/-! ## Tool calls -/

def createAgentToolCall (ownerUserID : String) (toolCall : ToolCall) : Transaction Unit := fun db =>
  if toolCall.id = "" ∨ toolCall.sessionID = "" ∨ toolCall.name = "" ∨ toolCall.argumentsJSON = [] ∨
      (toolCall.status ≠ .pending ∧ toolCall.status ≠ .started) then
    .error (.rejected "invalid agent tool call")
  else if (db.agentSessions.get toolCall.sessionID).any (db.agentSessionOwner ownerUserID) then
    -- the INSERT writes NULL for every column the lifecycle fills in later
    match db.toolCalls.insert? { toolCall with
        decision := none, exitCode := none, outputExcerpt := none, completedAt := none } with
    | some toolCalls => .ok ((), { db with toolCalls })
    | none => .error (.constraint "create agent tool call")
  else .error .notFound

/-- `agentToolCallByOwnerQuery`. -/
def agentToolCallByOwner (ownerUserID toolCallID : String) : Transaction ToolCall := fun db =>
  match (db.toolCalls.get toolCallID).filter (db.agentToolOwner ownerUserID) with
  | some toolCall => .ok (toolCall, db)
  | none => .error .notFound

/-- The shape shared by every `UPDATE tool_calls SET ... WHERE id = ? AND <predicate> AND
    <owner predicate>`. -/
def Db.updateToolCall (db : Db) (ownerUserID toolCallID : String) (condition : ToolCall → Bool)
    (change : ToolCall → ToolCall)
    (keepsKey : ∀ row, (change row).id = row.id := by intro; rfl) : Nat × Db :=
  let matching := fun toolCall : ToolCall =>
    decide (toolCall.id = toolCallID) && (condition toolCall && db.agentToolOwner ownerUserID toolCall)
  let toolCalls := db.toolCalls.update matching change keepsKey
  (db.toolCalls.affected matching, { db with toolCalls })

def ToolCall.undecided (toolCall : ToolCall) : Bool :=
  decide (toolCall.status = .pending) && toolCall.decision.isNone

/-- Records the single decision and, for `approve_session` only, upgrades the owning session. -/
def decideAgentToolCall (ownerUserID toolCallID : String) (decision : Decision) (now : Time) :
    Transaction (ToolCall × AgentSession) := fun db =>
  let (affected, decided) := db.updateToolCall ownerUserID toolCallID ToolCall.undecided
    (fun toolCall => { toolCall with decision := some decision })
  if affected ≠ 1 then
    match (db.toolCalls.get toolCallID).filter (db.agentToolOwner ownerUserID) with
    | some _ => .error .conflict
    | none => .error .notFound
  else
    match (decided.toolCalls.get toolCallID).filter (decided.agentToolOwner ownerUserID) with
    | none => .error .notFound
    | some toolCall =>
      let (upgraded, final) := if decision = .approveSession then
          decided.updateSession toolCall.sessionID (decided.agentSessionOwner ownerUserID)
            (fun session => { session with approvalMode := .fullAccess, updatedAt := now })
        else (1, decided)
      if upgraded ≠ 1 then .error .notFound
      else
        match (final.agentSessions.get toolCall.sessionID).filter
            (final.agentSessionOwner ownerUserID) with
        | none => .error .notFound
        | some session => .ok ((toolCall, session), final)

/-- The database after the decision, before any upgrade of the session. -/
def Db.recordDecision (db : Db) (owner toolCallID : String) (decision : Decision) : Db :=
  (db.updateToolCall owner toolCallID ToolCall.undecided
    (fun toolCall => { toolCall with decision := some decision })).2

/-- The upgrade that `approve_session` makes in the same transaction. -/
def Db.upgradeSession (db : Db) (owner sessionID : String) (now : Time) : Db :=
  (db.updateSession sessionID (db.agentSessionOwner owner)
    (fun session => { session with approvalMode := .fullAccess, updatedAt := now })).2

/-- The `UPDATE` of `FailPendingAgentToolCall`. -/
def failPendingToolCall (ownerUserID toolCallID : String) (outputExcerpt : Bytes) (now : Time) :
    Transaction Nat := fun db =>
  if outputExcerpt.length > maxOutputExcerptBytes then
    .error (.rejected "tool output excerpt exceeds 8192 bytes")
  else
    .ok (db.updateToolCall ownerUserID toolCallID ToolCall.undecided (fun toolCall => { toolCall with
      status := .failed, outputExcerpt := some outputExcerpt, completedAt := some now }))

/-- The `UPDATE` of `StartAgentToolCall`. -/
def startToolCall (ownerUserID toolCallID : String) : Transaction Nat := fun db =>
  .ok (db.updateToolCall ownerUserID toolCallID
    (fun toolCall => decide (toolCall.status = .pending) &&
      (decide (toolCall.decision = some .approveOnce) || decide (toolCall.decision = some .approveSession)))
    (fun toolCall => { toolCall with status := .started }))

/-- The `fromPredicate` of `FinishAgentToolCall`. -/
def ToolCall.finishableAs (status : ToolStatus) (toolCall : ToolCall) : Bool :=
  match status with
  | .denied => decide (toolCall.status = .pending) && decide (toolCall.decision = some .deny)
  | .failed =>
    -- an undecided pending row must use FailPendingAgentToolCall
    decide (toolCall.status = .started) ||
      (decide (toolCall.status = .pending) && toolCall.decision.isSome)
  | _ => decide (toolCall.status = .started)

def terminalToolStatus : ToolStatus → Bool
  | .completed | .denied | .failed => true
  | .pending | .started => false

/-- The `UPDATE` of `FinishAgentToolCall`. -/
def finishToolCall (ownerUserID toolCallID : String) (status : ToolStatus) (exitCode : Option Int)
    (outputExcerpt : Option Bytes) (now : Time) : Transaction Nat := fun db =>
  if ¬ terminalToolStatus status then .error (.rejected "invalid completed tool status")
  else if outputExcerpt.any (fun excerpt => excerpt.length > maxOutputExcerptBytes) then
    .error (.rejected "tool output excerpt exceeds 8192 bytes")
  else
    .ok (db.updateToolCall ownerUserID toolCallID (ToolCall.finishableAs status) (fun toolCall =>
      { toolCall with
        status := status, exitCode := exitCode, outputExcerpt := outputExcerpt,
        completedAt := some now }))

end AISummoner.Store
