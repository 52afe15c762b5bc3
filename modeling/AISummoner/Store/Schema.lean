import AISummoner.Relational.Table

/-! # The persisted state

The rows of the SQLite schema in `migrations/`.  `TEXT` enumerations are inductive
types, `DATETIME` columns hold the Unix nanoseconds written by `encodeTime`, and a
`NULL` column is `none`.  Columns no modelled function reads are left out; of
`users` only the ids remain, for the foreign keys.
-/

namespace AISummoner.Store

open Relational (Table)

abbrev Time := Int

abbrev Bytes := List UInt8

/-- `AgentApprovalPerCommand` and `AgentApprovalFullAccess`. -/
inductive ApprovalMode where
  | perCommand
  | fullAccess
  deriving DecidableEq, Repr

/-- The `AgentSession*` state constants. -/
inductive SessionState where
  | idle
  | running
  | waitingApproval
  | failed
  | revoked
  deriving DecidableEq, Repr

/-- The `ToolCall*` status constants. -/
inductive ToolStatus where
  | pending
  | started
  | completed
  | denied
  | failed
  deriving DecidableEq, Repr

/-- The decisions `DecideAgentToolCall` accepts. -/
inductive Decision where
  | approveOnce
  | approveSession
  | deny
  deriving DecidableEq, Repr

inductive MessageRole where
  | user
  | assistant
  | reasoning
  deriving DecidableEq, Repr

structure Device where
  id : String
  publicKey : Bytes
  ownerUserID : Option String
  name : String
  platform : String
  arch : String
  clientVersion : String
  createdAt : Time
  pairedAt : Option Time
  lastSeenAt : Option Time
  deriving DecidableEq, Repr

structure PairingCode where
  id : String
  deviceID : String
  codeDigest : Bytes
  expiresAt : Time
  consumedAt : Option Time
  createdAt : Time
  deriving DecidableEq, Repr

structure AgentSession where
  id : String
  userID : String
  deviceID : String
  approvalMode : ApprovalMode
  provider : String
  externalSessionID : Option String
  state : SessionState
  createdAt : Time
  updatedAt : Time
  archivedAt : Option Time
  deriving DecidableEq, Repr

structure AgentMessage where
  id : String
  sessionID : String
  role : MessageRole
  content : String
  createdAt : Time
  deriving DecidableEq, Repr

structure ToolCall where
  id : String
  sessionID : String
  name : String
  argumentsJSON : Bytes
  status : ToolStatus
  decision : Option Decision
  exitCode : Option Int
  outputExcerpt : Option Bytes
  createdAt : Time
  completedAt : Option Time
  deriving DecidableEq, Repr

structure AgentUserSettings where
  userID : String
  defaultApprovalMode : ApprovalMode
  updatedAt : Time
  deriving DecidableEq, Repr

structure Db where
  users : List String
  devices : Table Device.id
  pairingCodes : Table PairingCode.id
  agentSessions : Table AgentSession.id
  agentMessages : Table AgentMessage.id
  toolCalls : Table ToolCall.id
  agentUserSettings : Table AgentUserSettings.userID

/-- A freshly migrated database that knows the given users. -/
def Db.empty (users : List String) : Db where
  users := users
  devices := .empty
  pairingCodes := .empty
  agentSessions := .empty
  agentMessages := .empty
  toolCalls := .empty
  agentUserSettings := .empty

/-- The identifiers `id.New` has made for the rows that are there. -/
def Db.identifiers (db : Db) : List String :=
  db.agentSessions.rows.map AgentSession.id ++ db.agentMessages.rows.map AgentMessage.id ++
    db.toolCalls.rows.map ToolCall.id ++ db.pairingCodes.rows.map PairingCode.id

/-! ## Outcomes of a store call -/

/-- The sentinel errors of the package, the validation errors it makes with
    `errors.New`, and the driver errors it wraps. -/
inductive StoreError where
  | notFound
  | conflict
  | pairingInvalid
  | pairingExpired
  | rejected (message : String)
  /-- A `UNIQUE`, foreign-key or primary-key violation reported while doing `step`. -/
  | constraint (step : String)
  /-- The driver, the disk or a canceled context failed the statement. -/
  | unavailable
  deriving DecidableEq, Repr

/-- The body of one statement or of one `BeginTx`..`Commit` block.  An error
    carries no database: the deferred `Rollback` discards the changes. -/
abbrev Transaction (α : Type) := Db → Except StoreError (α × Db)

/-- What the storage engine does to a statement or commit. -/
inductive Fault where
  /-- It runs and its outcome is reported. -/
  | none
  /-- It fails without effect. -/
  | lost
  /-- It takes effect, but an error is reported. -/
  | unacknowledged
  deriving DecidableEq, Repr

def Transaction.run {α : Type} (body : Transaction α) (fault : Fault) (db : Db) :
    Except StoreError α × Db :=
  match fault, body db with
  | .none, .ok (value, changed) => (.ok value, changed)
  | .none, .error failure => (.error failure, db)
  | .lost, _ => (.error .unavailable, db)
  | .unacknowledged, .ok (_, changed) => (.error .unavailable, changed)
  | .unacknowledged, .error failure => (.error failure, db)

section Run

variable {α : Type} {body : Transaction α} {ft : Fault} {db : Db}

theorem Transaction.run_ok {v : α} {w : Db}
    (ran : body.run ft db = (.ok v, w)) : body db = .ok (v, w) := by
  unfold Transaction.run at ran
  split at ran <;> simp_all

theorem Transaction.run_changed :
    (body.run ft db).2 = db ∨ ∃ v, body db = .ok (v, (body.run ft db).2) := by
  unfold Transaction.run
  split <;> simp_all

theorem Transaction.run_error {err : StoreError} (fails : body db = .error err) :
    ∃ er, body.run ft db = (.error er, db) := by
  unfold Transaction.run
  rw [fails]
  cases ft <;> exact ⟨_, rfl⟩

theorem Transaction.run_atomic (atomic : ft ≠ .unacknowledged) :
    (∃ err, body.run ft db = (.error err, db) ∧ (err = .unavailable ∨ body db = .error err)) ∨
    ∃ v w, body.run ft db = (.ok v, w) ∧ body db = .ok (v, w) := by
  unfold Transaction.run
  cases ft with
  | none => cases body db <;> simp
  | lost => simp
  | unacknowledged => exact absurd rfl atomic

end Run

end AISummoner.Store
