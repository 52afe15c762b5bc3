import AISummoner.Store.Schema

/-! # Devices: registration, lookup, unpairing and pairing

The statements of `internal/store/devices.go`.  `RegisterDevice` is an upsert
followed by a separate `DeviceByID` read, so only its upsert is here;
`UnpairDevice` is one transaction over four tables.
-/

namespace AISummoner.Store

open Relational (Table)

/-- The foreign key `owner_user_id REFERENCES users(id)`. -/
def Db.knowsOwner (db : Db) : Option String → Bool
  | none => true
  | some user => db.users.contains user

def Db.ownedBy (db : Db) (userID deviceID : String) : Bool :=
  (db.devices.get deviceID).any (fun device => device.ownerUserID = some userID)

/-- The `INSERT ... ON CONFLICT(id) DO UPDATE` of `RegisterDevice`. -/
def upsertDevice (device : Device) : Transaction Unit := fun db =>
  if device.id = "" ∨ device.publicKey = [] ∨ device.name = "" ∨ device.platform = "" ∨
      device.arch = "" ∨ device.clientVersion = "" then
    .error (.rejected "device registration fields are required")
  else
    match db.devices.get device.id with
    | some existing =>
      -- the upsert updates only while the stored key is the excluded row's key
      if existing.publicKey = device.publicKey then
        let devices := db.devices.update (fun row => row.id = device.id) (fun row => { row with
          name := device.name, platform := device.platform, arch := device.arch,
          clientVersion := device.clientVersion })
        .ok ((), { db with devices })
      else .error .conflict
    | none =>
      if db.devices.rows.any (fun row => row.publicKey = device.publicKey) then
        .error (.constraint "register device")
      else if db.knowsOwner device.ownerUserID then
        match db.devices.insert? device with
        | some devices => .ok ((), { db with devices })
        | none => .error (.constraint "register device")
      else .error (.constraint "register device")

def deviceByID (deviceID : String) : Transaction Device := fun db =>
  match db.devices.get deviceID with
  | some device => .ok (device, db)
  | none => .error .notFound

def deviceByOwner (ownerUserID deviceID : String) : Transaction Device := fun db =>
  match db.devices.get deviceID with
  | some device => if device.ownerUserID = some ownerUserID then .ok (device, db) else .error .notFound
  | none => .error .notFound

def devicesByOwner (ownerUserID : String) : Transaction (List Device) := fun db =>
  .ok ((db.devices.rows.filter (fun device => device.ownerUserID = some ownerUserID)).insertionSort
    (fun first second => first.createdAt ≤ second.createdAt), db)

def updateDeviceLastSeen (deviceID : String) (at_ : Time) : Transaction Unit := fun db =>
  if db.devices.affected (fun row => row.id = deviceID) = 1 then
    let devices := db.devices.update (fun row => row.id = deviceID)
      (fun row => { row with lastSeenAt := some at_ })
    .ok ((), { db with devices })
  else .error .notFound

/-! ## Unpairing -/

def deviceUnpairedToolExcerpt : Bytes := "device unpaired".toUTF8.data.toList

/-- `UPDATE pairing_codes SET consumed_at = ? WHERE device_id = ? AND consumed_at IS NULL`. -/
def Db.consumeCodes (db : Db) (deviceID : String) (now : Time) : Db :=
  let pairingCodes := db.pairingCodes.update
    (fun code => decide (code.deviceID = deviceID) && code.consumedAt.isNone)
    (fun code => { code with consumedAt := some now })
  { db with pairingCodes }

/-- The sessions `UnpairDevice` selects: all of the owner's sessions on the
    device, whatever their state. -/
def AgentSession.boundTo (ownerUserID deviceID : String) (session : AgentSession) : Bool :=
  decide (session.userID = ownerUserID) && decide (session.deviceID = deviceID)

def Db.revokeSessions (db : Db) (ownerUserID deviceID : String) (now : Time) : Db :=
  let agentSessions := db.agentSessions.update (AgentSession.boundTo ownerUserID deviceID)
    (fun session => { session with state := .revoked, updatedAt := now })
  { db with agentSessions }

def Db.terminalizeTools (db : Db) (ownerUserID deviceID : String) (now : Time) : Db :=
  let toolCalls := db.toolCalls.update
    (fun toolCall => (decide (toolCall.status = .pending) || decide (toolCall.status = .started)) &&
      toolCall.completedAt.isNone &&
      (db.agentSessions.get toolCall.sessionID).any (AgentSession.boundTo ownerUserID deviceID))
    (fun toolCall => { toolCall with
      status := .failed, exitCode := none, outputExcerpt := some deviceUnpairedToolExcerpt,
      completedAt := some now })
  { db with toolCalls }

def Db.clearOwner (db : Db) (ownerUserID deviceID : String) : Db :=
  let devices := db.devices.update
    (fun device => decide (device.id = deviceID) && decide (device.ownerUserID = some ownerUserID))
    (fun device => { device with ownerUserID := none, pairedAt := none })
  { db with devices }

structure UnpairResult where
  revokedAgentSessionIDs : List String
  deriving DecidableEq, Repr

def unpairDevice (ownerUserID deviceID : String) (now : Time) : Transaction UnpairResult := fun db =>
  if db.ownedBy ownerUserID deviceID then
    let sessionIDs := ((db.agentSessions.rows.filter (AgentSession.boundTo ownerUserID deviceID)).map
      AgentSession.id).insertionSort (· ≤ ·)
    let changed := (((db.consumeCodes deviceID now).revokeSessions ownerUserID deviceID now).terminalizeTools
      ownerUserID deviceID now).clearOwner ownerUserID deviceID
    -- the guard of the last UPDATE is the guard of the first SELECT, so it touches one row
    .ok (⟨sessionIDs⟩, changed)
  else .error .notFound

/-! ## Pairing codes

The two transactions of `internal/store/pairing.go`.
-/

/-- Replaces any active code for an unowned device. -/
def createPairingCode (pairing : PairingCode) (now : Time) : Transaction Unit := fun db =>
  match db.devices.get pairing.deviceID with
  | none => .error .notFound
  | some device =>
    match device.ownerUserID with
    | some _ => .error .conflict
    | none =>
      let replaced := db.consumeCodes pairing.deviceID now
      if replaced.pairingCodes.rows.any (fun code => code.codeDigest = pairing.codeDigest) then
        .error (.constraint "create pairing code")
      else
        match replaced.pairingCodes.insert? { pairing with consumedAt := none } with
        | some codes => .ok ((), { replaced with pairingCodes := codes })
        | none => .error (.constraint "create pairing code")

/-- `SELECT ... FROM pairing_codes WHERE code_digest = ?`; the column is `UNIQUE`. -/
def Db.codeByDigest (db : Db) (digest : Bytes) : Option PairingCode :=
  db.pairingCodes.rows.find? (fun code => code.codeDigest = digest)

/-- Atomically binds the device and consumes the one-time code. -/
def claimPairing (userID : String) (digest : Bytes) (now : Time) : Transaction Device := fun db =>
  match db.codeByDigest digest with
  | none => .error .pairingInvalid
  | some code =>
    if code.consumedAt.isSome then .error .pairingInvalid
    else if code.expiresAt ≤ now then .error .pairingExpired
    else if db.devices.affected
        (fun device => decide (device.id = code.deviceID) && device.ownerUserID.isNone) ≠ 1 then
      .error .conflict
    else if db.knowsOwner (some userID) then
      let devices := db.devices.update
        (fun device => decide (device.id = code.deviceID) && device.ownerUserID.isNone)
        (fun device => { device with ownerUserID := some userID, pairedAt := some now })
      if db.pairingCodes.affected
          (fun row => decide (row.id = code.id) && row.consumedAt.isNone) ≠ 1 then
        .error .pairingInvalid
      else
        let codes := db.pairingCodes.update
          (fun row => decide (row.id = code.id) && row.consumedAt.isNone)
          (fun row => { row with consumedAt := some now })
        match devices.get code.deviceID with
        | some device => .ok (device, { db with devices := devices, pairingCodes := codes })
        | none => .error .notFound
    else .error (.constraint "bind pairing device")

/-- The database a successful claim of `code` produces. -/
def Db.bindDevice (db : Db) (code : PairingCode) (userID : String) (now : Time) : Db :=
  let devices := db.devices.update
    (fun device => decide (device.id = code.deviceID) && device.ownerUserID.isNone)
    (fun device => { device with ownerUserID := some userID, pairedAt := some now })
  let pairingCodes := db.pairingCodes.update
    (fun row => decide (row.id = code.id) && row.consumedAt.isNone)
    (fun row => { row with consumedAt := some now })
  { db with devices, pairingCodes }

end AISummoner.Store
