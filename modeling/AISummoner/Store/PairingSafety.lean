import AISummoner.Store.Changes

/-! # Ownership through pairing

The calls on the devices and codes tables.  The invariant ties the two together: an
unconsumed code exists only for an unowned device, and at most one per device.
-/

namespace AISummoner.Store

open Relational

variable {db w : Db}

def Db.ownerOf (db : Db) (deviceID : String) : Option String :=
  (db.devices.get deviceID).bind Device.ownerUserID

def Db.consumption (db : Db) (codeID : String) : Option (Option Time) :=
  (db.pairingCodes.get codeID).map PairingCode.consumedAt

def Db.hasCode (db : Db) (code : PairingCode) : Prop :=
  db.pairingCodes.get code.id = some code

structure PairingInvariant (db : Db) : Prop where
  single : ∀ first second, db.hasCode first → db.hasCode second → first.consumedAt = none →
    second.consumedAt = none → first.deviceID = second.deviceID → first = second
  unowned : ∀ code, db.hasCode code → code.consumedAt = none →
    ∃ device, db.devices.get code.deviceID = some device ∧ device.ownerUserID = none
  digest : ∀ first second, db.hasCode first → db.hasCode second →
    first.codeDigest = second.codeDigest → first = second

theorem pairingInvariant_empty (users : List String) : PairingInvariant (Db.empty users) where
  single _ _ present := by cases present
  unowned _ present := by cases present
  digest _ _ present := by cases present

/-- The calls that pair and unpair.  The gateway registers a device without an owner. -/
def StoreCall.pairs : StoreCall → Prop
  | .registerDevice device => device.ownerUserID = none
  | .createPairingCode _ _ | .claimPairing _ _ _ | .unpairDevice _ _ _ => True
  | _ => False

inductive PairingStatement : Statement → Prop where
  | register {device : Device} (unowned : device.ownerUserID = none) :
      PairingStatement (.upsertDevice device)
  | lookup {deviceID : String} : PairingStatement (.deviceByID deviceID)
  | create {pairing : PairingCode} {now : Time} : PairingStatement (.createPairingCode pairing now)
  | claim {userID : String} {digest : Bytes} {now : Time} :
      PairingStatement (.claimPairing userID digest now)
  | unpair {owner deviceID : String} {now : Time} :
      PairingStatement (.unpairDevice owner deviceID now)

variable {now : Time} {fls : List Fault} {dg : Bytes} {call : StoreCall}
  {op : Statement} {device : Device} {uid : String}

theorem StoreCall.main_pairs (prg : call.pairs) : PairingStatement call.main := by
  cases call with
  | registerDevice => exact .register prg
  | unpairDevice => exact .unpair
  | createPairingCode => exact .create
  | claimPairing => exact .claim
  | _ => exact prg.elim

variable {did : String} {code : PairingCode} {v : op.Result}

theorem hasCode_consumeCodes (pr : (db.consumeCodes did now).hasCode code) :
    ∃ s, db.hasCode s ∧ s.codeDigest = code.codeDigest ∧ s.id = code.id ∧
      (code.consumedAt = none → s = code ∧ code.deviceID ≠ did) := by
  simp only [Db.hasCode, Db.consumeCodes, Table.get_update, Option.map_eq_some_iff] at pr
  obtain ⟨s, hl, h⟩ := pr
  have hky := Table.key_of_get hl
  refine ⟨s, by rw [Db.hasCode, hky]; exact hl, ?_⟩
  split at h
  · subst h
    exact ⟨rfl, rfl, fun huc => by cases huc⟩
  next guarded =>
    subst h
    refine ⟨rfl, rfl, fun huc => ⟨rfl, fun hbe => guarded ?_⟩⟩
    simp [hbe, huc]

theorem PairingInvariant.consumeCodes (inv : PairingInvariant db) (did : String)
    (now : Time) : PairingInvariant (db.consumeCodes did now) where
  single first second firstPresent secondPresent firstOpen secondOpen sameDevice := by
    obtain ⟨_, hb1, -, -, firstKept⟩ := hasCode_consumeCodes firstPresent
    obtain ⟨_, hb2, -, -, secondKept⟩ := hasCode_consumeCodes secondPresent
    obtain ⟨rfl, -⟩ := firstKept firstOpen
    obtain ⟨rfl, -⟩ := secondKept secondOpen
    exact inv.single _ _ hb1 hb2 firstOpen secondOpen sameDevice
  unowned code present unconsumed := by
    obtain ⟨_, s, -, -, kept⟩ := hasCode_consumeCodes present
    obtain ⟨rfl, -⟩ := kept unconsumed
    exact inv.unowned _ s unconsumed
  digest first second firstPresent secondPresent sameDigest := by
    obtain ⟨old, hb1, firstDigest, firstID, -⟩ := hasCode_consumeCodes firstPresent
    obtain ⟨o, hb2, secondDigest, secondID, -⟩ := hasCode_consumeCodes secondPresent
    have h := inv.digest old o hb1 hb2
      (by rw [firstDigest, secondDigest, sameDigest])
    -- both rows sit at the same key of the updated table
    have sameID : first.id = second.id := by rw [← firstID, ← secondID, h]
    rw [Db.hasCode, sameID, secondPresent] at firstPresent
    exact (Option.some.inj firstPresent).symm

theorem PairingInvariant.no_open_code
    (hpr : (db.consumeCodes did now).hasCode code) (huc : code.consumedAt = none) :
    code.deviceID ≠ did := by
  obtain ⟨_, -, -, -, kept⟩ := hasCode_consumeCodes hpr
  exact (kept huc).2

/-! ## One statement keeps the invariant -/

theorem PairingInvariant.of_devices (inv : PairingInvariant db)
    (codes : w.pairingCodes = db.pairingCodes)
    (owners : ∀ id device, db.devices.get id = some device → device.ownerUserID = none →
      ∃ k', w.devices.get id = some k' ∧ k'.ownerUserID = none) : PairingInvariant w where
  single first second := by
    simp only [Db.hasCode, codes]
    exact inv.single first second
  unowned code := by
    simp only [Db.hasCode, codes]
    intro hpr huc
    obtain ⟨device, hl, hun⟩ := inv.unowned code hpr huc
    exact owners _ device hl hun
  digest first second := by
    simp only [Db.hasCode, codes]
    exact inv.digest first second

theorem PairingInvariant.register (inv : PairingInvariant db) {v : Unit}
    (ok : (Statement.upsertDevice device).body db = .ok (v, w)) : PairingInvariant w := by
  refine inv.of_devices ((Statement.frame ok).pairingCodes (by simp [Statement.writes])) ?_
  intro id existing hl hun
  have ch := device_change ok id
  rw [hl] at ch
  generalize w.devices.get id = after at ch
  cases ch with
  | kept => exact ⟨existing, rfl, hun⟩
  | refreshed => exact ⟨_, rfl, hun⟩

theorem PairingInvariant.create (inv : PairingInvariant db) {prg : PairingCode}
    {v : Unit} (ok : (Statement.createPairingCode prg now).body db = .ok (v, w)) :
    PairingInvariant w := by
  obtain ⟨device, codes, hf, hun, hdt, hins, rfl⟩ := createPairingCode_ok ok
  have hcs := inv.consumeCodes prg.deviceID now
  obtain ⟨_, -⟩ := Table.insert?_eq_some hins
  -- a code of the new table is the new one or was there after the old ones were consumed
  have hog : ∀ code : PairingCode, codes.get code.id = some code →
      code = { prg with consumedAt := none } ∨
        (db.consumeCodes prg.deviceID now).hasCode code := by
    intro code hpr
    rw [Table.get_of_insert? hins] at hpr
    split at hpr
    · exact .inl (Option.some.inj hpr).symm
    · exact .inr hpr
  have hfr : ∀ code, (db.consumeCodes prg.deviceID now).hasCode code →
      code.codeDigest ≠ prg.codeDigest :=
    fun code hpr => hdt code (Table.mem_of_get hpr)
  constructor
  · intro a b hp1 hp2 firstOpen secondOpen sameDevice
    rcases hog a hp1 with rfl | firstOld <;>
      rcases hog b hp2 with rfl | secondOld
    · rfl
    · exact absurd sameDevice.symm (PairingInvariant.no_open_code secondOld secondOpen)
    · exact absurd sameDevice (PairingInvariant.no_open_code firstOld firstOpen)
    · exact hcs.single a b firstOld secondOld firstOpen secondOpen sameDevice
  · intro code hpr huc
    rcases hog code hpr with rfl | old
    · exact ⟨device, hf, hun⟩
    · exact hcs.unowned code old huc
  · intro a b hp1 hp2 hsd
    rcases hog a hp1 with rfl | firstOld <;>
      rcases hog b hp2 with rfl | secondOld
    · rfl
    · exact absurd hsd.symm (hfr b secondOld)
    · exact absurd hsd (hfr a firstOld)
    · exact hcs.digest a b firstOld secondOld hsd

theorem hasCode_bindDevice {claimed : PairingCode}
    (pr : (db.bindDevice claimed uid now).hasCode code) :
    ∃ s, db.hasCode s ∧ s.codeDigest = code.codeDigest ∧ s.id = code.id ∧
      (code.consumedAt = none → s = code ∧ code.id ≠ claimed.id) := by
  simp only [Db.hasCode, Db.bindDevice, Table.get_update, Option.map_eq_some_iff] at pr
  obtain ⟨s, hl, h⟩ := pr
  have hky := Table.key_of_get hl
  refine ⟨s, by rw [Db.hasCode, hky]; exact hl, ?_⟩
  split at h
  · subst h
    exact ⟨rfl, rfl, fun huc => by cases huc⟩
  next guarded =>
    subst h
    refine ⟨rfl, rfl, fun huc => ⟨rfl, fun hbe => guarded ?_⟩⟩
    simp [hbe, huc]

theorem PairingInvariant.claim (inv : PairingInvariant db)
    (ok : (Statement.claimPairing uid dg now).body db = .ok (device, w)) : PairingInvariant w := by
  obtain ⟨claimed, _, hf, huc, -, -, -, -, rfl, -⟩ := claimPairing_ok ok
  obtain ⟨claimedPresent, -⟩ := codeByDigest_some hf
  constructor
  · intro a b hp1 hp2 firstOpen secondOpen sameDevice
    obtain ⟨_, hb1, -, -, firstKept⟩ := hasCode_bindDevice hp1
    obtain ⟨_, hb2, -, -, secondKept⟩ := hasCode_bindDevice hp2
    obtain ⟨rfl, -⟩ := firstKept firstOpen
    obtain ⟨rfl, -⟩ := secondKept secondOpen
    exact inv.single _ _ hb1 hb2 firstOpen secondOpen sameDevice
  · intro code hpr stillOpen
    obtain ⟨_, s, -, -, kept⟩ := hasCode_bindDevice hpr
    obtain ⟨h, otherCode⟩ := kept stillOpen
    rw [h] at s
    obtain ⟨ow, hl, hun⟩ := inv.unowned code s stillOpen
    -- the claimed device had only the claimed code open
    have otherDevice : code.deviceID ≠ claimed.deviceID := fun sameDevice => otherCode
      (congrArg PairingCode.id (inv.single _ _ s claimedPresent stillOpen huc sameDevice))
    have hky : ow.id = code.deviceID := Table.key_of_get hl
    refine ⟨ow, ?_, hun⟩
    simp [Db.bindDevice, hl, hky, otherDevice]
  · intro a b hp1 hp2 hsd
    obtain ⟨old, hb1, firstDigest, firstID, -⟩ := hasCode_bindDevice hp1
    obtain ⟨o, hb2, secondDigest, secondID, -⟩ := hasCode_bindDevice hp2
    have h := inv.digest old o hb1 hb2
      (by rw [firstDigest, secondDigest, hsd])
    have sameID : a.id = b.id := by rw [← firstID, ← secondID, h]
    rw [Db.hasCode, sameID, hp2] at hp1
    exact (Option.some.inj hp1).symm

theorem PairingInvariant.unpair (inv : PairingInvariant db) {ow : String} {res : UnpairResult}
    (ok : (Statement.unpairDevice ow did now).body db = .ok (res, w)) : PairingInvariant w := by
  obtain ⟨-, rfl, -⟩ := unpairDevice_ok ok
  refine (inv.consumeCodes did now).of_devices rfl ?_
  intro id device l hun
  have hs : db.devices.get id = some device := l
  refine ⟨device, ?_, hun⟩
  simp [Db.clearOwner, Db.terminalizeTools, Db.revokeSessions, Db.consumeCodes, hs, hun]

theorem PairingInvariant.statement (inv : PairingInvariant db)
    (prg : PairingStatement op) (ok : op.body db = .ok (v, w)) : PairingInvariant w := by
  cases prg with
  | register => exact inv.register ok
  | lookup => rw [Statement.unchanged_of_reads rfl ok]; exact inv
  | create => exact inv.create ok
  | claim => exact inv.claim ok
  | unpair => exact inv.unpair ok

/-- How the owner of a device can change: a claim of one of its open codes, or its owner's unpair. -/
inductive OwnerChange (db : Db) (deviceID : String) :
    Statement → Option String → Option String → Prop where
  | kept {operation : Statement} {owner : Option String} : OwnerChange db deviceID operation owner owner
  | claimed {userID : String} {digest : Bytes} {now : Time} {code : PairingCode}
      (found : db.codeByDigest digest = some code) (unconsumed : code.consumedAt = none)
      (unexpired : now < code.expiresAt) (belongs : code.deviceID = deviceID) :
      OwnerChange db deviceID (.claimPairing userID digest now) none (some userID)
  | unpaired {owner : String} {now : Time} :
      OwnerChange db deviceID (.unpairDevice owner deviceID now) (some owner) none

theorem owner_change (prg : PairingStatement op) (ok : op.body db = .ok (v, w)) (did : String) :
    OwnerChange db did op (db.ownerOf did) (w.ownerOf did) := by
  have ch := device_change ok did
  unfold Db.ownerOf
  cases hl : db.devices.get did with
  | none =>
    rw [hl] at ch
    generalize w.devices.get did = after at ch
    cases ch with
    | kept => exact .kept
    | registered =>
      cases prg with
      | register hun => simp [hun]; exact .kept
  | some _ =>
    have hky := Table.key_of_get hl
    rw [hl] at ch
    generalize w.devices.get did = after at ch
    cases ch with
    | kept | refreshed | seen => exact .kept
    | claimed hf huc hux hbe hun =>
      simp only [Option.bind_some, hun]
      exact .claimed hf huc hux (hbe.trans hky)
    | unpaired how =>
      simp only [Option.bind_some, how]
      subst hky
      exact .unpaired

theorem PairingInvariant.claim_ne_conflict (inv : PairingInvariant db) (uid : String)
    (dg : Bytes) (now : Time) : claimPairing uid dg now db ≠ .error .conflict := by
  unfold claimPairing
  cases hf : db.codeByDigest dg with
  | none => simp
  | some code =>
    obtain ⟨hpr, -⟩ := codeByDigest_some hf
    by_cases hcs : code.consumedAt.isSome = true
    · simp [hcs]
    by_cases expired : code.expiresAt ≤ now
    · simp [hcs, expired]
    obtain ⟨device, hl, hun⟩ := inv.unowned code hpr (by simpa using hcs)
    have hsg : db.devices.affected
        (fun row => decide (row.id = code.deviceID) && row.ownerUserID.isNone) = 1 :=
      Table.affected_key_eq_one.mpr ⟨device, hl, by simp [hun]⟩
    simp only [hcs, Bool.false_eq_true, if_false, expired, hsg, ne_eq, not_true_eq_false]
    split
    · split
      · simp
      · split <;> simp
    · simp

/-! ## Calls and histories -/

def Atomic (faults : List Fault) : Prop := ∀ fault ∈ faults, fault ≠ .unacknowledged

theorem Atomic.head (atomic : Atomic fls) : fls.headD default ≠ .unacknowledged := by
  cases fls with
  | nil => exact Fault.noConfusion
  | cons ft _ => exact atomic ft List.mem_cons_self

/-- The owner of a device is kept, or set by a claim of one of its open codes, or cleared by the
    owner's own unpair. -/
def OwnerStep (db : Db) (call : StoreCall) (changed : Db) (deviceID : String) : Prop :=
  changed.ownerOf deviceID = db.ownerOf deviceID ∨
  (∃ userID digest now code, call = .claimPairing userID digest now ∧
    db.codeByDigest digest = some code ∧ code.consumedAt = none ∧ now < code.expiresAt ∧
    code.deviceID = deviceID ∧ db.ownerOf deviceID = none ∧
    changed.ownerOf deviceID = some userID) ∨
  (∃ owner now, call = .unpairDevice owner deviceID now ∧ db.ownerOf deviceID = some owner ∧
    changed.ownerOf deviceID = none)

structure PairingStep (db : Db) (call : StoreCall) (reply : Reply) (changed : Db) : Prop where
  owners : ∀ deviceID, OwnerStep db call changed deviceID
  claims : ∀ userID digest now, call = .claimPairing userID digest now →
    reply.error ≠ some .conflict
  failed : reply.error ≠ none → (∀ deviceID, changed.ownerOf deviceID = db.ownerOf deviceID) ∧
    ∀ codeID, changed.consumption codeID = db.consumption codeID

theorem PairingStep.of_unchanged {reply : Reply} (owners : ∀ did, w.ownerOf did = db.ownerOf did)
    (codes : ∀ codeID, w.consumption codeID = db.consumption codeID)
    (claims : ∀ uid dg now, call = .claimPairing uid dg now →
      reply.error ≠ some .conflict) : PairingStep db call reply w :=
  ⟨fun did => .inl (owners did), claims, fun _ => ⟨owners, codes⟩⟩

theorem register_keeps (hun : device.ownerUserID = none) (fls : List Fault) (db : Db) :
    (∀ did, ((StoreCall.registerDevice device).run fls db).2.ownerOf did = db.ownerOf did) ∧
    ∀ codeID, ((StoreCall.registerDevice device).run fls db).2.consumption codeID =
      db.consumption codeID := by
  refine StoreCall.run_relates (fun s s' => (∀ did, s'.ownerOf did = s.ownerOf did) ∧
      ∀ codeID, s'.consumption codeID = s.consumption codeID)
    (fun call => call = .registerDevice device) (fun _ => ⟨fun _ => rfl, fun _ => rfl⟩) ?_ rfl
    fls db
  intro call v s s' h ok
  subst h
  have codes : s'.pairingCodes = s.pairingCodes :=
    (Statement.frame ok).pairingCodes (by simp [StoreCall.main, Statement.writes])
  refine ⟨fun did => ?_, fun codeID => by rw [Db.consumption, codes, Db.consumption]⟩
  have hch := owner_change (.register hun) ok did
  generalize s.ownerOf did = earlier at hch
  generalize s'.ownerOf did = later at hch
  cases hch
  rfl

theorem PairingStep.of_transaction (op : Statement) {pr : op.Result → Reply}
    (atomic : Atomic fls) (shape : call.run fls db =
      (.ofExcept pr (op.body.run (fls.headD default) db).1,
        (op.body.run (fls.headD default) db).2)) (sl : ∀ v, (pr v).error = none)
    (owners : ∀ v w, op.body db = .ok (v, w) → ∀ did, OwnerStep db call w did)
    (hrf : ∀ uid dg now, call = .claimPairing uid dg now → op.body db ≠ .error .conflict) :
    PairingStep db call (call.run fls db).1 (call.run fls db).2 := by
  rw [shape]
  have hoc : (∃ err, op.body.run (fls.headD default) db = (.error err, db) ∧
        (err = .unavailable ∨ op.body db = .error err)) ∨
      ∃ v w, op.body.run (fls.headD default) db = (.ok v, w) ∧ op.body db = .ok (v, w) :=
    Transaction.run_atomic atomic.head
  rcases hoc with ⟨err, ran, cause⟩ | ⟨v, w, ran, ok⟩
  · rw [ran]
    refine .of_unchanged (fun _ => rfl) (fun _ => rfl) ?_
    intro uid dg now h hrd
    have conflicted : err = .conflict := Option.some.inj hrd
    rcases cause with unavailable | rejected
    · rw [conflicted] at unavailable
      cases unavailable
    · exact hrf uid dg now h (conflicted ▸ rejected)
  · rw [ran]
    have hq : (Reply.ofExcept pr (.ok v)).error = none := sl v
    refine ⟨owners v w ok, fun _ _ _ _ => by simp [hq], fun hrd => ?_⟩
    exact absurd hq hrd

theorem PairingInvariant.step (inv : PairingInvariant db) (prg : call.pairs)
    (atomic : Atomic fls) : PairingStep db call (call.run fls db).1 (call.run fls db).2 := by
  cases call with
  | registerDevice _ =>
    obtain ⟨owners, codes⟩ := register_keeps prg fls db
    exact .of_unchanged owners codes (fun _ _ _ h => by cases h)
  | createPairingCode code now =>
    refine .of_transaction (.createPairingCode code now) atomic rfl (fun _ => rfl) ?_
      (fun _ _ _ h => by cases h)
    intro v w ok did
    have devices := (Statement.frame ok).devices (by simp [Statement.writes])
    exact .inl (by rw [Db.ownerOf, devices, Db.ownerOf])
  | claimPairing uid dg now =>
    refine .of_transaction (.claimPairing uid dg now) atomic rfl (fun _ => rfl) ?_
      (fun _ _ _ _ => inv.claim_ne_conflict uid dg now)
    intro v w ok did
    have ch := owner_change .claim ok did
    unfold OwnerStep
    generalize db.ownerOf did = earlier at ch
    generalize w.ownerOf did = later at ch
    cases ch with
    | kept => exact .inl rfl
    | claimed hf huc hux hbe =>
      exact .inr (.inl ⟨_, _, _, _, rfl, hf, huc, hux, hbe, rfl, rfl⟩)
  | unpairDevice ow did now =>
    refine .of_transaction (.unpairDevice ow did now) atomic rfl (fun _ => rfl) ?_
      (fun _ _ _ h => by cases h)
    intro v w ok o
    have ch := owner_change .unpair ok o
    unfold OwnerStep
    generalize db.ownerOf o = earlier at ch
    generalize w.ownerOf o = later at ch
    cases ch with
    | kept => exact .inl rfl
    | unpaired => exact .inr (.inr ⟨_, _, rfl, rfl, rfl⟩)
  | _ => exact prg.elim

theorem PairingInvariant.runCalls {hist : List (StoreCall × List Fault)}
    (hprg : ∀ e ∈ hist, e.1.pairs) (inv : PairingInvariant db) :
    PairingInvariant (Store.runCalls hist db) := by
  refine runCalls_relates (fun s s' => PairingInvariant s → PairingInvariant s') _
    (fun _ h => h) ?_ (fun _ _ _ early late start => late (early start)) hprg db inv
  intro _ v s s' rule ok start
  exact start.statement (StoreCall.main_pairs rule) ok

/-- A consumed code stays in the table, consumed, under its digest. -/
def Db.spent (db : Db) (digest : Bytes) : Prop :=
  ∃ code, db.hasCode code ∧ code.codeDigest = digest ∧ code.consumedAt.isSome = true

theorem spent_runCalls (hist : List (StoreCall × List Fault)) (spent : db.spent dg) :
    (runCalls hist db).spent dg := by
  refine runCalls_relates (fun s s' => s.spent dg → s'.spent dg)
    (fun _ => True) (fun _ h => h) ?_ (fun _ _ _ early late start => late (early start))
    (fun _ _ => trivial) db spent
  rintro call v s s' - ok ⟨code, hpr, hsd, hcs⟩
  have ch := code_change ok code.id
  rw [hpr] at ch
  generalize hl : s'.pairingCodes.get code.id = later at ch
  generalize call.main = op at ch
  cases ch with
  | kept => exact ⟨code, hl, hsd, hcs⟩
  | replaced _ huc | claimed _ huc | unpaired huc =>
    simp [huc] at hcs

theorem PairingInvariant.spent_of_claim
    (ok : claimPairing uid dg now db = .ok (device, w)) : w.spent dg := by
  obtain ⟨code, -, hf, huc, -, -, -, -, rfl, -⟩ := claimPairing_ok ok
  obtain ⟨hpr, rfl⟩ := codeByDigest_some hf
  refine ⟨{ code with consumedAt := some now }, ?_, rfl, rfl⟩
  simp [Db.hasCode, Db.bindDevice, hpr, huc]

theorem PairingInvariant.spent_refused (inv : PairingInvariant db) (spent : db.spent dg)
    (uid : String) (now : Time) : claimPairing uid dg now db = .error .pairingInvalid := by
  obtain ⟨code, hpr, hsd, hcs⟩ := spent
  unfold claimPairing
  cases hf : db.codeByDigest dg with
  | none => rfl
  | some o =>
    obtain ⟨otherPresent, otherDigest⟩ := codeByDigest_some hf
    have h := inv.digest o code otherPresent hpr (otherDigest.trans hsd.symm)
    simp [h, hcs]

theorem claim_run_ok (hq : ((StoreCall.claimPairing uid dg now).run fls db).1.error = none) :
    ∃ device, claimPairing uid dg now db =
      .ok (device, ((StoreCall.claimPairing uid dg now).run fls db).2) := by
  change (Reply.ofExcept _ ((claimPairing uid dg now).run (fls.headD default) db).1).error =
    none at hq
  change ∃ device, claimPairing uid dg now db =
    .ok (device, ((claimPairing uid dg now).run (fls.headD default) db).2)
  cases hoc : (claimPairing uid dg now).run (fls.headD default) db with
  | mk res w =>
    rw [hoc] at hq
    cases res with
    | error _ => cases hq
    | ok device => exact ⟨device, Transaction.run_ok hoc⟩

/-- After any history of pairing calls: the invariant holds, the next call moves owners only by a
    claim or an unpair and moves nothing when it fails, and a code that was claimed once is refused
    forever. -/
theorem pairing_safety (users : List String) (history : List (StoreCall × List Fault))
    (pairing : ∀ entry ∈ history, entry.1.pairs) (call : StoreCall) (next : call.pairs)
    (faults : List Fault) (atomic : Atomic faults) :
    PairingInvariant (runCalls history (Db.empty users)) ∧
    PairingStep (runCalls history (Db.empty users)) call
      (call.run faults (runCalls history (Db.empty users))).1
      (call.run faults (runCalls history (Db.empty users))).2 ∧
    ∀ userID digest now, call = .claimPairing userID digest now →
      (call.run faults (runCalls history (Db.empty users))).1.error = none →
      ∀ later : List (StoreCall × List Fault), (∀ entry ∈ later, entry.1.pairs) →
      ∀ otherUser otherNow otherFaults,
        ((StoreCall.claimPairing otherUser digest otherNow).run otherFaults
          (runCalls later (call.run faults (runCalls history (Db.empty users))).2)).1.error ≠ none := by
  have invariant := (pairingInvariant_empty users).runCalls pairing
  refine ⟨invariant, invariant.step next atomic, ?_⟩
  rintro userID digest now rfl quiet later laterPairing otherUser otherNow otherFaults claimedAgain
  obtain ⟨device, accepted⟩ := claim_run_ok quiet
  have afterClaim : PairingInvariant _ := invariant.claim accepted
  have spent := spent_runCalls later (PairingInvariant.spent_of_claim accepted)
  obtain ⟨again, acceptedAgain⟩ := claim_run_ok claimedAgain
  rw [(afterClaim.runCalls laterPairing).spent_refused spent] at acceptedAgain
  cases acceptedAgain

/-- Alice claims a device by its code and unpairs it; Bob presents the code again. -/
theorem pairing_safety_code_reused :
    ((StoreCall.claimPairing "bob" [7] 4).run []
      (runCalls [(.unpairDevice "alice" "device" 3, [])]
        ((StoreCall.claimPairing "alice" [7] 2).run []
          (runCalls [(.registerDevice ⟨"device", [1], none, "laptop", "linux", "amd64", "1", 0, none, none⟩, []),
            (.createPairingCode ⟨"code", "device", [7], 100, none, 1⟩ 1, [])]
            (Db.empty ["alice", "bob"]))).2)).1.error ≠ none :=
  (pairing_safety ["alice", "bob"]
    [(.registerDevice ⟨"device", [1], none, "laptop", "linux", "amd64", "1", 0, none, none⟩, []),
      (.createPairingCode ⟨"code", "device", [7], 100, none, 1⟩ 1, [])]
    (by simp [StoreCall.pairs]) (.claimPairing "alice" [7] 2) trivial [] (by simp [Atomic])).2.2
    "alice" [7] 2 rfl (by decide) [(.unpairDevice "alice" "device" 3, [])]
    (by simp [StoreCall.pairs]) "bob" 4 []

end AISummoner.Store
