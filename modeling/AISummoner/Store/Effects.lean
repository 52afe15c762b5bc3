import AISummoner.Store.Calls

/-! # What a statement can do

One inversion lemma per writing statement: when it succeeds, which guards held and
what the new database is.
-/

namespace AISummoner.Store

open Relational

variable {db w : Db}

/-! ## Shared shapes -/

@[simp] theorem get_updateSession (sid id : String) (cond : AgentSession → Bool)
    (ch : AgentSession → AgentSession) (hkk : ∀ row, (ch row).id = row.id) :
    (db.updateSession sid cond ch hkk).2.agentSessions.get id =
      (db.agentSessions.get id).map (fun ses =>
        if decide (ses.id = sid) && cond ses then ch ses else ses) := by
  simp [Db.updateSession]

@[simp] theorem get_updateToolCall (ow cid id : String) (cond : ToolCall → Bool)
    (ch : ToolCall → ToolCall) (hkk : ∀ row, (ch row).id = row.id) :
    (db.updateToolCall ow cid cond ch hkk).2.toolCalls.get id = (db.toolCalls.get id).map (fun tc =>
        if decide (tc.id = cid) && (cond tc && db.agentToolOwner ow tc) then ch tc else tc) := by
  simp [Db.updateToolCall]

variable {ow cid : String} {v : Unit} {now : Time} {ses : AgentSession}
  {ch : AgentSession → AgentSession} {hkk : ∀ row, (ch row).id = row.id}
  {cond : AgentSession → Bool} {tc : ToolCall} {sid : String}

theorem updateSession_one : (db.updateSession sid cond ch hkk).1 = 1 ↔
      ∃ ses, db.agentSessions.get sid = some ses ∧ cond ses :=
  Table.affected_key_eq_one

theorem updateToolCall_one {cond : ToolCall → Bool} {ch : ToolCall → ToolCall}
    {hkk : ∀ row, (ch row).id = row.id} : (db.updateToolCall ow cid cond ch hkk).1 = 1 ↔
      ∃ tc, db.toolCalls.get cid = some tc ∧ (cond tc && db.agentToolOwner ow tc) :=
  Table.affected_key_eq_one

theorem updateToolCall_written {cond : ToolCall → Bool} {ch : ToolCall → ToolCall}
    {hkk : ∀ row, (ch row).id = row.id} (one : (db.updateToolCall ow cid cond ch hkk).1 = 1) :
    ∃ row, db.toolCalls.get cid = some row ∧ cond row ∧
      (db.updateToolCall ow cid cond ch hkk).2.toolCalls.get cid = some (ch row) := by
  obtain ⟨row, hf, hg⟩ := updateToolCall_one.mp one
  have hky : row.id = cid := Table.key_of_get hf
  rw [Bool.and_eq_true] at hg
  refine ⟨row, hf, hg.1, ?_⟩
  rw [get_updateToolCall, hf]
  simp [hky, hg.1, hg.2]

theorem updateSession_written (one : (db.updateSession sid cond ch hkk).1 = 1) :
    ∃ row, db.agentSessions.get sid = some row ∧ cond row ∧
      (db.updateSession sid cond ch hkk).2.agentSessions.get sid = some (ch row) := by
  obtain ⟨row, hf, hg⟩ := updateSession_one.mp one
  have hky : row.id = sid := Table.key_of_get hf
  refine ⟨row, hf, hg, ?_⟩
  rw [get_updateSession, hf]
  simp [hky, hg]

theorem updateSession_of_none
    (unmatched : ∀ row, db.agentSessions.get sid = some row → cond row = false) :
    db.updateSession sid cond ch hkk = (0, db) := by
  have missed : ∀ row ∈ db.agentSessions.rows,
      (decide (row.id = sid) && cond row) = false := by
    intro row hm
    by_cases hn : row.id = sid
    · subst hn
      simp [unmatched row (Table.get_of_mem hm)]
    · simp [hn]
  simp only [Db.updateSession, Table.affected, Prod.mk.injEq]
  refine ⟨List.countP_eq_zero.mpr fun row hm => ?_, ?_⟩
  · simp [missed row hm]
  · rw [Table.update_of_none missed]

theorem requireOneRow_ok {updated : Nat × Db} (ok : requireOneRow updated = .ok (v, w)) :
    updated.1 = 1 ∧ w = updated.2 := by
  obtain ⟨_, _⟩ := updated
  simp only [requireOneRow] at ok
  split at ok
  · cases ok; exact ⟨‹_›, rfl⟩
  · cases ok

section Guards

variable {ε α : Type} {gd : Prop} [Decidable gd] {err : ε} {rest : Except ε α} {res : α}

theorem refuse_eq_ok : (if gd then .error err else rest) = .ok res ↔ ¬gd ∧ rest = .ok res := by
  split <;> simp [*]

theorem require_eq_ok : (if gd then rest else .error err) = .ok res ↔ gd ∧ rest = .ok res := by
  split <;> simp [*]

end Guards

theorem filter_get_some {ρ : Type} {key : ρ → String} {tb : Table key} {id : String}
    {cond : ρ → Bool} {row : ρ} (hf : (tb.get id).filter cond = some row) :
    tb.get id = some row ∧ cond row := by
  simpa [Option.filter_eq_some_iff] using hf

variable {dev : Device} {dec : Decision} {af : Nat}

theorem upsertDevice_ok (ok : upsertDevice dev db = .ok (v, w)) :
    (∃ existing, db.devices.get dev.id = some existing ∧ w = { db with
      devices := db.devices.update (fun row => row.id = dev.id) (fun row => { row with
        name := dev.name, platform := dev.platform, arch := dev.arch,
        clientVersion := dev.clientVersion }) }) ∨
    (∃ devices, db.devices.insert? dev = some devices ∧
      db.knowsOwner dev.ownerUserID ∧ w = { db with devices }) := by
  simp only [upsertDevice, refuse_eq_ok] at ok
  obtain ⟨_, ok⟩ := ok
  split at ok
  next existing found =>
    cases (require_eq_ok.mp ok).2
    exact .inl ⟨existing, found, rfl⟩
  next =>
    simp only [refuse_eq_ok, require_eq_ok] at ok
    obtain ⟨_, k, ok⟩ := ok
    split at ok
    next devices inserted => cases ok; exact .inr ⟨devices, inserted, k, rfl⟩
    next => cases ok

theorem updateDeviceLastSeen_ok {did : String} (ok : updateDeviceLastSeen did now db = .ok (v, w)) :
    w = { db with devices := (db.devices.update (fun row => row.id = did)
      (fun row => { row with lastSeenAt := some now })) } := by
  unfold updateDeviceLastSeen at ok
  cases (require_eq_ok.mp ok).2
  rfl

theorem unpairDevice_ok {did : String} {res : UnpairResult}
    (ok : unpairDevice ow did now db = .ok (res, w)) : db.ownedBy ow did ∧
    w = (((db.consumeCodes did now).revokeSessions ow did now).terminalizeTools
      ow did now).clearOwner ow did ∧ ∀ id, id ∈ res.revokedAgentSessionIDs ↔
      ∃ ses, db.agentSessions.get id = some ses ∧ ses.boundTo ow did := by
  unfold unpairDevice at ok
  obtain ⟨how, ok⟩ := require_eq_ok.mp ok
  cases ok
  refine ⟨how, rfl, fun id => ?_⟩
  simp only [List.mem_insertionSort, List.mem_map, List.mem_filter]
  constructor
  · rintro ⟨ses, ⟨hm, bd⟩, rfl⟩
    exact ⟨ses, Table.get_of_mem hm, bd⟩
  · rintro ⟨ses, hf, bd⟩
    exact ⟨ses, ⟨Table.mem_of_get hf, bd⟩, Table.key_of_get hf⟩

theorem createPairingCode_ok {prg : PairingCode} (ok : createPairingCode prg now db = .ok (v, w)) :
    ∃ dev codes, db.devices.get prg.deviceID = some dev ∧ dev.ownerUserID = none ∧
      (∀ code ∈ (db.consumeCodes prg.deviceID now).pairingCodes.rows,
        code.codeDigest ≠ prg.codeDigest) ∧ (db.consumeCodes prg.deviceID now).pairingCodes.insert?
        { prg with consumedAt := none } = some codes ∧
      w = { db.consumeCodes prg.deviceID now with pairingCodes := codes } := by
  unfold createPairingCode at ok
  split at ok
  next => cases ok
  next dev found =>
    split at ok
    next => cases ok
    next unowned =>
      simp only [refuse_eq_ok] at ok
      obtain ⟨hdt, ok⟩ := ok
      split at ok
      next codes inserted =>
        cases ok
        exact ⟨dev, codes, found, unowned, by simpa using hdt, inserted, rfl⟩
      next => cases ok

theorem claimPairing_ok {uid : String} {dg : Bytes}
    (ok : claimPairing uid dg now db = .ok (dev, w)) :
    ∃ code bd, db.codeByDigest dg = some code ∧ code.consumedAt = none ∧
      now < code.expiresAt ∧ db.devices.get code.deviceID = some bd ∧ bd.ownerUserID = none ∧
      db.users.contains uid ∧ w = db.bindDevice code uid now ∧
      w.devices.get code.deviceID = some dev := by
  unfold claimPairing at ok
  split at ok
  next => cases ok
  next code found =>
    simp only [refuse_eq_ok, require_eq_ok, not_not] at ok
    obtain ⟨huc, hux, hsg, k, _, ok⟩ := ok
    obtain ⟨bd, boundFound, hun⟩ := Table.affected_key_eq_one.mp hsg
    split at ok
    next located =>
      cases ok
      exact ⟨code, bd, found, by simpa using huc, not_le.mp hux, boundFound,
        by simpa using hun, k, rfl, located⟩
    next => cases ok

/-! ## Sessions and messages -/

theorem agentSessionByOwner_ok (ok : agentSessionByOwner ow sid db = .ok (ses, w)) :
    w = db ∧ db.agentSessions.get sid = some ses ∧ db.agentSessionOwner ow ses := by
  unfold agentSessionByOwner at ok
  split at ok
  next found => cases ok; exact ⟨rfl, filter_get_some found⟩
  next => cases ok

theorem agentSessionByManagingOwner_ok (ok : agentSessionByManagingOwner ow sid db = .ok (ses, w)) :
    w = db ∧ db.agentSessions.get sid = some ses ∧ db.agentSessionOwnership ow ses := by
  unfold agentSessionByManagingOwner at ok
  split at ok
  next found => cases ok; exact ⟨rfl, filter_get_some found⟩
  next => cases ok

theorem agentToolCallByOwner_ok (ok : agentToolCallByOwner ow cid db = .ok (tc, w)) :
    w = db ∧ db.toolCalls.get cid = some tc ∧ db.agentToolOwner ow tc := by
  unfold agentToolCallByOwner at ok
  split at ok
  next found => cases ok; exact ⟨rfl, filter_get_some found⟩
  next => cases ok

theorem createAgentSession_ok (ok : createAgentSession ses db = .ok (v, w)) :
    ses.state ≠ .revoked ∧ db.ownedBy ses.userID ses.deviceID ∧
    ∃ sess, db.agentSessions.insert? { ses with archivedAt := none } = some sess ∧
      w = { db with agentSessions := sess } := by
  simp only [createAgentSession, refuse_eq_ok, require_eq_ok] at ok
  obtain ⟨hva, how, _, _, ok⟩ := ok
  simp only [validAgentSessionState, not_or, not_not] at hva
  split at ok
  next sess inserted =>
    cases ok
    exact ⟨by simpa using hva.2.2.2.2, how, sess, inserted, rfl⟩
  next => cases ok

theorem deleteAgentSessionByOwner_ok (ok : deleteAgentSessionByOwner ow sid db = .ok (ses, w)) :
    db.agentSessions.get sid = some ses ∧ db.agentSessionOwnership ow ses ∧ ses.state.settled ∧
    w = db.dropSession sid := by
  unfold deleteAgentSessionByOwner at ok
  split at ok
  next => cases ok
  next found =>
    obtain ⟨hl, how⟩ := filter_get_some found
    obtain ⟨hse, ok⟩ := require_eq_ok.mp ok
    cases ok
    exact ⟨hl, how, hse, rfl⟩

theorem updateAgentSessionState_ok {st : SessionState}
    (ok : updateAgentSessionState ow sid st now db = .ok (v, w)) : st ≠ .revoked ∧
    (∃ ses, db.agentSessions.get sid = some ses ∧ db.agentSessionOwner ow ses) ∧
    w = (db.updateSession sid (db.agentSessionOwner ow)
      (fun ses => { ses with state := st, updatedAt := now })).2 := by
  unfold updateAgentSessionState at ok
  obtain ⟨hva, ok⟩ := require_eq_ok.mp ok
  obtain ⟨hsg, h⟩ := requireOneRow_ok ok
  exact ⟨by simpa [validAgentSessionState] using hva, updateSession_one.mp hsg, h⟩

theorem updateAgentExternalSessionID_ok {xid : String}
    (ok : updateAgentExternalSessionID ow sid xid now db = .ok (v, w)) :
    w = (db.updateSession sid (db.agentSessionOwner ow) (fun ses =>
      { ses with externalSessionID := some xid, updatedAt := now })).2 := by
  simp only [updateAgentExternalSessionID, refuse_eq_ok] at ok
  exact (requireOneRow_ok ok.2.2).2

theorem createAgentMessage_ok {msg : AgentMessage}
    (ok : createAgentMessage ow msg db = .ok (v, w)) :
    (∃ ses, db.agentSessions.get msg.sessionID = some ses ∧ db.agentSessionOwner ow ses) ∧
    ∃ msgs, db.agentMessages.insert? msg = some msgs ∧ w = { db with agentMessages := msgs } := by
  simp only [createAgentMessage, refuse_eq_ok, require_eq_ok] at ok
  obtain ⟨_, how, ok⟩ := ok
  split at ok
  next msgs inserted =>
    cases ok
    exact ⟨(Option.any_eq_true _ _).mp how, msgs, inserted, rfl⟩
  next => cases ok

theorem upsertAgentSettings_ok {md : ApprovalMode}
    (ok : upsertAgentSettings ow md now db = .ok (v, w)) :
    ∃ stg, w = { db with agentUserSettings := stg } := by
  unfold upsertAgentSettings at ok
  obtain ⟨_, ok⟩ := require_eq_ok.mp ok
  split at ok
  next stg inserted => cases ok; exact ⟨stg, rfl⟩
  next => cases ok; exact ⟨_, rfl⟩

theorem createAgentToolCall_ok (ok : createAgentToolCall ow tc db = .ok (v, w)) :
    (tc.status = .pending ∨ tc.status = .started) ∧
    (∃ ses, db.agentSessions.get tc.sessionID = some ses ∧ db.agentSessionOwner ow ses) ∧
    ∃ toolCalls, db.toolCalls.insert? { tc with
        decision := none, exitCode := none, outputExcerpt := none, completedAt := none } =
          some toolCalls ∧
      w = { db with toolCalls } := by
  simp only [createAgentToolCall, refuse_eq_ok, require_eq_ok] at ok
  obtain ⟨hva, how, ok⟩ := ok
  split at ok
  next toolCalls inserted =>
    cases ok
    refine ⟨?_, (Option.any_eq_true _ _).mp how, toolCalls, inserted, rfl⟩
    by_contra neither
    exact hva (.inr (.inr (.inr (.inr (not_or.mp neither)))))
  next => cases ok

theorem decideAgentToolCall_ok (ok : decideAgentToolCall ow cid dec now db = .ok ((tc, ses), w)) :
    ∃ s, db.toolCalls.get cid = some s ∧ s.undecided ∧ db.agentToolOwner ow s ∧
      tc = { s with decision := some dec } ∧
      w = (if dec = .approveSession then
          (db.recordDecision ow cid dec).upgradeSession ow tc.sessionID now
        else db.recordDecision ow cid dec) ∧
      w.agentSessions.get tc.sessionID = some ses ∧
      w.agentSessionOwner ow ses := by
  unfold decideAgentToolCall at ok
  simp only at ok
  split at ok
  next => split at ok <;> cases ok
  next single =>
    rw [not_not] at single
    obtain ⟨s, hf, hg⟩ := updateToolCall_one.mp single
    rw [Bool.and_eq_true] at hg
    split at ok
    next => cases ok
    next decidedCall located =>
      obtain ⟨decidedFound, -⟩ := filter_get_some located
      have hrw : decidedCall = { s with decision := some dec } := by
        rw [get_updateToolCall, hf] at decidedFound
        simpa [Table.key_of_get hf, hg.1, hg.2] using decidedFound.symm
      -- the upgrade is decided first: it is an `if` inside the state of the later guards
      by_cases upgrades : dec = .approveSession
      · simp only [upgrades, if_true] at ok ⊢
        split at ok
        next => cases ok
        next =>
          split at ok
          next => cases ok
          next sessionFound =>
            obtain ⟨sessionLocated, how⟩ := filter_get_some sessionFound
            cases ok
            exact ⟨s, hf, hg.1, hg.2, upgrades ▸ hrw, rfl, sessionLocated, how⟩
      · simp only [upgrades, if_false, ne_eq, not_true_eq_false] at ok ⊢
        split at ok
        next => cases ok
        next sessionFound =>
          obtain ⟨sessionLocated, how⟩ := filter_get_some sessionFound
          cases ok
          exact ⟨s, hf, hg.1, hg.2, hrw, rfl, sessionLocated, how⟩

theorem decideAgentToolCall_written {v : ToolCall × AgentSession}
    (ok : decideAgentToolCall ow cid dec now db = .ok (v, w)) :
    ∃ row, db.toolCalls.get cid = some row ∧ row.undecided ∧
      w.toolCalls.get cid = some { row with decision := some dec } := by
  obtain ⟨_, _⟩ := v
  obtain ⟨row, hf, hud, how, _, hw, _⟩ := decideAgentToolCall_ok ok
  have hky : row.id = cid := Table.key_of_get hf
  have hrcd : (db.recordDecision ow cid dec).toolCalls.get cid =
      some { row with decision := some dec } := by
    rw [Db.recordDecision, get_updateToolCall, hf]
    simp [hky, hud, how]
  refine ⟨row, hf, hud, ?_⟩
  rw [hw]
  split
  · exact hrcd
  · exact hrcd

theorem failPendingToolCall_ok {exc : Bytes}
    (ok : failPendingToolCall ow cid exc now db = .ok (af, w)) :
    exc.length ≤ maxOutputExcerptBytes ∧
    (af, w) = db.updateToolCall ow cid ToolCall.undecided (fun tc =>
      { tc with status := .failed, outputExcerpt := some exc, completedAt := some now }) := by
  unfold failPendingToolCall at ok
  obtain ⟨hbd, ok⟩ := refuse_eq_ok.mp ok
  exact ⟨not_lt.mp hbd, (Except.ok.inj ok).symm⟩

theorem finishToolCall_ok {sts : ToolStatus} {exitCode : Option Int} {exc : Option Bytes}
    (ok : finishToolCall ow cid sts exitCode exc now db = .ok (af, w)) : terminalToolStatus sts ∧
    (∀ bs, exc = some bs → bs.length ≤ maxOutputExcerptBytes) ∧
    (af, w) = db.updateToolCall ow cid (ToolCall.finishableAs sts) (fun tc => { tc with
        status := sts, exitCode := exitCode, outputExcerpt := exc, completedAt := some now }) := by
  simp only [finishToolCall, refuse_eq_ok] at ok
  obtain ⟨trm, hbd, ok⟩ := ok
  refine ⟨by simpa using trm, ?_, (Except.ok.inj ok).symm⟩
  rintro bs rfl
  simpa using hbd

end AISummoner.Store
