import AISummoner.Store.Effects

/-! # Row transitions

For each table, the relation between a row before and after a successful statement.
The constructors name the statement and carry the guard it checked, so a proof about
the database is a case analysis on a transition.
-/

namespace AISummoner.Store

open Concurrency (Program)
open Relational

variable {db w : Db}

inductive TableName where
  | devices
  | pairingCodes
  | agentSessions
  | agentMessages
  | toolCalls
  | agentUserSettings
  deriving DecidableEq, Repr

/-- The tables a statement may write.  A read writes none. -/
def Statement.writes : Statement → List TableName
  | .upsertDevice _ | .updateDeviceLastSeen _ _ => [.devices]
  | .unpairDevice _ _ _ => [.devices, .pairingCodes, .agentSessions, .toolCalls]
  | .createPairingCode _ _ => [.pairingCodes]
  | .claimPairing _ _ _ => [.devices, .pairingCodes]
  | .createAgentSession _ | .updateApprovalMode _ _ _ _ | .updateArchived _ _ _ _
  | .updateAgentSessionState _ _ _ _ | .beginTurn _ _ _
  | .updateAgentExternalSessionID _ _ _ _ => [.agentSessions]
  | .deleteAgentSessionByOwner _ _ => [.agentSessions, .agentMessages, .toolCalls]
  | .createAgentMessage _ _ => [.agentMessages]
  | .createAgentToolCall _ _ | .failPendingToolCall _ _ _ _ | .startToolCall _ _
  | .finishToolCall _ _ _ _ _ _ => [.toolCalls]
  | .decideAgentToolCall _ _ _ _ => [.agentSessions, .toolCalls]
  | .upsertAgentSettings _ _ _ => [.agentUserSettings]
  | .deviceByID _ | .deviceByOwner _ _ | .devicesByOwner _ | .agentSessionByOwner _ _
  | .agentSessionByManagingOwner _ _ | .agentSnapshotByOwner _ _
  | .latestAgentSnapshotByDeviceOwner _ _ | .recentAgentSessionsByDeviceOwner _ _
  | .archivedAgentSessionsByOwner _ | .agentSettingsByOwner _ | .agentToolCallByOwner _ _ => []

variable {op : Statement} {v : op.Result}

theorem Statement.unchanged_of_reads (hrd : op.writes = [])
    (ok : op.body db = .ok (v, w)) : w = db := by
  cases op with
  | devicesByOwner | recentAgentSessionsByDeviceOwner | archivedAgentSessionsByOwner => cases ok; rfl
  | deviceByID | agentSessionByOwner | agentSessionByManagingOwner | agentSnapshotByOwner
  | latestAgentSnapshotByDeviceOwner | agentToolCallByOwner =>
    simp only [Statement.body, Store.deviceByID, Store.agentSessionByOwner,
      Store.agentSessionByManagingOwner, Store.agentSnapshotByOwner,
      Store.latestAgentSnapshotByDeviceOwner, Store.agentToolCallByOwner] at ok
    split at ok <;> cases ok
    rfl
  | deviceByOwner | agentSettingsByOwner =>
    simp only [Statement.body, Store.deviceByOwner, Store.agentSettingsByOwner] at ok
    split at ok <;> (try split at ok) <;> cases ok <;> rfl
  | _ => cases hrd

/-- A table outside the footprint of a statement is left alone. -/
structure Frame (db changed : Db) (written : List TableName) : Prop where
  users : changed.users = db.users
  devices : .devices ∉ written → changed.devices = db.devices
  pairingCodes : .pairingCodes ∉ written → changed.pairingCodes = db.pairingCodes
  agentSessions : .agentSessions ∉ written → changed.agentSessions = db.agentSessions
  agentMessages : .agentMessages ∉ written → changed.agentMessages = db.agentMessages
  toolCalls : .toolCalls ∉ written → changed.toolCalls = db.toolCalls

theorem Statement.frame (ok : op.body db = .ok (v, w)) : Frame db w op.writes := by
  by_cases hrd : op.writes = []
  · rw [Statement.unchanged_of_reads hrd ok]
    constructor <;> first | rfl | exact fun _ => rfl
  cases op with
  | upsertDevice _ =>
    obtain ⟨_, _, rfl⟩ | ⟨_, _, _, rfl⟩ := upsertDevice_ok ok <;>
      constructor <;> first | rfl | exact fun _ => rfl | simp [Statement.writes]
  | updateDeviceLastSeen did now =>
    rw [updateDeviceLastSeen_ok ok]
    constructor <;> first | rfl | exact fun _ => rfl | simp [Statement.writes]
  | unpairDevice ow did now =>
    obtain ⟨-, rfl, -⟩ := unpairDevice_ok ok
    constructor <;> first | rfl | exact fun _ => rfl | simp [Statement.writes]
  | createPairingCode _ now =>
    obtain ⟨_, _, _, _, _, _, rfl⟩ := createPairingCode_ok ok
    constructor <;> first | rfl | exact fun _ => rfl | simp [Statement.writes]
  | claimPairing _ _ now =>
    obtain ⟨_, _, _, _, _, _, _, _, rfl, _⟩ := claimPairing_ok ok
    constructor <;> first | rfl | exact fun _ => rfl | simp [Statement.writes]
  | createAgentSession ses =>
    obtain ⟨_, _, _, _, rfl⟩ := createAgentSession_ok ok
    constructor <;> first | rfl | exact fun _ => rfl | simp [Statement.writes]
  | upsertAgentSettings ow md now =>
    obtain ⟨_, rfl⟩ := upsertAgentSettings_ok ok
    constructor <;> first | rfl | exact fun _ => rfl
  | updateApprovalMode ow sid md now | updateArchived ow sid archived now
  | beginTurn ow sid now | startToolCall ow cid =>
    cases ok; constructor <;> first | rfl | exact fun _ => rfl | simp [Statement.writes]
  | deleteAgentSessionByOwner ow sid =>
    obtain ⟨-, -, -, rfl⟩ := deleteAgentSessionByOwner_ok ok
    constructor <;> first | rfl | exact fun _ => rfl | simp [Statement.writes]
  | updateAgentSessionState ow sid _ now =>
    obtain ⟨_, _, rfl⟩ := updateAgentSessionState_ok ok
    constructor <;> first | rfl | exact fun _ => rfl | simp [Statement.writes]
  | updateAgentExternalSessionID ow sid _ now =>
    rw [updateAgentExternalSessionID_ok ok]
    constructor <;> first | rfl | exact fun _ => rfl | simp [Statement.writes]
  | createAgentMessage ow _ =>
    obtain ⟨_, _, _, rfl⟩ := createAgentMessage_ok ok
    constructor <;> first | rfl | exact fun _ => rfl | simp [Statement.writes]
  | createAgentToolCall ow tc =>
    obtain ⟨_, _, _, _, rfl⟩ := createAgentToolCall_ok ok
    constructor <;> first | rfl | exact fun _ => rfl | simp [Statement.writes]
  | decideAgentToolCall ow cid _ now =>
    obtain ⟨tc, ses⟩ := v
    obtain ⟨_, _, _, _, _, rfl, _⟩ := decideAgentToolCall_ok ok
    split <;> constructor <;> first | rfl | exact fun _ => rfl | simp [Statement.writes]
  | failPendingToolCall ow cid exc now =>
    obtain ⟨-, h⟩ := failPendingToolCall_ok ok
    rw [Prod.mk.injEq] at h
    rw [h.2]; constructor <;> first | rfl | exact fun _ => rfl | simp [Statement.writes]
  | finishToolCall ow cid _ _ exc now =>
    obtain ⟨-, -, h⟩ := finishToolCall_ok ok
    rw [Prod.mk.injEq] at h
    rw [h.2]; constructor <;> first | rfl | exact fun _ => rfl | simp [Statement.writes]
  | _ => exact absurd rfl hrd

/-! ## A call is one statement and reads -/

/-- The statement a call issues first; what follows it only reads. -/
def StoreCall.main : StoreCall → Statement
  | .registerDevice device => .upsertDevice device
  | .unpairDevice owner deviceID now => .unpairDevice owner deviceID now
  | .createPairingCode pairing now => .createPairingCode pairing now
  | .claimPairing userID digest now => .claimPairing userID digest now
  | .createAgentSession session => .createAgentSession session
  | .agentSessionByOwner owner sessionID => .agentSessionByOwner owner sessionID
  | .agentSnapshotByOwner owner sessionID => .agentSnapshotByOwner owner sessionID
  | .latestAgentSnapshotByDeviceOwner owner deviceID =>
    .latestAgentSnapshotByDeviceOwner owner deviceID
  | .recentAgentSessionsByDeviceOwner owner deviceID =>
    .recentAgentSessionsByDeviceOwner owner deviceID
  | .archivedAgentSessionsByOwner owner => .archivedAgentSessionsByOwner owner
  | .updateAgentSessionApprovalMode owner sessionID mode now =>
    .updateApprovalMode owner sessionID mode now
  | .setAgentSessionArchived owner sessionID archived now =>
    .updateArchived owner sessionID archived now
  | .deleteAgentSessionByOwner owner sessionID => .deleteAgentSessionByOwner owner sessionID
  | .updateAgentSessionState owner sessionID state now =>
    .updateAgentSessionState owner sessionID state now
  | .beginAgentTurn owner sessionID now => .beginTurn owner sessionID now
  | .updateAgentExternalSessionID owner sessionID externalID now =>
    .updateAgentExternalSessionID owner sessionID externalID now
  | .createAgentMessage owner message => .createAgentMessage owner message
  | .createAgentToolCall owner toolCall => .createAgentToolCall owner toolCall
  | .agentToolCallByOwner owner toolCallID => .agentToolCallByOwner owner toolCallID
  | .decideAgentToolCall owner toolCallID decision now =>
    .decideAgentToolCall owner toolCallID decision now
  | .failPendingAgentToolCall owner toolCallID excerpt now =>
    .failPendingToolCall owner toolCallID excerpt now
  | .startAgentToolCall owner toolCallID => .startToolCall owner toolCallID
  | .finishAgentToolCall owner toolCallID status exitCode excerpt now =>
    .finishToolCall owner toolCallID status exitCode excerpt now

theorem StoreCall.program_main (call : StoreCall) : ∃ next, call.program = .perform call.main next ∧
      ∀ r, (next r).performs (fun op : Statement => op.writes = []) (fun _ => False) := by
  cases call with
  | registerDevice _ =>
    refine ⟨_, rfl, fun r => ?_⟩
    cases r with
    | error err => trivial
    | ok v => exact ⟨rfl, fun _ => trivial⟩
  | updateAgentSessionApprovalMode | setAgentSessionArchived | beginAgentTurn =>
    refine ⟨_, rfl, fun r => ?_⟩
    cases r with
    | error err => trivial
    | ok haf =>
      refine Program.performs_bind (Program.performs_ite
        ⟨rfl, fun lookup => by cases lookup <;> trivial⟩ ?_) (fun _ => trivial)
      first | trivial | exact ⟨rfl, fun _ => trivial⟩
  | failPendingAgentToolCall _ _ _ _ =>
    refine ⟨_, rfl, fun r => ?_⟩
    cases r with
    | error err => trivial
    | ok haf =>
      refine ⟨rfl, fun lookup => ?_⟩
      cases lookup with
      | error err => trivial
      | ok _ =>
        exact Program.performs_bind (Program.performs_ite trivial trivial) (fun _ => trivial)
  | startAgentToolCall | finishAgentToolCall =>
    refine ⟨_, rfl, fun r => ?_⟩
    cases r with
    | error err => trivial
    | ok haf => exact Program.performs_bind (performs_toolCallConflict
      (fun op => op.writes = []) rfl haf) (fun _ => trivial)
  | _ => exact ⟨_, rfl, fun _ => trivial⟩

theorem StoreCall.run_main (call : StoreCall) (fls : List Fault) (db : Db) :
    (call.run fls db).2 = db ∨ ∃ v, call.main.body db = .ok (v, (call.run fls db).2) := by
  obtain ⟨next, shape, reads⟩ := call.program_main
  unfold StoreCall.run
  rw [shape]
  have hoc : (call.main.body.run (fls.headD default) db).2 = db ∨
      ∃ v, call.main.body db = .ok (v, (call.main.body.run (fls.headD default) db).2) :=
    Transaction.run_changed
  have hq : ((next (call.main.body.run (fls.headD default) db).1).evaluate Query.execute
      fls.tail (call.main.body.run (fls.headD default) db).2).2 =
        (call.main.body.run (fls.headD default) db).2 := by
    refine Program.evaluate_relates Query.execute (fun s s' => s' = s)
      (fun _ => rfl) (fun _ _ _ early late => late.trans early) ?_ (reads _) fls.tail _
    intro op ft st hrd
    have hch : (op.body.run ft st).2 = st ∨
        ∃ v, op.body st = .ok (v, (op.body.run ft st).2) :=
      Transaction.run_changed
    rcases hch with h | ⟨v, ok⟩
    · exact h
    · exact Statement.unchanged_of_reads hrd ok
  rw [← hq] at hoc
  exact hoc

section Relates

variable (relation : Db → Db → Prop) (rule : StoreCall → Prop) (reflexive : ∀ db, relation db db)
  (step : ∀ {call : StoreCall} {v : call.main.Result} {db w : Db},
    rule call → call.main.body db = .ok (v, w) → relation db w)

include reflexive step

theorem StoreCall.run_relates {call : StoreCall} (hal : rule call)
    (fls : List Fault) (db : Db) : relation db (call.run fls db).2 := by
  rcases call.run_main fls db with h | ⟨v, ok⟩
  · rw [h]
    exact reflexive db
  · exact step hal ok

theorem runCalls_relates (transitive : ∀ ha b third, relation ha b →
      relation b third → relation ha third) {hist : List (StoreCall × List Fault)}
    (hal : ∀ e ∈ hist, rule e.1) (db : Db) : relation db (runCalls hist db) := by
  induction hist generalizing db with
  | nil => exact reflexive db
  | cons e _ ih =>
    have ha := StoreCall.run_relates relation rule reflexive step
      (hal e List.mem_cons_self) e.2 db
    exact transitive _ _ _ ha
      (ih (fun o hm => hal o (List.mem_cons_of_mem _ hm)) _)

end Relates

inductive ToolCallChange (db : Db) :
    Statement → Option ToolCall → Option ToolCall → Prop where
  | kept {operation : Statement} {row : Option ToolCall} :
      ToolCallChange db operation row row
  | created {owner : String} {toolCall : ToolCall} {session : AgentSession}
      (status : toolCall.status = .pending ∨ toolCall.status = .started)
      (found : db.agentSessions.get toolCall.sessionID = some session)
      (owned : db.agentSessionOwner owner session = true) :
      ToolCallChange db (.createAgentToolCall owner toolCall) none (some { toolCall with
        decision := none, exitCode := none, outputExcerpt := none, completedAt := none })
  | decided {owner : String} {decision : Decision} {now : Time} {row : ToolCall}
      (undecided : row.undecided = true) (owned : db.agentToolOwner owner row = true) :
      ToolCallChange db (.decideAgentToolCall owner row.id decision now) (some row)
        (some { row with decision := some decision })
  | failedPending {owner : String} {excerpt : Bytes} {now : Time} {row : ToolCall}
      (bounded : excerpt.length ≤ maxOutputExcerptBytes)
      (undecided : row.undecided = true) (owned : db.agentToolOwner owner row = true) :
      ToolCallChange db (.failPendingToolCall owner row.id excerpt now) (some row) (some { row with
        status := .failed, outputExcerpt := some excerpt, completedAt := some now })
  | started {owner : String} {row : ToolCall} (pending : row.status = .pending)
      (approved : row.decision = some .approveOnce ∨ row.decision = some .approveSession)
      (owned : db.agentToolOwner owner row = true) :
      ToolCallChange db (.startToolCall owner row.id) (some row) (some { row with status := .started })
  | finished {owner : String} {status : ToolStatus} {exitCode : Option Int} {excerpt : Option Bytes}
      {now : Time} {row : ToolCall} (terminal : terminalToolStatus status = true)
      (bounded : ∀ bytes, excerpt = some bytes → bytes.length ≤ maxOutputExcerptBytes)
      (finishable : row.finishableAs status = true) (owned : db.agentToolOwner owner row = true) :
      ToolCallChange db (.finishToolCall owner row.id status exitCode excerpt now) (some row)
        (some { row with
          status := status, exitCode := exitCode, outputExcerpt := excerpt, completedAt := some now })
  | unpaired {owner deviceID : String} {now : Time} {row : ToolCall} {session : AgentSession}
      (openStatus : row.status = .pending ∨ row.status = .started)
      (uncompleted : row.completedAt = none)
      (found : db.agentSessions.get row.sessionID = some session)
      (bound : session.boundTo owner deviceID = true)
      (owned : db.ownedBy owner deviceID = true) :
      ToolCallChange db (.unpairDevice owner deviceID now) (some row) (some { row with
        status := .failed, exitCode := none, outputExcerpt := some deviceUnpairedToolExcerpt,
        completedAt := some now })
  | deleted {owner : String} {row : ToolCall} {session : AgentSession}
      (found : db.agentSessions.get row.sessionID = some session)
      (owned : db.agentSessionOwnership owner session = true) :
      ToolCallChange db (.deleteAgentSessionByOwner owner row.sessionID) (some row) none

theorem ToolCallChange.of_update {ow cid id : String} {gd : ToolCall → Bool}
    {ch : ToolCall → ToolCall} {hkk : ∀ row, (ch row).id = row.id}
    (happ : ∀ row, row.id = cid → gd row → db.agentToolOwner ow row →
      ToolCallChange db op (some row) (some (ch row))) : ToolCallChange db op (db.toolCalls.get id)
      ((db.updateToolCall ow cid gd ch hkk).2.toolCalls.get id) := by
  refine Table.relates_update (R := ToolCallChange db _) (fun _ => .kept) hkk fun row _ hg => ?_
  simp only [Bool.and_eq_true, decide_eq_true_eq] at hg
  exact happ row hg.1 hg.2.1 hg.2.2

theorem toolCall_change (ok : op.body db = .ok (v, w)) (id : String) :
    ToolCallChange db op (db.toolCalls.get id) (w.toolCalls.get id) := by
  by_cases hut : .toolCalls ∉ op.writes
  · rw [(Statement.frame ok).toolCalls hut]
    exact .kept
  cases op with
  | unpairDevice ow did now =>
    obtain ⟨how, rfl, -⟩ := unpairDevice_ok ok
    refine Table.relates_update (R := ToolCallChange db _) (fun _ => .kept) (by intro; rfl)
      fun row _ g => ?_
    simp only [Db.revokeSessions, Db.consumeCodes, Table.get_update, Bool.and_eq_true,
      Bool.or_eq_true, decide_eq_true_eq, Option.isNone_iff_eq_none, Option.any_map,
      Option.any_eq_true] at g
    obtain ⟨⟨openStatus, uncompleted⟩, ses, hf, bd⟩ := g
    -- the revocation that ran before this UPDATE keeps the session's user and device
    have boundBefore : ses.boundTo ow did := by
      split at bd <;> assumption
    exact .unpaired openStatus uncompleted hf boundBefore how
  | deleteAgentSessionByOwner ow _ =>
    obtain ⟨hf, how, -, rfl⟩ := deleteAgentSessionByOwner_ok ok
    refine Table.relates_delete (R := ToolCallChange db _) (fun _ => .kept) fun row _ hbe => ?_
    cases of_decide_eq_true hbe
    exact .deleted hf how
  | createAgentToolCall ow tc =>
    obtain ⟨sts, ⟨ses, hf, how⟩, toolCalls, hins, rfl⟩ := createAgentToolCall_ok ok
    exact Table.relates_insert (R := ToolCallChange db _) (fun _ => .kept) hins
      (.created sts hf how)
  | decideAgentToolCall ow cid dec now =>
    obtain ⟨tc, ses⟩ := v
    obtain ⟨_, _, _, _, _, rfl, _⟩ := decideAgentToolCall_ok ok
    have hrcd : ToolCallChange db (.decideAgentToolCall ow cid dec now)
        (db.toolCalls.get id) ((db.recordDecision ow cid dec).toolCalls.get id) := by
      apply ToolCallChange.of_update
      rintro row rfl hud how
      exact .decided hud how
    split <;> exact hrcd
  | failPendingToolCall ow cid exc now =>
    obtain ⟨hbd, h⟩ := failPendingToolCall_ok ok
    rw [Prod.mk.injEq] at h
    rw [h.2]
    apply ToolCallChange.of_update
    rintro row rfl hud how
    exact .failedPending hbd hud how
  | startToolCall ow cid =>
    cases ok
    apply ToolCallChange.of_update
    rintro row rfl g how
    simp only [Bool.and_eq_true, Bool.or_eq_true, decide_eq_true_eq] at g
    exact .started g.1 g.2 how
  | finishToolCall ow cid sts _ exc now =>
    obtain ⟨trm, hbd, h⟩ := finishToolCall_ok ok
    rw [Prod.mk.injEq] at h
    rw [h.2]
    apply ToolCallChange.of_update
    rintro row rfl hfb how
    exact .finished trm hbd hfb how
  | _ => simp [Statement.writes] at hut

inductive SessionChange (db : Db) :
    Statement → Option AgentSession → Option AgentSession → Prop where
  | kept {operation : Statement} {row : Option AgentSession} :
      SessionChange db operation row row
  | created {session : AgentSession} (live : session.state ≠ .revoked)
      (owned : db.ownedBy session.userID session.deviceID = true) :
      SessionChange db (.createAgentSession session) none (some { session with archivedAt := none })
  | approvalMode {owner : String} {mode : ApprovalMode} {now : Time} {row : AgentSession}
      (settled : row.state.settled = true) (owned : db.agentSessionOwner owner row = true) :
      SessionChange db (.updateApprovalMode owner row.id mode now) (some row)
        (some { row with approvalMode := mode, updatedAt := now })
  | archived {owner : String} {archived : Bool} {now : Time} {row : AgentSession}
      (settled : row.state.settled = true) (owned : db.agentSessionOwnership owner row = true) :
      SessionChange db (.updateArchived owner row.id archived now) (some row)
        (some { row with archivedAt := if archived then some now else none, updatedAt := now })
  | deleted {owner : String} {row : AgentSession} (settled : row.state.settled = true)
      (owned : db.agentSessionOwnership owner row = true) :
      SessionChange db (.deleteAgentSessionByOwner owner row.id) (some row) none
  | state {owner : String} {state : SessionState} {now : Time} {row : AgentSession}
      (live : state ≠ .revoked) (owned : db.agentSessionOwner owner row = true) :
      SessionChange db (.updateAgentSessionState owner row.id state now) (some row)
        (some { row with state := state, updatedAt := now })
  | begun {owner : String} {now : Time} {row : AgentSession} (settled : row.state.settled = true)
      (owned : db.agentSessionOwner owner row = true) :
      SessionChange db (.beginTurn owner row.id now) (some row)
        (some { row with state := .running, updatedAt := now })
  | externalID {owner externalID : String} {now : Time} {row : AgentSession}
      (owned : db.agentSessionOwner owner row = true) :
      SessionChange db (.updateAgentExternalSessionID owner row.id externalID now) (some row)
        (some { row with externalSessionID := some externalID, updatedAt := now })
  | upgraded {owner : String} {now : Time} {row : AgentSession} {toolCall : ToolCall}
      (found : db.toolCalls.get toolCall.id = some toolCall)
      (undecided : toolCall.undecided = true) (belongs : toolCall.sessionID = row.id)
      (owned : db.agentSessionOwner owner row = true) :
      SessionChange db (.decideAgentToolCall owner toolCall.id .approveSession now) (some row)
        (some { row with approvalMode := .fullAccess, updatedAt := now })
  | unpaired {owner deviceID : String} {now : Time} {row : AgentSession}
      (bound : row.boundTo owner deviceID = true) (owned : db.ownedBy owner deviceID = true) :
      SessionChange db (.unpairDevice owner deviceID now) (some row)
        (some { row with state := .revoked, updatedAt := now })

theorem SessionChange.of_update {sid id : String} {gd : AgentSession → Bool}
    {ch : AgentSession → AgentSession} {hkk : ∀ row, (ch row).id = row.id}
    (happ : ∀ row, row.id = sid → gd row → SessionChange db op (some row) (some (ch row))) :
    SessionChange db op (db.agentSessions.get id)
      ((db.updateSession sid gd ch hkk).2.agentSessions.get id) := by
  refine Table.relates_update (R := SessionChange db _) (fun _ => .kept) hkk fun row _ hg => ?_
  simp only [Bool.and_eq_true, decide_eq_true_eq] at hg
  exact happ row hg.1 hg.2

theorem session_change (ok : op.body db = .ok (v, w)) (id : String) :
    SessionChange db op (db.agentSessions.get id) (w.agentSessions.get id) := by
  by_cases hut : .agentSessions ∉ op.writes
  · rw [(Statement.frame ok).agentSessions hut]
    exact .kept
  cases op with
  | unpairDevice ow _ now =>
    obtain ⟨how, rfl, -⟩ := unpairDevice_ok ok
    exact Table.relates_update (R := SessionChange db _) (fun _ => .kept) (by intro; rfl)
      fun _ _ bd => .unpaired bd how
  | createAgentSession ses =>
    obtain ⟨live, how, _, hins, rfl⟩ := createAgentSession_ok ok
    exact Table.relates_insert (R := SessionChange db _) (fun _ => .kept) hins
      (.created live how)
  | updateApprovalMode ow sid _ now =>
    cases ok
    apply SessionChange.of_update
    rintro row rfl hg
    rw [Bool.and_eq_true] at hg
    exact .approvalMode hg.1 hg.2
  | updateArchived ow sid archived now =>
    cases ok
    apply SessionChange.of_update
    rintro row rfl hg
    rw [Bool.and_eq_true] at hg
    exact .archived hg.1 hg.2
  | deleteAgentSessionByOwner ow sid =>
    obtain ⟨hf, how, hse, rfl⟩ := deleteAgentSessionByOwner_ok ok
    refine Table.relates_delete (R := SessionChange db _) (fun _ => .kept) fun row hl hbe => ?_
    cases of_decide_eq_true hbe
    rw [Table.get_of_mem (Table.mem_of_get hl)] at hf
    cases hf
    exact .deleted hse how
  | updateAgentSessionState ow sid _ now =>
    obtain ⟨live, -, rfl⟩ := updateAgentSessionState_ok ok
    apply SessionChange.of_update
    rintro row rfl how
    exact .state live how
  | beginTurn ow sid now =>
    cases ok
    apply SessionChange.of_update
    rintro row rfl hg
    rw [Bool.and_eq_true] at hg
    exact .begun hg.1 hg.2
  | updateAgentExternalSessionID ow sid _ now =>
    rw [updateAgentExternalSessionID_ok ok]
    apply SessionChange.of_update
    rintro row rfl how
    exact .externalID how
  | decideAgentToolCall ow cid _ now =>
    obtain ⟨_, ses⟩ := v
    obtain ⟨s, hf, hud, -, rfl, rfl, -⟩ := decideAgentToolCall_ok ok
    split
    next approves =>
      subst approves
      change SessionChange db _
        ((db.recordDecision ow cid .approveSession).agentSessions.get id) _
      refine Table.relates_update (R := SessionChange db _) (fun _ => .kept) (by intro; rfl)
        fun row _ hg => ?_
      simp only [Bool.and_eq_true, decide_eq_true_eq] at hg
      have hky := Table.key_of_get hf
      subst hky
      exact .upgraded hf hud hg.1.symm hg.2
    next => exact .kept
  | _ => simp [Statement.writes] at hut

inductive MessageChange (db : Db) :
    Statement → Option AgentMessage → Option AgentMessage → Prop where
  | kept {operation : Statement} {row : Option AgentMessage} :
      MessageChange db operation row row
  | created {owner : String} {message : AgentMessage} {session : AgentSession}
      (found : db.agentSessions.get message.sessionID = some session)
      (owned : db.agentSessionOwner owner session = true) :
      MessageChange db (.createAgentMessage owner message) none (some message)
  | deleted {owner : String} {row : AgentMessage} {session : AgentSession}
      (found : db.agentSessions.get row.sessionID = some session)
      (owned : db.agentSessionOwnership owner session = true) :
      MessageChange db (.deleteAgentSessionByOwner owner row.sessionID) (some row) none

theorem message_change (ok : op.body db = .ok (v, w)) (id : String) :
    MessageChange db op (db.agentMessages.get id) (w.agentMessages.get id) := by
  by_cases hut : .agentMessages ∉ op.writes
  · rw [(Statement.frame ok).agentMessages hut]
    exact .kept
  cases op with
  | deleteAgentSessionByOwner ow _ =>
    obtain ⟨hf, how, -, rfl⟩ := deleteAgentSessionByOwner_ok ok
    refine Table.relates_delete (R := MessageChange db _) (fun _ => .kept) fun _ _ hbe => ?_
    cases of_decide_eq_true hbe
    exact .deleted hf how
  | createAgentMessage ow _ =>
    obtain ⟨⟨_, hf, how⟩, _, hins, rfl⟩ := createAgentMessage_ok ok
    exact Table.relates_insert (R := MessageChange db _) (fun _ => .kept) hins
      (.created hf how)
  | _ => simp [Statement.writes] at hut

inductive DeviceChange (db : Db) :
    Statement → Option Device → Option Device → Prop where
  | kept {operation : Statement} {row : Option Device} :
      DeviceChange db operation row row
  | registered {device : Device} (known : db.knowsOwner device.ownerUserID = true) :
      DeviceChange db (.upsertDevice device) none (some device)
  | refreshed {device row : Device} :
      DeviceChange db (.upsertDevice device) (some row) (some { row with
        name := device.name, platform := device.platform, arch := device.arch,
        clientVersion := device.clientVersion })
  | seen {deviceID : String} {now : Time} {row : Device} :
      DeviceChange db (.updateDeviceLastSeen deviceID now) (some row)
        (some { row with lastSeenAt := some now })
  | claimed {userID : String} {digest : Bytes} {now : Time} {row : Device} {code : PairingCode}
      (found : db.codeByDigest digest = some code) (unconsumed : code.consumedAt = none)
      (unexpired : now < code.expiresAt) (belongs : code.deviceID = row.id)
      (unowned : row.ownerUserID = none) :
      DeviceChange db (.claimPairing userID digest now) (some row)
        (some { row with ownerUserID := some userID, pairedAt := some now })
  | unpaired {owner : String} {now : Time} {row : Device} (owned : row.ownerUserID = some owner) :
      DeviceChange db (.unpairDevice owner row.id now) (some row)
        (some { row with ownerUserID := none, pairedAt := none })

theorem device_change (ok : op.body db = .ok (v, w)) (id : String) :
    DeviceChange db op (db.devices.get id) (w.devices.get id) := by
  by_cases hut : .devices ∉ op.writes
  · rw [(Statement.frame ok).devices hut]
    exact .kept
  cases op with
  | upsertDevice _ =>
    obtain ⟨_, hf, rfl⟩ | ⟨devices, hins, k, rfl⟩ := upsertDevice_ok ok
    · exact Table.relates_update (R := DeviceChange db _) (fun _ => .kept) (by intro; rfl)
        fun _ _ _ => .refreshed
    · exact Table.relates_insert (R := DeviceChange db _) (fun _ => .kept) hins (.registered k)
  | updateDeviceLastSeen did now =>
    rw [updateDeviceLastSeen_ok ok]
    exact Table.relates_update (R := DeviceChange db _) (fun _ => .kept) (by intro; rfl)
      fun _ _ _ => .seen
  | unpairDevice _ did now =>
    obtain ⟨-, rfl, -⟩ := unpairDevice_ok ok
    refine Table.relates_update (R := DeviceChange db _) (fun _ => .kept) (by intro; rfl)
      fun row _ g => ?_
    simp only [Bool.and_eq_true, decide_eq_true_eq] at g
    obtain ⟨rfl, how⟩ := g
    exact .unpaired how
  | claimPairing _ _ now =>
    obtain ⟨_, _, hf, huc, hux, _, _, _, rfl, _⟩ := claimPairing_ok ok
    refine Table.relates_update (R := DeviceChange db _) (fun _ => .kept) (by intro; rfl)
      fun row _ g => ?_
    simp only [Bool.and_eq_true, decide_eq_true_eq, Option.isNone_iff_eq_none] at g
    exact .claimed hf huc hux g.1.symm g.2
  | _ => simp [Statement.writes] at hut

inductive CodeChange (db : Db) :
    Statement → Option PairingCode → Option PairingCode → Prop where
  | kept {operation : Statement} {row : Option PairingCode} :
      CodeChange db operation row row
  | created {pairing : PairingCode} {now : Time} {device : Device}
      (found : db.devices.get pairing.deviceID = some device) (unowned : device.ownerUserID = none) :
      CodeChange db (.createPairingCode pairing now) none (some { pairing with consumedAt := none })
  | replaced {pairing : PairingCode} {now : Time} {row : PairingCode}
      (belongs : row.deviceID = pairing.deviceID) (unconsumed : row.consumedAt = none) :
      CodeChange db (.createPairingCode pairing now) (some row)
        (some { row with consumedAt := some now })
  | claimed {userID : String} {now : Time} {row : PairingCode}
      (found : db.codeByDigest row.codeDigest = some row) (unconsumed : row.consumedAt = none) :
      CodeChange db (.claimPairing userID row.codeDigest now) (some row)
        (some { row with consumedAt := some now })
  | unpaired {owner : String} {now : Time} {row : PairingCode} (unconsumed : row.consumedAt = none)
      (owned : db.ownedBy owner row.deviceID = true) :
      CodeChange db (.unpairDevice owner row.deviceID now) (some row)
        (some { row with consumedAt := some now })

theorem codeByDigest_some {dg : Bytes} {code : PairingCode} (hf : db.codeByDigest dg = some code) :
    db.pairingCodes.get code.id = some code ∧ code.codeDigest = dg :=
  ⟨Table.get_of_mem (List.mem_of_find?_eq_some hf), by simpa using List.find?_some hf⟩

theorem code_change (ok : op.body db = .ok (v, w)) (id : String) :
    CodeChange db op (db.pairingCodes.get id) (w.pairingCodes.get id) := by
  by_cases hut : .pairingCodes ∉ op.writes
  · rw [(Statement.frame ok).pairingCodes hut]
    exact .kept
  cases op with
  | unpairDevice _ _ now =>
    obtain ⟨how, rfl, -⟩ := unpairDevice_ok ok
    refine Table.relates_update (R := CodeChange db _) (fun _ => .kept) (by intro; rfl)
      fun row _ g => ?_
    simp only [Bool.and_eq_true, decide_eq_true_eq, Option.isNone_iff_eq_none] at g
    obtain ⟨rfl, huc⟩ := g
    exact .unpaired huc how
  | createPairingCode _ now =>
    obtain ⟨_, _, hf, hun, -, hins, rfl⟩ := createPairingCode_ok ok
    obtain ⟨vacant, -⟩ := Table.insert?_eq_some hins
    simp only [Db.consumeCodes, Table.get_update, Option.map_eq_none_iff] at vacant
    simp only [Table.get_of_insert? hins]
    split
    next h => subst h; rw [vacant]; exact .created hf hun
    next =>
      refine Table.relates_update (R := CodeChange db _) (fun _ => .kept) (by intro; rfl)
        fun row _ g => ?_
      simp only [Bool.and_eq_true, decide_eq_true_eq, Option.isNone_iff_eq_none] at g
      exact .replaced g.1 g.2
  | claimPairing _ _ now =>
    obtain ⟨code, _, hf, huc, _, _, _, _, rfl, _⟩ := claimPairing_ok ok
    obtain ⟨hl, rfl⟩ := codeByDigest_some hf
    refine Table.relates_update (R := CodeChange db _) (fun _ => .kept) (by intro; rfl)
      fun row hpr g => ?_
    simp only [Bool.and_eq_true, decide_eq_true_eq] at g
    -- the primary key identifies the row the digest selected
    have h : row = code := by
      rw [← Table.key_of_get hpr, g.1, hl] at hpr
      exact (Option.some.inj hpr).symm
    subst h
    exact .claimed hf huc
  | _ => simp [Statement.writes] at hut

end AISummoner.Store
