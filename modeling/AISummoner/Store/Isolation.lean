import AISummoner.Store.ToolCallLifecycle

/-! # Isolation of agent sessions

A call on behalf of a user changes and returns only what belongs to that user's
sessions on devices the user owns now, and a session that an unpair revoked is out
of reach for good, through any number of later pairings.
-/

namespace AISummoner.Store

open Concurrency Concurrency.Program
open Relational

variable {db w : Db}

/-! ## What an owner-scoped statement changes -/

/-- The user on whose behalf an owner-scoped agent statement runs. -/
def Statement.agentOwner : Statement → Option String
  | .createAgentSession session => some session.userID
  | .agentSessionByOwner owner _ | .agentSessionByManagingOwner owner _
  | .agentSnapshotByOwner owner _ | .latestAgentSnapshotByDeviceOwner owner _
  | .recentAgentSessionsByDeviceOwner owner _ | .archivedAgentSessionsByOwner owner
  | .updateApprovalMode owner _ _ _ | .updateArchived owner _ _ _
  | .deleteAgentSessionByOwner owner _ | .updateAgentSessionState owner _ _ _
  | .beginTurn owner _ _ | .updateAgentExternalSessionID owner _ _ _
  | .createAgentMessage owner _ | .createAgentToolCall owner _ | .agentToolCallByOwner owner _
  | .decideAgentToolCall owner _ _ _ | .failPendingToolCall owner _ _ _
  | .startToolCall owner _ | .finishToolCall owner _ _ _ _ _ => some owner
  | _ => none

def Db.sessionVisible (db : Db) (user sessionID : String) : Prop :=
  ∃ session, db.agentSessions.get sessionID = some session ∧
    db.agentSessionOwnership user session = true

variable {user : String} {session : AgentSession} {op : Statement} {call : StoreCall}
  {row : AgentSession} {v : op.Result} {tc : ToolCall} {id : String}

theorem agentSessionOwnership_iff : db.agentSessionOwnership user session ↔
      session.userID = user ∧ session.state ≠ .revoked ∧ db.ownedBy user session.deviceID := by
  simp only [Db.agentSessionOwnership, Bool.and_eq_true, decide_eq_true_eq]
  constructor
  · rintro ⟨⟨rfl, live⟩, ow⟩
    exact ⟨rfl, live, ow⟩
  · rintro ⟨rfl, live, ow⟩
    exact ⟨⟨rfl, live⟩, ow⟩

theorem ownership_of_owner (ow : db.agentSessionOwner user session) :
    db.agentSessionOwnership user session := by
  rw [Db.agentSessionOwner, Bool.and_eq_true] at ow
  exact ow.1

theorem visible_of_toolOwner (ow : db.agentToolOwner user tc) :
    db.sessionVisible user tc.sessionID := by
  obtain ⟨session, hf, ow⟩ := (Option.any_eq_true _ _).mp ow
  exact ⟨session, hf, ownership_of_owner ow⟩

/-- Only the user's own sessions, and rows that belong to them, differ. -/
structure OwnerScoped (user : String) (db changed : Db) : Prop where
  devices : changed.devices = db.devices
  sessions : ∀ id, changed.agentSessions.get id = db.agentSessions.get id ∨
    (∀ row, db.agentSessions.get id = some row → db.agentSessionOwnership user row = true) ∧
    (∀ row, changed.agentSessions.get id = some row →
      row.userID = user ∧ db.ownedBy user row.deviceID = true)
  messages : ∀ id, changed.agentMessages.get id = db.agentMessages.get id ∨
    (∀ row, db.agentMessages.get id = some row → db.sessionVisible user row.sessionID) ∧
    (∀ row, changed.agentMessages.get id = some row → db.sessionVisible user row.sessionID)
  toolCalls : ∀ id, changed.toolCalls.get id = db.toolCalls.get id ∨
    (∀ row, db.toolCalls.get id = some row → db.sessionVisible user row.sessionID) ∧
    (∀ row, changed.toolCalls.get id = some row → db.sessionVisible user row.sessionID)

theorem OwnerScoped.refl (user : String) (db : Db) : OwnerScoped user db db :=
  ⟨rfl, fun _ => .inl rfl, fun _ => .inl rfl, fun _ => .inl rfl⟩

/-- A row that differs was `owned` before, and what it is after is `theirs`. -/
def Touches {ρ : Type} (owned theirs : ρ → Prop) (before after : Option ρ) : Prop :=
  after = before ∨ (∀ row, before = some row → owned row) ∧ ∀ row, after = some row → theirs row

namespace Touches

variable {ρ : Type} {ow theirs : ρ → Prop} {row k' : ρ}

theorem created (hbe : theirs row) : Touches ow theirs none (some row) :=
  .inr ⟨nofun, fun _ hpr => Option.some.inj hpr ▸ hbe⟩

theorem deleted (belonged : ow row) : Touches ow theirs (some row) none :=
  .inr ⟨fun _ hpr => Option.some.inj hpr ▸ belonged, nofun⟩

theorem rewritten (belonged : ow row) (hbe : theirs k') : Touches ow theirs (some row) (some k') :=
  .inr ⟨fun _ hpr => Option.some.inj hpr ▸ belonged, fun _ hpr => Option.some.inj hpr ▸ hbe⟩

end Touches

theorem sessions_scoped (hscp : op.agentOwner = some user)
    (ok : op.body db = .ok (v, w)) (id : String) : Touches (db.agentSessionOwnership user · = true)
      (fun row => row.userID = user ∧ db.ownedBy user row.deviceID)
      (db.agentSessions.get id) (w.agentSessions.get id) := by
  have ch := session_change ok id
  have hbe {row : AgentSession} (ow : db.agentSessionOwnership user row) :
      row.userID = user ∧ db.ownedBy user row.deviceID :=
    ⟨(agentSessionOwnership_iff.mp ow).1, (agentSessionOwnership_iff.mp ow).2.2⟩
  generalize db.agentSessions.get id = before at ch
  generalize w.agentSessions.get id = after at ch
  cases ch with
  | kept => exact .inl rfl
  | created _ ow => cases hscp; exact .created ⟨rfl, ow⟩
  | archived hse ow => cases hscp; exact .rewritten ow (hbe ow)
  | deleted hse ow => cases hscp; exact .deleted ow
  | unpaired => cases hscp
  | approvalMode _ ow | state _ ow | begun _ ow | externalID ow
  | upgraded _ _ _ ow =>
    cases hscp
    have theirs := hbe (ownership_of_owner ow)
    exact .rewritten (ownership_of_owner ow) theirs

theorem messages_scoped (hscp : op.agentOwner = some user)
    (ok : op.body db = .ok (v, w)) (id : String) :
    Touches (db.sessionVisible user ·.sessionID) (db.sessionVisible user ·.sessionID)
      (db.agentMessages.get id) (w.agentMessages.get id) := by
  have ch := message_change ok id
  generalize db.agentMessages.get id = before at ch
  generalize w.agentMessages.get id = after at ch
  cases ch with
  | kept => exact .inl rfl
  | created hf ow => cases hscp; exact .created ⟨_, hf, ownership_of_owner ow⟩
  | deleted hf ow => cases hscp; exact .deleted ⟨_, hf, ow⟩

theorem toolCalls_scoped (hscp : op.agentOwner = some user)
    (ok : op.body db = .ok (v, w)) (id : String) :
    Touches (db.sessionVisible user ·.sessionID) (db.sessionVisible user ·.sessionID)
      (db.toolCalls.get id) (w.toolCalls.get id) := by
  have ch := toolCall_change ok id
  generalize db.toolCalls.get id = before at ch
  generalize w.toolCalls.get id = after at ch
  cases ch with
  | kept => exact .inl rfl
  | created _ hf ow => cases hscp; exact .created ⟨_, hf, ownership_of_owner ow⟩
  | unpaired => cases hscp
  | deleted hf ow => cases hscp; exact .deleted ⟨_, hf, ow⟩
  | decided _ ow | failedPending _ _ ow | started _ _ ow | finished _ _ _ ow =>
    -- every rewriting statement keeps the row in its session
    cases hscp
    exact .rewritten (visible_of_toolOwner ow) (visible_of_toolOwner ow)

theorem Statement.ownerScoped (hscp : op.agentOwner = some user)
    (ok : op.body db = .ok (v, w)) : OwnerScoped user db w where
  devices := by
    refine (Statement.frame ok).devices ?_
    cases op <;> first | (cases hscp; done) | simp [Statement.writes]
  sessions := sessions_scoped hscp ok
  messages := messages_scoped hscp ok
  toolCalls := toolCalls_scoped hscp ok

def StoreCall.agentOwner (call : StoreCall) : Option String := call.main.agentOwner

theorem StoreCall.ownerScoped (hscp : call.agentOwner = some user) (fls : List Fault) (db : Db) :
    OwnerScoped user db (call.run fls db).2 := by
  rcases call.run_main fls db with h | ⟨v, ok⟩
  · rw [h]
    exact .refl user db
  · exact Statement.ownerScoped hscp ok

/-! ## What an owner-scoped call returns -/

/-- Everything in the reply is a row of `db` that belongs to the user's sessions. -/
structure Reply.VisibleTo (db : Db) (user : String) (reply : Reply) : Prop where
  sessions : ∀ session ∈ reply.sessions, db.agentSessions.get session.id = some session ∧
    db.agentSessionOwnership user session = true
  summaries : ∀ summary ∈ reply.summaries, db.sessionVisible user summary.id
  messages : ∀ message ∈ reply.messages, db.agentMessages.get message.id = some message ∧
    db.sessionVisible user message.sessionID
  toolCalls : ∀ toolCall ∈ reply.toolCalls, db.toolCalls.get toolCall.id = some toolCall ∧
    db.sessionVisible user toolCall.sessionID

variable {reply : Reply} {owner sid : String} {fls : List Fault}

theorem Reply.visibleTo_nothing (hsess : reply.sessions = [])
    (summaries : reply.summaries = []) (hmsgs : reply.messages = [])
    (toolCalls : reply.toolCalls = []) : reply.VisibleTo db user := by
  constructor
  · simp [hsess]
  · simp [summaries]
  · simp [hmsgs]
  · simp [toolCalls]

theorem Reply.visibleTo_error (err : StoreError) :
    ({ error := some err } : Reply).VisibleTo db user :=
  Reply.visibleTo_nothing rfl rfl rfl rfl

theorem Reply.visibleTo_session (hf : db.agentSessions.get session.id = some session)
    (ow : db.agentSessionOwnership user session) :
    ({ sessions := [session] } : Reply).VisibleTo db user := by
  constructor <;> simp [hf, ow]

theorem Reply.visibleTo_toolCall (hf : db.toolCalls.get tc.id = some tc)
    (ow : db.agentToolOwner user tc) (err : Option StoreError) :
    ({ error := err, toolCalls := [tc] } : Reply).VisibleTo db user := by
  constructor <;> simp [hf, visible_of_toolOwner ow]

theorem get_self {ρ : Type} {key : ρ → String} {tb : Table key} {row : ρ}
    (hf : tb.get id = some row) : tb.get (key row) = some row :=
  Table.get_of_mem (Table.mem_of_get hf)

theorem mem_agentMessagesByOwner {msg : AgentMessage}
    (hm : msg ∈ db.agentMessagesByOwner owner sid) :
    db.agentMessages.get msg.id = some msg ∧ db.sessionVisible owner msg.sessionID := by
  unfold Db.agentMessagesByOwner at hm
  split at hm
  next guarded =>
    obtain ⟨session, hf, ow⟩ := (Option.any_eq_true _ _).mp guarded
    simp only [chronological, List.mem_insertionSort, List.mem_filter, decide_eq_true_eq] at hm
    obtain ⟨hpr, rfl⟩ := hm
    exact ⟨Table.get_of_mem hpr, session, hf, ownership_of_owner ow⟩
  next => cases hm

theorem mem_agentToolCallsByOwner (hm : tc ∈ db.agentToolCallsByOwner owner sid) :
    db.toolCalls.get tc.id = some tc ∧ db.sessionVisible owner tc.sessionID := by
  simp only [Db.agentToolCallsByOwner, chronological, List.mem_insertionSort, List.mem_filter,
    Bool.and_eq_true] at hm
  obtain ⟨hpr, -, ow⟩ := hm
  exact ⟨Table.get_of_mem hpr, visible_of_toolOwner ow⟩

theorem Reply.visibleTo_snapshot (hf : db.agentSessions.get session.id = some session)
    (ow : db.agentSessionOwner owner session) :
    (Reply.ofSnapshot ⟨session, db.agentMessagesByOwner owner session.id,
      db.agentToolCallsByOwner owner session.id⟩).VisibleTo db owner where
  sessions other member := by
    cases List.mem_singleton.mp member
    exact ⟨hf, ownership_of_owner ow⟩
  summaries _ member := by cases member
  messages _ member := mem_agentMessagesByOwner member
  toolCalls _ member := mem_agentToolCallsByOwner member

theorem summarize_id {summary : AgentSessionSummary} (made : db.summarize session = some summary) :
    summary.id = session.id := by
  rw [Db.summarize, Option.map_eq_some_iff] at made
  obtain ⟨_, -, rfl⟩ := made
  rfl

theorem Reply.visibleTo_summaries {sess : List AgentSession}
    (ow : ∀ session ∈ sess, db.agentSessions.get session.id = some session ∧
      db.agentSessionOwnership owner session) :
    ({ summaries := sess.filterMap db.summarize } : Reply).VisibleTo db owner where
  sessions _ member := by cases member
  summaries summary member := by
    obtain ⟨session, hpr, made⟩ := List.mem_filterMap.mp member
    rw [summarize_id made]
    exact ⟨session, ow session hpr⟩
  messages _ member := by cases member
  toolCalls _ member := by cases member

theorem visible_of_single (op : Statement) (pr : op.Result → Reply) (shape : call.run fls db =
      (.ofExcept pr (op.body.run (fls.headD default) db).1, (op.body.run (fls.headD default) db).2))
    (hv : ∀ v w, op.body db = .ok (v, w) → (pr v).VisibleTo db user ∨ (pr v).VisibleTo w user) :
    (call.run fls db).1.VisibleTo db user ∨
      (call.run fls db).1.VisibleTo (call.run fls db).2 user := by
  rw [shape]
  cases oc : op.body.run (fls.headD default) db with
  | mk res w =>
    cases res with
    | error err => exact .inl (Reply.visibleTo_error err)
    | ok v => exact hv v w (Transaction.run_ok oc)

/-- The postcondition of the calls that look their row up again after writing. -/
def returnsVisible (user : String) (reply : Reply) (final : Db) : Prop := reply.VisibleTo final user

theorem visible_of_lookup (op : Statement) (pr : op.Result → Reply)
    (hv : ∀ v w, op.body db = .ok (v, w) → (pr v).VisibleTo w user) (ft : Fault) :
    (Reply.ofExcept pr (Query.execute op ft db).1).VisibleTo (Query.execute op ft db).2 user := by
  cases oc : Query.execute op ft db with
  | mk res w =>
    cases res with
    | error err => exact Reply.visibleTo_error err
    | ok v => exact hv v w (Transaction.run_ok oc)

theorem visible_sessionLookup (owner sid : String) (ft : Fault) (db : Db) :
    (Reply.ofExcept (fun session => { sessions := [session] })
      (Query.execute (.agentSessionByOwner owner sid) ft db).1).VisibleTo
      (Query.execute (.agentSessionByOwner owner sid) ft db).2 owner := by
  refine visible_of_lookup (.agentSessionByOwner owner sid) _ ?_ ft
  intro session w ok
  obtain ⟨rfl, hf, ow⟩ := agentSessionByOwner_ok ok
  exact Reply.visibleTo_session (get_self hf) (ownership_of_owner ow)

theorem visible_managingLookup (owner sid : String) (ft : Fault) (db : Db) :
    (Reply.ofExcept (fun session => { sessions := [session] })
      (Query.execute (.agentSessionByManagingOwner owner sid) ft db).1).VisibleTo
      (Query.execute (.agentSessionByManagingOwner owner sid) ft db).2 owner := by
  refine visible_of_lookup (.agentSessionByManagingOwner owner sid) _ ?_ ft
  intro session w ok
  obtain ⟨rfl, hf, ow⟩ := agentSessionByManagingOwner_ok ok
  exact Reply.visibleTo_session (get_self hf) ow

theorem ensures_approvalMode (owner sid : String) (md : ApprovalMode) (now : Time) (db : Db) :
    (StoreCall.updateAgentSessionApprovalMode owner sid md now).program.ensures Query.execute
      (returnsVisible owner) db := by
  intro ft
  obtain ⟨res, hw⟩ := Query.execute (.updateApprovalMode owner sid md now) ft db
  cases res with
  | error err => exact Reply.visibleTo_error err
  | ok _ =>
    apply (ensures_bind _).mpr
    apply ensures_ite
    · intro k'
      obtain ⟨lookup, _⟩ := Query.execute (.agentSessionByOwner owner sid) k' hw
      cases lookup <;> exact Reply.visibleTo_error _
    · exact fun k' => visible_sessionLookup owner sid k' _

theorem ensures_archived (owner sid : String) (archived : Bool) (now : Time) (db : Db) :
    (StoreCall.setAgentSessionArchived owner sid archived now).program.ensures Query.execute
      (returnsVisible owner) db := by
  intro ft
  obtain ⟨res, hw⟩ := Query.execute (.updateArchived owner sid archived now) ft db
  cases res with
  | error err => exact Reply.visibleTo_error err
  | ok _ =>
    apply (ensures_bind _).mpr
    apply ensures_ite
    · intro k'
      obtain ⟨lookup, _⟩ :=
        Query.execute (.agentSessionByManagingOwner owner sid) k' hw
      cases lookup <;> exact Reply.visibleTo_error _
    · exact fun k' => visible_managingLookup owner sid k' _

theorem ensures_failPending (owner cid : String) (exc : Bytes) (now : Time) (db : Db) :
    (StoreCall.failPendingAgentToolCall owner cid exc now).program.ensures Query.execute
      (returnsVisible owner) db := by
  intro ft
  obtain ⟨res, hw⟩ := Query.execute (.failPendingToolCall owner cid exc now) ft db
  cases res with
  | error err => exact Reply.visibleTo_error err
  | ok _ =>
    intro k'
    cases hlk : Query.execute (.agentToolCallByOwner owner cid) k' hw with
    | mk lookup _ =>
      cases lookup with
      | error err => exact Reply.visibleTo_error err
      | ok _ =>
        obtain ⟨rfl, hf, ow⟩ := agentToolCallByOwner_ok (Transaction.run_ok hlk)
        apply (ensures_bind _).mpr
        exact ensures_ite _ (Reply.visibleTo_toolCall (get_self hf) ow _)
          (Reply.visibleTo_toolCall (get_self hf) ow none)

def Reply.silent (reply : Reply) : Prop :=
  reply.sessions = [] ∧ reply.summaries = [] ∧ reply.messages = [] ∧ reply.toolCalls = []

theorem Reply.silent.visibleTo (hsl : reply.silent) : reply.VisibleTo db user :=
  Reply.visibleTo_nothing hsl.1 hsl.2.1 hsl.2.2.1 hsl.2.2.2

theorem visible_of_silent (fls : List Fault) (hsl : call.program.returns Reply.silent) :
    (call.run fls db).1.VisibleTo (call.run fls db).2 user :=
  (evaluate_returns Query.execute hsl fls db).visibleTo

theorem silent_ofExcept {α : Type} {pr : α → Reply} (hq : ∀ v, (pr v).silent)
    (res : Except StoreError α) : (Reply.ofExcept pr res).silent := by
  cases res with
  | ok v => exact hq v
  | error _ => exact ⟨rfl, rfl, rfl, rfl⟩

theorem decided_rows {cid : String} {dec : Decision} {now : Time}
    (ok : decideAgentToolCall owner cid dec now db = .ok ((tc, session), w)) :
    w.toolCalls.get tc.id = some tc ∧ w.agentSessions.get tc.sessionID = some session ∧
    w.agentSessionOwner owner session := by
  obtain ⟨s, hf, hud, toolOwned, rfl, rfl, hl, ow⟩ := decideAgentToolCall_ok ok
  have hky := Table.key_of_get hf
  subst hky
  refine ⟨?_, hl, ow⟩
  have hrcd : (db.recordDecision owner s.id dec).toolCalls.get s.id =
      some { s with decision := some dec } := by
    rw [Db.recordDecision, get_updateToolCall, hf]
    simp [hud, toolOwned]
  split <;> exact hrcd

theorem StoreCall.visible (hscp : call.agentOwner = some user) (fls : List Fault) (db : Db) :
    (call.run fls db).1.VisibleTo db user ∨
      (call.run fls db).1.VisibleTo (call.run fls db).2 user := by
  cases call with
  | registerDevice | unpairDevice | createPairingCode | claimPairing => cases hscp
  | agentSessionByOwner owner sid =>
    cases hscp
    exact .inr (visible_sessionLookup user sid (fls.headD default) db)
  | agentSnapshotByOwner owner sid =>
    cases hscp
    refine visible_of_single (.agentSnapshotByOwner user sid) _ rfl ?_
    intro snap w ok
    simp only [Statement.body, Store.agentSnapshotByOwner] at ok
    split at ok
    next => cases ok
    next hf =>
      obtain ⟨hl, ow⟩ := filter_get_some hf
      have hky := Table.key_of_get hl
      subst hky
      cases ok
      exact .inl (Reply.visibleTo_snapshot hl ow)
  | latestAgentSnapshotByDeviceOwner owner did =>
    cases hscp
    refine visible_of_single (.latestAgentSnapshotByDeviceOwner user did) _ rfl ?_
    intro snap w ok
    simp only [Statement.body, Store.latestAgentSnapshotByDeviceOwner] at ok
    split at ok
    next => cases ok
    next newest =>
      have hm := List.mem_of_mem_head? (Option.mem_def.mpr newest)
      simp only [List.mem_insertionSort, List.mem_filter, Bool.and_eq_true] at hm
      cases ok
      exact .inl (Reply.visibleTo_snapshot (Table.get_of_mem hm.1) hm.2.2)
  | recentAgentSessionsByDeviceOwner owner did =>
    cases hscp
    refine visible_of_single (.recentAgentSessionsByDeviceOwner user did) _ rfl ?_
    intro summaries w ok
    cases ok
    refine .inl (Reply.visibleTo_summaries fun session hm => ?_)
    have hv := List.mem_of_mem_take hm
    simp only [List.mem_insertionSort, List.mem_filter, Bool.and_eq_true] at hv
    exact ⟨Table.get_of_mem hv.1, ownership_of_owner hv.2.2⟩
  | archivedAgentSessionsByOwner owner =>
    cases hscp
    refine visible_of_single (.archivedAgentSessionsByOwner user) _ rfl ?_
    intro summaries w ok
    cases ok
    refine .inl (Reply.visibleTo_summaries fun session hm => ?_)
    have hv := List.mem_of_mem_take hm
    simp only [List.mem_insertionSort, List.mem_filter, Bool.and_eq_true] at hv
    exact ⟨Table.get_of_mem hv.1, hv.2.2⟩
  | updateAgentSessionApprovalMode owner sid md now =>
    cases hscp
    exact .inr (evaluate_ensures _ (ensures_approvalMode user sid md now db) fls)
  | setAgentSessionArchived owner sid archived now =>
    cases hscp
    exact .inr (evaluate_ensures _ (ensures_archived user sid archived now db) fls)
  | deleteAgentSessionByOwner owner sid =>
    cases hscp
    refine visible_of_single (.deleteAgentSessionByOwner user sid) _ rfl ?_
    intro session w ok
    obtain ⟨hf, ow, -, -⟩ := deleteAgentSessionByOwner_ok ok
    exact .inl (Reply.visibleTo_session (get_self hf) ow)
  | createAgentSession | updateAgentSessionState | updateAgentExternalSessionID | createAgentMessage
  | createAgentToolCall =>
    exact .inr (visible_of_silent fls (silent_ofExcept fun _ => ⟨rfl, rfl, rfl, rfl⟩))
  | agentToolCallByOwner owner cid =>
    cases hscp
    refine visible_of_single (.agentToolCallByOwner user cid) _ rfl ?_
    intro tc w ok
    obtain ⟨-, hf, ow⟩ := agentToolCallByOwner_ok ok
    exact .inl (Reply.visibleTo_toolCall (get_self hf) ow none)
  | decideAgentToolCall owner cid dec now =>
    cases hscp
    refine visible_of_single (.decideAgentToolCall user cid dec now) _ rfl ?_
    rintro ⟨tc, session⟩ w ok
    obtain ⟨hl, hf, ow⟩ := decided_rows ok
    refine .inr ⟨?_, by simp, by simp, ?_⟩
    · intro o hm
      cases List.mem_singleton.mp hm
      exact ⟨get_self hf, ownership_of_owner ow⟩
    · intro o hm
      cases List.mem_singleton.mp hm
      exact ⟨hl, session, hf, ownership_of_owner ow⟩
  | failPendingAgentToolCall owner cid exc now =>
    cases hscp
    exact .inr (evaluate_ensures _ (ensures_failPending user cid exc now db) fls)
  | beginAgentTurn | startAgentToolCall | finishAgentToolCall =>
    exact .inr (visible_of_silent fls
      (returns_bind (silent_ofExcept fun _ => ⟨rfl, rfl, rfl, rfl⟩)))

/-! ## Revoked sessions -/

/-- The unpairs that reach a session: those of its own user and device. -/
def StoreCall.unpairs (call : StoreCall) (session : AgentSession) : Prop :=
  ∃ now, call = .unpairDevice session.userID session.deviceID now

theorem revoked_of_change {s' : Option AgentSession} (hrv : row.state = .revoked)
    (ch : SessionChange db op (some row) s') :
    s' = some row ∨ ∃ now, op = .unpairDevice row.userID row.deviceID now ∧
      s' = some { row with updatedAt := now } := by
  -- every owner predicate excludes the revoked state
  have hidden : ∀ user, db.agentSessionOwnership user row ≠ true := fun user ow =>
    (agentSessionOwnership_iff.mp ow).2.1 hrv
  cases ch with
  | kept => exact .inl rfl
  | archived _ ow | deleted _ ow => exact absurd ow (hidden _)
  | approvalMode _ ow | state _ ow | begun _ ow | externalID ow
  | upgraded _ _ _ ow => exact absurd (ownership_of_owner ow) (hidden _)
  | unpaired bd ow =>
    simp only [AgentSession.boundTo, Bool.and_eq_true, decide_eq_true_eq] at bd
    obtain ⟨rfl, rfl⟩ := bd
    exact .inr ⟨_, rfl, by rw [← hrv]⟩

theorem revoked_call (hl : db.agentSessions.get id = some row) (hrv : row.state = .revoked)
    (call : StoreCall) (fls : List Fault) : (call.run fls db).2.agentSessions.get id = some row ∨
      call.unpairs row ∧
      ∃ now, (call.run fls db).2.agentSessions.get id = some { row with updatedAt := now } := by
  rcases call.run_main fls db with h | ⟨v, ok⟩
  · rw [h]
    exact .inl hl
  have hch := session_change ok id
  rw [hl] at hch
  rcases revoked_of_change hrv hch with kept | ⟨now, issued, refreshed⟩
  · exact .inl kept
  refine .inr ⟨⟨now, ?_⟩, now, refreshed⟩
  cases call with
  | unpairDevice _ _ _ =>
    obtain ⟨rfl, rfl, rfl⟩ := Statement.unpairDevice.inj issued
    rfl
  | _ => cases issued

theorem revoked_runCalls (hl : db.agentSessions.get id = some row)
    (hrv : row.state = .revoked) (k' : List (StoreCall × List Fault)) :
    (∃ now, (runCalls k' db).agentSessions.get id = some { row with updatedAt := now }) ∧
    ((∀ e ∈ k', ¬ e.1.unpairs row) → (runCalls k' db).agentSessions.get id = some row) := by
  induction k' generalizing db row with
  | nil => exact ⟨⟨row.updatedAt, hl⟩, fun _ => hl⟩
  | cons e _ ih =>
    rcases revoked_call hl hrv e.1 e.2 with kept | ⟨hr, now, refreshed⟩
    · obtain ⟨stamped, hut⟩ := ih kept hrv
      exact ⟨stamped, fun hoth => hut fun o hm => hoth o (List.mem_cons_of_mem _ hm)⟩
    · obtain ⟨⟨stamp, stamped⟩, -⟩ := ih refreshed hrv
      exact ⟨⟨stamp, stamped⟩, fun hoth => absurd hr (hoth e List.mem_cons_self)⟩

structure Reply.Omits (reply : Reply) (sessionID : String) : Prop where
  sessions : ∀ session ∈ reply.sessions, session.id ≠ sessionID
  summaries : ∀ summary ∈ reply.summaries, summary.id ≠ sessionID
  messages : ∀ message ∈ reply.messages, message.sessionID ≠ sessionID
  toolCalls : ∀ toolCall ∈ reply.toolCalls, toolCall.sessionID ≠ sessionID

theorem Reply.VisibleTo.omits (hv : reply.VisibleTo db user)
    (hl : db.agentSessions.get id = some row) (hrv : row.state = .revoked) : reply.Omits id := by
  have hidden : ¬ db.sessionVisible user id := by
    rintro ⟨session, hf, ow⟩
    rw [hl] at hf
    cases hf
    exact (agentSessionOwnership_iff.mp ow).2.1 hrv
  constructor
  · rintro session hm rfl
    exact hidden ⟨session, hv.sessions session hm⟩
  · rintro summary hm rfl
    exact hidden (hv.summaries summary hm)
  · rintro msg hm rfl
    exact hidden (hv.messages msg hm).2
  · rintro tc hm rfl
    exact hidden (hv.toolCalls tc hm).2

theorem StoreCall.omits (hl : db.agentSessions.get id = some row)
    (hrv : row.state = .revoked) (call : StoreCall) (fls : List Fault) :
    (call.run fls db).1.Omits id := by
  obtain ⟨s', afterLocated, afterRevoked⟩ : ∃ s',
      (call.run fls db).2.agentSessions.get id = some s' ∧ s'.state = .revoked := by
    rcases revoked_call hl hrv call fls with kept | ⟨-, _, refreshed⟩
    · exact ⟨row, kept, hrv⟩
    · exact ⟨_, refreshed, hrv⟩
  cases scp : call.agentOwner with
  | some _ =>
    rcases call.visible scp fls db with s | hv
    · exact s.omits hl hrv
    · exact hv.omits afterLocated afterRevoked
  | none =>
    -- the pairing calls answer with a device or with ids, never with agent rows
    have hv : (call.run fls db).1.VisibleTo (call.run fls db).2 "" := by
      refine visible_of_silent fls ?_
      cases call with
      | registerDevice _ =>
        exact returns_bind (silent_ofExcept fun _ => ⟨rfl, rfl, rfl, rfl⟩)
      | unpairDevice | createPairingCode | claimPairing =>
        exact silent_ofExcept fun _ => ⟨rfl, rfl, rfl, rfl⟩
      | _ => cases scp
    exact hv.omits afterLocated afterRevoked

theorem returns_noRevocations (ho : ∀ owner did now, call ≠ .unpairDevice owner did now) :
    call.program.returns (fun reply => reply.revokedAgentSessionIDs = []) := by
  have hq : ∀ {α : Type} {hpr : α → Reply},
      (∀ v, (hpr v).revokedAgentSessionIDs = []) →
      ∀ res, (Reply.ofExcept hpr res).revokedAgentSessionIDs = [] := by
    intro α hpr hq res
    cases res with
    | ok v => exact hq v
    | error _ => rfl
  cases call with
  | unpairDevice owner did now => exact absurd rfl (ho owner did now)
  | registerDevice | updateAgentSessionApprovalMode | setAgentSessionArchived | beginAgentTurn
  | startAgentToolCall | finishAgentToolCall => exact returns_bind (hq fun _ => rfl)
  | failPendingAgentToolCall =>
    refine returns_bind fun res => ?_
    cases res <;> rfl
  | _ => exact hq fun _ => rfl

theorem unpairs_of_revokedIDs (hl : db.agentSessions.get id = some row)
    (hn : id ∈ (call.run fls db).1.revokedAgentSessionIDs) : call.unpairs row := by
  by_cases unpairing : ∃ owner did now, call = .unpairDevice owner did now
  · obtain ⟨owner, did, now, rfl⟩ := unpairing
    change id ∈ (Reply.ofExcept _ ((unpairDevice owner did now).run
      (fls.headD default) db).1).revokedAgentSessionIDs at hn
    cases hoc : (unpairDevice owner did now).run (fls.headD default) db with
    | mk res w =>
      rw [hoc] at hn
      cases res with
      | error _ => cases hn
      | ok v =>
        obtain ⟨-, -, hli⟩ := unpairDevice_ok (Transaction.run_ok hoc)
        obtain ⟨_, hf, bd⟩ := (hli id).mp hn
        rw [hl] at hf
        cases hf
        simp only [AgentSession.boundTo, Bool.and_eq_true, decide_eq_true_eq] at bd
        obtain ⟨rfl, rfl⟩ := bd
        exact ⟨now, rfl⟩
  · have ho : ∀ owner did now, call ≠ .unpairDevice owner did now :=
      fun owner did now h => unpairing ⟨owner, did, now, h⟩
    have hem := evaluate_returns Query.execute (returns_noRevocations ho) fls db
    rw [StoreCall.run, hem] at hn
    cases hn

/-! ## What an owner-scoped read depends on -/

/-- The part of the database a user can reach: without other sessions and without their rows. -/
def Db.visibleTo (db : Db) (user : String) : Db :=
  let reaches := fun sessionID => (db.agentSessions.get sessionID).any (db.agentSessionOwnership user)
  { db with
    agentSessions := db.agentSessions.delete (fun session => !db.agentSessionOwnership user session)
    agentMessages := db.agentMessages.delete (fun message => !reaches message.sessionID)
    toolCalls := db.toolCalls.delete (fun toolCall => !reaches toolCall.sessionID) }

section Visible

variable (user : String)

@[simp] theorem visibleTo_agentSessionOwnership (session : AgentSession) :
    (db.visibleTo user).agentSessionOwnership user session = db.agentSessionOwnership user session :=
  rfl

@[simp] theorem visibleTo_agentSessionOwner (session : AgentSession) :
    (db.visibleTo user).agentSessionOwner user session = db.agentSessionOwner user session :=
  rfl

theorem visibleTo_get_session (sid : String) : (db.visibleTo user).agentSessions.get sid =
      (db.agentSessions.get sid).filter (db.agentSessionOwnership user) := by
  simp [Db.visibleTo]

theorem visibleTo_filter_owner (sid : String) :
    ((db.visibleTo user).agentSessions.get sid).filter ((db.visibleTo user).agentSessionOwner user) =
      (db.agentSessions.get sid).filter (db.agentSessionOwner user) := by
  rw [visibleTo_get_session]
  cases db.agentSessions.get sid with
  | none => rfl
  | some session =>
    cases hv : db.agentSessionOwnership user session <;>
      simp [Option.filter_some, hv, Db.agentSessionOwner]

theorem visibleTo_any_owner (sid : String) :
    ((db.visibleTo user).agentSessions.get sid).any ((db.visibleTo user).agentSessionOwner user) =
      (db.agentSessions.get sid).any (db.agentSessionOwner user) := by
  rw [← Option.isSome_filter, visibleTo_filter_owner, Option.isSome_filter]

theorem visibleTo_agentToolOwner (tc : ToolCall) :
    (db.visibleTo user).agentToolOwner user tc = db.agentToolOwner user tc :=
  visibleTo_any_owner user tc.sessionID

theorem visibleTo_sessions (gd : AgentSession → Bool)
    (implies : ∀ session, gd session → db.agentSessionOwnership user session) :
    (db.visibleTo user).agentSessions.rows.filter gd = db.agentSessions.rows.filter gd := by
  simp only [Db.visibleTo, Table.delete, List.filter_filter, Bool.not_not]
  apply List.filter_congr
  intro session _
  cases hsel : gd session with
  | true => simp [implies session hsel]
  | false => rfl

theorem visibleTo_messages (vis : db.sessionVisible user sid) (gd : AgentMessage → Bool)
    (implies : ∀ msg, gd msg → msg.sessionID = sid) :
    (db.visibleTo user).agentMessages.rows.filter gd = db.agentMessages.rows.filter gd := by
  obtain ⟨_, hf, ow⟩ := vis
  simp only [Db.visibleTo, Table.delete, List.filter_filter, Bool.not_not]
  apply List.filter_congr
  intro msg _
  cases hsel : gd msg with
  | true => simp [implies msg hsel, hf, ow]
  | false => rfl

theorem visibleTo_agentMessagesByOwner (sid : String) :
    (db.visibleTo user).agentMessagesByOwner user sid = db.agentMessagesByOwner user sid := by
  unfold Db.agentMessagesByOwner
  rw [visibleTo_any_owner]
  split
  next guarded =>
    obtain ⟨session, hf, ow⟩ := (Option.any_eq_true _ _).mp guarded
    rw [visibleTo_messages user ⟨session, hf, ownership_of_owner ow⟩ _ (by simp)]
  next => rfl

theorem visibleTo_agentToolCallsByOwner (sid : String) :
    (db.visibleTo user).agentToolCallsByOwner user sid = db.agentToolCallsByOwner user sid := by
  unfold Db.agentToolCallsByOwner
  congr 1
  simp only [visibleTo_agentToolOwner]
  simp only [Db.visibleTo, Table.delete, List.filter_filter, Bool.not_not]
  apply List.filter_congr
  intro tc _
  cases ow : db.agentToolOwner user tc with
  | true =>
    obtain ⟨_, hf, hv⟩ := visible_of_toolOwner ow
    simp [hf, hv]
  | false => simp

theorem visibleTo_summarize (hm : session ∈ db.agentSessions.rows)
    (ow : db.agentSessionOwnership user session) :
    (db.visibleTo user).summarize session = db.summarize session := by
  unfold Db.summarize Db.titleSource
  rw [visibleTo_messages user ⟨session, Table.get_of_mem hm, ow⟩ _ (by simp; tauto)]
  rfl

theorem read_visibleTo (hscp : op.agentOwner = some user) (hrd : op.writes = []) :
    (op.body (db.visibleTo user)).map Prod.fst = (op.body db).map Prod.fst := by
  cases op with
  | agentSessionByOwner owner sid =>
    cases hscp
    simp only [Statement.body, Store.agentSessionByOwner, visibleTo_filter_owner]
    split <;> rfl
  | agentSessionByManagingOwner owner sid =>
    cases hscp
    have h : ((db.visibleTo user).agentSessions.get sid).filter
        ((db.visibleTo user).agentSessionOwnership user) =
          (db.agentSessions.get sid).filter (db.agentSessionOwnership user) := by
      rw [visibleTo_get_session, Option.filter_filter]
      simp
    simp only [Statement.body, Store.agentSessionByManagingOwner, h]
    split <;> rfl
  | agentSnapshotByOwner owner sid =>
    cases hscp
    simp only [Statement.body, Store.agentSnapshotByOwner, visibleTo_filter_owner,
      visibleTo_agentMessagesByOwner, visibleTo_agentToolCallsByOwner]
    split <;> rfl
  | latestAgentSnapshotByDeviceOwner owner did =>
    cases hscp
    simp only [Statement.body, Store.latestAgentSnapshotByDeviceOwner, visibleTo_agentSessionOwner,
      visibleTo_agentMessagesByOwner, visibleTo_agentToolCallsByOwner]
    rw [visibleTo_sessions user _ (by
      intro session hsel
      rw [Bool.and_eq_true] at hsel
      exact ownership_of_owner hsel.2)]
    split <;> rfl
  | recentAgentSessionsByDeviceOwner owner did =>
    cases hscp
    simp only [Statement.body, Store.recentAgentSessionsByDeviceOwner, visibleTo_agentSessionOwner]
    rw [visibleTo_sessions user _ (by
      intro session hsel
      rw [Bool.and_eq_true] at hsel
      exact ownership_of_owner hsel.2)]
    simp only [Except.map, Except.ok.injEq]
    apply List.filterMap_congr
    intro session hm
    have hv := List.mem_of_mem_take hm
    simp only [List.mem_insertionSort, List.mem_filter, Bool.and_eq_true] at hv
    exact visibleTo_summarize user hv.1 (ownership_of_owner hv.2.2)
  | archivedAgentSessionsByOwner owner =>
    cases hscp
    simp only [Statement.body, Store.archivedAgentSessionsByOwner, visibleTo_agentSessionOwnership]
    rw [visibleTo_sessions user _ (by
      intro session hsel
      rw [Bool.and_eq_true] at hsel
      exact hsel.2)]
    simp only [Except.map, Except.ok.injEq]
    apply List.filterMap_congr
    intro session hm
    have hv := List.mem_of_mem_take hm
    simp only [List.mem_insertionSort, List.mem_filter, Bool.and_eq_true] at hv
    exact visibleTo_summarize user hv.1 hv.2.2
  | agentToolCallByOwner owner cid =>
    cases hscp
    have h : ((db.visibleTo user).toolCalls.get cid).filter
        ((db.visibleTo user).agentToolOwner user) =
          (db.toolCalls.get cid).filter (db.agentToolOwner user) := by
      simp only [Db.visibleTo, Table.get_delete]
      change Option.filter ((db.visibleTo user).agentToolOwner user) _ = _
      cases db.toolCalls.get cid with
      | none => rfl
      | some tc =>
        cases ow : db.agentToolOwner user tc with
        | true =>
          obtain ⟨session, hf, hv⟩ := visible_of_toolOwner ow
          simp [Option.filter_some, hf, hv, visibleTo_agentToolOwner, ow]
        | false => simp [Option.filter_some, Option.filter_eq_none_iff, visibleTo_agentToolOwner, ow]
    simp only [Statement.body, Store.agentToolCallByOwner, h]
    split <;> rfl
  | _ => first | (cases hrd; done) | cases hscp

end Visible

theorem Transaction.run_fst {α : Type} {body : Transaction α} {a b : Db}
    (h : (body a).map Prod.fst = (body b).map Prod.fst) (ft : Fault) :
    (body.run ft a).1 = (body.run ft b).1 := by
  unfold Transaction.run
  cases ft <;> cases left : body a <;> cases right : body b <;>
    simp_all [Except.map]

theorem StoreCall.reads_visibleTo (hscp : call.agentOwner = some user)
    (hrd : call.main.writes = []) (fls : List Fault) (db : Db) :
    (call.run fls (db.visibleTo user)).1 = (call.run fls db).1 := by
  have h := Transaction.run_fst (read_visibleTo user hscp hrd : _ = (call.main.body db).map _)
    (fls.headD default)
  cases call with
  | agentSessionByOwner | agentSnapshotByOwner | latestAgentSnapshotByDeviceOwner
  | recentAgentSessionsByDeviceOwner | archivedAgentSessionsByOwner | agentToolCallByOwner =>
    exact congrArg (Reply.ofExcept _) h
  | _ => cases hrd

/-- After any history of calls, the next owner-scoped agent call reads and changes only its user's
    sessions on devices the user owns, and their rows.  A revoked session keeps every column but the
    stamp of a later unpair of the same device by the same user, that unpair is the only call that
    names it, and no call returns it or a row of it. -/
theorem session_isolation (users : List String) (history : List (StoreCall × List Fault)) :
    (∀ call user, StoreCall.agentOwner call = some user → ∀ faults,
      OwnerScoped user (runCalls history (Db.empty users))
        (call.run faults (runCalls history (Db.empty users))).2 ∧
      ((call.run faults (runCalls history (Db.empty users))).1.VisibleTo
          (runCalls history (Db.empty users)) user ∨
        (call.run faults (runCalls history (Db.empty users))).1.VisibleTo
          (call.run faults (runCalls history (Db.empty users))).2 user) ∧
      (call.main.writes = [] →
        (call.run faults ((runCalls history (Db.empty users)).visibleTo user)).1 =
          (call.run faults (runCalls history (Db.empty users))).1)) ∧
    (∀ id row, (runCalls history (Db.empty users)).agentSessions.get id = some row →
      row.state = .revoked → ∀ later : List (StoreCall × List Fault),
      (∃ now, (runCalls (history ++ later) (Db.empty users)).agentSessions.get id =
        some { row with updatedAt := now }) ∧
      ((∀ entry ∈ later, ¬ entry.1.unpairs row) →
        (runCalls (history ++ later) (Db.empty users)).agentSessions.get id = some row) ∧
      ∀ next faults,
        (StoreCall.run next faults (runCalls (history ++ later) (Db.empty users))).1.Omits id ∧
        (id ∈ (next.run faults
            (runCalls (history ++ later) (Db.empty users))).1.revokedAgentSessionIDs →
          next.unpairs row)) := by
  constructor
  · intro call user scope faults
    exact ⟨call.ownerScoped scope faults _, call.visible scope faults _,
      fun reading => call.reads_visibleTo scope reading faults _⟩
  · intro id row located revoked later
    rw [runCalls_append]
    obtain ⟨⟨now, stamped⟩, untouched⟩ := revoked_runCalls located revoked later
    refine ⟨⟨now, stamped⟩, untouched, fun next faults => ?_⟩
    -- the stamp is the only difference, and `unpairs` does not look at it
    refine ⟨next.omits stamped revoked faults, fun named => ?_⟩
    have unpairs := unpairs_of_revokedIDs stamped named
    exact unpairs

def handedOver : List (StoreCall × List Fault) :=
  [(.createPairingCode ⟨"code2", "device", [8], 100, none, 6⟩ 6, []), (.claimPairing "bob" [8] 7, [])]

theorem session_isolation_handed_over :
    (runCalls ((pairedHistory ++ [(.unpairDevice "alice" "device" 5, [])]) ++ handedOver)
      (Db.empty ["alice", "bob"])).agentSessions.get "session" =
        some { sampleSession with state := .revoked, updatedAt := 5 } ∧
    OwnerScoped "bob" (runCalls (pairedHistory ++ [(.unpairDevice "alice" "device" 5, [])])
        (Db.empty ["alice", "bob"]))
      ((StoreCall.archivedAgentSessionsByOwner "bob").run [] (runCalls
        (pairedHistory ++ [(.unpairDevice "alice" "device" 5, [])]) (Db.empty ["alice", "bob"]))).2 := by
  obtain ⟨isolated, revoked⟩ := session_isolation ["alice", "bob"]
    (pairedHistory ++ [(.unpairDevice "alice" "device" 5, [])])
  refine ⟨(revoked "session" { sampleSession with state := .revoked, updatedAt := 5 } (by decide) rfl
    handedOver).2.1 ?_, (isolated (.archivedAgentSessionsByOwner "bob") "bob" rfl []).1⟩
  simp [handedOver, StoreCall.unpairs]

/-- Alice pairs her device again and unpairs it once more: the session that the first unpair revoked
    is listed again, and its row is stamped again. -/
theorem revoked_session_listed_again :
    ∃ history : List (StoreCall × List Fault), ∃ row,
      (runCalls history (Db.empty ["alice"])).agentSessions.get "session" = some row ∧
      row.state = .revoked ∧
      "session" ∈ ((StoreCall.unpairDevice "alice" "device" 9).run []
        (runCalls history (Db.empty ["alice"]))).1.revokedAgentSessionIDs ∧
      ((StoreCall.unpairDevice "alice" "device" 9).run []
        (runCalls history (Db.empty ["alice"]))).2.agentSessions.get "session" ≠ some row :=
  ⟨pairedHistory ++ [(.unpairDevice "alice" "device" 5, []),
      (.createPairingCode ⟨"code2", "device", [8], 100, none, 6⟩ 6, []),
      (.claimPairing "alice" [8] 7, [])],
    { sampleSession with state := .revoked, updatedAt := 5 }, by decide, rfl, by decide, by decide⟩

end AISummoner.Store
