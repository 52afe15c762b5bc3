import AISummoner.Store.Changes

/-! # The life of a tool-call row

A tool call is created pending or started, is decided at most once, and ends
completed, denied or failed.  `ToolCall.Lawful` is what holds of a row at every
moment; `ToolCall.Extends` is what a row keeps from one moment to the next.
-/

namespace AISummoner.Store

open Relational

variable {db w : Db}

structure ToolCall.Lawful (row : ToolCall) : Prop where
  startedUndenied : row.status = .started → row.decision ≠ some .deny
  deniedByDecision : row.status = .denied → row.decision = some .deny
  completedUndenied : row.status = .completed → row.decision ≠ some .deny
  completedAt : row.completedAt.isSome = terminalToolStatus row.status
  exitCode : row.exitCode.isSome = true → row.status = .completed
  excerpt : ∀ bytes, row.outputExcerpt = some bytes → bytes.length ≤ maxOutputExcerptBytes

/-- `later` is `row` at a later time: the decision is written once, a terminal status is final. -/
structure ToolCall.Extends (row later : ToolCall) : Prop where
  decision : row.decision.isSome = true → later.decision = row.decision
  status : terminalToolStatus row.status = true → later.status = row.status

theorem ToolCall.Extends.refl (row : ToolCall) : row.Extends row := ⟨fun _ => rfl, fun _ => rfl⟩

variable {row : ToolCall} {op : Statement} {s s' : Option ToolCall}
  {call : StoreCall} {hist : List (StoreCall × List Fault)}

theorem ToolCall.Extends.trans {ha hb third : ToolCall} (early : ha.Extends hb)
    (late : hb.Extends third) : ha.Extends third where
  decision decided := by
    have kept := early.decision decided
    rw [late.decision (kept ▸ decided), kept]
  status terminal := by
    have kept := early.status terminal
    rw [late.status (kept ▸ terminal), kept]

/-! ## One statement -/

/-- The service passes an exit code only for a completed call. -/
def Statement.exitCodeWithCompleted : Statement → Prop
  | .finishToolCall _ _ status exitCode _ _ => exitCode.isSome = true → status = .completed
  | _ => True

/-- Deleting a session removes its rows, and a removed id may be inserted again. -/
def Statement.keepsRows : Statement → Prop
  | .deleteAgentSessionByOwner _ _ => False
  | _ => True

theorem deviceUnpairedToolExcerpt_bounded :
    deviceUnpairedToolExcerpt.length ≤ maxOutputExcerptBytes := by decide

theorem ToolCall.undecided_iff : row.undecided ↔ row.status = .pending ∧ row.decision = none := by
  simp [ToolCall.undecided]

theorem lawful_of_change (disciplined : op.exitCodeWithCompleted) (ch : ToolCallChange db op s s')
    (lawful : ∀ row, s = some row → row.Lawful) : ∀ row, s' = some row → row.Lawful := by
  intro fin hl
  cases ch with
  | kept => exact lawful fin hl
  | created sts =>
    cases hl
    rcases sts with pnd | hst
    · constructor <;> simp [pnd, terminalToolStatus]
    · constructor <;> simp [hst, terminalToolStatus]
  | @decided ow _ now row hud =>
    cases hl
    obtain ⟨pnd, -⟩ := ToolCall.undecided_iff.mp hud
    obtain ⟨-, -, -, completedAt, exitCode, exc⟩ := lawful row rfl
    constructor <;> simp_all [terminalToolStatus]
  | @failedPending ow exc now row hbd hud =>
    cases hl
    obtain ⟨pnd, -⟩ := ToolCall.undecided_iff.mp hud
    obtain ⟨-, -, -, -, exitCode, -⟩ := lawful row rfl
    constructor <;> simp_all [terminalToolStatus]
  | @started ow row pnd hap =>
    cases hl
    obtain ⟨-, -, -, completedAt, exitCode, exc⟩ := lawful row rfl
    have undenied : row.decision ≠ some .deny := by
      rcases hap with once | ses
      · simp [once]
      · simp [ses]
    constructor <;> simp_all [terminalToolStatus]
  | @finished ow sts exitCode exc now row trm hbd hfb =>
    cases hl
    have s := lawful row rfl
    -- what the row was before depends on how it ends
    cases sts with
    | pending | started => cases trm
    | completed =>
      have wasStarted : row.status = .started := by simpa [ToolCall.finishableAs] using hfb
      have undenied := s.startedUndenied wasStarted
      constructor <;> simp_all [terminalToolStatus]
    | denied =>
      have wasDenied : row.status = .pending ∧ row.decision = some .deny := by
        simpa [ToolCall.finishableAs] using hfb
      constructor <;> simp_all [terminalToolStatus, Statement.exitCodeWithCompleted]
    | failed => constructor <;> simp_all [terminalToolStatus, Statement.exitCodeWithCompleted]
  | unpaired =>
    cases hl
    have hbd := deviceUnpairedToolExcerpt_bounded
    constructor <;> simp_all [terminalToolStatus]
  | deleted => cases hl

theorem extends_of_change (kept : op.keepsRows) (ch : ToolCallChange db op s s') :
    ∀ row, s = some row → ∃ k', s' = some k' ∧ row.Extends k' := by
  intro row hpr
  cases ch with
  | kept => exact ⟨row, hpr, .refl row⟩
  | created => cases hpr
  | decided hud =>
    cases hpr
    obtain ⟨pnd, hud⟩ := ToolCall.undecided_iff.mp hud
    exact ⟨_, rfl, by simp [hud], by simp [pnd, terminalToolStatus]⟩
  | failedPending hbd hud =>
    cases hpr
    obtain ⟨pnd, -⟩ := ToolCall.undecided_iff.mp hud
    exact ⟨_, rfl, fun _ => rfl, by simp [pnd, terminalToolStatus]⟩
  | started pnd =>
    cases hpr
    exact ⟨_, rfl, fun _ => rfl, by simp [pnd, terminalToolStatus]⟩
  | @finished _ sts _ _ _ row _ hbd _ =>
    cases hpr
    refine ⟨_, rfl, fun _ => rfl, fun wasTerminal => ?_⟩
    -- no terminal row is finishable
    exfalso
    cases sts <;> cases cur : row.status <;>
      simp_all [ToolCall.finishableAs, terminalToolStatus]
  | unpaired openStatus =>
    cases hpr
    refine ⟨_, rfl, fun _ => rfl, fun wasTerminal => ?_⟩
    rcases openStatus with pnd | hst
    · simp [pnd, terminalToolStatus] at wasTerminal
    · simp [hst, terminalToolStatus] at wasTerminal
  | deleted => exact kept.elim

/-- All that a row keeps as long as it is there: what it was created with, its
    decision once it has one or is past deciding, and everything once it is terminal. -/
structure ToolCall.Grows (row later : ToolCall) : Prop where
  sessionID : later.sessionID = row.sessionID
  argumentsJSON : later.argumentsJSON = row.argumentsJSON
  decision : row.decision.isSome = true ∨ row.status ≠ .pending → later.decision = row.decision
  unpending : row.status ≠ .pending → later.status ≠ .pending
  frozen : terminalToolStatus row.status = true → later = row

theorem ToolCall.Grows.refl (row : ToolCall) : row.Grows row :=
  ⟨rfl, rfl, fun _ => rfl, fun away => away, fun _ => rfl⟩

theorem ToolCall.Grows.trans {ha hb third : ToolCall} (early : ha.Grows hb)
    (late : hb.Grows third) : ha.Grows third where
  sessionID := late.sessionID.trans early.sessionID
  argumentsJSON := late.argumentsJSON.trans early.argumentsJSON
  decision hse := by
    have kept := early.decision hse
    have still : hb.decision.isSome ∨ hb.status ≠ .pending := by
      rcases hse with hde | away
      · exact .inl (kept ▸ hde)
      · exact .inr (early.unpending away)
    exact (late.decision still).trans kept
  unpending away := late.unpending (early.unpending away)
  frozen terminal := by
    have h := early.frozen terminal
    subst h
    exact late.frozen terminal

theorem grows_of_change {k' : ToolCall}
    (ch : ToolCallChange db op (some row) (some k')) : row.Grows k' := by
  have hop {sts : ToolStatus} (is : row.status = sts)
      (undone : terminalToolStatus sts = false) : ¬terminalToolStatus row.status = true := by
    simp [is, undone]
  cases ch with
  | kept => exact .refl row
  | decided hud =>
    obtain ⟨pnd, unr⟩ := ToolCall.undecided_iff.mp hud
    exact ⟨rfl, rfl, by simp [pnd, unr], fun away => away,
      fun trm => absurd trm (hop pnd rfl)⟩
  | failedPending _ hud =>
    obtain ⟨pnd, -⟩ := ToolCall.undecided_iff.mp hud
    exact ⟨rfl, rfl, fun _ => rfl, by simp, fun trm => absurd trm (hop pnd rfl)⟩
  | started pnd =>
    exact ⟨rfl, rfl, fun _ => rfl, by simp, fun trm => absurd trm (hop pnd rfl)⟩
  | @finished _ sts _ _ _ _ trm _ _ =>
    -- no terminal row is finishable, and no row is finished as pending
    refine ⟨rfl, rfl, fun _ => rfl, fun _ => ?_, fun _ => ?_⟩
    · intro pnd
      cases pnd
      cases trm
    · exfalso
      cases sts <;> cases cur : row.status <;>
        simp_all [ToolCall.finishableAs, terminalToolStatus]
  | unpaired openStatus =>
    refine ⟨rfl, rfl, fun _ => rfl, by simp, fun trm => ?_⟩
    rcases openStatus with pnd | hst
    · exact absurd trm (hop pnd rfl)
    · exact absurd trm (hop hst rfl)

/-! ## Histories -/

def StoreCall.exitCodeWithCompleted : StoreCall → Prop
  | .finishAgentToolCall _ _ status exitCode _ _ => exitCode.isSome = true → status = .completed
  | _ => True

def StoreCall.keepsRows : StoreCall → Prop
  | .deleteAgentSessionByOwner _ _ => False
  | _ => True

theorem StoreCall.main_exitCodeWithCompleted
    (disciplined : call.exitCodeWithCompleted) : call.main.exitCodeWithCompleted := by
  cases call <;> trivial

theorem StoreCall.main_keepsRows (kept : call.keepsRows) : call.main.keepsRows := by
  cases call <;> trivial

def Db.LawfulToolCalls (db : Db) : Prop :=
  ∀ id row, db.toolCalls.get id = some row → row.Lawful

theorem runCalls_lawful (disciplined : ∀ e ∈ hist, e.1.exitCodeWithCompleted)
    (lawful : db.LawfulToolCalls) : (runCalls hist db).LawfulToolCalls := by
  refine runCalls_relates (fun s s' => s.LawfulToolCalls → s'.LawfulToolCalls) _ (fun _ h => h) ?_
    (fun _ _ _ a b start => b (a start)) disciplined db lawful
  intro _ v s s' rule ok start id
  exact lawful_of_change (StoreCall.main_exitCodeWithCompleted rule)
    (toolCall_change ok id) (start id)

theorem runCalls_extends (kept : ∀ e ∈ hist, e.1.keepsRows) {id : String}
    (hl : db.toolCalls.get id = some row) :
    ∃ k', (runCalls hist db).toolCalls.get id = some k' ∧ row.Extends k' := by
  refine runCalls_relates (fun s s' => ∀ row, s.toolCalls.get id = some row →
      ∃ k', s'.toolCalls.get id = some k' ∧ row.Extends k') _ ?_ ?_ ?_ kept db row hl
  · exact fun _ row hpr => ⟨row, hpr, .refl row⟩
  · intro _ v s s' rule ok
    exact extends_of_change (StoreCall.main_keepsRows rule) (toolCall_change ok id)
  · intro a b _ early late row hpr
    obtain ⟨mid', middleLocated, earlyExtends⟩ := early row hpr
    obtain ⟨last, lastLocated, lateExtends⟩ := late mid' middleLocated
    exact ⟨last, lastLocated, earlyExtends.trans lateExtends⟩

theorem decide_refused_of_decided {id ow : String}
    {dec : Decision} {now : Time} (hl : db.toolCalls.get id = some row)
    (hde : row.decision.isSome) (fls : List Fault) :
    ((StoreCall.decideAgentToolCall ow id dec now).run fls db).1.error ≠ none := by
  intro hrd
  change ((Reply.ofExcept _ ((Statement.decideAgentToolCall ow id dec now).body.run
    (fls.headD default) db).1)).error = none at hrd
  cases hoc : (Statement.decideAgentToolCall ow id dec now).body.run
      (fls.headD default) db with
  | mk res w =>
    rw [hoc] at hrd
    cases res with
    | error _ => cases hrd
    | ok v =>
      obtain ⟨_, _⟩ := v
      obtain ⟨s, hf, hud, -⟩ := decideAgentToolCall_ok (Transaction.run_ok hoc)
      rw [hl] at hf
      cases hf
      simp [(ToolCall.undecided_iff.mp hud).2] at hde

/-- Whatever calls made the row and whatever calls follow, short of deleting its session: the row is
    lawful then and later, keeps its decision and its terminal status, and once decided refuses
    every further decision. -/
theorem toolCall_lifecycle (users : List String) (history later : List (StoreCall × List Fault))
    (disciplined : ∀ entry ∈ history ++ later, entry.1.exitCodeWithCompleted)
    (kept : ∀ entry ∈ later, entry.1.keepsRows) (id : String) (row : ToolCall)
    (located : (runCalls history (Db.empty users)).toolCalls.get id = some row) :
    row.Lawful ∧
    ∃ final, (runCalls (history ++ later) (Db.empty users)).toolCalls.get id = some final ∧
      final.Lawful ∧ row.Extends final ∧
      (row.decision.isSome = true → ∀ owner decision now faults,
        ((StoreCall.decideAgentToolCall owner id decision now).run faults
          (runCalls (history ++ later) (Db.empty users))).1.error ≠ none) := by
  have initially : (Db.empty users).LawfulToolCalls := by
    intro id row present
    cases present
  have earlier := runCalls_lawful
    (fun entry member => disciplined entry (List.mem_append_left later member)) initially
  have finally_ := runCalls_lawful disciplined initially
  obtain ⟨final, finalLocated, extended⟩ := runCalls_extends kept located
  rw [← runCalls_append] at finalLocated
  refine ⟨earlier id row located, final, finalLocated, finally_ id final finalLocated, extended, ?_⟩
  intro decided owner decision now faults
  exact decide_refused_of_decided finalLocated (by rw [extended.decision decided]; exact decided) faults

def sampleDevice : Device where
  id := "device"
  publicKey := [1]
  ownerUserID := none
  name := "laptop"
  platform := "linux"
  arch := "amd64"
  clientVersion := "1"
  createdAt := 0
  pairedAt := none
  lastSeenAt := none

def sampleSession : AgentSession where
  id := "session"
  userID := "alice"
  deviceID := "device"
  approvalMode := .perCommand
  provider := "codex"
  externalSessionID := none
  state := .idle
  createdAt := 3
  updatedAt := 3
  archivedAt := none

def sampleToolCall : ToolCall where
  id := "call"
  sessionID := "session"
  name := "remote_exec"
  argumentsJSON := [123, 125]
  status := .pending
  decision := none
  exitCode := none
  outputExcerpt := none
  createdAt := 4
  completedAt := none

/-- A device registers and is claimed; its owner opens a session. -/
def pairedHistory : List (StoreCall × List Fault) :=
  [(.registerDevice sampleDevice, []),
    (.createPairingCode ⟨"code", "device", [7], 100, none, 1⟩ 1, []),
    (.claimPairing "alice" [7] 2, []), (.createAgentSession sampleSession, [])]

/-- The history of an approved call, which then runs and completes while its owner decides again. -/
theorem toolCall_lifecycle_approved :
    ∃ final, (runCalls ((pairedHistory ++ [(.createAgentToolCall "alice" sampleToolCall, []),
          (.decideAgentToolCall "alice" "call" .approveOnce 5, [])]) ++
        [(.startAgentToolCall "alice" "call", []), (.decideAgentToolCall "alice" "call" .deny 6, []),
          (.finishAgentToolCall "alice" "call" .completed (some 0) (some [111]) 7, [])])
        (Db.empty ["alice"])).toolCalls.get "call" = some final ∧
      final.Lawful ∧ final.decision = some .approveOnce := by
  obtain ⟨-, final, located, lawful, extended, -⟩ := toolCall_lifecycle ["alice"]
    (pairedHistory ++ [(.createAgentToolCall "alice" sampleToolCall, []),
      (.decideAgentToolCall "alice" "call" .approveOnce 5, [])])
    [(.startAgentToolCall "alice" "call", []), (.decideAgentToolCall "alice" "call" .deny 6, []),
      (.finishAgentToolCall "alice" "call" .completed (some 0) (some [111]) 7, [])]
    (by simp [pairedHistory, StoreCall.exitCodeWithCompleted]) (by simp [StoreCall.keepsRows]) "call"
    { sampleToolCall with decision := some .approveOnce } (by decide)
  exact ⟨final, located, lawful, extended.decision rfl⟩

end AISummoner.Store
