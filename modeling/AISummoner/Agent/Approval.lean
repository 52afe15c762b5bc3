import AISummoner.Agent.CallHistory

/-! # The race for an approval

A pending call waits for a human decision, and a timeout, a cancellation or a
failed transition may abort it.  Both write the same row under the same guard,
so one of them wins, and `waitForDecision` finds out which.
-/

namespace AISummoner.Agent

open Concurrency Store AISummoner.Runtime App

structure ApprovalsSettled (past : History) : Prop where
  /-- An undecided call is left alone, gets its decision, or is failed without one. -/
  contended : ∀ {changed id row later}, Next freely past changed →
    past.state.db.toolCalls.get id = some row → row.undecided = true →
    changed.state.db.toolCalls.get id = some later →
    later = row ∨ (∃ decision, later = { row with decision := some decision }) ∨
      (later.status = .failed ∧ later.decision = none)
  decided : ∀ {row later decision}, Seen past.trace row → row.decision = some decision →
    past.state.db.toolCalls.get row.id = some later → later.decision = some decision
  aborted : ∀ {row later}, Seen past.trace row → row.status = .failed → row.decision = none →
    past.state.db.toolCalls.get row.id = some later →
    later.status = .failed ∧ later.decision = none
  /-- Once the abort has won, a decision fails and changes nothing, the session included. -/
  refused : ∀ {row}, Seen past.trace row → row.status = .failed → row.decision = none →
    ∀ owner decision now fault, ∃ error,
      (Statement.decideAgentToolCall owner row.id decision now).body.run fault past.state.db =
        (.error error, past.state.db)
  /-- `waitForDecision` returns what the row says. -/
  returned : ∀ {thread toolCallID decision world trace},
    past.trace = .performed thread (.observe (.waited toolCallID (.ok decision))) () world :: trace →
    (∃ row, Seen trace row ∧ row.id = toolCallID ∧ row.decision = some decision) ∧
      ∀ row, past.state.db.toolCalls.get toolCallID = some row → row.decision = some decision
  /-- A session gets full access by the request for it, or in the commit that
      records `approve_session` for one of its calls. -/
  upgraded : ∀ {changed sessionID before after}, Next freely past changed →
    past.state.db.agentSessions.get sessionID = some before →
    changed.state.db.agentSessions.get sessionID = some after →
    before.approvalMode ≠ .fullAccess → after.approvalMode = .fullAccess →
    ∃ thread ctx site statement response,
      changed.trace =
        .performed thread (.store ctx site statement) response changed.state :: past.trace ∧
      ((∃ owner now, statement = .updateApprovalMode owner sessionID .fullAccess now) ∨
        ∃ owner now row, statement = .decideAgentToolCall owner row.id .approveSession now ∧
          row.sessionID = sessionID ∧ row.undecided = true ∧
          past.state.db.toolCalls.get row.id = some row ∧ changed.state.db.toolCalls.get row.id =
            some { row with decision := some .approveSession })

section Steps

variable {db c' : Db}

theorem contended_change {op : Statement} {row k' : ToolCall} (hud : row.undecided)
    (ch : ToolCallChange db op (some row) (some k')) :
    k' = row ∨ (∃ dec, k' = { row with decision := some dec }) ∨
      (k'.status = .failed ∧ k'.decision = none) := by
  obtain ⟨pnd, unr⟩ := ToolCall.undecided_iff.mp hud
  cases ch with
  | kept => exact .inl rfl
  | decided _ _ => exact .inr (.inl ⟨_, rfl⟩)
  | failedPending _ _ _ => exact .inr (.inr ⟨rfl, unr⟩)
  | started _ hap => simp [unr] at hap
  | @finished _ sts _ _ _ _ _ _ hfb =>
    -- FinishAgentToolCall does not touch an undecided row
    cases sts <;> simp [ToolCall.finishableAs, pnd, unr] at hfb
  | unpaired _ _ _ _ _ => exact .inr (.inr ⟨rfl, unr⟩)

theorem decide_fails {ow id : String} {dec : Decision} {now : Time}
    (unopened : ∀ row, db.toolCalls.get id = some row → row.undecided = false) (ft : Fault) :
    ∃ er, (Statement.decideAgentToolCall ow id dec now).body.run ft db = (.error er, db) := by
  cases oc : (Statement.decideAgentToolCall ow id dec now).body db with
  | error _ => exact Transaction.run_error oc
  | ok _ =>
    obtain ⟨row, hf, hud, _⟩ := decideAgentToolCall_written oc
    rw [unopened row hf] at hud
    cases hud

end Steps

section Facts

variable {rule : Step → History → Bool} {cfg : Configuration} {db : Db}
  {p : History}

theorem returned_of_reached {t : Nat} {cid : String} {dec : Decision} {w : World}
    {tr : Trace} (hr : Reached rule cfg db p) (waited : p.trace =
      .performed t (.observe (.waited cid (.ok dec))) () w :: tr) :
    ∃ row, Seen tr row ∧ row.id = cid ∧ row.decision = some dec := by
  obtain ⟨k, hk, own, de⟩ := caller_of_performed hr waited rfl
  obtain ⟨row, read, rcd⟩ := de dec rfl
  obtain ⟨_, s, _, rfl⟩ := hr.previous waited
  obtain ⟨hn, seen⟩ := (backed_of_reached s hk).rows row read
  rw [own.2] at hn
  exact ⟨row, seen, (Option.some.inj hn).symm, rcd⟩

theorem upgraded_of_next {c' : History} {sid : String} {s s' : AgentSession}
    (next : Next rule p c') (hf : p.state.db.agentSessions.get sid = some s)
    (now : c'.state.db.agentSessions.get sid = some s')
    (limited : s.approvalMode ≠ .fullAccess) (full : s'.approvalMode = .fullAccess) :
    ∃ t ctx site stm r, c'.trace = .performed t (.store ctx site stm) r c'.state :: p.trace ∧
      ((∃ ow now, stm = .updateApprovalMode ow sid .fullAccess now) ∨
        ∃ ow now row, stm = .decideAgentToolCall ow row.id .approveSession now ∧
          row.sessionID = sid ∧ row.undecided ∧ p.state.db.toolCalls.get row.id = some row ∧
          c'.state.db.toolCalls.get row.id =
            some { row with decision := some .approveSession }) := by
  rcases next.writes with h | ⟨t, ctx, site, stm, r, v, rcd, ha⟩
  · rw [h, hf] at now
    cases now
    exact absurd full limited
  refine ⟨t, ctx, site, stm, r, rcd, ?_⟩
  have ch := session_change ha sid
  have hky : s.id = sid := Relational.Table.key_of_get hf
  rw [hf, now] at ch
  cases ch with
  | kept => exact absurd full limited
  | approvalMode _ _ =>
    cases full
    exact .inl ⟨_, _, by rw [hky]⟩
  | @upgraded ow time _ tc hl hud hbe _ =>
    obtain ⟨row, hpr, _, hw⟩ := decideAgentToolCall_written ha
    rw [hl] at hpr
    cases hpr
    exact .inr ⟨ow, time, tc, rfl, hbe.trans hky, hud, hl, hw⟩
  | archived _ _ | state _ _ | begun _ _ | externalID _ | unpaired _ _ => exact absurd full limited

end Facts

/-- Whatever is interleaved with the wait for a decision, and whatever the store
    does: the decision and the abort exclude each other for good. -/
theorem approvals_settled {configuration : Configuration} {db : Db} {past : History}
    (reached : Reached freely configuration db past) : ApprovalsSettled past := by
  have persist := rowsPersist_of_reached reached
  have aborted {row later : ToolCall} (seen : Seen past.trace row) (failed : row.status = .failed)
      (found : past.state.db.toolCalls.get row.id = some later) : later = row :=
    (persist.grows seen found).frozen (by rw [failed]; rfl)
  refine ⟨?_, ?_, ?_, ?_, ?_, upgraded_of_next⟩
  · intro changed id row later next found undecided now
    rcases next.writes with same | ⟨_, _, _, statement, _, value, _, accepted⟩
    · rw [same, found] at now
      cases now
      exact .inl rfl
    · have change := toolCall_change accepted id
      rw [found, now] at change
      exact contended_change undecided change
  · intro row later decision seen decided found
    rw [(persist.grows seen found).decision (.inl (by rw [decided]; rfl))]
    exact decided
  · intro row later seen failed undecided found
    rw [aborted seen failed found]
    exact ⟨failed, undecided⟩
  · intro row seen failed undecided owner decision now fault
    apply decide_fails
    intro later found
    rw [aborted seen failed found]
    simp [ToolCall.undecided, failed]
  · intro thread toolCallID decision world trace waited
    obtain ⟨row, seen, rfl, recorded⟩ := returned_of_reached reached waited
    refine ⟨⟨row, seen, rfl, recorded⟩, fun later found => ?_⟩
    have kept : Seen past.trace row := by
      rw [waited]
      exact seen.cons _
    rw [(persist.grows kept found).decision (.inl (by rw [recorded]; rfl))]
    exact recorded

/-! A Turn of alice's session whose Adapter calls `Invoke` once; the call waits
for approval. -/

def sampleConfiguration : Configuration := ⟨"codex", ⟨false, false⟩, 4⟩

def sampleDb : Db := runCalls pairedHistory (Db.empty ["alice"])

/-- Thread 0 admits the Turn and thread 1 runs it until its Adapter executes. -/
def turnSchedule : Schedule :=
  .start (.startTurn [] "alice" "session" "hello") :: steps 0 7 ++ making 0 "message" ++ steps 0 8 ++
    steps 1 1 ++ making 1 "event" ++ steps 1 5

/-- Thread 2 is a call of `Invoke`; it waits for the decision. -/
def waitSchedule : Schedule :=
  turnSchedule ++
    .start (.invoke 0 [] ⟨toolRemoteExec, Service.textBytes "\x7b\"command\":\"ls\"\x7d"⟩) ::
    taking 2 1 ++ steps 2 1 ++ making 2 "call" ++ steps 2 8 ++ making 2 "event2" ++ steps 2 5 ++
    making 2 "event3" ++ steps 2 2

/-- Thread 3 approves the call once, and `waitForDecision` returns it. -/
def approveSchedule : Schedule :=
  waitSchedule ++ .start (.decide [] "alice" "call" (some .approveOnce)) :: steps 3 8 ++
    taking 2 2 ++ steps 2 6 ++ making 2 "event4" ++ steps 2 4

def hasReturned (toolCallID : String) (decision : Decision) (past : History) : Bool :=
  match past.trace with
  | .performed _ (.observe (.waited returned (.ok found))) _ _ :: _ =>
    returned = toolCallID && found = decision
  | _ => false

theorem approvals_settled_approved :
    ∃ past, reachedBy freely sampleConfiguration sampleDb approveSchedule = some past ∧
      hasReturned "call" .approveOnce past = true ∧ ApprovalsSettled past := by
  have ran : (reachedBy freely sampleConfiguration sampleDb approveSchedule).any
      (hasReturned "call" .approveOnce) = true := by decide +kernel
  obtain ⟨past, reached, returned⟩ := (Option.any_eq_true _ _).mp ran
  exact ⟨past, reached, returned, approvals_settled (reached_of_schedule reached)⟩

end AISummoner.Agent
