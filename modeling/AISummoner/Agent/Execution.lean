import AISummoner.Agent.Settlement
import AISummoner.App.Turns

/-! # What is executed

A command reaches a Device for a row that was started, once, and as the row has
it.  A row inserted as `started` is traced back to what took its Turn out of
per-command approval.
-/

namespace AISummoner.Agent

open Concurrency Concurrency.Discipline Store AISummoner.Runtime App

variable {tr : Trace} {turn t : Nat} {k : CallKnowledge} {row : ToolCall}
  {op : Operation} {r : op.Response} {cfg : Configuration} {db : Db} {p : History}
  {rule : Step → History → Bool}

/-- Why the calls of a Turn need no decision of their own. -/
inductive Unattended (trace : Trace) (turn : Nat) : Prop
  | begun {thread : Nat} {session : AgentSession} {target : ExecutionTarget} {world : World}
      (mode : session.approvalMode = .fullAccess)
      (member : .performed thread (.agent (.beginRun turn session target)) () world ∈ trace)
  | upgraded {thread : Nat} {world : World}
      (member : .performed thread (.agent (.upgradeApprovalMode turn)) () world ∈ trace)

theorem Unattended.mono (h : Unattended tr turn) {tr' : Trace} (sub : tr ⊆ tr') :
    Unattended tr' turn := by
  cases h with
  | begun mode hm => exact .begun mode (sub hm)
  | upgraded hm => exact .upgraded (sub hm)

theorem unattended_of_invoker (hr : Reached rule cfg db p) : ∀ s ses tg,
    p.state.agent.turns[turn]? = some s → s.invoker = some (ses, tg) →
    ses.approvalMode = .fullAccess → Unattended p.trace turn := by
  refine Reached.induction ?_ ?_ hr
  · intro _ _ _ hl
    cases hl
  intro p w _ _ next ih s ses tg hl hi mode
  obtain ⟨e, hrcd, _⟩ := next.trace
  have old {s : Turn} (hl : p.state.agent.turns[turn]? = some s)
      (hi : s.invoker = some (ses, tg)) : Unattended w.trace turn :=
    (ih s ses tg hl hi mode).mono (hrcd ▸ List.subset_cons_self _ _)
  cases next.turn hl with
  | reserved _ _ he =>
    rw [he] at hi
    cases hi
  | kept hl _ _ => exact old hl hi
  | stepped rcd step was he =>
    subst he
    cases step with
    | beginRun =>
      cases hi
      exact .begun mode (rcd ▸ List.mem_cons_self)
    | upgrade => exact .upgraded (rcd ▸ List.mem_cons_self)
    | _ => exact old was hi
  | invoked _ was he | emitted _ was he | crashed _ was he =>
    subst he
    exact old was hi

/-! ## What a call has done -/

structure CallKnowledge.Learns (known later : CallKnowledge) (operation : Operation)
    (response : operation.Response) : Prop where
  turn : later.turn = known.turn
  request : later.request = known.request
  invoker : later.invoker = known.invoker ∨
    ∃ turn invoker, operation = .agent (.invoker turn) ∧ HEq response invoker ∧
      later.invoker = some invoker
  executed : known.executed = true → later.executed = true

theorem learns_after : k.Learns (k.after op r) op r := by
  cases op with
  | store _ _ stm =>
    cases stm with
    | agentToolCallByOwner | failPendingToolCall | startToolCall | finishToolCall =>
      cases r with
      | ok | error => exact ⟨rfl, rfl, .inl rfl, id⟩
    | _ => exact ⟨rfl, rfl, .inl rfl, id⟩
  | agent op =>
    cases op with
    | invoker => exact ⟨rfl, rfl, .inr ⟨_, _, rfl, .rfl, rfl⟩, id⟩
    | acquireGate | installPending =>
      cases r with
      | ok | error => exact ⟨rfl, rfl, .inl rfl, id⟩
    | _ => exact ⟨rfl, rfl, .inl rfl, id⟩
  | observe obs =>
    cases obs with
    | exec => exact ⟨rfl, rfl, .inl rfl, fun _ => rfl⟩
    | _ => exact ⟨rfl, rfl, .inl rfl, id⟩
  | newID kind =>
    cases r with
    | none => exact ⟨rfl, rfl, .inl rfl, id⟩
    | some _ => by_cases tool : kind = "tool" <;> constructor <;> simp [CallKnowledge.after, tool]
  | _ => exact ⟨rfl, rfl, .inl rfl, id⟩

/-- What a call knows of itself and of its Turn, as the history has it. -/
structure Traced (trace : Trace) (thread : Nat) (known : CallKnowledge) : Prop where
  entered : ∃ ctx, Entered trace thread (.invoke known.turn ctx known.request)
  executed : ∀ {request world}, .performed thread (.observe (.exec request)) () world ∈ trace →
    known.executed = true
  unattended : ∀ {session target}, known.invoker = some (session, target) →
    session.approvalMode = .fullAccess → Unattended trace known.turn

theorem traced_of_reached (hr : Reached rule cfg db p)
    (hk : callDiscipline.knows t p.trace = some k) : Traced p.trace t k := by
  refine Reached.knowing call_bodies ?_ ?_ ?_ ?_ hr hk
  · intro p pa g k s _ _ hb
    cases g with
    | invoke =>
      cases hb
      refine ⟨⟨_, pa, _, List.mem_cons_self⟩, fun hm => ?_, nofun⟩
      rcases List.mem_cons.mp hm with he | pre
      · cases he
      · exact absurd (s.performed_below pre) (Nat.lt_irrefl _)
    | _ => cases hb
  · intro p w t k _ _ next hel htr
    obtain ⟨e, hrcd, _⟩ := next.trace
    rw [hrcd]
    refine ⟨htr.entered.imp fun _ h => h.cons e, fun hm => ?_,
      fun hi mode => (htr.unattended hi mode).mono (List.subset_cons_self _ _)⟩
    rcases List.mem_cons.mp hm with rfl | pre
    · exact absurd hrcd (hel.2 _ _ _)
    · exact htr.executed pre
  · intro p t op _ r wd k s _ may _ ran htr
    have lrn : k.Learns (k.after op r) op r := learns_after
    refine ⟨?_, fun hm => ?_, fun hi mode => ?_⟩
    · exact lrn.turn ▸ lrn.request ▸ htr.entered.imp fun _ h => h.cons _
    · rcases List.mem_cons.mp hm with he | pre
      · cases he
        rfl
      · exact lrn.executed (htr.executed pre)
    · refine Unattended.mono ?_ (List.subset_cons_self _ _)
      rcases lrn.invoker with h | ⟨_, _, rfl, answered, later⟩
      · exact lrn.turn ▸ htr.unattended (h.symm.trans hi) mode
      · -- the mode the call reads is that of its Turn at this moment
        cases answered
        cases later.symm.trans hi
        obtain ⟨_, hf, he⟩ := Option.map_eq_some_iff.mp (perform_agent ran).1
        obtain ⟨_, hl, is⟩ := Option.bind_eq_some_iff.mp hf
        rw [(Prod.mk.inj he).1] at is
        have own := may.1
        subst own
        exact unattended_of_invoker s _ _ _ hl is mode
  · intro _ _ _ _ _ _ never
    exact never.elim

/-! ## Where a row comes from -/

def approving (decision : Option Decision) : Prop :=
  decision = some .approveOnce ∨ decision = some .approveSession

/-- The row was inserted by an `INSERT` of the process, as started or to be approved. -/
def Originates (trace : Trace) (row : ToolCall) : Prop :=
  ∃ thread ctx site owner inserted response world,
    .performed thread (.store ctx site (.createAgentToolCall owner inserted)) response world ∈ trace ∧
      inserted.id = row.id ∧ row.argumentsJSON = inserted.argumentsJSON ∧
      (row.status = .started → inserted.status = .started ∨ approving row.decision)

theorem Originates.change {k' : ToolCall} {stm : Statement} {s : Db} (ho : Originates tr row)
    (ch : ToolCallChange s stm (some row) (some k')) : Originates tr k' := by
  obtain ⟨t, ctx, site, ow, ins, r, wd, hm, hid, args, hst⟩ := ho
  have grown := grows_of_change ch
  refine ⟨t, ctx, site, ow, ins, r, wd, hm, ?_, grown.argumentsJSON.trans args, fun runs => ?_⟩
  · cases ch <;> exact hid
  cases ch with
  | kept => exact hst runs
  | decided hud =>
    rw [(ToolCall.undecided_iff.mp hud).1] at runs
    cases runs
  | failedPending | unpaired => cases runs
  | started _ approved => exact .inr approved
  | finished trm =>
    cases runs
    cases trm

theorem originates_of_reached (hr : Reached rule cfg db p) : ∀ row : ToolCall,
    row.id ∉ db.identifiers → p.state.db.toolCalls.get row.id = some row ∨ Seen p.trace row →
    Originates p.trace row := by
  refine Reached.induction ?_ ?_ hr
  · rintro row new (hf | ⟨_, hm, _⟩)
    · exact absurd (mem_identifiers_of_toolCall hf) new
    · cases hm
  intro p w s s' next ih row new hf
  obtain ⟨e, hrcd, _⟩ := next.trace
  have old {row : ToolCall} (ho : Originates p.trace row) : Originates w.trace row := by
    obtain ⟨t, ctx, site, ow, ins, r, wd, hm, h⟩ := ho
    exact ⟨t, ctx, site, ow, ins, r, wd, hrcd ▸ List.mem_cons_of_mem e hm, h⟩
  have hpr (hl : w.state.db.toolCalls.get row.id = some row) : Originates w.trace row := by
    rcases next.writes with h | ⟨_, _, _, _, _, _, rcd, ha⟩
    · exact old (ih row new (.inl (h ▸ hl)))
    -- one statement changed the row that was there, or inserted it
    have ch := toolCall_change ha row.id
    rw [hl] at ch
    cases pre : p.state.db.toolCalls.get row.id with
    | some a =>
      rw [pre] at ch
      have hky : a.id = row.id := Relational.Table.key_of_get pre
      rw [← hky] at new pre
      exact (old (ih a new (.inl pre))).change ch
    | none =>
      rw [pre] at ch
      cases ch with
      | @created _ ins =>
        exact ⟨_, _, _, _, ins, _, _, rcd ▸ List.mem_cons_self, rfl, rfl, .inl⟩
  rcases hf with hl | seen
  · exact hpr hl
  · rcases seen.cases_next next with hl | pre
    · exact hpr hl
    · exact old (ih row new (.inr pre))

/-! ## Executions -/

/-- Why the command of a row may run. -/
inductive Approved (trace : Trace) (turn : Nat) (row : ToolCall) : Prop
  | itself (decided : approving row.decision)
  /-- Another call of the Turn was approved for the session. -/
  | session {thread : Nat} {ctx : Context} {request : ToolRequest} {other : ToolCall}
      (entered : Entered trace thread (.invoke turn ctx request))
      (minted : Minted trace "tool" thread other.id) (seen : Seen trace other)
      (decided : other.decision = some .approveSession)
  /-- The Adapter was run for a session with full access. -/
  | fullAccess {thread : Nat} {session : AgentSession} {target : ExecutionTarget} {world : World}
      (mode : session.approvalMode = .fullAccess)
      (begun : .performed thread (.agent (.beginRun turn session target)) () world ∈ trace)

theorem Unattended.approved (h : Unattended p.trace turn) (hr : Reached rule cfg db p) :
    Approved p.trace turn row := by
  cases h with
  | begun mode hm => exact .fullAccess mode hm
  | upgraded hm =>
    obtain ⟨_, _, s', hrcd, hwi⟩ := hr.at_entry hm
    obtain ⟨k, hk, rfl, _, _, o, read, dec⟩ := caller_of_performed s' hrcd rfl
    obtain ⟨p, s, _, rfl⟩ := s'.previous hrcd
    have sub : p.trace ⊆ _ := fun _ hm => hwi.subset (hrcd ▸ List.mem_cons_of_mem _ hm)
    have hbk := backed_of_reached s hk
    obtain ⟨hn, _, hm, hf⟩ := hbk.rows o read
    obtain ⟨_, _, _, hent⟩ := (traced_of_reached s hk).entered
    obtain ⟨_, hmi⟩ := hbk.named hn
    exact .session ⟨_, _, sub hent⟩ ⟨_, sub hmi⟩ ⟨_, sub hm, hf⟩ dec

/-- What is true of a call of the executor when it is made. -/
structure Executes (trace : Trace) (thread : Nat) (request : ExecRequest) : Prop where
  first : ∀ other world, .performed thread (.observe (.exec other)) () world ∉ trace
  row : ∃ turn ctx asked row arguments, Entered trace thread (.invoke turn ctx asked) ∧
    Minted trace "tool" thread row.id ∧ Seen trace row ∧ row.status = .started ∧
    Approved trace turn row ∧ parseRemoteExecArguments row.argumentsJSON = .ok arguments ∧
    request.command = arguments.command ∧ request.cwd = arguments.cwd ∧
    request.timeoutMS = arguments.timeoutMS

theorem executions_approved {configuration : Configuration} {db : Db} {past : History}
    {thread : Nat} {request : ExecRequest} {world : World} {trace : Trace}
    (reached : Reached freely configuration db past)
    (executes : past.trace = .performed thread (.observe (.exec request)) () world :: trace) :
    Executes trace thread request := by
  obtain ⟨known, knows, _, unexecuted, launched, _, _, arguments, _, _, parsed, rfl⟩ :=
    caller_of_performed reached executes rfl
  obtain ⟨past, before, _, rfl⟩ := reached.previous executes
  have traced := traced_of_reached before knows
  have backed := backed_of_reached before knows
  obtain ⟨row, named, started, seen⟩ : ∃ row, known.named = some row.id ∧ row.status = .started ∧
      Seen past.trace row := by
    rcases launched with started | ⟨acknowledged, row, inserted, started⟩
    · exact backed.started started
    · obtain ⟨_, is, seen⟩ := backed.acknowledged acknowledged
      cases inserted.symm.trans is
      exact ⟨row, backed.inserted inserted, started, seen⟩
  have minted := backed.named named
  obtain ⟨ctx, entered⟩ := traced.entered
  -- the call that inserted the row is this one
  obtain ⟨_, _, _, _, _, _, _, member, same, stored, why⟩ :=
    originates_of_reached before row (before.minted_new minted) (.inr seen)
  obtain ⟨_, _, after, recorded, within⟩ := before.at_entry member
  obtain ⟨inserter, knew, _, _, session, _, _, _, _, own, invoker, _, _, again, rfl⟩ :=
    caller_of_performed after recorded rfl
  obtain ⟨first, earlier, _, rfl⟩ := after.previous recorded
  have sub : first.trace ⊆ past.trace := fun _ member =>
    within.subset (recorded ▸ List.mem_cons_of_mem _ member)
  obtain ⟨_, made⟩ := (backed_of_reached earlier knew).named own
  obtain ⟨_, _, _, began⟩ := (traced_of_reached earlier knew).entered
  cases same
  cases before.chronicle.minted_once minted ⟨_, sub made⟩
  have one := before.chronicle.entered_once entered ⟨_, _, sub began⟩
  injection one with turn _ asked
  rw [asked, again] at parsed
  cases parsed
  refine ⟨fun other world member => ?_, _, ctx, _, row, arguments, entered, minted, seen, started,
    ?_, ?_, rfl, rfl, rfl⟩
  · have executed := traced.executed member
    rw [unexecuted] at executed
    cases executed
  · rcases why started with inserted | decided
    · have mode : session.approvalMode = .fullAccess := by
        cases mode : session.approvalMode with
        | perCommand => simp [Service.newToolCall, mode] at inserted
        | fullAccess => rfl
      rw [turn]
      exact (((traced_of_reached earlier knew).unattended invoker mode).mono sub).approved before
    · exact .itself decided
  · rw [stored]
    exact parse_marshal again

/-- The Device connects, and the approved call runs. -/
def execSchedule : Schedule :=
  approveSchedule ++ .start (.serveTransport [] ⟨"device", [1], "laptop", "linux", "amd64", "1"⟩) ::
    steps 4 1 ++ making 4 "conn" ++ steps 4 3 ++ taking 4 1 ++ steps 4 11 ++ steps 2 2 ++
    making 2 "event5" ++ steps 2 10

def running (past : History) : Option ExecRequest :=
  match past.trace with
  | .performed _ (.observe (.exec request)) _ _ :: _ => some request
  | _ => none

theorem executions_approved_listing : ∃ past request,
    reachedBy freely sampleConfiguration sampleDb execSchedule = some past ∧
      running past = some request ∧ request.command = "ls" ∧
      ∃ thread trace, Executes trace thread request := by
  have ran : (reachedBy freely sampleConfiguration sampleDb execSchedule).any
      (fun past => (running past).any (·.command = "ls")) = true := by decide +kernel
  obtain ⟨past, reached, runs⟩ := (Option.any_eq_true _ _).mp ran
  obtain ⟨request, runs, command⟩ := (Option.any_eq_true _ _).mp runs
  refine ⟨past, request, reached, runs, of_decide_eq_true command, ?_⟩
  unfold running at runs
  split at runs
  · next thread _ _ _ trace executes =>
    cases runs
    exact ⟨thread, trace, executions_approved (reached_of_schedule reached) executes⟩
  · cases runs

end AISummoner.Agent
