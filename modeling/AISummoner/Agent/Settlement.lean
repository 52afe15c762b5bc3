import AISummoner.Agent.Approval

/-! # The end of a tool call

`finishTool` writes the end of a call, and if it cannot it writes a failure and
looks again.  What it returns, and what `tool_call.completed` then says, is the
status the row was seen at, which a terminal row keeps.
-/

namespace AISummoner.Agent

open Concurrency Concurrency.Discipline Store AISummoner.Runtime App

def Payload.toolCall : Payload → Option String
  | .toolPending id _ | .toolStarted id _ | .toolOutput id .. | .toolCompleted id .. => some id
  | _ => none

def endsCall (toolCallID : String) : HistoryEntry → Bool
  | .performed _ (.agent (.publish event)) _ _ =>
    CallKnowledge.announcesEnd event.payload && event.payload.toolCall = some toolCallID
  | _ => false

/-! ## Rows and the ends asked for -/

/-- Only a completed row has an exit code, and a completed or denied row is at an
    end its call has asked for. -/
structure Answerable (trace : Trace) (row : ToolCall) : Prop where
  coded : row.exitCode.isSome = true → row.status = .completed
  asked : row.status = .completed ∨ row.status = .denied →
    ∃ thread, Minted trace "tool" thread row.id ∧
      ∀ known, callDiscipline.knows thread trace = some known →
        (row.status, row.exitCode) ∈ known.aims

variable {known : CallKnowledge} {row : ToolCall} {trace : Trace} {details : CompletionDetails}
  {thread : Nat} {id : String} {e : HistoryEntry} {cid : String} {status : ToolStatus}

variable {op : Operation} {r : op.Response} {pl : Payload} {event : Event}
  {handed : Bool} {world : World}

section Facts

variable {rule : Step → History → Bool} {cfg : Configuration} {db : Db}
  {p w : History}

theorem Answerable.next (han : Answerable p.trace row) (s : Reached rule cfg db p)
    (s' : Reached rule cfg db w) (next : Next rule p w) : Answerable w.trace row where
  coded := han.coded
  asked ended := by
    obtain ⟨thread, hmi, aimed⟩ := han.asked ended
    refine ⟨thread, hmi.next next, ?_⟩
    apply stable_of_minted _ s s' next hmi aimed
    intro _ _ r may made
    exact (later_after may).aims _ made

theorem Answerable.of_open (uncoded : row.exitCode = none)
    (ho : row.status ≠ .completed ∧ row.status ≠ .denied) : Answerable trace row where
  coded coded := by simp [uncoded] at coded
  asked ended := (ended.elim ho.1 ho.2).elim

theorem Answerable.uncoded (han : Answerable trace row)
    (uncompleted : row.status ≠ .completed) : row.exitCode = none := by
  cases code : row.exitCode with
  | none => rfl
  | some v => exact absurd (han.coded (by rw [code]; rfl)) uncompleted

theorem answerable_change {ctx : Context} {site : Site} {stm : Statement}
    {r : Except StoreError stm.Result} {k' : ToolCall} (s : Reached rule cfg db p)
    (s' : Reached rule cfg db w) (hrcd : w.trace =
      .performed thread (.store ctx site stm) r w.state :: p.trace)
    (ch : ToolCallChange p.state.db stm (some row) (some k'))
    (han : Answerable w.trace row) : Answerable w.trace k' := by
  cases ch with
  | kept => exact han
  | decided hud _ => exact ⟨han.coded, han.asked⟩
  | failedPending _ hud _ =>
    have hpnd := (ToolCall.undecided_iff.mp hud).1
    exact .of_open (han.uncoded (by simp [hpnd])) (by simp)
  | started hpnd _ _ => exact .of_open (han.uncoded (by simp [hpnd])) (by simp)
  | @finished _ _ _ _ _ _ _ _ _ _ =>
    obtain ⟨_, hk, own, coded⟩ := caller_of_performed s' hrcd rfl
    have hmi := (backed_of_reached s hk).named own.2
    refine ⟨coded, fun _ => ⟨thread, hrcd ▸ hmi.cons _, ?_⟩⟩
    intro _ knowsLast
    rw [hrcd, knows_performed_self, hk] at knowsLast
    cases knowsLast
    -- whatever the store answered, the end was asked for
    cases r with
    | ok _ | error _ => exact List.mem_cons_self
  | unpaired _ _ _ _ _ => exact .of_open rfl (by simp)

theorem answerable_of_reached (hr : Reached rule cfg db p) (new : row.id ∉ db.identifiers)
    (hf : p.state.db.toolCalls.get row.id = some row ∨ Seen p.trace row) :
    Answerable p.trace row := by
  suffices every : ∀ row : ToolCall, row.id ∉ db.identifiers →
      p.state.db.toolCalls.get row.id = some row ∨ Seen p.trace row →
      Answerable p.trace row from every row new hf
  refine Reached.induction ?_ ?_ hr
  · rintro row new (hf | ⟨_, hm, _⟩)
    · exact absurd (mem_identifiers_of_toolCall hf) new
    · cases hm
  intro p w s s' next ih row new hf
  have kept {pre : ToolCall} (h : pre.id = row.id)
      (hl : p.state.db.toolCalls.get row.id = some pre) :
      Answerable w.trace pre := by
    rw [← h] at new hl
    exact (ih pre new (.inl hl)).next s s' next
  have hpr (hl : w.state.db.toolCalls.get row.id = some row) :
      Answerable w.trace row := by
    rcases next.writes with h | ⟨_, _, _, _, r, v, rcd, ha⟩
    · exact kept rfl (h ▸ hl)
    have ch := toolCall_change ha row.id
    rw [hl] at ch
    cases pre : p.state.db.toolCalls.get row.id with
    | some a =>
      rw [pre] at ch
      have hky : a.id = row.id := Relational.Table.key_of_get pre
      exact answerable_change s s' rcd ch (kept hky pre)
    | none =>
      rw [pre] at ch
      cases ch with
      | @created _ tc _ status _ _ =>
        have hop : tc.status ≠ .completed ∧ tc.status ≠ .denied := by
          rcases status with pnd | hst
          · simp [pnd]
          · simp [hst]
        exact .of_open rfl hop
  rcases hf with hl | seen
  · exact hpr hl
  · rcases seen.cases_next next with hl | pre
    · exact hpr hl
    · exact (ih row new (.inr pre)).next s s' next

/-! ## What an announcement says -/

/-- How far the details of `tool_call.completed` go with the row: a denial may be
    announced for a row that had to be failed, the details of a failed execution
    have an exit code although the row has none, and a completion persisted with
    an error is announced without its code. -/
structure Reports (details : CompletionDetails) (row : ToolCall) : Prop where
  denied : (details.denied = some true ↔ row.status = .denied) ∨
    (details.denied = some true ∧ row.status = .failed)
  exitCode : details.exitCode = row.exitCode ∨
    (row.status = .failed ∧ details.failure.isSome = true) ∨
    (row.status = .completed ∧ details.exitCode = none)

/-- The row of the call was at this end, and the details go with it. -/
def Shown (trace : Trace) (toolCallID : String) (status : ToolStatus) (details : CompletionDetails) :
    Prop :=
  Store.terminalToolStatus status = true ∧
    ∃ row, Seen trace row ∧ row.id = toolCallID ∧ row.status = status ∧ Reports details row

theorem Shown.cons (sh : Shown trace cid status details) (e : HistoryEntry) :
    Shown (e :: trace) cid status details := by
  obtain ⟨trm, row, seen, rest⟩ := sh
  exact ⟨trm, row, seen.cons e, rest⟩

theorem Backed.terminal (hbk : Backed trace thread known) (hn : known.named = some cid)
    (trm : known.Terminal status) : ∃ row, Seen trace row ∧ row.id = cid ∧ row.status = status := by
  have mine {id : String} (h : known.named = some id) : id = cid :=
    Option.some.inj (h.symm.trans hn)
  rcases trm.2 with ⟨row, read, status⟩ | hfin | ⟨aborted, rfl⟩
  · obtain ⟨own, seen⟩ := hbk.rows row read
    exact ⟨row, seen, mine own, status⟩
  · obtain ⟨row, own, status, _, seen⟩ := hbk.finished hfin
    exact ⟨row, seen, mine own, status⟩
  · obtain ⟨row, own, status, _, seen⟩ := hbk.aborted aborted
    exact ⟨row, seen, mine own, status⟩

theorem reports_of_presents (trm : Store.terminalToolStatus row.status)
    (uncoded : row.status ≠ .completed → row.exitCode = none)
    (has : row.status = .completed ∨ row.status = .denied →
      (row.status, row.exitCode) ∈ known.aims) (presents : known.Presents row.status details) :
    Reports details row := by
  cases presents with
  | bare aims =>
    cases status : row.status with
    | pending | started => simp [status, Store.terminalToolStatus] at trm
    | completed => exact ⟨.inl (by simp [status]), .inr (.inr ⟨status, rfl⟩)⟩
    | failed => exact ⟨.inl (by simp [status]), .inl (uncoded (by simp [status])).symm⟩
    | denied =>
      have aimed := aims _ (has (.inr status))
      simp [status] at aimed
  | denied aims =>
    cases status : row.status with
    | pending | started => simp [status, Store.terminalToolStatus] at trm
    | denied => exact ⟨.inl (by simp [status]), .inl (uncoded (by simp [status])).symm⟩
    | failed => exact ⟨.inr ⟨rfl, status⟩, .inl (uncoded (by simp [status])).symm⟩
    | completed =>
      have aimed := aims _ (has (.inl status))
      simp [status] at aimed
  | failed hud reason aims =>
    cases status : row.status with
    | pending | started => simp [status, Store.terminalToolStatus] at trm
    | failed => exact ⟨.inl (by simp [status, hud]), .inr (.inl ⟨status, reason⟩)⟩
    | denied =>
      have aimed := aims _ (has (.inr status))
      simp [status] at aimed
    | completed =>
      have aimed := aims _ (has (.inl status))
      simp [status] at aimed
  | @completed _ hse aims =>
    have aimed := aims _ (has (.inl hse))
    simp only [hse, Prod.mk.injEq, true_and, reduceCtorEq, false_and, or_false] at aimed
    exact ⟨.inl (by simp [hse]), .inl aimed.symm⟩

theorem shown_of_may (hr : Reached rule cfg db p)
    (hk : callDiscipline.knows thread p.trace = some known)
    (may : known.mayPublish (.toolCompleted cid status details)) :
    Shown p.trace cid status details := by
  obtain ⟨own, _, trm, presents⟩ := may
  have hbk := backed_of_reached hr hk
  obtain ⟨row, seen, rfl, rfl⟩ := hbk.terminal own.2 trm
  have hmi := hbk.named own.2
  have han := answerable_of_reached hr (hr.minted_new hmi) (.inr seen)
  refine ⟨trm.1, row, seen, rfl, rfl, ?_⟩
  refine reports_of_presents trm.1 han.uncoded ?_ presents
  intro hed
  obtain ⟨o, made, aimed⟩ := han.asked hed
  have h : o = thread := hr.chronicle.minted_once made hmi
  exact aimed known (h ▸ hk)

theorem calling_after : (known.after op r).calling = match op with
      | .agent (.publish _) => none
      | .observe (.publishing sessionID pl) => some (sessionID, pl)
      | _ => known.calling := by
  cases op with
  | store _ _ stm =>
    cases stm with
    | agentToolCallByOwner | failPendingToolCall | startToolCall | finishToolCall =>
      cases r with
      | ok v | error err => rfl
    | _ => rfl
  | agent op =>
    cases op with
    | acquireGate | installPending =>
      cases r with
      | ok v | error err => rfl
    | _ => rfl
  | observe obs => cases obs <;> rfl
  | newID kind =>
    cases r with
    | none => rfl
    | some _ =>
      by_cases tool : kind = "tool"
      · simp [CallKnowledge.after, tool]
      · simp [CallKnowledge.after, tool]
  | _ => rfl

/-- What a call is publishing about a tool call, it is publishing about itself,
    and the end it announces is shown. -/
structure Speaks (trace : Trace) (known : CallKnowledge) : Prop where
  own : ∀ {sessionID payload id}, known.calling = some (sessionID, payload) →
    payload.toolCall = some id → known.named = some id
  shown : ∀ {sessionID id status details},
    known.calling = some (sessionID, .toolCompleted id status details) →
    known.announced = true ∧ Shown trace id status details

theorem mayPublish_own (may : known.mayPublish pl) (about : pl.toolCall = some id) :
    known.named = some id ∧ known.announced = false := by
  cases pl with
  | toolCompleted =>
    cases about
    exact ⟨may.1.2, may.2.1⟩
  | toolPending | toolStarted | toolOutput =>
    cases about
    exact ⟨may.1.2, may.2⟩
  | _ => cases about

theorem speaks_of_reached (hr : Reached rule cfg db p)
    (hk : callDiscipline.knows thread p.trace = some known) : Speaks p.trace known := by
  refine Reached.knowing call_bodies ?_ ?_ ?_ ?_ hr hk
  · intro p _ g known _ _ _ hb
    cases g with
    | invoke _ _ _ =>
      cases hb
      exact ⟨nofun, nofun⟩
    | _ => cases hb
  · intro p w thread known _ _ next _ speaks
    obtain ⟨e, hrcd, _⟩ := next.trace
    rw [hrcd]
    refine ⟨speaks.own, fun hcg => ?_⟩
    obtain ⟨hann, hsh⟩ := speaks.shown hcg
    exact ⟨hann, hsh.cons e⟩
  · intro p thread op _ r world known hr hk may _ _ speaks
    have grown : known.Later (known.after op r) := later_after may
    have hs (unsaid : (known.after op r).calling = known.calling) :
        Speaks (.performed thread op r world :: p.trace)
          (known.after op r) := by
      refine ⟨fun hcg about => ?_, fun hcg => ?_⟩
      · exact grown.named (speaks.own (unsaid ▸ hcg) about)
      · obtain ⟨hann, hsh⟩ := speaks.shown (unsaid ▸ hcg)
        exact ⟨grown.announced hann, hsh.cons _⟩
    cases op with
    | agent op =>
      cases op with
      | publish _ => exact ⟨nofun, nofun⟩
      | _ => exact hs calling_after
    | observe obs =>
      cases obs with
      | publishing _ _ =>
        refine ⟨fun hcg about => ?_, fun hcg => ?_⟩
        · cases hcg
          exact (mayPublish_own may.2.2 about).1
        · cases hcg
          exact ⟨Bool.or_true _, (shown_of_may hr hk may.2.2).cons _⟩
      | _ => exact hs calling_after
    | _ => exact hs calling_after
  · intro p w thread known _ _ him
    exact him.elim

/-! ## The last word -/

structure Silent (known : CallKnowledge) : Prop where
  announced : known.announced = true
  calling : ∀ {sessionID payload}, known.calling = some (sessionID, payload) →
    payload.toolCall = none

theorem Silent.after (may : known.may op) (hsl : Silent known) : Silent (known.after op r) := by
  have hann : (known.after op r).announced := (later_after may).announced hsl.announced
  have unsaid (h : (known.after op r).calling = known.calling) :
      Silent (known.after op r) :=
    ⟨hann, fun hcg => hsl.calling (h ▸ hcg)⟩
  cases op with
  | agent op =>
    cases op with
    | publish _ => exact ⟨hann, nofun⟩
    | _ => exact unsaid calling_after
  | observe obs =>
    cases obs with
    | publishing _ pl =>
      refine ⟨hann, fun hcg => ?_⟩
      cases hcg
      cases about : pl.toolCall with
      | none => rfl
      | some _ =>
        have unannounced := (mayPublish_own may.2.2 about).2
        rw [hsl.announced] at unannounced
        cases unannounced
    | _ => exact unsaid calling_after
  | _ => exact unsaid calling_after

/-- The call that made the identifier has had its last word. -/
def Told (trace : Trace) (id : String) : Prop :=
  ∃ thread, Minted trace "tool" thread id ∧
    ∀ known, callDiscipline.knows thread trace = some known → Silent known

theorem payloadPerformers_of_toolCall (about : pl.toolCall = some id) :
    payloadPerformers pl = [.invoke] := by
  cases pl <;> first | rfl | cases about

theorem speaker_of_published (hr : Reached rule cfg db p)
    (hpu : p.trace = .performed thread (.agent (.publish event)) handed world :: trace)
    (about : event.payload.toolCall = some id) :
    ∃ known, callDiscipline.knows thread trace = some known ∧
      known.calling = some (event.sessionID, event.payload) ∧ Minted trace "tool" thread id ∧
      Speaks trace known := by
  have how : performers (.agent (.publish event)) = some [.invoke] :=
    congrArg some (payloadPerformers_of_toolCall about)
  obtain ⟨known, hk, _, hcg⟩ := caller_of_performed hr hpu how
  obtain ⟨_, s, _, rfl⟩ := hr.previous hpu
  have speaks := speaks_of_reached s hk
  exact ⟨known, hk, hcg, (backed_of_reached s hk).named (speaks.own hcg about), speaks⟩

theorem endsCall_eq (ends : endsCall id e) : ∃ thread event handed world status details,
      e = .performed thread (.agent (.publish event)) handed world ∧
        event.payload = .toolCompleted id status details := by
  cases e with
  | performed thread op r world =>
    cases op with
    | agent op =>
      cases op with
      | publish event =>
        cases said : event.payload with
        | toolCompleted o status details =>
          have h : o = id := by
            simpa [endsCall, said, CallKnowledge.announcesEnd, Payload.toolCall] using ends
          exact ⟨thread, event, r, world, status, details, rfl, h ▸ said⟩
        | _ => simp [endsCall, said, CallKnowledge.announcesEnd] at ends
      | _ => cases ends
    | _ => cases ends
  | _ => cases ends

theorem told_of_reached (hr : Reached rule cfg db p)
    (hm : e ∈ p.trace) (ends : endsCall id e) : Told p.trace id := by
  refine Reached.induction ?_ ?_ hr hm
  · intro hm
    cases hm
  intro p _ s s' next ih hm
  obtain ⟨_, hrcd, _⟩ := next.trace
  rw [hrcd] at hm
  rcases List.mem_cons.mp hm with rfl | pre
  · obtain ⟨thread, _, _, _, _, _, rfl, said⟩ := endsCall_eq ends
    obtain ⟨_, hk, hcg, hmi, speaks⟩ := speaker_of_published s' hrcd (by rw [said]; rfl)
    rw [said] at hcg
    refine ⟨thread, hmi.next next, ?_⟩
    intro _ knowsLater
    rw [hrcd, knows_performed_self, hk] at knowsLater
    cases knowsLater
    exact ⟨(speaks.shown hcg).1, nofun⟩
  · obtain ⟨thread, hmi, hsl⟩ := ih pre
    exact ⟨thread, hmi.next next, stable_of_minted Silent.after s s' next hmi hsl⟩

/-- Nothing is published about a call after its end. -/
theorem last_word (hr : Reached rule cfg db p)
    (hpu : p.trace = .performed thread (.agent (.publish event)) handed world :: trace)
    (about : event.payload.toolCall = some id) (hm : e ∈ trace) : endsCall id e = false := by
  cases ends : endsCall id e with
  | false => rfl
  | true =>
    obtain ⟨known, hk, hcg, hmi, _⟩ := speaker_of_published hr hpu about
    obtain ⟨_, s, _, rfl⟩ := hr.previous hpu
    obtain ⟨o, made, hsl⟩ := told_of_reached s hm ends
    have h : o = thread := s.chronicle.minted_once made hmi
    have spoken := (hsl known (h ▸ hk)).calling hcg
    rw [about] at spoken
    cases spoken

end Facts

/-! ## What is settled -/

/-- The row of the call was at this end, and is at it as long as it exists. -/
structure Ended (past : History) (toolCallID : String) (status : ToolStatus) : Prop where
  terminal : Store.terminalToolStatus status = true
  seen : ∃ row, Seen past.trace row ∧ row.id = toolCallID ∧ row.status = status
  lasts : ∀ row, past.state.db.toolCalls.get toolCallID = some row → row.status = status

structure EndsSettled (past : History) : Prop where
  /-- `finishTool` returns the status of the row. -/
  finished : ∀ {thread toolCallID status failure world},
    .performed thread (.observe (.finished toolCallID (some status) failure)) () world ∈ past.trace →
    Ended past toolCallID status
  /-- `tool_call.completed` carries the status of the row. -/
  announced : ∀ {thread event handed world toolCallID status details},
    .performed thread (.agent (.publish event)) handed world ∈ past.trace →
    event.payload = .toolCompleted toolCallID status details → Ended past toolCallID status
  once : ∀ toolCallID, (past.trace.filter (endsCall toolCallID)).length ≤ 1

theorem ended_of_seen {rule : Step → History → Bool} {cfg : Configuration} {db : Db}
    {p : History} (hr : Reached rule cfg db p)
    (trm : Store.terminalToolStatus row.status) (seen : Seen p.trace row) :
    Ended p row.id row.status where
  terminal := trm
  seen := ⟨row, seen, rfl, rfl⟩
  lasts later found := by
    rw [((rowsPersist_of_reached hr).grows seen found).frozen trm]

/-- Whatever the store does with the writes of `finishTool`, and whoever unpairs
    the Device meanwhile: no end is reported that the row does not have. -/
theorem ends_settled {configuration : Configuration} {db : Db} {past : History}
    (reached : Reached freely configuration db past) : EndsSettled past := by
  refine ⟨?_, ?_, ?_⟩
  · intro thread toolCallID status failure world member
    obtain ⟨moment, trace, before, recorded, within⟩ := reached.at_entry member
    obtain ⟨known, knows, own, terminal⟩ := caller_of_performed before recorded rfl
    obtain ⟨earlier, first, _, rfl⟩ := before.previous recorded
    have ended := terminal status rfl
    obtain ⟨row, seen, rfl, rfl⟩ := (backed_of_reached first knows).terminal own.2 ended
    have kept : Seen moment.trace row := recorded ▸ seen.cons _
    exact ended_of_seen reached ended.1 (kept.suffix within)
  · intro thread event handed world toolCallID status details member said
    obtain ⟨moment, trace, before, recorded, within⟩ := reached.at_entry member
    obtain ⟨known, _, calling, _, speaks⟩ := speaker_of_published before recorded (by rw [said]; rfl)
    rw [said] at calling
    obtain ⟨terminal, row, seen, rfl, rfl, _⟩ := (speaks.shown calling).2
    have kept : Seen moment.trace row := recorded ▸ seen.cons _
    exact ended_of_seen reached terminal (kept.suffix within)
  · intro toolCallID
    refine Reached.induction ?_ ?_ reached
    · exact Nat.zero_le 1
    intro past changed _ after next hypothesis
    obtain ⟨entry, recorded, _⟩ := next.trace
    rw [recorded, List.filter_cons]
    split
    · next ends =>
      obtain ⟨thread, event, handed, world, status, details, rfl, said⟩ := endsCall_eq ends
      have none : past.trace.filter (endsCall toolCallID) = [] := by
        apply List.filter_eq_nil_iff.mpr
        intro earlier member
        rw [last_word after recorded (by rw [said]; rfl) member]
        exact Bool.false_ne_true
      rw [none]
      exact Nat.le_refl 1
    · exact hypothesis

/-- The approved call finds its Device offline, and its failure is announced. -/
def failSchedule : Schedule :=
  approveSchedule ++ steps 2 2 ++ making 2 "event5" ++ steps 2 20 ++ making 2 "event6" ++ steps 2 2

theorem ends_settled_offline :
    ∃ past, reachedBy freely sampleConfiguration sampleDb failSchedule = some past ∧
      past.trace.any (endsCall "call") = true ∧ EndsSettled past := by
  have ran : (reachedBy freely sampleConfiguration sampleDb failSchedule).any
      (fun past => past.trace.any (endsCall "call")) = true := by decide +kernel
  obtain ⟨past, reached, announced⟩ := (Option.any_eq_true _ _).mp ran
  exact ⟨past, reached, announced, ends_settled (reached_of_schedule reached)⟩

end AISummoner.Agent
