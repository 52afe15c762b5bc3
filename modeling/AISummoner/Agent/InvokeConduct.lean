import AISummoner.Agent.CallConduct

/-! # `Invoke` keeps to the conduct of a call

One rule per function of `Agent.Invoke`.  A rule says what is known when the
function returns, as far as its callers need it; the postcondition is left open
so that the rules compose. -/

namespace AISummoner.Agent.Service

open Concurrency Concurrency.Discipline Store AISummoner.Runtime App Agent.CallKnowledge

theorem terminalToolStatus_eq (sts : ToolStatus) :
    terminalToolStatus sts = Store.terminalToolStatus sts := by
  cases sts <;> rfl

variable {α : Type} {k : CallKnowledge} {ses : AgentSession} {tg : ExecutionTarget}
  {cid : String}

structure Serving (known : CallKnowledge) (session : AgentSession) (target : ExecutionTarget)
    (toolCallID : String) : Prop where
  own : known.Own toolCallID
  invoker : known.invoker = some (session, target)

variable {tries : List (ToolStatus × Option Int)} {later : CallKnowledge} {ctx : Context}
  {des : ToolStatus} {exc : Bytes} {er : AgentError} {exitCode : Option Int}

theorem Serving.since (hsv : Serving k ses tg cid)
    (hsi : Since tries k later) : Serving later ses tg cid :=
  ⟨hsi.own hsv.own, hsi.invoker.trans hsv.invoker⟩

theorem follows_say {pl : Payload} {post : Unit → CallKnowledge → Prop}
    (hsv : Serving k ses tg cid) (may : k.mayPublish pl)
    (open_ : announcesEnd pl = false) (hh : ∀ calling, post () { k with calling }) :
    callDiscipline.Follows (publish ses.id pl) post k := by
  have said : callDiscipline.after k (.observe (.publishing ses.id pl)) () =
      { k with calling := some (ses.id, pl) } := by
    simp [callDiscipline, CallKnowledge.after, afterObservation, open_]
  apply follows_publish call_ignores
  · exact ⟨hsv.own.1, ⟨ses, tg, hsv.invoker, rfl⟩, may⟩
  · intro id now
    rw [said]
    exact ⟨hsv.own.1, rfl⟩
  · rw [said]
    exact hh _
  · intro id now _
    rw [said]
    exact hh none

variable {cause : AgentError} {res : ToolResult} {request : ToolRequest}

theorem follows_lookupTool {site : Site} (own : k.Own cid) :
    callDiscipline.Follows (lookupTool site ses.userID cid) (fun f later =>
      Since [] k later ∧ ∀ row, f = .ok row → later = k.saw site row) k := by
  apply follows_cleanup call_ignores
  intro _
  refine ⟨own, fun r => ?_⟩
  cases r with
  | ok row => exact ⟨since_saw site row, fun _ h => by cases h; rfl⟩
  | error _ => exact ⟨{ Since.refl k with }, nofun⟩

/-- One attempt at failing the undecided row: it did, somebody was faster, or
    there is no answer. -/
inductive Attempted (site : Site) (later : CallKnowledge) :
    Except (StoreError × Option ToolCall) ToolCall → Prop
  | done {row : ToolCall} (tried : later.tried = true) (aborted : later.aborted = true) :
    Attempted site later (.ok row)
  | conflict {row : ToolCall} (tried : later.tried = true) (seen : row ∈ later.rows)
    (raced : inAbort site = true → row.status = .pending → row.decision.isSome = true →
      later.raced = true) : Attempted site later (.error (.conflict, some row))
  | failed {error : StoreError}
    (given : later.tried = true ∨ (site = .attempt 1 → later.exhausted = true)) :
    Attempted site later (.error (error, none))

theorem follows_failPending {site : Site} (own : k.Own cid) :
    callDiscipline.Follows (failPending ses cid exc site) (fun res later =>
      Since [] k later ∧ Attempted site later res) k := by
  apply follows_cleanup call_ignores
  intro _
  apply follows_unowned call_ignores rfl
  intro _
  refine ⟨own, fun r => ?_⟩
  cases r with
  | error er =>
    refine ⟨{ Since.refl k with exhausted := ?_ }, .failed (.inr ?_)⟩
    · intro s
      simp [callDiscipline, CallKnowledge.after, afterStore, s]
    · intro last
      simp [callDiscipline, CallKnowledge.after, afterStore, last]
  | ok af =>
    have han : Since [] k
        { k with tried := true, aborted := k.aborted || af = 1 } :=
      { Since.refl k with tried := fun _ => rfl }
    refine ⟨han.own own, fun lk => ?_⟩
    cases lk with
    | error er => exact ⟨han.trans { Since.refl _ with }, .failed (.inl rfl)⟩
    | ok row =>
      have seen := han.trans (since_saw site row)
      apply Follows.ite
      · intro _
        refine ⟨seen, .conflict rfl List.mem_cons_self ?_⟩
        intro aborting pnd hde
        simp [callDiscipline, CallKnowledge.after, afterStore, saw, aborting, pnd, hde]
      · intro one
        have hw : af = 1 := Decidable.not_not.mp one
        refine ⟨seen, .done rfl ?_⟩
        simp [callDiscipline, CallKnowledge.after, afterStore, saw, hw]

/-! ## Waiting for a decision -/

/-- What is known when a decision is returned: it was read, and either the
    session was set to `running` for it or it was found by the abort. -/
def Returned (later : CallKnowledge) (result : Except AgentError Decision) : Prop :=
  ∀ decision, result = .ok decision →
    later.Decided decision ∧ (later.resumed = true ∨ later.raced = true)

theorem returned_error : Returned later (.error er) := nofun

theorem returned_abortConflict {row : ToolCall} (seen : row ∈ later.rows)
    (raced : row.status = .pending → row.decision.isSome → later.raced) :
    Returned later (abortConflict cause (some row)) := by
  intro _ res
  simp only [abortConflict] at res
  split at res
  · rename_i pnd hf
    cases res
    exact ⟨⟨row, seen, hf⟩, .inr (raced pnd (by simp [hf]))⟩
  · cases res
  · cases res

theorem follows_resolvePendingAbort (own : k.Own cid) :
    callDiscipline.Follows (resolvePendingAbort ses cid cause) (fun res later =>
      Since [] k later ∧ Returned later res) k := by
  have loop : ∀ (rem att : Nat) (lerr : Option StoreError) (now : CallKnowledge),
      Since [] k now → callDiscipline.Follows
        (resolvePendingAbortFrom ses cid cause att lerr rem)
        (fun res later => Since [] k later ∧ Returned later res) now := by
    intro rem
    induction rem with
    | zero =>
      intro att lerr now hsi
      exact ⟨hsi, returned_error⟩
    | succ rem ih =>
      intro att lerr now hsi
      refine (follows_failPending (hsi.own own)).andThen fun res later ⟨step, attempted⟩ => ?_
      cases attempted with
      | done _ _ => exact ⟨hsi.trans step, returned_error⟩
      | conflict _ seen raced => exact ⟨hsi.trans step, returned_abortConflict seen (raced rfl)⟩
      | @failed er _ =>
        -- an error that reads as a conflict has no row to tell of a decision
        cases er with
        | conflict => exact ⟨hsi.trans step, returned_error⟩
        | _ => exact ih _ _ later (hsi.trans step)
  exact loop 2 0 none k (Since.refl k)

section Deciding

variable (hsv : Serving k ses tg cid)
  (hpc : ses.approvalMode = .perCommand) (unlaunched : k.launching = false)
include hsv hpc unlaunched

theorem follows_resumeDecision {dec : Decision} :
    callDiscipline.Follows (resumeDecision ctx ses cid dec) (fun res later =>
      Since [] k later ∧ Returned later res) k := by
  refine (follows_lookupTool hsv.own).andThen fun f later ⟨seen, saw⟩ => ?_
  cases f with
  | error er => exact ⟨seen, returned_error⟩
  | ok row =>
    cases saw row rfl
    apply Follows.ite
    · intro _
      exact ⟨seen, returned_error⟩
    · intro agrees
      have hde : row.decision = some dec := by
        by_contra other
        exact agrees (.inr other)
      apply follows_unowned call_ignores rfl
      intro _
      apply follows_storedRaw
      · exact ⟨(seen.own hsv.own).1, unlaunched, ses, tg, hsv.invoker, rfl, rfl, hpc, .inr rfl⟩
      · intro er
        exact ⟨seen.trans { Since.refl _ with }, returned_error⟩
      · intro _
        have resumed : Since [] k { k.saw .single row with resumed := true } :=
          seen.trans { Since.refl _ with }
        apply Follows.bind
        refine follows_say (hsv.since resumed) trivial rfl ?_
        intro _
        refine ⟨resumed.trans { Since.refl _ with }, ?_⟩
        intro _ h
        cases h
        exact ⟨⟨row, List.mem_cons_self, hde⟩, .inl rfl⟩

theorem follows_awaitDecision : callDiscipline.Follows (awaitDecision ctx ses cid) (fun res later =>
      Since [] k later ∧ Returned later res) k := by
  apply follows_unowned call_ignores rfl
  intro _
  apply follows_step
  · exact ⟨hsv.own.1, unlaunched, ses, tg, hsv.invoker, rfl, rfl, hpc, .inl rfl⟩
  intro r
  cases r with
  | error _ =>
    have missed : Since [] k { k with resumed := false } := { Since.refl k with }
    exact (follows_resolvePendingAbort (missed.own hsv.own)).mono
      fun _ _ ⟨hsi, hrt⟩ => ⟨missed.trans hsi, hrt⟩
  | ok _ =>
    have hw : Since [] k { k with resumed := false } := { Since.refl k with }
    apply Follows.bind
    refine follows_say (hsv.since hw) trivial rfl ?_
    intro calling
    have said : Since [] k { k with resumed := false, calling } := { Since.refl k with }
    apply follows_step (said.own hsv.own)
    intro oc
    cases oc with
    | error _ =>
      exact (follows_resolvePendingAbort (said.own hsv.own)).mono
        fun _ _ ⟨hsi, hrt⟩ => ⟨said.trans hsi, hrt⟩
    | ok _ =>
      exact (follows_resumeDecision (hsv.since said) hpc unlaunched).mono
        fun _ _ ⟨hsi, hrt⟩ => ⟨said.trans hsi, hrt⟩

theorem follows_waitForDecision :
    callDiscipline.Follows (waitForDecision ctx ses cid) (fun res later =>
      Since [] k later ∧ Returned later res) k := by
  apply Follows.bind
  apply follows_deferring
  apply (follows_awaitDecision hsv hpc unlaunched).mono
  rintro res later ⟨hsi, hrt⟩
  refine ⟨hsi.own hsv.own, fun _ => ⟨⟨hsi.own hsv.own, ?_⟩, fun _ => ?_⟩⟩
  · intro dec h
    exact (hrt dec h).1
  · exact ⟨hsi, hrt⟩

end Deciding

theorem follows_installPending (own : k.Own cid) (hack : k.acknowledged) :
    callDiscipline.Follows (installPending ses cid) (fun _ later => Since [] k later) k := by
  apply Follows.chain
  refine ⟨⟨own, hack, rfl⟩, fun r => ?_⟩
  cases r with
  | error er => exact Since.refl k
  | ok _ =>
    have hin : Since [] k { k with installing := true } := { Since.refl k with }
    refine (follows_lookupTool (hin.own own)).andThen fun f later ⟨hlk, saw⟩ => ?_
    have seen := hin.trans hlk
    cases f with
    | error er => exact ⟨seen.own own, fun _ => seen⟩
    | ok row =>
      cases hde : row.decision with
      | none =>
        simp only [hde]
        exact seen
      | some _ =>
        simp only [hde]
        refine ⟨⟨seen.own own, ?_⟩, fun _ => seen.trans { Since.refl _ with }⟩
        rw [saw row rfl]
        simp [CallKnowledge.saw, hde]

/-! ## Settling the call -/

theorem follows_finish {att : Nat} {sts : ToolStatus} {code : Option Int}
    (own : k.Own cid) (coded : code.isSome → sts = .completed) :
    callDiscipline.Follows (finish ses cid att sts code exc)
      (fun res later => Since [(sts, code)] k later ∧
        (res = .ok () → later.finished = some sts)) k := by
  apply follows_cleanup call_ignores
  intro _
  apply follows_unowned call_ignores rfl
  intro now
  have aimed {now : CallKnowledge} (h : Since [] k { now with aims := k.aims })
      (aims : now.aims = (sts, code) :: k.aims) : Since [(sts, code)] k now :=
    { h with
      aims := by
        intro _ hm
        rw [aims] at hm
        rcases List.mem_cons.mp hm with rfl | pre
        · exact .inr List.mem_cons_self
        · exact .inl pre }
  apply Follows.chain
  refine ⟨⟨own, coded⟩, fun r => ?_⟩
  cases r with
  | error er => exact ⟨aimed { Since.refl k with } rfl, nofun⟩
  | ok af =>
    have has : Since [(sts, code)] k
        (k.afterStore (.attempt att)
          (.finishToolCall ses.userID cid sts code (some exc) now) (.ok af)) :=
      aimed { Since.refl k with } rfl
    apply Follows.ite
    · intro _
      refine ⟨has.own own, fun lk => ?_⟩
      cases lk with
      | error er => exact ⟨has.trans { Since.refl _ with }, nofun⟩
      | ok row => exact ⟨has.trans (since_saw _ row), nofun⟩
    · intro one
      have hw : af = 1 := Decidable.not_not.mp one
      refine ⟨has, fun _ => ?_⟩
      simp [callDiscipline, CallKnowledge.after, afterStore, hw]

theorem follows_reconcile (own : k.Own cid) :
    callDiscipline.Follows (reconcile ses cid) (fun f later =>
      Since [] k later ∧ ∀ sts, f = some sts → later.Terminal sts) k := by
  refine (follows_lookupTool own).andThen fun f later ⟨seen, saw⟩ => ?_
  cases f with
  | error _ => exact ⟨seen, nofun⟩
  | ok row =>
    by_cases trm : terminalToolStatus row.status = true
    · simp only [trm, if_true]
      refine ⟨seen, fun sts h => ?_⟩
      cases h
      rw [saw row rfl]
      exact ⟨(terminalToolStatus_eq _).symm.trans trm, .inl ⟨row, List.mem_cons_self, rfl⟩⟩
    · simp only [trm]
      exact ⟨seen, nofun⟩

/-- What is known when the call is settled: the status is the row's, and without
    an error it is the desired one. -/
structure Concluded (later : CallKnowledge) (desired : ToolStatus) (settled : Settled) : Prop where
  terminal : ∀ status, settled.1 = some status → later.Terminal status
  desired : settled.2 = none → settled.1 = some desired

theorem concluded_lost : Concluded later des (none, some er) := ⟨nofun, nofun⟩

theorem concluded_found {sts : ToolStatus} {err : Option AgentError}
    (trm : later.Terminal sts) (agrees : err = none → sts = des) :
    Concluded later des (some sts, err) := by
  refine ⟨?_, fun none => congrArg some (agrees none)⟩
  intro o h
  cases h
  exact trm

/-- The call is settled with one of the ends it tried. -/
def Settles (tries : List (ToolStatus × Option Int)) (known : CallKnowledge) (desired : ToolStatus)
    (settled : Settled) (later : CallKnowledge) : Prop :=
  Since tries known later ∧ Concluded later desired settled

theorem follows_compensate (own : k.Own cid) (failing : (.failed, none) ∈ tries)
    (lerr : Option StoreError) : callDiscipline.Follows
      (compensate ses cid 0 lerr 2) (Settles tries k des) k := by
  have loop : ∀ (rem att : Nat) (lerr : Option StoreError) (now : CallKnowledge),
      Since tries k now → callDiscipline.Follows
        (compensate ses cid att lerr rem)
        (Settles tries k des) now := by
    intro rem
    induction rem with
    | zero =>
      intro att lerr now hsi
      exact ⟨hsi, concluded_lost⟩
    | succ rem ih =>
      intro att lerr now hsi
      refine (follows_finish (hsi.own own) (by simp)).andThen fun res _ ⟨step, hfin⟩ => ?_
      have has := hsi.trans (step.widen failing)
      cases res with
      | ok _ => exact ⟨has, concluded_found ⟨rfl, .inr (.inl (hfin rfl))⟩ nofun⟩
      | error _ =>
        refine (follows_reconcile (has.own own)).andThen fun f last ⟨look, trm⟩ => ?_
        cases f with
        | some sts => exact ⟨has.trans look.any, concluded_found (trm sts rfl) nofun⟩
        | none => exact ih _ _ last (has.trans look.any)
  exact loop 2 0 lerr k (Since.refl k)

theorem follows_finalize (own : k.Own cid) (trm : Store.terminalToolStatus des)
    (coded : exitCode.isSome → des = .completed) (aiming : (des, exitCode) ∈ tries)
    (failing : (.failed, none) ∈ tries) :
    callDiscipline.Follows (finalize ses cid des exitCode exc 0 none 2)
      (Settles tries k des) k := by
  have loop : ∀ (rem att : Nat) (lerr : Option StoreError) (now : CallKnowledge),
      Since tries k now → callDiscipline.Follows
        (finalize ses cid des exitCode exc att lerr rem)
        (Settles tries k des) now := by
    intro rem
    induction rem with
    | zero =>
      intro att lerr now hsi
      apply Follows.ite
      · intro _
        exact (follows_compensate (hsi.own own) failing _).mono
          fun _ _ ⟨step, hco⟩ => ⟨hsi.trans step, hco⟩
      · intro _
        exact ⟨hsi, concluded_lost⟩
    | succ rem ih =>
      intro att lerr now hsi
      refine (follows_finish (hsi.own own) coded).andThen fun res _ ⟨step, hfin⟩ => ?_
      have has := hsi.trans (step.widen aiming)
      cases res with
      | ok _ =>
        exact ⟨has, concluded_found ⟨trm, .inr (.inl (hfin rfl))⟩ fun _ => rfl⟩
      | error _ =>
        refine (follows_reconcile (has.own own)).andThen fun f last ⟨look, hed⟩ => ?_
        cases f with
        | some sts =>
          refine ⟨has.trans look.any, concluded_found (hed sts rfl) ?_⟩
          intro hsl
          by_contra ne
          simp [ne] at hsl
        | none => exact ih _ _ last (has.trans look.any)
  exact loop 2 0 none k (Since.refl k)

theorem follows_abortTool (own : k.Own cid) :
    callDiscipline.Follows (abortTool ses cid exc 0 none 2) (fun res later =>
      Since [] k later ∧ (later.tried ∨ later.exhausted) ∧
        ∀ se, res = .ok se → Concluded later .failed se) k := by
  -- with `remaining` attempts left the next one is number `2 - remaining`
  have loop : ∀ (rem att : Nat) (abortError : Option StoreError) (now : CallKnowledge),
      att + rem = 2 → Since [] k now →
      (rem = 0 → now.tried ∨ now.exhausted) → callDiscipline.Follows
        (abortTool ses cid exc att abortError rem) (fun res later =>
          Since [] k later ∧ (later.tried ∨ later.exhausted) ∧
            ∀ se, res = .ok se → Concluded later .failed se) now := by
    intro rem
    induction rem with
    | zero =>
      intro att abortError now _ hsi hgi
      exact ⟨hsi, hgi rfl, nofun⟩
    | succ rem ih =>
      intro att abortError now _ hsi _
      refine (follows_failPending (hsi.own own)).andThen fun res later ⟨step, attempted⟩ => ?_
      have has := hsi.trans step
      have settles {se : Settled} (tried : later.tried)
          (hco : Concluded later .failed se) : Since [] k later ∧
            (later.tried ∨ later.exhausted) ∧ ∀ o,
              (.ok se : Except (Option StoreError) Settled) = .ok o →
              Concluded later .failed o :=
        ⟨has, .inl tried, fun _ h => by cases h; exact hco⟩
      cases attempted with
      | done tried aborted =>
        exact settles tried (concluded_found ⟨rfl, .inr (.inr ⟨aborted, rfl⟩)⟩ fun _ => rfl)
      | @conflict row tried seen _ =>
        by_cases trm : terminalToolStatus row.status = true
        · have hed : later.Terminal row.status :=
            ⟨(terminalToolStatus_eq _).symm.trans trm, .inl ⟨row, seen, rfl⟩⟩
          by_cases hfa : row.status = .failed
          · simp only [failureConflict, hfa, if_true]
            rw [hfa] at hed
            exact settles tried (concluded_found hed fun _ => rfl)
          · simp only [failureConflict, trm, hfa, if_true, if_false]
            exact settles tried (concluded_found hed nofun)
        · simp only [failureConflict, trm]
          split
          · rename_i him
            simp at him
          · exact ⟨has, .inl tried, nofun⟩
          · exact ih _ _ later (by omega) has fun _ => .inl tried
      | @failed er hgi =>
        have next : rem = 0 → later.tried ∨ later.exhausted := by
          intro _
          have hb : att = 1 := by omega
          exact hgi.imp_right fun hex => hex (by rw [hb])
        cases er with
        | conflict => exact ih _ _ later (by omega) has next
        | _ => exact ih _ _ later (by omega) has next
  exact loop 2 0 none k rfl (Since.refl k) nofun

theorem follows_stillUndecided (own : k.Own cid) :
    callDiscipline.Follows (stillUndecided ses cid) (fun _ later => Since [] k later) k := by
  refine (follows_lookupTool own).andThen fun f later ⟨seen, _⟩ => ?_
  cases f with
  | error er | ok row => exact seen

section Settling

variable (own : k.Own cid) (trm : Store.terminalToolStatus des = true)
  (coded : exitCode.isSome = true → des = .completed)
include own trm coded

theorem follows_settleTool : callDiscipline.Follows (settleTool ses cid des exitCode exc)
      (fun hse later => Since [(des, exitCode), (.failed, none)] k later ∧ Concluded later des hse ∧
        (des = .failed → later.tried ∨ later.exhausted)) k := by
  have aiming : (des, exitCode) ∈ [(des, exitCode), (.failed, none)] := List.mem_cons_self
  have failing : (ToolStatus.failed, none) ∈ [(des, exitCode), (.failed, none)] := by simp
  apply Follows.ite
  · intro hfa
    subst hfa
    refine (follows_abortTool own).andThen fun res later ⟨hsi, hgi, settles⟩ => ?_
    cases res with
    | ok hse => exact ⟨hsi.any, settles hse rfl, fun _ => hgi⟩
    | error _ =>
      refine (follows_stillUndecided (hsi.own own)).andThen fun _ last look => ?_
      have kept : last.tried ∨ last.exhausted := hgi.imp look.tried look.exhausted
      have hr := hsi.trans look
      apply Follows.ite
      · intro _
        exact ⟨hr.any, concluded_lost, fun _ => kept⟩
      · intro _
        exact (follows_finalize (hr.own own) trm coded aiming failing).mono
          fun _ _ ⟨step, hco⟩ => ⟨hr.any.trans step, hco,
            fun _ => kept.imp step.tried step.exhausted⟩
  · intro o
    exact (follows_finalize own trm coded aiming failing).mono
      fun _ _ ⟨hsi, hco⟩ => ⟨hsi, hco, fun hfa => absurd hfa o⟩

theorem follows_finishTool : callDiscipline.Follows (finishTool ses cid des exitCode exc)
      (fun hse later => Since [(des, exitCode), (.failed, none)] k later ∧ Concluded later des hse ∧
        (des = .failed → later.tried ∨ later.exhausted)) k := by
  refine (follows_settleTool own trm coded).andThen fun hse later ⟨hsi, hco, hgi⟩ => ?_
  exact ⟨⟨hsi.own own, hco.terminal⟩, fun _ => ⟨hsi, hco, hgi⟩⟩

end Settling

theorem follows_announce {dts : CompletionDetails} {sts : Option ToolStatus}
    {post : Unit → CallKnowledge → Prop} (hsv : Serving k ses tg cid) (hsl : k.announced = false)
    (presents : ∀ fin, sts = some fin → k.Terminal fin ∧ k.Presents fin dts)
    (hh : ∀ calling announced, post () { k with calling, announced }) :
    callDiscipline.Follows (announce ses cid dts sts) post k := by
  cases sts with
  | none => exact hh k.calling k.announced
  | some fin =>
    obtain ⟨trm, hsh⟩ := presents fin rfl
    apply follows_publish call_ignores
    · exact ⟨hsv.own.1, ⟨ses, tg, hsv.invoker, rfl⟩, hsv.own, hsl, trm, hsh⟩
    · intro id now
      exact ⟨hsv.own.1, rfl⟩
    · exact hh _ _
    · intro id now _
      exact hh none _

/-! ## The branches of `Invoke` -/

structure Over (turn : Nat) (later : CallKnowledge) : Prop where
  turn : later.turn = turn
  gate : later.gate = true
  closed : later.Closed

theorem over_since (own : k.Own cid) (hsi : Since tries k later)
    (hcl : later.Closed) : Over k.turn later :=
  ⟨hsi.turn, hsi.gate.trans own.1, hcl⟩

section Ending

variable (hsv : Serving k ses tg cid) (hfr : k.aims = [])
  (hsl : k.announced = false)
include hsv hfr hsl

theorem follows_abandonTool {exc : String} : callDiscipline.Follows (abandonTool ses cid exc er)
      (fun _ later => Over k.turn later) k := by
  refine (follows_finishTool hsv.own rfl (by simp)).andThen
    fun _ later ⟨hsi, hco, hgi⟩ => ?_
  have hcl : later.Closed := .inr (.inr ((hgi rfl).elim .inl fun lost => .inr (.inl lost)))
  have hov : Over k.turn later := over_since hsv.own hsi hcl
  apply Follows.bind
  apply follows_announce (hsv.since hsi) (hsi.announced.trans hsl)
  · intro fin h
    refine ⟨hco.terminal fin h, .bare ?_⟩
    intro aim made
    have tried := hsi.aims aim made
    simp only [hfr, List.not_mem_nil, false_or, List.mem_cons, or_false] at tried
    exact .inr (tried.elim id id)
  · intro _ _
    exact ⟨hov.turn, hov.gate, hov.closed⟩

theorem follows_denyTool (denied : k.Decided .deny) :
    callDiscipline.Follows (denyTool ses cid) (fun _ later => Over k.turn later) k := by
  refine (follows_finishTool hsv.own rfl (by simp)).andThen
    fun hse later ⟨hsi, hco, _⟩ => ?_
  have hcl : later.Closed := .inr (.inr (.inr (.inr ⟨.deny, hsi.decided denied⟩)))
  have hov : Over k.turn later := over_since hsv.own hsi hcl
  apply Follows.bind
  apply follows_announce (hsv.since hsi) (hsi.announced.trans hsl)
  · intro fin h
    refine ⟨hco.terminal fin h, .denied ?_⟩
    intro aim made
    have tried := hsi.aims aim made
    simpa [hfr] using tried
  · intro _ _
    cases err : hse.2 with
    | some er | none => exact ⟨hov.turn, hov.gate, hov.closed⟩

theorem follows_settleFailure (hla : k.Launched)
    (hud : res.denied = false) (reason : res.failure.isSome) :
    callDiscipline.Follows (settleFailure ctx ses cid res er)
      (fun _ later => Over k.turn later) k := by
  refine (follows_finishTool hsv.own rfl (by simp)).andThen
    fun hse later ⟨hsi, hco, _⟩ => ?_
  have hov : Over k.turn later := over_since hsv.own hsi (.inr (.inl (hsi.launched hla)))
  apply Follows.bind
  apply follows_announce (hsv.since hsi) (hsi.announced.trans hsl)
  · intro fin h
    refine ⟨hco.terminal fin h, .failed (by simp [ToolResult.details, hud]) reason ?_⟩
    intro aim made
    have tried := hsi.aims aim made
    simpa [hfr] using tried
  · intro calling announced
    have hed : Over k.turn { later with calling, announced } := ⟨hov.turn, hov.gate, hov.closed⟩
    cases err : hse.2 with
    | some _ => exact hed
    | none =>
      apply follows_unowned call_ignores rfl
      intro _
      exact hed

theorem follows_settleSuccess (hla : k.Launched) :
    callDiscipline.Follows (settleSuccess ses cid res) (fun _ later => Over k.turn later) k := by
  refine (follows_finishTool hsv.own rfl (fun _ => rfl)).andThen
    fun se later ⟨hsi, hco, _⟩ => ?_
  have hov : Over k.turn later := over_since hsv.own hsi (.inr (.inl (hsi.launched hla)))
  have mute : later.announced = false := hsi.announced.trans hsl
  obtain ⟨_, err⟩ := se
  cases err with
  | some _ =>
    apply Follows.bind
    apply follows_announce (hsv.since hsi) mute
    · intro fin h
      refine ⟨hco.terminal fin h, .bare ?_⟩
      intro aim made
      have tried := hsi.aims aim made
      simp only [hfr, List.not_mem_nil, false_or, List.mem_cons, or_false] at tried
      exact tried.imp (fun has => by rw [has]) id
    · intro calling hann
      exact ⟨hov.turn, hov.gate, hov.closed⟩
  | none =>
    have completed := hco.terminal .completed (hco.desired rfl)
    apply Follows.bind
    refine follows_say (hsv.since hsi) ⟨hsi.own hsv.own, mute⟩ rfl ?_
    intro calling
    have said : Since [] later { later with calling } := { Since.refl later with }
    apply Follows.bind
    -- the second publication is the announcement of the desired status
    change callDiscipline.Follows (announce ses cid { exitCode := some res.exitCode }
      (some .completed)) _ _
    apply follows_announce ((hsv.since hsi).since said) mute
    · intro fin h
      cases h
      refine ⟨completed, .completed rfl ?_⟩
      intro aim made
      have tried := hsi.aims aim made
      simpa [hfr] using tried
    · intro calling hann
      exact ⟨hov.turn, hov.gate, hov.closed⟩

end Ending

/-! ## Execution -/

/-- The operations of the executor, which teach a call nothing. -/
def Remote (operation : Operation) : Prop :=
  performers operation = none ∨ (∃ request, operation = .tunnel request) ∨
    ∃ connection, operation = .remoteCommand connection

theorem ignores_remote : Ignores callDiscipline Remote where
  may := by
    rintro k op (hun | ⟨request, rfl⟩ | ⟨cn, rfl⟩)
    · exact (ignores_unowned hun).1
    · trivial
    · trivial
  after := by
    rintro k op r (hun | ⟨request, rfl⟩ | ⟨cn, rfl⟩)
    · exact (ignores_unowned hun).2 r
    · rfl
    · rfl

/-- What the executor returns: an error comes with a failure, and nothing is denied. -/
structure Executed (outcome : ToolResult × Option AgentError) : Prop where
  undenied : outcome.1.denied = false
  reason : outcome.2.isSome = true → outcome.1.failure.isSome = true

theorem executed_toolFailure {code msg : String} : Executed (toolFailure code msg er) :=
  ⟨rfl, fun _ => rfl⟩

theorem follows_executionCanceled {sid : String}
    {post : Option AgentError → CallKnowledge → Prop} (hh : ∀ hca, post hca k) :
    callDiscipline.Follows (executionCanceled ctx sid) post k :=
  ignores_remote.follows (performs_executionCanceled fun _ => .inl) hh

section Execution

variable {args : RemoteExecArguments}
  {post : ToolResult × Option AgentError → CallKnowledge → Prop}
  (hsv : Serving k ses tg cid) (hla : k.Launched)
  (unexecuted : k.executed = false)
  (hpa : parseRemoteExecArguments k.request.arguments = .ok args)
include hsv hla unexecuted hpa

theorem follows_runRemote (hh : ∀ hoc, Executed hoc → post hoc { k with executed := true }) :
    callDiscipline.Follows (runRemote k.ctx ses tg args) post k := by
  apply follows_unowned call_ignores rfl
  intro scp
  apply follows_deferring
  apply follows_step
  · exact ⟨hsv.own.1, unexecuted, hla, ses, tg, args, scp, hsv.invoker, hpa, rfl⟩
  intro _
  have hca {hoc : ToolResult × Option AgentError} (hex : Executed hoc) :
      callDiscipline.Follows (cancel scp) (fun _ last => post hoc last)
        { k with executed := true } :=
    call_ignores.follows (performs_operate.mpr rfl) fun _ => hh hoc hex
  apply Follows.bind
  have streams : OpensStreams Remote (scp :: k.ctx) :=
    ⟨fun _ => .inr (.inl ⟨_, rfl⟩), fun _ => .inr (.inl ⟨_, rfl⟩), fun _ => .inr (.inl ⟨_, rfl⟩)⟩
  refine ignores_remote.follows
    (performs_remoteExec (fun _ => .inl) streams fun _ => .inr (.inr ⟨_, rfl⟩)) ?_
  intro r
  cases r with
  | error _ =>
    apply follows_unowned call_ignores rfl
    intro _
    exact hca executed_toolFailure
  | ok _ => exact hca ⟨rfl, nofun⟩

theorem follows_execute (h : ∀ hoc executed, Executed hoc → post hoc { k with executed }) :
    callDiscipline.Follows (execute k.ctx ses tg args) post k := by
  have stays {hoc : ToolResult × Option AgentError} (ed : Executed hoc) :
      post hoc k := h hoc k.executed ed
  apply Follows.bind
  apply follows_executionCanceled
  intro ed
  cases ed with
  | some er => exact stays executed_toolFailure
  | none =>
    apply follows_unowned call_ignores rfl
    intro ow
    cases ow with
    | error er => exact stays executed_toolFailure
    | ok _ =>
      apply follows_unowned call_ignores rfl
      intro _
      apply Follows.ite
      · intro _
        exact stays executed_toolFailure
      · intro _
        apply Follows.bind
        apply follows_executionCanceled
        intro ed
        cases ed with
        | some er => exact stays executed_toolFailure
        | none =>
          apply follows_runRemote hsv hla unexecuted hpa
          intro hoc executed
          exact h hoc true executed

end Execution

theorem follows_runTool {args : RemoteExecArguments}
    (hsv : Serving k ses tg cid) (hfr : k.aims = []) (hsl : k.announced = false) (hla : k.Launched)
    (unexecuted : k.executed = false)
    (hpa : parseRemoteExecArguments k.request.arguments = .ok args) :
    callDiscipline.Follows (runTool k.ctx ses tg cid args)
      (fun _ later => Over k.turn later) k := by
  apply Follows.bind
  refine follows_say hsv ⟨hsv.own, hsl⟩ rfl ?_
  intro calling
  have said : Serving { k with calling } ses tg cid := ⟨hsv.own, hsv.invoker⟩
  apply Follows.bind
  apply follows_execute said hla unexecuted hpa
  intro oc executed hed
  have hr : Serving { k with calling, executed } ses tg cid := ⟨hsv.own, hsv.invoker⟩
  obtain ⟨_, err⟩ := oc
  cases err with
  | some _ =>
    exact follows_settleFailure hr hfr hsl hla hed.undenied (hed.reason rfl)
  | none => exact follows_settleSuccess hr hfr hsl hla

theorem follows_startAgentToolCall (own : k.Own cid) (resumed : k.resumed ∨ k.raced)
    (hap : ∃ dec, dec ≠ .deny ∧ k.Decided dec) :
    callDiscipline.Follows (startAgentToolCall (statement ctx .single) ses.userID cid)
      (fun res later => (∃ now, Since [] { k with launching := true, started := now } later) ∧
        (res = .ok () → later = { k with launching := true, started := true })) k := by
  apply Follows.chain
  refine ⟨⟨own, resumed, hap⟩, fun r => ?_⟩
  cases r with
  | error er => exact ⟨⟨k.started, Since.refl _⟩, nofun⟩
  | ok af =>
    apply Follows.ite
    · intro _
      refine ⟨own, fun lk => ?_⟩
      cases lk with
      | error er => exact ⟨⟨_, { Since.refl _ with }⟩, nofun⟩
      | ok row => exact ⟨⟨_, since_saw .single row⟩, nofun⟩
    · intro one
      have hw : af = 1 := Decidable.not_not.mp one
      have now : callDiscipline.after k
          (.store ctx .single (.startToolCall ses.userID cid)) (.ok af) =
          { k with launching := true, started := true } := by
        simp [callDiscipline, CallKnowledge.after, afterStore, hw]
      rw [now]
      exact ⟨⟨true, Since.refl _⟩, fun _ => rfl⟩

/-- A call that is approved is started; any other early return has closed its row. -/
def Approved (known : CallKnowledge) :
    Except (Except AgentError ToolResult) Unit → CallKnowledge → Prop
  | .error _, later => Over known.turn later
  | .ok _, later => Since [] { known with launching := true, started := true } later

theorem follows_approveTool {args : RemoteExecArguments}
    (hsv : Serving k ses tg cid) (hfr : k.aims = [])
    (hsl : k.announced = false) (hack : k.acknowledged)
    (hpc : ses.approvalMode = .perCommand) (unlaunched : k.launching = false) :
    callDiscipline.Follows (approveTool k.turn k.ctx ses cid args) (Approved k) k := by
  have abandons {exc : String} {er : AgentError} {start later : CallKnowledge}
      (turn : start.turn = k.turn) (hr : Serving start ses tg cid)
      (aims : start.aims = []) (mute : start.announced = false) (hsi : Since [] start later) :
      callDiscipline.Follows (abandonTool ses cid exc er)
        (fun _ last => Over k.turn last) later :=
    (follows_abandonTool (hr.since hsi) (hsi.unaimed aims) (hsi.announced.trans mute)).mono
      fun _ _ hov => ⟨hov.turn.trans (hsi.turn.trans turn), hov.gate, hov.closed⟩
  refine (follows_installPending hsv.own hack).andThen fun installed later hsi => ?_
  cases installed with
  | error er => exact (abandons rfl hsv hfr hsl hsi).andThen fun _ _ hov => hov
  | ok _ =>
    apply Follows.bind
    refine follows_say (hsv.since hsi)
      ⟨hsi.own hsv.own, hsi.announced.trans hsl⟩ rfl ?_
    intro calling
    have said : Since [] k { later with calling } := hsi.trans { Since.refl later with }
    refine (follows_waitForDecision (hsv.since said) hpc
      (said.launching.trans unlaunched)).andThen fun waited last ⟨hwa, rt⟩ => ?_
    have hr : Since [] k last := said.trans hwa
    cases waited with
    | error er => exact (abandons rfl hsv hfr hsl hr).andThen fun _ _ hov => hov
    | ok dec =>
      obtain ⟨hde, resumed⟩ := rt dec rfl
      cases dec with
      | deny =>
        exact (follows_denyTool (hsv.since hr) (hr.unaimed hfr)
          (hr.announced.trans hsl) hde).andThen fun _ _ hov =>
            ⟨hov.turn.trans hr.turn, hov.gate, hov.closed⟩
      | approveOnce | approveSession =>
        refine (follows_startAgentToolCall (hr.own hsv.own) resumed
          ⟨_, by simp, hde⟩).andThen fun res _ ⟨⟨now, step⟩, hst⟩ => ?_
        cases res with
        | ok _ =>
          cases hst rfl
          have done : Since [] { k with launching := true, started := true }
              { last with launching := true, started := true } :=
            { hr with launching := rfl, started := rfl }
          apply Follows.bind
          apply Follows.ite
          · intro _
            exact done
          · intro ses
            exact ⟨⟨hr.turn.symm, (hr.own hsv.own).1, rfl,
              of_not_not (ses ∘ decide_eq_true) ▸ hde⟩, fun _ => done⟩
        | error er =>
          let start := { k with launching := true, started := now }
          have base : Since [] start { last with launching := true, started := now } :=
            { hr with launching := rfl, started := rfl }
          have tried : Serving start ses tg cid := ⟨hsv.own, hsv.invoker⟩
          have h : start.turn = k.turn := rfl
          exact (abandons h tried hfr hsl (base.trans step)).andThen fun _ _ hov => hov

theorem follows_invokeSerialized {turn : Nat} :
    callDiscipline.Follows (invokeSerialized turn ctx request) (fun _ later => Over turn later)
      { turn, ctx, request, gate := true } := by
  apply Follows.chain
  have unnamed : Over turn { turn, ctx, request, gate := true } := ⟨rfl, rfl, .inl rfl⟩
  apply follows_checkContext call_ignores (fun _ => unnamed)
  apply Follows.ite
  · intro _
    exact unnamed
  intro hn
  have remote : request.name = toolRemoteExec := by simpa using hn
  cases hpa : parseRemoteExecArguments request.arguments with
  | error er => exact unnamed
  | ok args =>
    apply Follows.chain
    refine ⟨fun _ => ⟨rfl, rfl⟩, fun made => ?_⟩
    cases made with
    | none => exact unnamed
    | some cid =>
      apply follows_unowned call_ignores rfl
      intro now
      apply follows_step
      · exact ⟨rfl, rfl, rfl⟩
      rintro ⟨ses, tg⟩
      let row := newToolCall cid ses args now
      let asked : CallKnowledge :=
        { turn, ctx, request, gate := true, named := some cid
          invoker := some (ses, tg), inserted := some row }
      apply follows_storedRaw
      · exact ⟨rfl, rfl, ses, tg, args, cid, now, rfl, rfl, rfl, remote, hpa, rfl⟩
      · intro er
        exact (⟨rfl, rfl, .inl rfl⟩ : Over turn asked)
      · intro _
        have hsv : Serving { asked with acknowledged := true } ses tg cid := ⟨⟨rfl, rfl⟩, rfl⟩
        apply Follows.ite
        · intro pnd
          have hpc : ses.approvalMode = .perCommand := by
            by_contra other
            simp [newToolCall, other] at pnd
          refine (follows_approveTool hsv rfl rfl rfl hpc rfl).andThen
            fun ap later k => ?_
          cases ap with
          | error _ => exact k
          | ok _ =>
            have hsi : Since [] { asked with acknowledged := true, launching := true, started := true }
              later := k
            have hla : later.Launched := .inl hsi.started
            have hst : Serving later ses tg cid := ⟨hsi.own ⟨rfl, rfl⟩, hsi.invoker⟩
            have ctxSame : later.ctx = ctx := hsi.ctx
            have requestSame : later.request = request := hsi.request
            rw [← ctxSame]
            rw [← requestSame] at hpa
            exact (follows_runTool hst (hsi.unaimed rfl) hsi.announced hla
              hsi.executed hpa).mono fun _ _ hov =>
                ⟨hov.turn.trans hsi.turn, hov.gate, hov.closed⟩
        · intro unpending
          have hsts : row.status = .started := by
            by_cases hpc : ses.approvalMode = .perCommand
            · simp [newToolCall, hpc] at unpending
            · simp [row, newToolCall, hpc]
          exact follows_runTool hsv rfl rfl (.inr ⟨rfl, row, rfl, hsts⟩) rfl hpa

theorem invoke_follows {turn : Nat} :
    callDiscipline.Follows (body (.invoke turn ctx request)) (fun _ _ => True)
      { turn, ctx, request } := by
  apply Follows.bind
  apply Follows.chain
  refine ⟨⟨rfl, rfl, rfl, rfl, rfl⟩, fun acquired => ?_⟩
  cases acquired with
  | error _ => exact ⟨⟨rfl, rfl⟩, fun _ => trivial⟩
  | ok _ =>
    apply follows_deferring
    apply follows_invokeSerialized.mono
    intro _ _ hov
    refine ⟨⟨hov.turn.symm, hov.gate, hov.closed⟩, fun _ => ?_⟩
    exact ⟨⟨hov.turn.symm, rfl⟩, fun _ => trivial⟩

end AISummoner.Agent.Service
