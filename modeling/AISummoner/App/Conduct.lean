import AISummoner.App.History

/-! # Following a discipline, one helper at a time

The disciplines of the server look only at operations that belong to somebody;
what belongs to nobody is always allowed and teaches nothing.  For the helpers
that most methods share, this module says what is left to show about them.
-/

namespace AISummoner.App

open Concurrency Concurrency.Discipline Store Agent AISummoner.Runtime

variable {Q : Type} {D : Discipline Server Goroutine Q} {α β : Type} {k : Q}

structure Ignores (D : Discipline Server Goroutine Q) (free : Operation → Prop) : Prop where
  may : ∀ {known operation}, free operation → D.may known operation
  after : ∀ {known operation response}, free operation → D.after known operation response = known

variable {post : α → Q → Prop} {op : Statement}
  {next : op.Result → Code (Except AgentError β)} {ctx : Context}

theorem Ignores.follows {free : Operation → Prop} (ignores : Ignores D free) {code : Code α}
    (hps : code.performs free fun _ => False) (hh : ∀ v, post v k) : D.Follows code post k :=
  Follows.of_free (fun _ hal => ignores.may hal) (fun _ _ hal => ignores.after hal)
    (fun _ him => him.elim) (fun _ him => him.elim) hps hh

theorem follows_step {op : Operation} {next : op.Response → Code α} (rule : D.may k op)
    (rest : ∀ r, D.Follows (next r) post (D.after k op r)) :
    D.Follows ((operate op).bind next) post k :=
  ⟨rule, rest⟩

theorem follows_storedRaw {post : Except AgentError β → Q → Prop}
    (rule : D.may k (.store ctx .single op)) (hfa : ∀ err, post (.error (.store err))
      (D.after k (.store ctx .single op) (.error err))) (rest : ∀ v, D.Follows (next v) post
      (D.after k (.store ctx .single op) (.ok v))) :
    D.Follows ((storedRaw ctx op).chain next) post k := by
  refine ⟨rule, fun r => ?_⟩
  cases r with
  | error err => exact hfa err
  | ok v => exact rest v

theorem follows_stored {post : Except AgentError β → Q → Prop}
    (rule : D.may k (.store ctx .single op)) (hfa : ∀ err, post (.error (mapStoreNotFound err))
      (D.after k (.store ctx .single op) (.error err))) (rest : ∀ v, D.Follows (next v) post
      (D.after k (.store ctx .single op) (.ok v))) :
    D.Follows ((stored ctx op).chain next) post k := by
  refine ⟨rule, fun r => ?_⟩
  cases r with
  | error err => exact hfa err
  | ok v => exact rest v

theorem follows_deferring {code : Code α} {deferred : Code Unit}
    (follows : D.Follows code (fun v k => D.Follows deferred (fun _ last => post v last) k) k) :
    D.Follows (deferring code deferred) post k := by
  apply Follows.bind
  apply follows.mono
  intro v k ends
  apply Follows.bind
  exact ends.mono fun _ last hh => hh

section Unowned

variable (ignores : Ignores D fun op => performers op = none)
include ignores

theorem follows_unowned {op : Operation} {next : op.Response → Code α} (hun : performers op = none)
    (rest : ∀ r, D.Follows (next r) post k) : D.Follows ((operate op).bind next) post k := by
  apply follows_step (ignores.may hun)
  intro r
  rw [ignores.after hun]
  exact rest r

theorem follows_cleanup {code : Context → Code α} (hinn : ∀ ctx, D.Follows (code ctx) post k) :
    D.Follows (Service.cleanup code) post k := by
  apply follows_unowned ignores rfl
  intro scp
  apply follows_deferring
  apply (hinn [scp]).mono
  intro v _ hh
  refine ⟨ignores.may rfl, fun _ => ?_⟩
  rw [ignores.after rfl]
  exact hh

theorem follows_mutation {code : Context → Code (Except AgentError α)}
    {post : Except AgentError α → Q → Prop} (hb : D.may k (.agent .beginMutation))
    (hrf : ∀ err, post (.error err) (D.after k (.agent .beginMutation) (.error err)))
    (hinn : ∀ ctx, D.Follows (code ctx) (fun res last =>
        D.may last (.agent .endMutation) ∧ post res (D.after last (.agent .endMutation) ()))
      (D.after k (.agent .beginMutation) (.ok ()))) :
    D.Follows (Service.mutation ctx code) post k := by
  refine ⟨hb, fun r => ?_⟩
  cases r with
  | error err => exact hrf err
  | ok _ =>
    apply follows_unowned ignores rfl
    intro scp
    apply follows_deferring
    apply (hinn (scp :: .root :: ctx)).mono
    intro res last ends
    apply follows_unowned ignores rfl
    intro _
    exact ⟨ends.1, fun _ => ends.2⟩

theorem follows_checkContext {post : Except AgentError Unit → Q → Prop}
    (hfa : ∀ err, post (.error err) k) (hpsd : post (.ok ()) k) :
    D.Follows (checkContext ctx) post k := by
  apply follows_unowned ignores rfl
  intro ed
  cases ed with
  | some _ => exact hfa _
  | none => exact hpsd

theorem follows_publish {sid : String} {pl : Payload} {post : Unit → Q → Prop}
    (calls : D.may k (.observe (.publishing sid pl)))
    (hands : ∀ id now, D.may (D.after k (.observe (.publishing sid pl)) ())
      (.agent (.publish ⟨id, sid, now, pl⟩)))
    (skipped : post () (D.after k (.observe (.publishing sid pl)) ()))
    (hhd : ∀ id now ha, post () (D.after (D.after k (.observe (.publishing sid pl)) ())
      (.agent (.publish ⟨id, sid, now, pl⟩)) ha)) : D.Follows (Service.publish sid pl) post k := by
  apply follows_step calls
  intro _
  apply follows_unowned ignores rfl
  intro made
  cases made with
  | none => exact skipped
  | some id =>
    apply follows_unowned ignores rfl
    intro now
    apply Follows.ite
    · intro _
      exact follows_step (hands id now) fun ha => hhd id now ha
    · intro _
      exact skipped

end Unowned

end AISummoner.App
