import Mathlib

/-! # Programs over atomic operations

A signature names atomic operations and the type of each one's response.  A
program over it returns a value, performs one operation and continues with the
response, or starts another program named by `C` and continues.  Here are the
sequencing laws and the *sequential* meaning, in which nothing else runs between
two operations.
-/

namespace AISummoner.Concurrency

structure Signature where
  Operation : Type
  Response : Operation → Type

inductive Program (S : Signature) (C : Type) (α : Type) : Type where
  | done (value : α)
  | perform (operation : S.Operation) (next : S.Response operation → Program S C α)
  | fork (child : C) (next : Program S C α)

namespace Program

variable {S : Signature} {C α β γ ε : Type}

def bind (program : Program S C α) (next : α → Program S C β) : Program S C β :=
  match program with
  | .done value => next value
  | .perform operation rest => .perform operation (fun response => (rest response).bind next)
  | .fork child rest => .fork child (rest.bind next)

instance : Monad (Program S C) where
  pure := .done
  bind := bind

def call (operation : S.Operation) : Program S C (S.Response operation) := .perform operation .done

/-- Sequencing for fallible programs: an error ends the program with that error. -/
def chain (program : Program S C (Except ε α)) (next : α → Program S C (Except ε β)) :
    Program S C (Except ε β) :=
  program.bind (fun
    | .ok value => next value
    | .error failure => .done (.error failure))

@[simp] theorem done_bind (v : α) (next : α → Program S C β) :
    (done v : Program S C α).bind next = next v := rfl

@[simp] theorem perform_bind (op : S.Operation)
    (rest : S.Response op → Program S C α) (next : α → Program S C β) :
    (perform op rest).bind next = perform op (fun r => (rest r).bind next) := rfl

@[simp] theorem fork_bind (cd : C) (rest : Program S C α) (next : α → Program S C β) :
    (fork cd rest).bind next = fork cd (rest.bind next) := rfl

/-! ## Properties of every operation -/

/-- Whatever the responses, every operation the program can perform is allowed,
    and every program it can start is one it spawns. -/
def performs (allowed : S.Operation → Prop) (spawns : C → Prop) : Program S C α → Prop
  | .done _ => True
  | .perform operation next =>
    allowed operation ∧ ∀ response, (next response).performs allowed spawns
  | .fork child next => spawns child ∧ next.performs allowed spawns

section Performs

variable {al : S.Operation → Prop} {sw : C → Prop}

@[simp] theorem performs_done (v : α) : (done v : Program S C α).performs al sw := trivial

theorem performs_ite {gd : Prop} {_ : Decidable gd} {ha hb : Program S C α}
    (whenTrue : ha.performs al sw) (whenFalse : hb.performs al sw) :
    (if gd then ha else hb).performs al sw := by
  split
  · exact whenTrue
  · exact whenFalse

theorem performs_bind {prog : Program S C α} {next : α → Program S C β}
    (a : prog.performs al sw) (rest : ∀ v, (next v).performs al sw) :
    (prog.bind next).performs al sw := by
  induction prog with
  | done v => exact rest v
  | perform _ continuation ih =>
    exact ⟨a.1, fun r => ih r (a.2 r)⟩
  | fork _ continuation ih => exact ⟨a.1, ih a.2⟩

theorem performs_chain {prog : Program S C (Except ε α)} {next : α → Program S C (Except ε β)}
    (a : prog.performs al sw) (rest : ∀ v, (next v).performs al sw) :
    (prog.chain next).performs al sw := by
  apply performs_bind a
  intro res
  cases res with
  | ok v => exact rest v
  | error _ => trivial

end Performs

/-- Every value the program can return, whatever the responses, has the property. -/
def returns (property : α → Prop) : Program S C α → Prop
  | .done value => property value
  | .perform _ next => ∀ response, (next response).returns property
  | .fork _ next => next.returns property

theorem returns_bind {prop : β → Prop} {prog : Program S C α} {next : α → Program S C β}
    (rest : ∀ v, (next v).returns prop) : (prog.bind next).returns prop := by
  induction prog with
  | done v => exact rest v
  | perform _ continuation ih => exact ih
  | fork _ continuation ih => exact ih

/-- The same, if every operation is answered as `answers` says. -/
def returnsWhen (answers : (operation : S.Operation) → S.Response operation → Prop)
    (property : α → Prop) : Program S C α → Prop
  | .done value => property value
  | .perform operation next =>
    ∀ response, answers operation response → (next response).returnsWhen answers property
  | .fork _ next => next.returnsWhen answers property

section ReturnsWhen

variable {an : (op : S.Operation) → S.Response op → Prop}

theorem returnsWhen_mono {ha hb : α → Prop} {prog : Program S C α}
    (hh : prog.returnsWhen an ha) (implies : ∀ v, ha v → hb v) : prog.returnsWhen an hb := by
  induction prog with
  | done v => exact implies v hh
  | perform _ next ih =>
    exact fun r han => ih r (hh r han)
  | fork _ next ih => exact ih hh

theorem returnsWhen_bind {prop : β → Prop} {prog : Program S C α} {next : α → Program S C β}
    (hh : prog.returnsWhen an fun v => (next v).returnsWhen an prop) :
    (prog.bind next).returnsWhen an prop := by
  induction prog with
  | done v => exact hh
  | perform _ rest ih =>
    exact fun r han => ih r (hh r han)
  | fork _ rest ih => exact ih hh

theorem returnsWhen_rest {prop : β → Prop} {prog : Program S C α} {next : α → Program S C β}
    (rest : ∀ v, (next v).returnsWhen an prop) : (prog.bind next).returnsWhen an prop := by
  induction prog with
  | done v => exact rest v
  | perform _ continuation ih =>
    exact fun r _ => ih r
  | fork _ continuation ih => exact ih

end ReturnsWhen

/-! ## Sequential meaning -/

section Sequential

variable {σ κ : Type} (execute : (op : S.Operation) → κ → σ → S.Response op × σ)

/-- The weakest precondition of a program run alone, whatever the choices are. -/
def ensures : Program S C α → (α → σ → Prop) → σ → Prop
  | .done value, post, state => post value state
  | .perform operation next, post, state =>
    ∀ choice, ensures (next (execute operation choice state).1) post (execute operation choice state).2
  | .fork _ next, post, state => ensures next post state

theorem ensures_bind {prog : Program S C α} {next : α → Program S C β}
    {post : β → σ → Prop} {st : σ} : (prog.bind next).ensures execute post st ↔
      prog.ensures execute (fun v w => (next v).ensures execute post w) st := by
  induction prog generalizing st with
  | done v => rfl
  | perform _ rest ih =>
    simp only [perform_bind, ensures, ih]
  | fork _ rest ih =>
    simp only [fork_bind, ensures, ih]

theorem ensures_ite {gd : Prop} {_ : Decidable gd} {ha hb : Program S C α}
    {post : α → σ → Prop} {st : σ} (whenTrue : ha.ensures execute post st)
    (whenFalse : hb.ensures execute post st) : (if gd then ha else hb).ensures execute post st := by
  split
  · exact whenTrue
  · exact whenFalse

variable [Inhabited κ]

/-- Run a program alone.  Each operation consumes one element of `choices`,
    which settles whatever the interpretation leaves open; a missing element
    is the default choice. -/
def evaluate : Program S C α → List κ → σ → α × σ
  | .done value, _, state => (value, state)
  | .perform operation next, choices, state =>
    let (response, changed) := execute operation (choices.headD default) state
    evaluate (next response) choices.tail changed
  | .fork _ next, choices, state => evaluate next choices state

theorem evaluate_ensures {prog : Program S C α} {post : α → σ → Prop} {st : σ}
    (hh : prog.ensures execute post st) (choices : List κ) :
    post (prog.evaluate execute choices st).1 (prog.evaluate execute choices st).2 := by
  induction prog generalizing choices st with
  | done v => exact hh
  | perform _ next ih =>
    exact ih _ (hh (choices.headD default)) choices.tail
  | fork _ next ih => exact ih hh choices

theorem evaluate_returns {prop : α → Prop} {prog : Program S C α}
    (hh : prog.returns prop) (choices : List κ) (st : σ) :
    prop (prog.evaluate execute choices st).1 := by
  induction prog generalizing choices st with
  | done v => exact hh
  | perform _ next ih =>
    exact ih _ (hh _) choices.tail _
  | fork _ next ih => exact ih hh choices st

/-- A preorder every allowed operation moves along is moved along by the whole program. -/
theorem evaluate_relates (R : σ → σ → Prop) (reflexive : ∀ st, R st st)
    (transitive : ∀ a b third, R a b → R b third →
      R a third) {al : S.Operation → Prop} {sw : C → Prop}
    (step : ∀ (op : S.Operation) (cho : κ) (st : σ), al op → R st (execute op cho st).2)
    {prog : Program S C α} (rule : prog.performs al sw) (choices : List κ) (st : σ) :
    R st (prog.evaluate execute choices st).2 := by
  induction prog generalizing choices st with
  | done v => exact reflexive st
  | perform op next ih =>
    exact transitive _ _ _ (step op _ st rule.1)
      (ih _ (rule.2 _) choices.tail _)
  | fork _ next ih => exact ih rule.2 choices st

end Sequential

end Program

end AISummoner.Concurrency
