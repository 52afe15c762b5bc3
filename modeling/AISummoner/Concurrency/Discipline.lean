import AISummoner.Concurrency.Machine

/-! # What a thread knows from its own past

A *discipline* computes what a thread knows from its own operations, and says
what a thread that knows so much may do next.  A property of a system then has
two independent halves: every program follows the discipline (`Follows`, by
recursion on the program), and whatever is done under the discipline keeps the
invariants of the state (induction over the transitions of a run).  `Kept` is
what the first half gives the second.
-/

namespace AISummoner.Concurrency

variable {S : Signature} {C Q σ κ α β ε : Type}

/-- `start` is `none` for the programs the discipline does not look at. -/
structure Discipline (S : Signature) (C Q : Type) where
  start : C → Option Q
  after : Q → (operation : S.Operation) → S.Response operation → Q
  afterFork : Q → C → Q
  may : Q → S.Operation → Prop
  mayFork : Q → C → Prop

namespace Discipline

variable (D : Discipline S C Q)

/-! ## Programs -/

/-- Begun with the knowledge `known`, the program does only what it may, and
    what it returns and knows at the end satisfies `post`. -/
def Follows : Program S C α → (α → Q → Prop) → Q → Prop
  | .done value, post, known => post value known
  | .perform operation next, post, known =>
    D.may known operation ∧
      ∀ response, Follows (next response) post (D.after known operation response)
  | .fork child next, post, known =>
    D.mayFork known child ∧ Follows next post (D.afterFork known child)

variable {D} {known : Q}

variable {prog : Program S C α} {next : α → Program S C β} {post : β → Q → Prop}
  {op : S.Operation} {r : S.Response op} {st : σ} {parent : Option Nat}
  {entry : C} {mc : Machine S C (System.Traced S C σ)} {w : System.Traced S C σ}
  {labels : List (Label C κ)}

theorem Follows.mono {ha hb : α → Q → Prop} (follows : D.Follows prog ha known)
    (implies : ∀ v known, ha v known → hb v known) : D.Follows prog hb known := by
  induction prog generalizing known with
  | done v => exact implies v known follows
  | perform _ next ih =>
    exact ⟨follows.1, fun r => ih r (follows.2 r)⟩
  | fork _ next ih => exact ⟨follows.1, ih follows.2⟩

theorem Follows.bind
    (follows : D.Follows prog (fun v known => D.Follows (next v) post known) known) :
    D.Follows (prog.bind next) post known := by
  induction prog generalizing known with
  | done v => exact follows
  | perform _ rest ih =>
    exact ⟨follows.1, fun r => ih r (follows.2 r)⟩
  | fork _ rest ih => exact ⟨follows.1, ih follows.2⟩

theorem Follows.andThen {between : α → Q → Prop} (follows : D.Follows prog between known)
    (rest : ∀ v k', between v k' → D.Follows (next v) post k') :
    D.Follows (prog.bind next) post known :=
  (follows.mono rest).bind

theorem Follows.chain {prog : Program S C (Except ε α)} {next : α → Program S C (Except ε β)}
    {post : Except ε β → Q → Prop} (follows : D.Follows prog (fun
      | .ok v, known => D.Follows (next v) post known
      | .error err, known => post (.error err) known) known) :
    D.Follows (prog.chain next) post known := by
  apply Follows.bind
  apply follows.mono
  intro res known hh
  cases res with
  | ok v | error err => exact hh

theorem Follows.ite {gd : Prop} {_ : Decidable gd} {ha hb : Program S C α}
    {post : α → Q → Prop} (whenTrue : gd → D.Follows ha post known)
    (whenFalse : ¬gd → D.Follows hb post known) : D.Follows (if gd then ha else hb) post known := by
  by_cases hh : gd
  · rw [if_pos hh]
    exact whenTrue hh
  · rw [if_neg hh]
    exact whenFalse hh

theorem Follows.of_free {free : S.Operation → Prop} {sw : C → Prop}
    (may : ∀ op, free op → D.may known op) (teaches : ∀ op r, free op → D.after known op r = known)
    (mayFork : ∀ cd, sw cd → D.mayFork known cd)
    (keeps : ∀ cd, sw cd → D.afterFork known cd = known) (hps : prog.performs free sw) {post : α → Q → Prop}
    (hh : ∀ v, post v known) : D.Follows prog post known := by
  induction prog with
  | done v => exact hh v
  | perform op next ih =>
    refine ⟨may op hps.1, fun r => ?_⟩
    rw [teaches op r hps.1]
    exact ih r (hps.2 r)
  | fork cd next ih =>
    refine ⟨mayFork cd hps.1, ?_⟩
    rw [keeps cd hps.1]
    exact ih hps.2

/-! ## Traces -/

variable (D)

/-- What a thread knows after a trace; `none` if it has not started, is not
    looked at, or was ended by a crash. -/
def knows (thread : Nat) : List (System.Entry S C σ) → Option Q
  | [] => none
  | .performed other operation response _ :: trace =>
    if other = thread then (knows thread trace).map fun known => D.after known operation response
    else knows thread trace
  | .entered parent other entry _ :: trace =>
    if other = thread then D.start entry
    else if parent = some thread then (knows thread trace).map fun known => D.afterFork known entry
    else knows thread trace
  | .crashed _ :: _ => none

/-- Everything in the trace was done by a thread that might do it. -/
def Kept : List (System.Entry S C σ) → Prop
  | [] => True
  | .performed thread operation _ _ :: trace =>
    (∀ known, D.knows thread trace = some known → D.may known operation) ∧ Kept trace
  | .entered parent _ entry _ :: trace =>
    (∀ thread known, parent = some thread → D.knows thread trace = some known →
      D.mayFork known entry) ∧ Kept trace
  | .crashed _ :: trace => Kept trace

variable {D} {trace : List (System.Entry S C σ)} {t other : Nat}

theorem knows_performed_self : D.knows t (.performed t op r st :: trace) =
      (D.knows t trace).map fun known => D.after known op r := by
  simp [knows]

theorem knows_performed_ne (ne : other ≠ t) :
    D.knows t (.performed other op r st :: trace) = D.knows t trace := by
  simp [knows, ne]

theorem knows_entered_self : D.knows t (.entered parent t entry st :: trace) = D.start entry := by
  simp [knows]

theorem knows_entered_ne (ne : other ≠ t) (hfo : parent ≠ some t) :
    D.knows t (.entered parent other entry st :: trace) = D.knows t trace := by
  simp [knows, ne, hfo]

theorem knows_entered_parent (ne : other ≠ t) :
    D.knows t (.entered (some t) other entry st :: trace) =
      (D.knows t trace).map fun known => D.afterFork known entry := by
  simp [knows, ne]

theorem isSome_knows : (D.knows t trace).isSome = ((System.runs t trace).bind D.start).isSome := by
  induction trace with
  | nil => rfl
  | cons step trace ih =>
    cases step with
    | performed other _ r st =>
      by_cases h : other = t
      · subst h
        rw [knows_performed_self, Option.isSome_map]
        exact ih
      · rw [knows_performed_ne h]
        exact ih
    | entered parent other _ st =>
      by_cases h : other = t
      · subst h
        rw [knows_entered_self, System.runs_entered_self, Option.bind_some]
      rw [System.runs_entered_ne h, ← ih]
      by_cases hcd : parent = some t
      · subst hcd
        rw [knows_entered_parent h, Option.isSome_map]
      · rw [knows_entered_ne h hcd]
    | crashed st => rfl

theorem knows_of_runs {a : Q} (runs : System.runs t trace = some entry)
    (hb : D.start entry = some a) : ∃ known, D.knows t trace = some known := by
  rw [← Option.isSome_iff_exists, isSome_knows, runs, Option.bind_some, hb]
  rfl

theorem runs_of_knows {known : Q} (hk : D.knows t trace = some known) :
    ∃ entry a, System.runs t trace = some entry ∧ D.start entry = some a := by
  have some_ : ((System.runs t trace).bind D.start).isSome := by
    rw [← isSome_knows, hk]
    rfl
  obtain ⟨a, bd⟩ := Option.isSome_iff_exists.mp some_
  obtain ⟨entry, runs, hb⟩ := Option.bind_eq_some_iff.mp bd
  exact ⟨entry, a, runs, hb⟩

/-! ## Runs -/

variable {base : System S C σ κ} {sys : System S C (System.Traced S C σ) κ} {ends : Q → Prop}

variable (D) (ends) in
/-- What the discipline gives in every machine a run reaches; `ends` holds of what
    a finished thread knows. -/
structure Tracks (machine : Machine S C (System.Traced S C σ)) : Prop where
  follows : ∀ {thread program known}, machine.threads[thread]? = some program →
    D.knows thread machine.state.trace = some known →
    D.Follows program (fun _ last => ends last) known
  kept : D.Kept machine.state.trace

theorem tracks_begin (st : σ) : D.Tracks ends (System.initial (System.Traced.begin st)) where
  follows located := by simp [System.initial] at located
  kept := trivial

section Moves

variable (hrf : sys.Refines base.traced)
  (bds : ∀ {entry known}, D.start entry = some known →
    D.Follows (sys.body entry) (fun _ last => ends last) known)
include hrf

theorem Tracks.perform (tracks : D.Tracks ends mc)
    {t : Nat} {next : S.Response op → Program S C Unit} {cho : κ}
    (hl : mc.threads[t]? = some (.perform op next))
    (ran : sys.execute t op cho mc.state = some (r, w)) :
    D.Tracks ends ⟨mc.threads.set t (next r), w⟩ := by
  obtain ⟨_, hrcd⟩ := System.traced_execute (hrf.execute ran)
  have hbd : t < mc.threads.length := (List.getElem?_eq_some_iff.mp hl).1
  rw [hrcd]
  refine ⟨?_, fun known k => (tracks.follows hl k).1, tracks.kept⟩
  intro other _ known hf k
  by_cases h : t = other
  · subst h
    rw [List.getElem?_set_self hbd] at hf
    cases hf
    rw [knows_performed_self, Option.map_eq_some_iff] at k
    obtain ⟨s, knew, rfl⟩ := k
    exact (tracks.follows hl knew).2 r
  · rw [List.getElem?_set_ne h] at hf
    rw [knows_performed_ne h] at k
    exact tracks.follows hf k

theorem Tracks.launch (tracks : D.Tracks ends mc)
    {ths : List (Program S C Unit)} (hlen : ths.length = mc.threads.length)
    (hent : sys.enter parent mc.threads.length entry mc.state = some w)
    (hsw : ∀ t known, parent = some t →
      D.knows t mc.state.trace = some known → D.mayFork known entry)
    (follows : ∀ {t prog known}, ths[t]? = some prog →
      D.knows t w.trace = some known → D.Follows prog (fun _ last => ends last) known)
    (hbg : ∀ {known}, D.start entry = some known →
      D.Follows (sys.body entry) (fun _ last => ends last) known) :
    D.Tracks ends ⟨ths ++ [sys.body entry], w⟩ := by
  obtain ⟨_, _, hrcd⟩ := System.traced_enter (hrf.enter hent)
  refine ⟨?_, ?_⟩
  · intro t prog known hf hk
    by_cases old : t < ths.length
    · rw [List.getElem?_append_left old] at hf
      exact follows hf hk
    -- the only position past the old threads is the new thread's
    have last : t = ths.length := by
      have hi := (List.getElem?_eq_some_iff.mp hf).1
      simp only [List.length_append, List.length_singleton] at hi
      omega
    rw [last, List.getElem?_append_right (Nat.le_refl _), Nat.sub_self] at hf
    cases hf
    rw [hrcd, last, hlen, knows_entered_self] at hk
    exact hbg hk
  · rw [hrcd]
    exact ⟨hsw, tracks.kept⟩

include bds

theorem Tracks.move {w : Machine S C (System.Traced S C σ)}
    (tracks : D.Tracks ends mc) (moves : sys.Moves mc w) : D.Tracks ends w := by
  cases moves with
  | @start _ st _ hent =>
    refine tracks.launch hrf rfl hent nofun ?_ bds
    intro t prog known hf k
    have hbd : t < mc.threads.length := (List.getElem?_eq_some_iff.mp hf).1
    obtain ⟨_, _, hrcd⟩ := System.traced_enter (hrf.enter hent)
    have hou : (none : Option Nat) ≠ some t := nofun
    rw [hrcd, knows_entered_ne (Nat.ne_of_gt hbd) hou] at k
    exact tracks.follows hf k
  | @perform t _ next _ r st hl ran =>
    exact tracks.perform hrf hl ran
  | @fork mover _ next st hl hent =>
    have hbd : mover < mc.threads.length := (List.getElem?_eq_some_iff.mp hl).1
    refine tracks.launch hrf List.length_set hent ?_ ?_ bds
    · intro t known parent k
      cases parent
      exact (tracks.follows hl k).1
    · intro t prog known hf k
      have hi : t < mc.threads.length := by
        have hou := (List.getElem?_eq_some_iff.mp hf).1
        rwa [List.length_set] at hou
      obtain ⟨_, _, hrcd⟩ := System.traced_enter (hrf.enter hent)
      by_cases h : mover = t
      · subst h
        rw [List.getElem?_set_self hbd] at hf
        cases hf
        rw [hrcd, knows_entered_parent (Nat.ne_of_gt hbd), Option.map_eq_some_iff] at k
        obtain ⟨s, knew, rfl⟩ := k
        exact (tracks.follows hl knew).2
      · rw [List.getElem?_set_ne h] at hf
        have hfo : some mover ≠ some t := fun he => h (Option.some.inj he)
        rw [hrcd, knows_entered_ne (Nat.ne_of_gt hi) hfo] at k
        exact tracks.follows hf k
  | @crash st hre =>
    obtain ⟨_, hrcd⟩ := System.traced_restart (hrf.restart hre)
    rw [hrcd]
    refine ⟨?_, tracks.kept⟩
    intro t prog known hf k
    cases k

/-- In every machine reached, the trace keeps to the discipline and every thread
    goes on following it. -/
theorem tracks_of_run (ran : sys.run (System.initial (System.Traced.begin st)) labels = some mc) :
    D.Tracks ends mc :=
  System.run_induction (fun _ _ tracks moves => tracks.move hrf bds moves)
    (tracks_begin st) ran

theorem ends_of_run {t : Nat} {known : Q}
    (ran : sys.run (System.initial (System.Traced.begin st)) labels = some mc)
    (hfin : mc.threads[t]? = some (.done ()))
    (hk : D.knows t mc.state.trace = some known) : ends known :=
  (tracks_of_run hrf bds ran).follows hfin hk

theorem kept_of_reaches {p : System.Traced S C σ}
    (rea : sys.Reaches (System.Traced.begin st) p) : D.Kept p.trace := by
  obtain ⟨_, _, ran, rfl⟩ := rea
  exact (tracks_of_run hrf bds ran).kept

end Moves

end Discipline

end AISummoner.Concurrency
