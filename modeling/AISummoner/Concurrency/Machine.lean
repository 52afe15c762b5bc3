import AISummoner.Concurrency.Program

/-! # Interleaving programs on one state

A *machine* is a shared state together with every thread started so far; it moves
by one *label* at a time, and the list of labels is the schedule.  What a
schedule leaves open is the `choice` of its label, so a run can be evaluated.  A
crash ends every thread; no thread number is used twice.
-/

namespace AISummoner.Concurrency

/-- The meaning of the operations and the programs of one system.

    `execute` is `none` while the operation has to wait (a full channel, a held
    lock) or the choice is not one it has.  `enter` is what becoming a thread
    does to the state; it is told which thread started the new one, if any did.
    `admits` says which programs the outside may start. -/
structure System (S : Signature) (C σ κ : Type) where
  execute : Nat → (operation : S.Operation) → κ → σ → Option (S.Response operation × σ)
  body : C → Program S C Unit
  enter : Option Nat → Nat → C → σ → Option σ
  admits : C → σ → Bool
  restart : σ → Option σ

structure Machine (S : Signature) (C σ : Type) where
  threads : List (Program S C Unit)
  state : σ

inductive Label (C κ : Type) where
  | start (entry : C)
  | run (thread : Nat) (choice : κ)
  | crash

namespace System

variable {S : Signature} {C σ κ : Type}

def launch (system : System S C σ κ) (machine : Machine S C σ) (parent : Option Nat) (child : C) :
    Option (Machine S C σ) :=
  (system.enter parent machine.threads.length child machine.state).map fun state =>
    { threads := machine.threads ++ [system.body child], state }

def step (system : System S C σ κ) (machine : Machine S C σ) :
    Label C κ → Option (Machine S C σ)
  | .start entry => if system.admits entry machine.state then system.launch machine none entry else none
  | .run thread choice =>
    match machine.threads[thread]? with
    | some (.perform operation next) =>
      (system.execute thread operation choice machine.state).map fun result =>
        { threads := machine.threads.set thread (next result.1), state := result.2 }
    | some (.fork child next) =>
      system.launch { machine with threads := machine.threads.set thread next } (some thread) child
    | _ => none
  | .crash =>
    (system.restart machine.state).map fun state =>
      { threads := machine.threads.map fun _ => .done (), state }

def run (system : System S C σ κ) (machine : Machine S C σ) :
    List (Label C κ) → Option (Machine S C σ)
  | [] => some machine
  | label :: labels => (system.step machine label).bind fun changed => system.run changed labels

theorem run_append (sys : System S C σ κ) (mc : Machine S C σ) (a b : List (Label C κ)) :
    sys.run mc (a ++ b) = (sys.run mc a).bind fun w => sys.run w b := by
  induction a generalizing mc with
  | nil => rfl
  | cons _ _ ih =>
    simp only [List.cons_append, run, Option.bind_assoc]
    congr 1
    funext w
    exact ih w

def initial (state : σ) : Machine S C σ := { threads := [], state }

/-! ## Conditions on steps -/

inductive Action (S : Signature) (C κ : Type) where
  | perform (thread : Nat) (operation : S.Operation) (choice : κ)
  | enter (parent : Option Nat) (thread : Nat) (entry : C)
  | crash

/-- The system in which only permitted transitions happen.  Its runs are the
    runs of the system all of whose steps meet the condition. -/
def restrict (system : System S C σ κ) (permitted : Action S C κ → σ → Bool) :
    System S C σ κ where
  execute thread operation choice state :=
    if permitted (.perform thread operation choice) state
      then system.execute thread operation choice state else none
  body := system.body
  enter parent thread entry state :=
    if permitted (.enter parent thread entry) state then system.enter parent thread entry state
    else none
  admits := system.admits
  restart state := if permitted .crash state then system.restart state else none

structure Refines (first second : System S C σ κ) : Prop where
  body : first.body = second.body
  admits : ∀ {entry state}, first.admits entry state = true → second.admits entry state = true
  execute : ∀ {thread operation choice state result},
    first.execute thread operation choice state = some result →
    second.execute thread operation choice state = some result
  enter : ∀ {parent thread entry state changed},
    first.enter parent thread entry state = some changed →
    second.enter parent thread entry state = some changed
  restart : ∀ {state changed}, first.restart state = some changed →
    second.restart state = some changed

variable {thread : Nat} {op : S.Operation} {choice : κ} {parent : Option Nat} {entry : C}
  {label : Label C κ} {labels : List (Label C κ)}

section Restrict

variable {sys : System S C σ κ} {rule : Action S C κ → σ → Bool}

theorem restrict_execute {st : σ} {res : S.Response op × σ}
    (ran : (sys.restrict rule).execute thread op choice st = some res) :
    rule (.perform thread op choice) st ∧ sys.execute thread op choice st = some res := by
  simpa only [restrict, Option.ite_none_right_eq_some] using ran

theorem restrict_enter {st w : σ}
    (hent : (sys.restrict rule).enter parent thread entry st = some w) :
    rule (.enter parent thread entry) st ∧ sys.enter parent thread entry st = some w := by
  simpa only [restrict, Option.ite_none_right_eq_some] using hent

theorem restrict_restart {st w : σ} (hre : (sys.restrict rule).restart st = some w) :
    rule .crash st ∧ sys.restart st = some w := by
  simpa only [restrict, Option.ite_none_right_eq_some] using hre

theorem restrict_refines (sys : System S C σ κ) (rule : Action S C κ → σ → Bool) :
    (sys.restrict rule).Refines sys where
  body := rfl
  admits := id
  execute ran := (restrict_execute ran).2
  enter entered := (restrict_enter entered).2
  restart restarted := (restrict_restart restarted).2

end Restrict

/-! ## Traces -/

inductive Entry (S : Signature) (C σ : Type) where
  | performed (thread : Nat) (operation : S.Operation) (response : S.Response operation) (state : σ)
  | entered (parent : Option Nat) (thread : Nat) (entry : C) (state : σ)
  | crashed (state : σ)

def Entry.state : Entry S C σ → σ
  | .performed _ _ _ state => state
  | .entered _ _ _ state => state
  | .crashed state => state

/-- A state with its past, latest entry first, and the number of threads so far. -/
structure Traced (S : Signature) (C σ : Type) where
  state : σ
  trace : List (Entry S C σ)
  threads : Nat

def Traced.begin (state : σ) : Traced S C σ := ⟨state, [], 0⟩

def traced (system : System S C σ κ) : System S C (Traced S C σ) κ where
  execute thread operation choice history :=
    (system.execute thread operation choice history.state).map fun (response, state) =>
      (response, { history with
        state := state, trace := .performed thread operation response state :: history.trace })
  body := system.body
  enter parent thread entry history :=
    -- threads are numbered in the order in which they start
    if thread = history.threads then
      (system.enter parent thread entry history.state).map fun state =>
        { state := state, trace := .entered parent thread entry state :: history.trace
          threads := history.threads + 1 }
    else none
  admits entry history := system.admits entry history.state
  restart history :=
    (system.restart history.state).map fun state =>
      { history with state := state, trace := .crashed state :: history.trace }

variable {w history : Traced S C σ} {mc : Machine S C (Traced S C σ)}
  {trace : List (Entry S C σ)}

section Traced

variable {sys : System S C σ κ}

theorem traced_execute {r : S.Response op}
    (ran : sys.traced.execute thread op choice history = some (r, w)) :
    sys.execute thread op choice history.state = some (r, w.state) ∧
      w = ⟨w.state, .performed thread op r w.state :: history.trace, history.threads⟩ := by
  obtain ⟨⟨h, _⟩, hbl, he⟩ := Option.map_eq_some_iff.mp ran
  simp only [Prod.mk.injEq] at he
  obtain ⟨rfl, rfl⟩ := he
  exact ⟨hbl, rfl⟩

theorem traced_enter (ent : sys.traced.enter parent thread entry history = some w) :
    sys.enter parent thread entry history.state = some w.state ∧ thread = history.threads ∧
      w = ⟨w.state, .entered parent thread entry w.state :: history.trace,
        history.threads + 1⟩ := by
  simp only [traced, Option.ite_none_right_eq_some, Option.map_eq_some_iff] at ent
  obtain ⟨numbered, _, ent, rfl⟩ := ent
  exact ⟨ent, numbered, rfl⟩

theorem traced_restart (hre : sys.traced.restart history = some w) :
    sys.restart history.state = some w.state ∧
      w = ⟨w.state, .crashed w.state :: history.trace, history.threads⟩ := by
  obtain ⟨_, hbl, rfl⟩ := Option.map_eq_some_iff.mp hre
  exact ⟨hbl, rfl⟩

end Traced

/-- The ways a machine moves, with the parts of the step named. -/
inductive Moves (system : System S C σ κ) (machine : Machine S C σ) : Machine S C σ → Prop
  | start {entry : C} {state : σ}
      (admitted : system.admits entry machine.state = true)
      (entered : system.enter none machine.threads.length entry machine.state = some state) :
      Moves system machine ⟨machine.threads ++ [system.body entry], state⟩
  | perform {thread : Nat} {operation : S.Operation}
      {next : S.Response operation → Program S C Unit} {choice : κ}
      {response : S.Response operation} {state : σ}
      (located : machine.threads[thread]? = some (.perform operation next))
      (executed : system.execute thread operation choice machine.state = some (response, state)) :
      Moves system machine ⟨machine.threads.set thread (next response), state⟩
  | fork {thread : Nat} {child : C} {next : Program S C Unit} {state : σ}
      (located : machine.threads[thread]? = some (.fork child next))
      (entered : system.enter (some thread) machine.threads.length child machine.state = some state) :
      Moves system machine ⟨machine.threads.set thread next ++ [system.body child], state⟩
  | crash {state : σ} (restarted : system.restart machine.state = some state) :
      Moves system machine ⟨machine.threads.map fun _ => .done (), state⟩

theorem moves_of_step {sys : System S C σ κ} {mc w : Machine S C σ} (sp : sys.step mc label = some w) :
    sys.Moves mc w := by
  cases label with
  | start _ =>
    simp only [step, launch, Option.ite_none_right_eq_some, Option.map_eq_some_iff] at sp
    obtain ⟨had, st, hent, rfl⟩ := sp
    exact .start had hent
  | run _ _ =>
    simp only [step] at sp
    split at sp
    · rename_i op next hl
      obtain ⟨⟨r, st⟩, ran, rfl⟩ := Option.map_eq_some_iff.mp sp
      exact .perform hl ran
    · rename_i cd next hl
      obtain ⟨st, hent, rfl⟩ := Option.map_eq_some_iff.mp sp
      rw [List.length_set] at hent
      exact .fork hl hent
    · cases sp
  | crash =>
    obtain ⟨st, hre, rfl⟩ := Option.map_eq_some_iff.mp sp
    exact .crash hre

/-- What holds before a run and is kept by every move holds after the run. -/
theorem run_induction {sys : System S C σ κ} {prop : Machine S C σ → Prop}
    (keeps : ∀ mc w, prop mc → sys.Moves mc w → prop w) {mc w : Machine S C σ} (hh : prop mc)
    (ran : sys.run mc labels = some w) : prop w := by
  induction labels generalizing mc with
  | nil =>
    cases ran
    exact hh
  | cons _ labels ih =>
    obtain ⟨mid', hst, rest⟩ := Option.bind_eq_some_iff.mp ran
    exact ih (keeps mc mid' hh (moves_of_step hst)) rest

/-- One transition of the state, whoever makes it. -/
inductive Advances (system : System S C σ κ) (state : σ) : σ → Prop
  | perform {thread : Nat} {operation : S.Operation} {choice : κ}
      {response : S.Response operation} {changed : σ}
      (executed : system.execute thread operation choice state = some (response, changed)) :
      Advances system state changed
  | enter {parent : Option Nat} {thread : Nat} {entry : C} {changed : σ}
      (admitted : parent = none → system.admits entry state = true)
      (entered : system.enter parent thread entry state = some changed) :
      Advances system state changed
  | crash {changed : σ} (restarted : system.restart state = some changed) :
      Advances system state changed

theorem Moves.advances {sys : System S C σ κ} {mc w : Machine S C σ}
    (moves : sys.Moves mc w) : sys.Advances mc.state w.state := by
  cases moves with
  | start had hent => exact .enter (fun _ => had) hent
  | perform hl ran => exact .perform ran
  | fork hl hent =>
    refine .enter ?_ hent
    intro hou
    cases hou
  | crash hre => exact .crash hre

/-- The states of the runs that begin in `first`. -/
def Reaches (system : System S C σ κ) (first state : σ) : Prop :=
  ∃ labels machine, system.run (initial first) labels = some machine ∧ machine.state = state

theorem run_snoc {sys : System S C σ κ} {mc w : Machine S C σ}
    (ran : sys.run mc (labels ++ [label]) = some w) :
    ∃ mid', sys.run mc labels = some mid' ∧ sys.step mid' label = some w := by
  rw [run_append] at ran
  obtain ⟨mid', a, last⟩ := Option.bind_eq_some_iff.mp ran
  obtain ⟨_, hst, hed⟩ := Option.bind_eq_some_iff.mp last
  cases hed
  exact ⟨mid', a, hst⟩

/-- Induction over the transitions of a run; the states on the way are reached as well. -/
theorem Reaches.induction {sys : System S C σ κ} {ha : σ} {prop : σ → Prop} (hb : prop ha)
    (advances : ∀ {st w}, sys.Reaches ha st → sys.Reaches ha w →
      sys.Advances st w → prop st → prop w) {st : σ} (r : sys.Reaches ha st) : prop st := by
  obtain ⟨labels, mc, ran, rfl⟩ := r
  induction labels using List.reverseRecOn generalizing mc with
  | nil =>
    cases ran
    exact hb
  | append_singleton labels _ ih =>
    obtain ⟨mid', s, hsp⟩ := run_snoc ran
    exact advances ⟨labels, mid', s, rfl⟩ ⟨_, mc, ran, rfl⟩
      (moves_of_step hsp).advances (ih mid' s)

/-! ## The threads of a trace -/

/-- The program a thread runs; a crash ends every thread. -/
def runs (thread : Nat) : List (Entry S C σ) → Option C
  | [] => none
  | .performed .. :: trace => runs thread trace
  | .entered _ other entry _ :: trace => if other = thread then some entry else runs thread trace
  | .crashed _ :: _ => none

/-- Whoever does something in the trace is running at that moment. -/
def Attributed : List (Entry S C σ) → Prop
  | [] => True
  | .performed thread _ _ _ :: trace => (∃ entry, runs thread trace = some entry) ∧ Attributed trace
  | .entered parent _ _ _ :: trace =>
    (∀ thread, parent = some thread → ∃ entry, runs thread trace = some entry) ∧ Attributed trace
  | .crashed _ :: trace => Attributed trace

theorem runs_entered_self {st : σ} :
    runs thread (.entered parent thread entry st :: trace) = some entry := by
  simp [runs]

theorem runs_entered_ne {o : Nat} {st : σ} (ne : o ≠ thread) :
    runs thread (.entered parent o entry st :: trace) = runs thread trace := by
  simp [runs, ne]

section Attributed

variable {base : System S C σ κ} {sys : System S C (Traced S C σ) κ}

structure Alive (machine : Machine S C (Traced S C σ)) : Prop where
  numbered : machine.threads.length = machine.state.threads
  /-- A thread that does not run any more is done. -/
  running : ∀ {thread program}, machine.threads[thread]? = some program →
    runs thread machine.state.trace = none → program = .done ()
  attributed : Attributed machine.state.trace

theorem Alive.runs (hal : Alive mc) {prog : Program S C Unit} (hl : mc.threads[thread]? = some prog)
    (huf : prog ≠ .done ()) : ∃ entry, runs thread mc.state.trace = some entry := by
  cases hf : System.runs thread mc.state.trace with
  | none => exact absurd (hal.running hl hf) huf
  | some entry => exact ⟨entry, rfl⟩

theorem Alive.launch (hrf : sys.Refines base.traced) (hal : Alive mc)
    {ths : List (Program S C Unit)} (hlen : ths.length = mc.threads.length)
    (hent : sys.enter parent mc.threads.length entry mc.state = some w)
    (spawned : ∀ thread, parent = some thread →
      ∃ entry, System.runs thread mc.state.trace = some entry)
    (hrn : ∀ {thread prog}, ths[thread]? = some prog →
      System.runs thread mc.state.trace = none → prog = .done ()) :
    Alive ⟨ths ++ [sys.body entry], w⟩ := by
  obtain ⟨_, _, hrcd⟩ := traced_enter (hrf.enter hent)
  rw [hrcd]
  refine ⟨?_, ?_, spawned, hal.attributed⟩
  · simp [hlen, hal.numbered]
  · intro thread prog hf idle
    by_cases h : mc.threads.length = thread
    · subst h
      rw [runs_entered_self] at idle
      cases idle
    rw [runs_entered_ne h] at idle
    have old : thread < ths.length := by
      have hi := (List.getElem?_eq_some_iff.mp hf).1
      simp only [List.length_append, List.length_singleton] at hi
      omega
    rw [List.getElem?_append_left old] at hf
    exact hrn hf idle

theorem Alive.move (hrf : sys.Refines base.traced) {w : Machine S C (Traced S C σ)} (hal : Alive mc)
    (moves : sys.Moves mc w) : Alive w := by
  cases moves with
  | @start entry st _ hent =>
    exact hal.launch hrf rfl hent nofun hal.running
  | @perform mover _ next _ r st hl ran =>
    obtain ⟨_, hrcd⟩ := traced_execute (hrf.execute ran)
    obtain ⟨entry, runs⟩ := hal.runs hl nofun
    rw [hrcd]
    refine ⟨?_, ?_, ⟨entry, runs⟩, hal.attributed⟩
    · rw [List.length_set]
      exact hal.numbered
    · intro thread prog f idle
      change System.runs thread mc.state.trace = none at idle
      by_cases h : mover = thread
      · subst h
        rw [runs] at idle
        cases idle
      · rw [List.getElem?_set_ne h] at f
        exact hal.running f idle
  | @fork mover _ next st hl hent =>
    have moving := hal.runs hl nofun
    refine hal.launch hrf List.length_set hent ?_ ?_
    · intro thread parent
      cases parent
      exact moving
    · intro thread prog f idle
      by_cases h : mover = thread
      · subst h
        obtain ⟨entry, runs⟩ := moving
        rw [runs] at idle
        cases idle
      · rw [List.getElem?_set_ne h] at f
        exact hal.running f idle
  | @crash st hre =>
    obtain ⟨_, hrcd⟩ := traced_restart (hrf.restart hre)
    rw [hrcd]
    refine ⟨?_, ?_, hal.attributed⟩
    · rw [List.length_map]
      exact hal.numbered
    · intro thread prog f _
      simp only [List.getElem?_map, Option.map_eq_some_iff] at f
      obtain ⟨_, _, rfl⟩ := f
      rfl

theorem alive_of_run (hrf : sys.Refines base.traced) {st : σ}
    (ran : sys.run (initial (Traced.begin st)) labels = some mc) : Alive mc := by
  refine run_induction (fun _ _ hal moves => hal.move hrf moves) ?_ ran
  refine ⟨rfl, ?_, trivial⟩
  intro _ _ hf
  simp [initial] at hf

theorem attributed_of_reaches (hrf : sys.Refines base.traced) {st : σ}
    {p : Traced S C σ} (r : sys.Reaches (Traced.begin st) p) : Attributed p.trace := by
  obtain ⟨_, _, ran, rfl⟩ := r
  exact (alive_of_run hrf ran).attributed

end Attributed

end System

end AISummoner.Concurrency
