import AISummoner.Concurrency.History
import AISummoner.App.Steps

/-! # Histories of the server

The histories of a process booted on a database, under any schedule whose steps
meet a condition: their induction principle, and what holds whatever the
goroutines do.
-/

namespace AISummoner.App

open Concurrency Concurrency.Discipline Store Agent AISummoner.Runtime

abbrev Trace := List HistoryEntry

def freely (_ : Step) (_ : History) : Bool := true

/-- The histories of a process booted on `db` all of whose steps are permitted. -/
def Reached (permitted : Step → History → Bool) (configuration : Configuration) (db : Db)
    (past : History) : Prop :=
  (history.restrict permitted).Reaches (System.Traced.begin (World.boot configuration db)) past

/-! ## Steps of a history -/

inductive Next (permitted : Step → History → Bool) (past : History) : History → Prop
  | performed {thread : Nat} {operation : Operation} {choice : Choice}
      {response : operation.Response} {world : World}
      (allowed : permitted (.perform thread operation choice) past = true)
      (executed : perform thread operation choice past.state = some (response, world)) :
      Next permitted past
        ⟨world, .performed thread operation response world :: past.trace, past.threads⟩
  | entered {parent : Option Nat} {goroutine : Goroutine}
      (allowed : permitted (.enter parent past.threads goroutine) past = true)
      (admitted : parent = none → admits goroutine past.state = true) :
      Next permitted past ⟨enter past.threads goroutine past.state,
        .entered parent past.threads goroutine (enter past.threads goroutine past.state) :: past.trace,
        past.threads + 1⟩
  | crashed (allowed : permitted .crash past = true) :
      Next permitted past ⟨past.state.reboot, .crashed past.state.reboot :: past.trace, past.threads⟩

variable {rule : Step → History → Bool} {t : Nat} {goroutine : Goroutine}
  {op : Operation} {r : op.Response} {wd : World} {p w : History}
  {Q : Type} {D : Discipline Server Goroutine Q}

variable {e : HistoryEntry} {o ths : Nat} {pa : Option Nat} {kind id : String}
  {k : Q}

section Steps

variable {rule wider : Step → History → Bool} {cfg : Configuration} {db : Db}
  {p w : History}

theorem next_of_system (next : server.Next rule p w) : Next rule p w := by
  cases next with
  | performed hal hex => exact .performed hal hex
  | entered hal had hst =>
    cases hst
    exact .entered hal had
  | crashed hal hre =>
    cases hre
    exact .crashed hal

@[elab_as_elim]
theorem Reached.induction {motive : History → Prop}
    (hb : motive (System.Traced.begin (World.boot cfg db)))
    (advances : ∀ {p w}, Reached rule cfg db p → Reached rule cfg db w → Next rule p w →
      motive p → motive w) (hr : Reached rule cfg db p) : motive p :=
  System.Reached.induction hb
    (fun s s' next => advances s s' (next_of_system next)) hr

theorem Reached.previous {tr : Trace} (hr : Reached rule cfg db p) (hrcd : p.trace = e :: tr) :
    ∃ pre, Reached rule cfg db pre ∧ Next rule pre p ∧ pre.trace = tr := by
  obtain ⟨pre, s, next, h⟩ := System.Reached.previous hr hrcd
  exact ⟨pre, s, next_of_system next, h⟩

theorem Reached.attributed (hr : Reached rule cfg db p) : System.Attributed p.trace :=
  System.Reached.attributed hr

theorem Reached.kept (hbds : ∀ {goroutine k}, D.start goroutine = some k →
      D.Follows (body goroutine) (fun _ _ => True) k)
    (hr : Reached rule cfg db p) : D.Kept p.trace :=
  System.Reached.kept hbds hr

end Steps

/-! ## Schedules -/

abbrev Schedule := List (Label Goroutine Choice)

/-- The threads and the history a schedule leads to, if all of its steps can happen
    and are permitted. -/
def ranBy (permitted : Step → History → Bool) (configuration : Configuration) (db : Db)
    (schedule : Schedule) : Option (Machine Server Goroutine History) :=
  (history.restrict permitted).run
    (System.initial (System.Traced.begin (World.boot configuration db))) schedule

def reachedBy (permitted : Step → History → Bool) (configuration : Configuration) (db : Db)
    (schedule : Schedule) : Option History :=
  (ranBy permitted configuration db schedule).map Machine.state

theorem reached_of_ran {cfg : Configuration} {db : Db} {sch : Schedule}
    {mc : Machine Server Goroutine History}
    (ran : ranBy rule cfg db sch = some mc) : Reached rule cfg db mc.state :=
  ⟨sch, mc, ran, rfl⟩

theorem reached_of_schedule {cfg : Configuration} {db : Db} {sch : Schedule}
    (ran : reachedBy rule cfg db sch = some p) : Reached rule cfg db p := by
  obtain ⟨_, run, rfl⟩ := Option.map_eq_some_iff.mp ran
  exact reached_of_ran run

def steps (thread count : Nat) : Schedule := List.replicate count (.run thread {})

def making (thread : Nat) (id : String) : Schedule := [.run thread { id := some id }]

def taking (thread branch : Nat) : Schedule := [.run thread { branch := branch }]

/-! ## Memory of the past -/

def Entered (trace : Trace) (thread : Nat) (goroutine : Goroutine) : Prop :=
  ∃ parent world, .entered parent thread goroutine world ∈ trace

def Minted (trace : Trace) (kind : String) (thread : Nat) (id : String) : Prop :=
  ∃ world, .performed thread (.newID kind) (some id) world ∈ trace

theorem Entered.cons {tr : Trace} (pre : Entered tr t goroutine)
    (e : HistoryEntry) : Entered (e :: tr) t goroutine := by
  obtain ⟨pa, wd, hm⟩ := pre
  exact ⟨pa, wd, List.mem_cons_of_mem _ hm⟩

theorem entered_of_runs {tr : Trace} (runs : System.runs t tr = some goroutine) :
    Entered tr t goroutine := by
  induction tr with
  | nil => cases runs
  | cons e tr ih =>
    cases e with
    | performed o _ r wd => exact (ih runs).cons _
    | entered pa o _ wd =>
      by_cases h : o = t
      · subst h
        rw [System.runs_entered_self] at runs
        cases runs
        exact ⟨pa, wd, List.mem_cons_self⟩
      · rw [System.runs_entered_ne h] at runs
        exact (ih runs).cons _
    | crashed wd => cases runs

theorem entered_of_performed {tr : Trace} (attributed : System.Attributed tr)
    (hm : .performed t op r wd ∈ tr) : ∃ goroutine, Entered tr t goroutine := by
  induction tr with
  | nil => cases hm
  | cons e tr ih =>
    rcases List.mem_cons.mp hm with rfl | pre
    · obtain ⟨goroutine, runs⟩ := attributed.1
      exact ⟨goroutine, (entered_of_runs runs).cons _⟩
    have tail : System.Attributed tr := by
      cases e with
      | performed | entered => exact attributed.2
      | crashed => exact attributed
    obtain ⟨goroutine, hent⟩ := ih tail pre
    exact ⟨goroutine, hent.cons _⟩

theorem entered_cons_performed {tr : Trace} : Entered (.performed t op r wd :: tr) o goroutine ↔
      Entered tr o goroutine := by
  simp [Entered]

theorem entered_cons_crashed {tr : Trace} :
    Entered (.crashed wd :: tr) t goroutine ↔ Entered tr t goroutine := by
  simp [Entered]

theorem entered_cons_entered {tr : Trace} {st : Goroutine} :
    Entered (.entered pa t st wd :: tr) o goroutine ↔
      (o = t ∧ goroutine = st) ∨ Entered tr o goroutine := by
  simp only [Entered, List.mem_cons, exists_or, System.Entry.entered.injEq]
  simp

theorem Minted.cons {tr : Trace} (mi : Minted tr kind t id) (e : HistoryEntry) :
    Minted (e :: tr) kind t id := by
  obtain ⟨wd, hm⟩ := mi
  exact ⟨wd, List.mem_cons_of_mem e hm⟩

theorem minted_cons_entered {tr : Trace} : Minted (.entered pa t goroutine wd :: tr) kind o id ↔
      Minted tr kind o id := by
  simp [Minted]

theorem minted_cons_crashed {tr : Trace} :
    Minted (.crashed wd :: tr) kind t id ↔ Minted tr kind t id := by
  simp [Minted]

theorem minted_cons_performed {tr : Trace} : Minted (.performed t op r wd :: tr) kind o id ↔
      (o = t ∧ op = .newID kind ∧ HEq r (some id)) ∨ Minted tr kind o id := by
  simp only [Minted, List.mem_cons, exists_or]
  apply or_congr_left
  constructor
  · rintro ⟨_, he⟩
    cases he
    exact ⟨rfl, rfl, .rfl⟩
  · rintro ⟨rfl, rfl, he⟩
    cases he
    exact ⟨wd, rfl⟩

/-! ## What every history satisfies -/

structure Chronicle (past : History) : Prop where
  entered_below : ∀ {thread goroutine}, Entered past.trace thread goroutine → thread < past.threads
  entered_once : ∀ {thread first second}, Entered past.trace thread first →
    Entered past.trace thread second → first = second
  minted_issued : ∀ {kind thread id}, Minted past.trace kind thread id →
    id ∈ past.state.issued ∧ id ≠ ""
  minted_once : ∀ {kind other first second id}, Minted past.trace kind first id →
    Minted past.trace other second id → first = second

theorem chronicle_begin (wd : World) : Chronicle (System.Traced.begin wd) where
  entered_below := by rintro t goroutine ⟨_, _, hm⟩; cases hm
  entered_once := by rintro t a b ⟨_, _, hm⟩; cases hm
  minted_issued := by rintro kind t id ⟨_, hm⟩; cases hm
  minted_once := by rintro kind o a b id ⟨_, hm⟩; cases hm

theorem Chronicle.perform (chr : Chronicle p) {cho : Choice}
    (hex : perform t op cho p.state = some (r, wd)) : Chronicle (p.perform t op r wd) where
  entered_below entered := chr.entered_below (entered_cons_performed.mp entered)
  entered_once first second := chr.entered_once (entered_cons_performed.mp first)
    (entered_cons_performed.mp second)
  minted_issued {kind o id} hmi := by
    rcases (perform_parts hex).2.2 with h | ⟨_, hfr, rfl, he, hne, _, grown⟩
    · rcases minted_cons_performed.mp hmi with ⟨_, rfl, he⟩ | pre
      · -- an identifier was made, so the list did grow
        rcases perform_newID hex with ⟨rfl, _⟩ | ⟨made, rfl, hne, _, grown⟩
        · cases he
        · cases he
          exact ⟨by simp [grown], hne⟩
      · rw [h]
        exact chr.minted_issued pre
    · rw [grown]
      rcases minted_cons_performed.mp hmi with ⟨_, _, now⟩ | pre
      · cases he
        cases now
        exact ⟨List.mem_cons_self, hne⟩
      · have k := chr.minted_issued pre
        exact ⟨List.mem_cons_of_mem _ k.1, k.2⟩
  minted_once {kind o first second id} left right := by
    -- an identifier that was in the past is issued, so it cannot be made now
    have unissued {kind : String} (made : op = .newID kind) (he : HEq r (some id)) :
        id ∉ p.state.issued := by
      subst made
      rcases perform_newID hex with ⟨rfl, _⟩ | ⟨made, rfl, _, hfr, _⟩
      · cases he
      · cases he
        exact hfr
    rcases minted_cons_performed.mp left with ⟨rfl, made, he⟩ | pre
    · rcases minted_cons_performed.mp right with ⟨rfl, _, _⟩ | pre
      · rfl
      · exact absurd (chr.minted_issued pre).1 (unissued made he)
    · rcases minted_cons_performed.mp right with ⟨rfl, made, he⟩ | o
      · exact absurd (chr.minted_issued pre).1 (unissued made he)
      · exact chr.minted_once pre o

theorem enter_issued (t : Nat) (goroutine : Goroutine) (wd : World) :
    (enter t goroutine wd).issued = wd.issued := by
  cases goroutine <;> rfl

theorem Chronicle.enter (chr : Chronicle p) (pa : Option Nat) (goroutine : Goroutine) :
    Chronicle (p.enter pa goroutine (enter p.threads goroutine p.state)) where
  entered_below hent := by
    rcases entered_cons_entered.mp hent with ⟨rfl, _⟩ | pre
    · exact Nat.lt_succ_self _
    · exact Nat.lt_succ_of_lt (chr.entered_below pre)
  entered_once a b := by
    rcases entered_cons_entered.mp a with ⟨rfl, rfl⟩ | pre
    · rcases entered_cons_entered.mp b with ⟨_, rfl⟩ | ol
      · rfl
      · exact absurd (chr.entered_below ol) (Nat.lt_irrefl _)
    · rcases entered_cons_entered.mp b with ⟨rfl, _⟩ | ol
      · exact absurd (chr.entered_below pre) (Nat.lt_irrefl _)
      · exact chr.entered_once pre ol
  minted_issued minted := by
    rw [enter_issued]
    exact chr.minted_issued (minted_cons_entered.mp minted)
  minted_once a b :=
    chr.minted_once (minted_cons_entered.mp a) (minted_cons_entered.mp b)

theorem Chronicle.crash (chr : Chronicle p) : Chronicle (p.crash p.state.reboot) where
  entered_below entered := chr.entered_below (entered_cons_crashed.mp entered)
  entered_once first second := chr.entered_once (entered_cons_crashed.mp first)
    (entered_cons_crashed.mp second)
  minted_issued minted := chr.minted_issued (minted_cons_crashed.mp minted)
  minted_once first second :=
    chr.minted_once (minted_cons_crashed.mp first) (minted_cons_crashed.mp second)

theorem enter_db (t : Nat) (goroutine : Goroutine) (wd : World) :
    (enter t goroutine wd).db = wd.db := by
  cases goroutine <;> rfl

theorem Next.writes (next : Next rule p w) : w.state.db = p.state.db ∨ ∃ t ctx site stm r v,
      w.trace = .performed t (.store ctx site stm) r w.state ::
        p.trace ∧ stm.body p.state.db = .ok (v, w.state.db) := by
  cases next with
  | performed _ hex =>
    rcases perform_writes hex with h | ⟨ctx, site, stm, v, rfl, ha⟩
    · exact .inl h
    · exact .inr ⟨_, ctx, site, stm, _, v, rfl, ha⟩
  | entered _ _ => exact .inl (enter_db ..)
  | crashed _ => exact .inl rfl

theorem Next.trace (next : Next rule p w) : ∃ e, w.trace = e :: p.trace ∧ e.state = w.state := by
  cases next with
  | performed _ _ | entered _ _ | crashed _ => exact ⟨_, rfl, rfl⟩

theorem Minted.next (hmi : Minted p.trace kind t id)
    (next : Next rule p w) : Minted w.trace kind t id := by
  obtain ⟨e, hrcd, _⟩ := next.trace
  rw [hrcd]
  exact hmi.cons e

theorem Next.knew {k' : Q} (next : Next rule p w) (hbl : t < p.threads)
    (kno : D.knows t w.trace = some k') : ∃ k, D.knows t p.trace = some k ∧
      (k' = k ∨ (∃ hcd, k' = D.afterFork k hcd) ∨ ∃ op r,
        w.trace = .performed t op r w.state :: p.trace ∧ k' = D.after k op r) := by
  cases next with
  | @performed pf op _ r _ _ _ =>
    by_cases h : pf = t
    · subst h
      rw [knows_performed_self, Option.map_eq_some_iff] at kno
      obtain ⟨k, knew, he⟩ := kno
      exact ⟨k, knew, .inr (.inr ⟨op, r, rfl, he.symm⟩)⟩
    · rw [knows_performed_ne h] at kno
      exact ⟨k', kno, .inl rfl⟩
  | @entered pa goroutine _ _ =>
    have o : p.threads ≠ t := Nat.ne_of_gt hbl
    by_cases hcd : pa = some t
    · subst hcd
      rw [knows_entered_parent o, Option.map_eq_some_iff] at kno
      obtain ⟨k, knew, he⟩ := kno
      exact ⟨k, knew, .inr (.inl ⟨goroutine, he.symm⟩)⟩
    · rw [knows_entered_ne o hcd] at kno
      exact ⟨k', kno, .inl rfl⟩
  | crashed _ => cases kno

section Facts

variable {rule : Step → History → Bool} {cfg : Configuration} {db : Db}
  {p : History}

theorem Reached.chronicle (hr : Reached rule cfg db p) : Chronicle p := by
  refine Reached.induction (chronicle_begin _) ?_ hr
  intro p w _ _ next chr
  cases next with
  | performed _ hex => exact chr.perform hex
  | entered _ _ => exact chr.enter _ _
  | crashed _ => exact chr.crash

theorem Reached.performed_below (hr : Reached rule cfg db p)
    (hm : .performed t op r wd ∈ p.trace) : t < p.threads := by
  obtain ⟨_, hent⟩ := entered_of_performed hr.attributed hm
  exact hr.chronicle.entered_below hent

/-- The identifiers a process makes are not among those of the rows it found. -/
theorem Reached.minted_new (hr : Reached rule cfg db p) (hmi : Minted p.trace kind t id) :
    id ∉ db.identifiers := by
  have kept : (∀ id ∈ db.identifiers, id ∈ p.state.issued) ∧
      ∀ {kind t id}, Minted p.trace kind t id → id ∉ db.identifiers := by
    refine Reached.induction ?_ ?_ hr
    · exact ⟨fun id hm => hm, fun ⟨_, hm⟩ => by cases hm⟩
    intro p w _ _ next ih
    obtain ⟨issued, hfr⟩ := ih
    cases next with
    | @performed t _ _ r _ _ hex =>
      refine ⟨fun id hm => ?_, fun made => ?_⟩
      · rcases (perform_parts hex).2.2 with h | ⟨_, _, _, _, _, _, grown⟩
        · exact h ▸ issued id hm
        · rw [grown]
          exact List.mem_cons_of_mem _ (issued id hm)
      · rcases minted_cons_performed.mp made with ⟨_, rfl, he⟩ | pre
        · rcases perform_newID hex with ⟨rfl, _⟩ | ⟨id, rfl, _, unissued, _⟩
          · cases he
          · cases he
            exact fun hm => unissued (issued _ hm)
        · exact hfr pre
    | entered _ _ =>
      refine ⟨fun id hm => ?_, fun made => hfr (minted_cons_entered.mp made)⟩
      change id ∈ (enter _ _ _).issued
      rw [enter_issued]
      exact issued id hm
    | crashed _ => exact ⟨issued, fun made => hfr (minted_cons_crashed.mp made)⟩
  exact kept.2 hmi

theorem Reached.back {nw ol : Trace} (hr : Reached rule cfg db p)
    (hsp : p.trace = nw ++ ol) : ∃ pre, Reached rule cfg db pre ∧ pre.trace = ol :=
  System.Reached.back hr hsp

theorem Reached.at_entry (hr : Reached rule cfg db p)
    (hm : e ∈ p.trace) : ∃ pre tr, Reached rule cfg db pre ∧
      pre.trace = e :: tr ∧ pre.trace <:+ p.trace :=
  System.Reached.at_entry hr hm

/-- The step was made by another thread, and is not the end of the process. -/
def Elsewhere (thread : Nat) (past changed : History) : Prop :=
  (∀ world, changed.trace ≠ .crashed world :: past.trace) ∧
    ∀ operation response world, changed.trace ≠ .performed thread operation response world :: past.trace

@[elab_as_elim]
theorem Reached.knowing (hbds : ∀ {goroutine k}, D.start goroutine = some k →
      D.Follows (body goroutine) (fun _ _ => True) k) {motive : History → Nat → Q → Prop}
    (hb : ∀ {p pa goroutine k}, Reached rule cfg db p → Reached rule cfg db
        (p.enter pa goroutine (enter p.threads goroutine p.state)) →
      (pa = none → admits goroutine p.state) → D.start goroutine = some k →
      motive (p.enter pa goroutine (enter p.threads goroutine p.state)) p.threads
        k) (hoth : ∀ {p w t k}, Reached rule cfg db p → Reached rule cfg db w → Next rule p w →
      Elsewhere t p w → motive p t k → motive w t k) (hps : ∀ {p t op choice r wd k},
      Reached rule cfg db p → D.knows t p.trace = some k →
      D.may k op → rule (.perform t op choice) p → perform t op choice p.state = some (r, wd) →
      motive p t k → motive (p.perform t op r wd) t (D.after k op r))
    (forks : ∀ {p w t k child}, Reached rule cfg db p →
      D.mayFork k child → Next rule p w → motive p t k →
      motive w t (D.afterFork k child)) (hr : Reached rule cfg db p)
    (hk : D.knows t p.trace = some k) : motive p t k := by
  refine System.Reached.knowing hbds ?_ ?_ hps ?_ hr hk
  · intro p pa goroutine wd k s s' had hst hbg
    cases hst
    exact hb s s' had hbg
  · exact fun s s' next hel => hoth s s' (next_of_system next) hel
  · exact fun s hal next => forks s hal (next_of_system next)

theorem Reached.keeps (hbds : ∀ {goroutine k}, D.start goroutine = some k →
      D.Follows (body goroutine) (fun _ _ => True) k)
    (s' : Reached rule cfg db w) (next : Next rule p w)
    (hbl : t < p.threads) (hk : D.knows t p.trace = some k) :
    w.trace = .crashed w.state :: p.trace ∨ ∃ k', D.knows t w.trace = some k' ∧
        (k' = k ∨ (∃ hcd, D.mayFork k hcd ∧ k' = D.afterFork k hcd) ∨ ∃ op r, D.may k op ∧
            w.trace = .performed t op r w.state :: p.trace ∧ k' = D.after k op r) := by
  have kept := s'.kept hbds
  cases next with
  | @performed pf op _ r _ _ _ =>
    right
    by_cases h : pf = t
    · subst h
      refine ⟨_, by rw [knows_performed_self, hk]; rfl, .inr (.inr ?_)⟩
      exact ⟨op, r, kept.1 k hk, rfl, rfl⟩
    · exact ⟨k, by rw [knows_performed_ne h]; exact hk, .inl rfl⟩
  | @entered pa goroutine _ _ =>
    right
    have o : p.threads ≠ t := Nat.ne_of_gt hbl
    by_cases hcd : pa = some t
    · subst hcd
      refine ⟨_, by rw [knows_entered_parent o, hk]; rfl, .inr (.inl ?_)⟩
      exact ⟨goroutine, kept.1 t k rfl hk, rfl⟩
    · exact ⟨k, by rw [knows_entered_ne o hcd]; exact hk, .inl rfl⟩
  | crashed _ => exact .inl rfl

/-! ## Roles -/

def roleDiscipline : Discipline Server Goroutine Role where
  start goroutine := some goroutine.role
  after role _ _ := role
  afterFork role _ := role
  may := Role.mayPerform
  mayFork := Role.maySpawn

theorem follows_of_runs {role : Role} {α : Type} {code : Code α} (runs : role.Runs code) :
    roleDiscipline.Follows code (fun _ _ => True) role :=
  Follows.of_free (fun _ hal => hal) (fun _ _ _ => rfl)
    (fun _ spawned => spawned) (fun _ _ => rfl) runs (fun _ => trivial)

theorem knows_role {tr : Trace} (runs : System.runs t tr = some goroutine) :
    roleDiscipline.knows t tr = some goroutine.role := by
  induction tr with
  | nil => cases runs
  | cons e tr ih =>
    cases e with
    | performed o _ r wd =>
      have hs := ih runs
      by_cases h : o = t
      · subst h
        rw [knows_performed_self, hs]
        rfl
      · rw [knows_performed_ne h]
        exact hs
    | entered pa o _ wd =>
      by_cases h : o = t
      · subst h
        rw [System.runs_entered_self] at runs
        cases runs
        exact knows_entered_self
      rw [System.runs_entered_ne h] at runs
      have hs := ih runs
      by_cases hcd : pa = some t
      · subst hcd
        rw [knows_entered_parent h, hs]
        rfl
      · rw [knows_entered_ne h hcd]
        exact hs
    | crashed wd => cases runs

theorem Reached.kept_roles (hr : Reached rule cfg db p) : roleDiscipline.Kept p.trace := by
  refine hr.kept ?_
  intro goroutine _ hb
  cases hb
  exact follows_of_runs (body_performs goroutine)

theorem invoke_of_role (role : goroutine.role = .invoke) :
    ∃ turn ctx rq, goroutine = .invoke turn ctx rq := by
  cases goroutine with
  | invoke turn ctx rq => exact ⟨turn, ctx, rq, rfl⟩
  | _ => cases role

theorem Reached.performer {st : World} {tr : Trace} (hr : Reached rule cfg db
      ⟨st, .performed t op r wd :: tr, ths⟩) :
    ∃ goroutine, System.runs t tr = some goroutine ∧ goroutine.role.mayPerform op := by
  obtain ⟨goroutine, runs⟩ := hr.attributed.1
  exact ⟨goroutine, runs, hr.kept_roles.1 _ (knows_role runs)⟩

theorem Reached.spawner {pa : Nat} {cd : Goroutine} {st : World}
    {tr : Trace} (hr : Reached rule cfg db ⟨st, .entered (some pa) t cd wd :: tr, ths⟩) :
    ∃ goroutine, System.runs pa tr = some goroutine ∧ goroutine.role.maySpawn cd := by
  obtain ⟨goroutine, runs⟩ := hr.attributed.1 pa rfl
  exact ⟨goroutine, runs, hr.kept_roles.1 pa _ rfl (knows_role runs)⟩

theorem Reached.knows_below (hr : Reached rule cfg db p)
    (hk : D.knows t p.trace = some k) : t < p.threads :=
  System.Reached.knows_below hr hk

end Facts

end AISummoner.App
