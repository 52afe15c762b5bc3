import AISummoner.Concurrency.Discipline

/-! # Histories

What holds of the histories of any system, under any schedule whose steps meet a
condition: the induction principle, what the knowledge of a thread means
(`Reached.knowing`), and how many threads know something (`tally`).
-/

namespace AISummoner.Concurrency

variable {S : Signature} {C Q σ κ : Type}

namespace System

/-- The histories that begin in `first` all of whose steps are permitted. -/
def Reached (system : System S C σ κ) (permitted : Action S C κ → Traced S C σ → Bool) (first : σ)
    (past : Traced S C σ) : Prop :=
  (system.traced.restrict permitted).Reaches (Traced.begin first) past

abbrev Traced.perform (past : Traced S C σ) (thread : Nat) (operation : S.Operation)
    (response : S.Response operation) (state : σ) : Traced S C σ :=
  ⟨state, .performed thread operation response state :: past.trace, past.threads⟩

abbrev Traced.enter (past : Traced S C σ) (parent : Option Nat) (entry : C) (state : σ) :
    Traced S C σ :=
  ⟨state, .entered parent past.threads entry state :: past.trace, past.threads + 1⟩

abbrev Traced.crash (past : Traced S C σ) (state : σ) : Traced S C σ :=
  ⟨state, .crashed state :: past.trace, past.threads⟩

inductive Next (system : System S C σ κ) (permitted : Action S C κ → Traced S C σ → Bool)
    (past : Traced S C σ) : Traced S C σ → Prop
  | performed {thread : Nat} {operation : S.Operation} {choice : κ}
      {response : S.Response operation} {state : σ}
      (allowed : permitted (.perform thread operation choice) past = true)
      (executed : system.execute thread operation choice past.state = some (response, state)) :
      Next system permitted past
        ⟨state, .performed thread operation response state :: past.trace, past.threads⟩
  | entered {parent : Option Nat} {entry : C} {state : σ}
      (allowed : permitted (.enter parent past.threads entry) past = true)
      (admitted : parent = none → system.admits entry past.state = true)
      (started : system.enter parent past.threads entry past.state = some state) :
      Next system permitted past
        ⟨state, .entered parent past.threads entry state :: past.trace, past.threads + 1⟩
  | crashed {state : σ} (allowed : permitted .crash past = true)
      (restarted : system.restart past.state = some state) :
      Next system permitted past ⟨state, .crashed state :: past.trace, past.threads⟩

variable {e : Entry S C σ} {t ths : Nat} {op : S.Operation}
  {r : S.Response op} {sta rcd : σ} {D : Discipline S C Q} {k : Q}

section Steps

variable {sys : System S C σ κ} {rule wider : Action S C κ → Traced S C σ → Bool} {a : σ}
  {p w : Traced S C σ}

theorem next_of_advances (advances : (sys.traced.restrict rule).Advances p w) :
    sys.Next rule p w := by
  cases advances with
  | @perform t _ _ r _ hex =>
    obtain ⟨hal, hbl⟩ := restrict_execute hex
    obtain ⟨hp, rcd⟩ := traced_execute hbl
    rw [rcd]
    exact .performed hal hp
  | @enter _ t e _ had hent =>
    obtain ⟨hal, hbl⟩ := restrict_enter hent
    obtain ⟨hst, rfl, rcd⟩ := traced_enter hbl
    rw [rcd]
    exact .entered hal had hst
  | crash hre =>
    obtain ⟨hal, hbl⟩ := restrict_restart hre
    obtain ⟨hsp, rcd⟩ := traced_restart hbl
    rw [rcd]
    exact .crashed hal hsp

@[elab_as_elim]
theorem Reached.induction {motive : Traced S C σ → Prop} (hb : motive (Traced.begin a))
    (advances : ∀ {p w}, sys.Reached rule a p → sys.Reached rule a w → sys.Next rule p w →
      motive p → motive w) (hr : sys.Reached rule a p) : motive p :=
  Reaches.induction hb
    (fun s s' step => advances s s' (next_of_advances step)) hr

theorem Next.trace (next : sys.Next rule p w) :
    ∃ e, w.trace = e :: p.trace ∧ e.state = w.state := by
  cases next with
  | performed _ _ | entered _ _ _ | crashed _ _ => exact ⟨_, rfl, rfl⟩

theorem Reached.previous {tr : List (Entry S C σ)}
    (hr : sys.Reached rule a p) (rcd : p.trace = e :: tr) :
    ∃ pre, sys.Reached rule a pre ∧ sys.Next rule pre p ∧ pre.trace = tr := by
  refine Reached.induction ?_ ?_ hr rcd
  · intro rcd
    cases rcd
  · intro p w s _ next _ rcd
    refine ⟨p, s, next, ?_⟩
    obtain ⟨e, h, _⟩ := next.trace
    rw [h] at rcd
    exact (List.cons.inj rcd).2

theorem Reached.entry_state {tr : List (Entry S C σ)}
    (hr : sys.Reached rule a p) (rcd : p.trace = e :: tr) : e.state = p.state := by
  obtain ⟨_, _, next, _⟩ := hr.previous rcd
  obtain ⟨_, h, sta⟩ := next.trace
  rw [rcd] at h
  rw [(List.cons.inj h).1]
  exact sta

theorem Reached.back {nw ol : List (Entry S C σ)}
    (hr : sys.Reached rule a p) (hsp : p.trace = nw ++ ol) :
    ∃ pre, sys.Reached rule a pre ∧ pre.trace = ol := by
  induction nw generalizing p with
  | nil => exact ⟨p, hr, hsp⟩
  | cons e nw ih =>
    obtain ⟨pre, s, _, rcd⟩ := hr.previous hsp
    exact ih s rcd

theorem Reached.at_entry (hr : sys.Reached rule a p)
    (hm : e ∈ p.trace) : ∃ pre tr, sys.Reached rule a pre ∧
      pre.trace = e :: tr ∧ pre.trace <:+ p.trace := by
  obtain ⟨nw, ol, hsp⟩ := List.append_of_mem hm
  obtain ⟨pre, s, rcd⟩ := hr.back hsp
  exact ⟨pre, ol, s, rcd, nw, by rw [rcd, hsp]⟩

theorem Reached.executed {tr : List (Entry S C σ)} (hr : sys.Reached rule a p)
    (rcd : p.trace = .performed t op r sta :: tr) :
    ∃ pre cho, sys.Reached rule a pre ∧ pre.trace = tr ∧
      sys.execute t op cho pre.state = some (r, sta) := by
  obtain ⟨pre, s, next, h⟩ := hr.previous rcd
  cases next with
  | @performed _ _ cho _ _ _ hex =>
    cases (List.cons.inj rcd).1
    exact ⟨pre, cho, s, h, hex⟩
  | entered _ _ _ | crashed _ _ => cases (List.cons.inj rcd).1

theorem Reached.attributed (hr : sys.Reached rule a p) : Attributed p.trace :=
  attributed_of_reaches (restrict_refines sys.traced rule) hr

/-- The threads and the history a schedule leads to, if all of its steps can happen
    and are permitted. -/
def ranBy (system : System S C σ κ) (permitted : Action S C κ → Traced S C σ → Bool) (first : σ)
    (schedule : List (Label C κ)) : Option (Machine S C (Traced S C σ)) :=
  (system.traced.restrict permitted).run (initial (Traced.begin first)) schedule

theorem reached_of_ranBy {sch : List (Label C κ)} {mc : Machine S C (Traced S C σ)}
    (ran : sys.ranBy rule a sch = some mc) : sys.Reached rule a mc.state :=
  ⟨sch, mc, ran, rfl⟩

/-! ## Knowledge and the state -/

def Elsewhere (thread : Nat) (past changed : Traced S C σ) : Prop :=
  (∀ state, changed.trace ≠ .crashed state :: past.trace) ∧
    ∀ operation response state,
      changed.trace ≠ .performed thread operation response state :: past.trace

theorem elsewhere_performed {pf : Nat} (ne : pf ≠ t) : Elsewhere t p
      ⟨sta, .performed pf op r rcd :: p.trace, ths⟩ := by
  refine ⟨fun _ he => ?_, fun _ _ _ he => ?_⟩
  · have head := (List.cons.inj he).1
    cases head
  · have head := (List.cons.inj he).1
    cases head
    exact ne rfl

theorem elsewhere_entered {cd : Nat} {pa : Option Nat} {e : C} :
    Elsewhere t p ⟨sta, .entered pa cd e rcd :: p.trace, ths⟩ := by
  refine ⟨fun _ he => ?_, fun _ _ _ he => ?_⟩
  · have head := (List.cons.inj he).1
    cases head
  · have head := (List.cons.inj he).1
    cases head

section Knowledge

variable (bds : ∀ {e k}, D.start e = some k → D.Follows (sys.body e) (fun _ _ => True) k)
include bds

theorem Reached.kept (hr : sys.Reached rule a p) : D.Kept p.trace :=
  Discipline.kept_of_reaches (restrict_refines sys.traced rule) bds hr

theorem Reached.might {tr : List (Entry S C σ)} (hr : sys.Reached rule a
      ⟨sta, .performed t op r rcd :: tr, ths⟩) (hk : D.knows t tr = some k) : D.may k op :=
  (hr.kept bds).1 k hk

theorem Reached.performer (total : ∀ e, ∃ k, D.start e = some k)
    {tr : List (Entry S C σ)} (hr : sys.Reached rule a
      ⟨sta, .performed t op r rcd :: tr, ths⟩) : ∃ k, D.knows t tr = some k ∧ D.may k op := by
  obtain ⟨e, runs⟩ := hr.attributed.1
  obtain ⟨_, hst⟩ := total e
  obtain ⟨k, hk⟩ := Discipline.knows_of_runs runs hst
  exact ⟨k, hk, hr.might bds hk⟩

theorem Reached.spawner (total : ∀ e, ∃ k, D.start e = some k)
    {tr : List (Entry S C σ)} {cd : Nat} {st : C} (hr : sys.Reached rule a
      ⟨sta, .entered (some t) cd st rcd :: tr, ths⟩) :
    ∃ k, D.knows t tr = some k ∧ D.mayFork k st := by
  obtain ⟨e, runs⟩ := hr.attributed.1 t rfl
  obtain ⟨_, hst⟩ := total e
  obtain ⟨k, hk⟩ := Discipline.knows_of_runs runs hst
  exact ⟨k, hk, (hr.kept bds).1 t k rfl hk⟩

/-- What the knowledge of a thread means.  It is shown for a thread that starts
    and for one that performs an operation it may perform; the steps of others
    must not spoil it. -/
@[elab_as_elim]
theorem Reached.knowing {motive : Traced S C σ → Nat → Q → Prop}
    (hb : ∀ {p pa e sta k}, sys.Reached rule a p → sys.Reached rule a (p.enter pa e sta) →
      (pa = none → sys.admits e p.state) → sys.enter pa p.threads e p.state = some sta →
      D.start e = some k → motive (p.enter pa e sta) p.threads k)
    (hoth : ∀ {p w t k}, sys.Reached rule a p → sys.Reached rule a w → sys.Next rule p w →
      Elsewhere t p w → motive p t k → motive w t k) (hps : ∀ {p t op cho r sta k},
      sys.Reached rule a p → D.knows t p.trace = some k → D.may k op → rule (.perform t op cho) p →
      sys.execute t op cho p.state = some (r, sta) → motive p t k →
      motive (p.perform t op r sta) t (D.after k op r))
    (forks : ∀ {p w t k hcd}, sys.Reached rule a p →
      D.mayFork k hcd → sys.Next rule p w → motive p t k →
      motive w t (D.afterFork k hcd)) (hr : sys.Reached rule a p)
    (kno : D.knows t p.trace = some k) : motive p t k := by
  suffices every : ∀ t k, D.knows t p.trace = some k →
      motive p t k from every t k kno
  refine Reached.induction ?_ ?_ hr
  · intro t k kno
    cases kno
  intro p w s s' next ih t k kno
  have kept := s'.kept bds
  cases next with
  | @performed pf op cho r sta hal hex =>
    by_cases h : pf = t
    · subst h
      rw [Discipline.knows_performed_self, Option.map_eq_some_iff] at kno
      obtain ⟨pre, knew, rfl⟩ := kno
      exact hps s knew (kept.1 pre knew) hal hex (ih _ _ knew)
    · rw [Discipline.knows_performed_ne h] at kno
      exact hoth s s' (.performed hal hex) (elsewhere_performed h)
        (ih _ _ kno)
  | @entered pa e sta hal had hst =>
    have step := Next.entered hal had hst
    by_cases h : p.threads = t
    · subst h
      rw [Discipline.knows_entered_self] at kno
      exact hb s s' had hst kno
    by_cases hcd : pa = some t
    · subst hcd
      rw [Discipline.knows_entered_parent h, Option.map_eq_some_iff] at kno
      obtain ⟨pre, knew, rfl⟩ := kno
      exact forks s (kept.1 t pre rfl knew) step (ih _ _ knew)
    · rw [Discipline.knows_entered_ne h hcd] at kno
      exact hoth s s' step elsewhere_entered (ih _ _ kno)
  | crashed _ _ => cases kno

/-- A property of the history and the meaning of what the threads know, shown
    together: a thread that performs an operation may rely on both, and a thread that
    is started takes its meaning from the one that starts it. -/
theorem Reached.understood (total : ∀ e, ∃ k, D.start e = some k)
    (hs : Traced S C σ → Prop) (me : Traced S C σ → Nat → Q → Prop)
    (hb : hs (Traced.begin a)) (ps : ∀ {p t op cho r sta k},
      sys.Reached rule a p → sys.Reached rule a (p.perform t op r sta) → hs p →
      (∀ o v, D.knows o p.trace = some v → me p o v) → D.knows t p.trace = some k → D.may k op →
      rule (.perform t op cho) p → sys.execute t op cho p.state = some (r, sta) →
      hs (p.perform t op r sta) ∧ me (p.perform t op r sta) t (D.after k op r))
    (hoth : ∀ {p w t k}, sys.Reached rule a p → sys.Reached rule a w → sys.Next rule p w →
      Elsewhere t p w → D.knows t p.trace = some k → hs p →
      (∀ o v, D.knows o p.trace = some v → me p o v) → me w t k)
    (enters : ∀ {p pa e sta}, sys.Reached rule a p → hs p →
      sys.enter pa p.threads e p.state = some sta → hs (p.enter pa e sta))
    (starts : ∀ {p pa e sta k}, sys.Reached rule a p → hs p → (pa = none → sys.admits e p.state) →
      (∀ t, pa = some t → ∃ v, me p t v ∧ D.mayFork v e) →
      sys.enter pa p.threads e p.state = some sta → D.start e = some k →
      me (p.enter pa e sta) p.threads k) (forks : ∀ {p t k hcd sta}, sys.Reached rule a p → hs p →
      D.mayFork k hcd → sys.enter (some t) p.threads hcd p.state = some sta → me p t k →
      me (p.enter (some t) hcd sta) t (D.afterFork k hcd))
    (crashes : ∀ {p sta}, sys.Reached rule a p → hs p → sys.restart p.state = some sta →
      hs (p.crash sta)) (hr : sys.Reached rule a p) :
    hs p ∧ ∀ t k, D.knows t p.trace = some k → me p t k := by
  refine Reached.induction ⟨hb, fun _ _ kno => by cases kno⟩ ?_ hr
  rintro p w s s' next ⟨holds, ih⟩
  cases next with
  | @performed pf op cho r sta hal hex =>
    obtain ⟨k, knew, may⟩ := s'.performer bds total
    obtain ⟨remains, hme⟩ := ps s s' holds ih knew may hal hex
    refine ⟨remains, fun t v kno => ?_⟩
    by_cases h : pf = t
    · subst h
      rw [Discipline.knows_performed_self, knew] at kno
      cases kno
      exact hme
    · rw [Discipline.knows_performed_ne h] at kno
      exact hoth s s' (.performed hal hex) (elsewhere_performed h) kno holds
        ih
  | @entered pa e sta hal had hst =>
    have step := Next.entered hal had hst
    refine ⟨enters s holds hst, fun t v kno => ?_⟩
    by_cases h : p.threads = t
    · subst h
      rw [Discipline.knows_entered_self] at kno
      refine starts s holds had ?_ hst kno
      rintro spawner rfl
      obtain ⟨k, knew, may⟩ := s'.spawner bds total
      exact ⟨k, ih _ _ knew, may⟩
    · by_cases hcd : pa = some t
      · subst hcd
        rw [Discipline.knows_entered_parent h, Option.map_eq_some_iff] at kno
        obtain ⟨pre, knew, rfl⟩ := kno
        have may := (s'.kept bds).1 t pre rfl knew
        exact forks s holds may hst (ih _ _ knew)
      · rw [Discipline.knows_entered_ne h hcd] at kno
        exact hoth s s' step elsewhere_entered kno holds ih
  | crashed _ hre =>
    exact ⟨crashes s holds hre, fun _ _ kno => by cases kno⟩

end Knowledge

theorem Reached.runs_below (hr : sys.Reached rule a p) {e : C}
    (runs : System.runs t p.trace = some e) : t < p.threads := by
  refine Reached.induction (motive := fun p =>
    ∀ {t e}, System.runs t p.trace = some e → t < p.threads) ?_ ?_
    hr runs
  · exact nofun
  intro p w _ _ next ih t e runs
  cases next with
  | performed _ _ => exact ih runs
  | entered _ _ _ =>
    by_cases h : p.threads = t
    · subst h
      exact Nat.lt_succ_self _
    · rw [runs_entered_ne h] at runs
      exact Nat.lt_succ_of_lt (ih runs)
  | crashed _ _ => cases runs

theorem Reached.knows_below (hr : sys.Reached rule a p)
    (hk : D.knows t p.trace = some k) : t < p.threads := by
  obtain ⟨e, _, runs, _⟩ := Discipline.runs_of_knows hk
  exact hr.runs_below runs

end Steps

end System

/-! ## How many threads know something -/

theorem countP_range_update {n : Nat} {s s' : Nat → Bool} {pl : Nat} (hi : pl < n)
    (h : ∀ ix < n, ix ≠ pl → s' ix = s ix) : (List.range n).countP s' + (s pl).toNat =
      (List.range n).countP s + (s' pl).toNat := by
  induction n with
  | zero => omega
  | succ n ih =>
    have last (hgd : Nat → Bool) : (List.range (n + 1)).countP hgd =
        (List.range n).countP hgd + (hgd n).toNat := by
      rw [List.range_succ, List.countP_append, List.countP_singleton]
      cases hgd n <;> rfl
    rw [last, last]
    by_cases hfin : pl = n
    · subst hfin
      have huc : (List.range pl).countP s' = (List.range pl).countP s := by
        apply List.countP_congr
        intro ix hm
        have hbl := List.mem_range.mp hm
        rw [h ix (Nat.lt_succ_of_lt hbl) (Nat.ne_of_lt hbl)]
      omega
    · have hpre := ih (by omega) fun ix hbl =>
        h ix (Nat.lt_succ_of_lt hbl)
      rw [h n (Nat.lt_succ_self n) (Ne.symm hfin)]
      omega

namespace Discipline

variable (D : Discipline S C Q) (holds : Q → Bool)

/-- The number of threads whose knowledge has the property. -/
def tally (past : System.Traced S C σ) : Nat :=
  (List.range past.threads).countP fun thread => (D.knows thread past.trace).any holds

variable {D} {holds} {p : System.Traced S C σ} {t : Nat}

variable {k : Q} {sta : σ}

theorem tally_pos (hbl : t < p.threads) (hk : D.knows t p.trace = some k) (has : holds k) :
    0 < D.tally holds p := by
  apply List.countP_pos_iff.mpr
  exact ⟨t, List.mem_range.mpr hbl, by simp [hk, has]⟩

theorem tally_mono {wider : Q → Bool} (implies : ∀ k, holds k → wider k) :
    D.tally holds p ≤ D.tally wider p := by
  apply List.countP_mono_left
  intro t _ has
  cases hk : D.knows t p.trace with
  | none => rw [hk] at has; cases has
  | some k =>
    rw [hk] at has
    exact implies k has

theorem tally_performed {op : S.Operation} {r : S.Response op} (hbl : t < p.threads) (hk : D.knows t p.trace = some k) :
    D.tally holds (p.perform t op r sta) + (holds k).toNat =
      D.tally holds p + (holds (D.after k op r)).toNat := by
  have hel (o : Nat) (_ : o < p.threads) (ne : o ≠ t) :
      (D.knows o (.performed t op r sta :: p.trace)).any holds =
        (D.knows o p.trace).any holds := by
    rw [knows_performed_ne (Ne.symm ne)]
  have hct := countP_range_update hbl hel
  simpa [tally, knows_performed_self, hk] using hct

theorem eq_of_tally_le_one {o : Nat} {v : Q} (hsg : D.tally holds p ≤ 1)
    (hbl : t < p.threads) (hk : D.knows t p.trace = some k)
    (has : holds k) (otherBelow : o < p.threads)
    (hok : D.knows o p.trace = some v) (otherHas : holds v) : t = o := by
  rw [tally, List.countP_eq_length_filter] at hsg
  have hm {ix : Nat} {v : Q} (hbl : ix < p.threads)
      (hk : D.knows ix p.trace = some v) (has : holds v) :
      ix ∈ (List.range p.threads).filter fun t => (D.knows t p.trace).any holds :=
    List.mem_filter.mpr ⟨List.mem_range.mpr hbl, by simp [hk, has]⟩
  have here := hm hbl hk has
  have ht := hm otherBelow hok otherHas
  match hct : (List.range p.threads).filter fun t => (D.knows t p.trace).any holds with
  | [] => rw [hct] at here; cases here
  | [only] =>
    rw [hct, List.mem_singleton] at here ht
    exact here.trans ht.symm
  | _ :: _ :: _ =>
    rw [hct] at hsg
    simp at hsg

theorem tally_entered {pa : Option Nat} {e : C}
    (spawning : pa.isSome → ∀ k, holds (D.afterFork k e) = holds k) :
    D.tally holds (p.enter pa e sta) = D.tally holds p + ((D.start e).any holds).toNat := by
  unfold tally
  rw [List.range_succ, List.countP_append, List.countP_singleton, knows_entered_self]
  congr 1
  · apply List.countP_congr
    intro o hm
    have ne : p.threads ≠ o := Nat.ne_of_gt (List.mem_range.mp hm)
    by_cases hcd : pa = some o
    · subst hcd
      rw [knows_entered_parent ne]
      cases D.knows o p.trace with
      | none => rfl
      | some k => simp [spawning rfl]
    · rw [knows_entered_ne ne hcd]
  · cases (D.start e).any holds <;> rfl

theorem tally_forked {cd : C} (hbl : t < p.threads) (hk : D.knows t p.trace = some k) :
    D.tally holds (p.enter (some t) cd sta) + (holds k).toNat =
      D.tally holds p + (holds (D.afterFork k cd)).toNat + ((D.start cd).any holds).toNat := by
  have hel (o : Nat) (hi : o < p.threads) (hano : o ≠ t) :
      (D.knows o (.entered (some t) p.threads cd sta :: p.trace)).any holds =
        (D.knows o p.trace).any holds := by
    rw [knows_entered_ne (Nat.ne_of_gt hi) fun he => hano (Option.some.inj he).symm]
  have hct := countP_range_update hbl hel
  rw [knows_entered_parent (Nat.ne_of_gt hbl), hk] at hct
  have last : D.tally holds (p.enter (some t) cd sta) =
      (List.range p.threads).countP (fun o => (D.knows o
        (.entered (some t) p.threads cd sta :: p.trace)).any holds) +
        ((D.start cd).any holds).toNat := by
    unfold tally
    rw [List.range_succ, List.countP_append, List.countP_singleton, knows_entered_self]
    cases (D.start cd).any holds <;> rfl
  simp only [Option.any_some, Option.map_some] at hct
  rw [last]
  unfold tally
  omega

theorem tally_crashed : D.tally holds (p.crash sta) = 0 := by
  apply List.countP_eq_zero.mpr
  intro o _
  simp [knows]

/-- A count of the state that moves with what the threads know is their number.  A
    thread that starts another hands over what it counts for, or keeps it. -/
theorem tally_eq_of_reached {sys : System S C σ κ}
    {rule : System.Action S C κ → System.Traced S C σ → Bool} {a : σ}
    (bds : ∀ {e k}, D.start e = some k → D.Follows (sys.body e) (fun _ _ => True) k)
    (total : ∀ e, ∃ k, D.start e = some k) (measure : σ → Nat) (hb : measure a = 0)
    (ps : ∀ {p : System.Traced S C σ} {t op cho r sta k},
      sys.Reached rule a p → D.knows t p.trace = some k →
      D.may k op → (holds k → 0 < measure p.state) → sys.execute t op cho p.state = some (r, sta) →
      measure sta + (holds k).toNat = measure p.state + (holds (D.after k op r)).toNat)
    (enters : ∀ {pa t e sta w}, sys.enter pa t e sta = some w → measure w = measure sta)
    (starts : ∀ {e sta}, sys.admits e sta → (D.start e).any holds = false)
    (forks : ∀ {k child}, D.mayFork k child →
      (holds (D.afterFork k child)).toNat + ((D.start child).any holds).toNat = (holds k).toNat)
    (crashes : ∀ {sta w}, sys.restart sta = some w → measure w = 0)
    (hr : sys.Reached rule a p) : D.tally holds p = measure p.state := by
  refine System.Reached.induction ?_ ?_ hr
  · exact hb.symm
  intro p w s s' next ih
  cases next with
  | @performed t op cho r sta hal hex =>
    obtain ⟨k, hk, may⟩ := s'.performer bds total
    have hbl := s.knows_below hk
    have hct : D.tally holds (p.perform t op r sta) +
          (holds k).toNat =
        D.tally holds p + (holds (D.after k op r)).toNat :=
      tally_performed hbl hk
    have hpos (has : holds k) : 0 < measure p.state := by
      rw [← ih]
      exact tally_pos hbl hk has
    have moved := ps s hk may hpos hex
    show D.tally holds (p.perform t op r sta) = measure sta
    omega
  | @entered pa e sta hal had hst =>
    have huc := enters hst
    show D.tally holds (p.enter pa e sta) = measure sta
    cases pa with
    | none =>
      rw [tally_entered nofun, starts (had rfl), ih, huc]
      rfl
    | some t =>
      obtain ⟨k, hk, may⟩ := s'.spawner bds total
      have hct : D.tally holds (p.enter (some t) e sta) +
            (holds k).toNat =
          D.tally holds p + (holds (D.afterFork k e)).toNat +
            ((D.start e).any holds).toNat := tally_forked (s.knows_below hk) hk
      have moved := forks may
      omega
  | crashed _ hre => rw [tally_crashed, ← crashes hre]

end Discipline

end AISummoner.Concurrency
