import AISummoner.Agent.Registration
import AISummoner.Agent.CallHistory

/-! # The session of a Turn

From the moment `BeginAgentTurn` has set a session to `running` until a final
state is asked for, the Turn is *engaged*.  While it is, the row of its session
is there and is not settled, and while its Adapter runs the Turn is engaged.
-/

namespace AISummoner.Agent

open Concurrency Concurrency.Discipline Store AISummoner.Runtime App

/-- The thread holds the Turn, and the session was set to `running` for it. -/
def TurnKnowledge.Engaged (known : TurnKnowledge) (sessionID : String) (turn : Nat) : Prop :=
  known.held = some (.turn sessionID turn) ∧ known.begun = true ∧ known.ended = false

/-- The row of a session is there, and no request may settle, archive or delete it. -/
def Busy (db : Db) (sessionID : String) : Prop :=
  ∃ row, db.agentSessions.get sessionID = some row ∧ row.state.settled = false

/-! ## One operation of the holder -/

/-- The operations that have to do with where a Turn stands. -/
def engages : Operation → Bool
  | .store _ _ (.beginTurn ..) | .store _ _ (.updateAgentSessionState ..)
  | .agent (.beginRun ..) | .agent (.endRun _) => true
  | operation => registers operation

/-- Where the Turn of a thread stands is as it was. -/
structure TurnKnowledge.Stands (known later : TurnKnowledge) : Prop where
  held : later.held = known.held
  begun : later.begun = known.begun
  ended : later.ended = known.ended
  running : later.running = known.running

variable {sid : String} {turn : Nat} {kn : TurnKnowledge} {op : Operation}
  {r : op.Response}

theorem stands_after (hq : engages op = false) : kn.Stands (kn.after op r) := by
  have h : kn.Stands kn := ⟨rfl, rfl, rfl, rfl⟩
  cases op with
  | store _ site stm =>
    cases stm with
    | agentSessionByOwner =>
      cases r with
      | ok => cases site <;> exact ⟨rfl, rfl, rfl, rfl⟩
      | error => exact ⟨rfl, rfl, rfl, rfl⟩
    | createAgentMessage =>
      cases r with
      | ok => exact ⟨rfl, rfl, rfl, rfl⟩
      | error => exact h
    | beginTurn | updateAgentSessionState => cases hq
    | _ => exact h
  | agent op =>
    cases op with
    | reserveTurn | releaseTurn | reserveSessionConfiguration | releaseSessionConfiguration
    | beginRun | endRun => cases hq
    | beginMutation =>
      cases r with
      | ok => exact h
      | error => exact ⟨rfl, rfl, rfl, rfl⟩
    | transcript | publish => exact ⟨rfl, rfl, rfl, rfl⟩
    | _ => exact h
  | observe obs =>
    cases obs with
    | publishing => exact ⟨rfl, rfl, rfl, rfl⟩
    | _ => exact h
  | _ => exact h

theorem TurnKnowledge.Stands.engaged {k' : TurnKnowledge} (stands : kn.Stands k') :
    k'.Engaged sid turn ↔ kn.Engaged sid turn := by
  unfold TurnKnowledge.Engaged
  rw [stands.held, stands.begun, stands.ended]

theorem engaged_before (may : kn.may op) (eg : (kn.after op r).Engaged sid turn) :
    (kn.Engaged sid turn ∧ ∀ ctx site ow name st now,
        op ≠ .store ctx site (.updateAgentSessionState ow name st now)) ∨
      ∃ ctx site ow now, op = .store ctx site (.beginTurn ow sid now) ∧
        HEq r (.ok 1 : Except StoreError Nat) := by
  cases hq : engages op with
  | false =>
    refine .inl ⟨(stands_after hq).engaged.mp eg, ?_⟩
    rintro ctx site ow name st now rfl
    cases hq
  | true =>
    obtain ⟨held, hbg, hue⟩ := eg
    cases op with
    | store ctx site stm =>
      cases stm with
      | updateAgentSessionState => cases hue
      | beginTurn ow name now =>
        obtain ⟨⟨n, hh⟩, hfr, _⟩ := may
        cases r with
        | error => exact .inl ⟨⟨held, hbg, hue⟩, by simp⟩
        | ok af =>
          have one : af = 1 := by simpa [TurnKnowledge.after, TurnKnowledge.afterStore, hfr]
            using hbg
          have h : some (Holding.turn name n) = some (.turn sid turn) := hh.symm.trans held
          cases h
          subst one
          exact .inr ⟨_, _, _, _, rfl, .rfl⟩
      | _ => cases hq
    | agent op =>
      cases op with
      | reserveTurn =>
        cases r with
        | ok => cases hbg
        | error => exact .inl ⟨⟨held, hbg, hue⟩, by simp⟩
      | reserveSessionConfiguration =>
        cases r with
        | ok => cases held
        | error => exact .inl ⟨⟨held, hbg, hue⟩, by simp⟩
      | releaseTurn | releaseSessionConfiguration => cases held
      | beginRun | endRun => exact .inl ⟨⟨held, hbg, hue⟩, by simp⟩
      | _ => cases hq
    | _ => cases hq

theorem running_after (may : kn.may op) (eg : kn.Engaged sid turn) (hrn : kn.running) :
    op = .agent (.endRun turn) ∨ ((kn.after op r).Engaged sid turn ∧ (kn.after op r).running) := by
  cases hq : engages op with
  | false =>
    have stands : kn.Stands (kn.after op r) := stands_after hq
    exact .inr ⟨stands.engaged.mpr eg, stands.running.trans hrn⟩
  | true =>
    obtain ⟨held, hbg, _⟩ := eg
    cases op with
    | store _ _ stm =>
      cases stm with
      | updateAgentSessionState =>
        have idle : kn.running = false := may.1
        rw [idle] at hrn
        cases hrn
      | beginTurn =>
        have hfr : kn.begun = false := may.2.1
        rw [hfr] at hbg
        cases hbg
      | _ => cases hq
    | agent op =>
      cases op with
      | reserveTurn =>
        have idle : kn.held = none := may.1
        rw [idle] at held
        cases held
      | reserveSessionConfiguration =>
        have idle : kn.held = none := may
        rw [idle] at held
        cases held
      | releaseTurn =>
        have idle : kn.running = false := may.1
        rw [idle] at hrn
        cases hrn
      | releaseSessionConfiguration =>
        have ho : kn.held = some (.configuration _) := may
        rw [ho] at held
        cases held
      | beginRun =>
        have idle : kn.running = false := may.2.2.2.1
        rw [idle] at hrn
        cases hrn
      | endRun n =>
        obtain ⟨_, _, again⟩ := may
        rw [again] at held
        cases held
        exact .inl rfl
      | _ => cases hq
    | _ => cases hq

variable {t : Nat} {v : Turn} {ctx : Context} {site : Site} {st : SessionState}
  {now : Time}

section Facts

variable {rule : Step → History → Bool} {cfg : Configuration} {db : Db}
  {past w : History}

def Conducts (past : History) (thread : Nat) (sessionID : String) (turn : Nat) : Prop :=
  ∃ known, turnDiscipline.knows thread past.trace = some known ∧
    known.Engaged sessionID turn ∧ known.running = true

theorem Conducts.next (conducts : Conducts past t sid turn) (s : Reached rule cfg db past)
    (s' : Reached rule cfg db w) (next : Next rule past w) :
    w.trace = .crashed w.state :: past.trace ∨
      (∃ oc, w.trace = .performed t (.agent (.endRun turn)) oc w.state :: past.trace) ∨
      Conducts w t sid turn := by
  obtain ⟨_, hk, heg, hrn⟩ := conducts
  have hbl := s.knows_below hk
  rcases s'.keeps turn_bodies_kept next hbl hk with
    crashed | ⟨k', knowsLater, ch⟩
  · exact .inl crashed
  rcases ch with h | ⟨_, may, rfl⟩ | ⟨_, r, may, rcd, rfl⟩
  · subst h
    exact .inr (.inr ⟨_, knowsLater, heg, hrn⟩)
  · -- a Turn is handed over before its Adapter runs
    obtain ⟨_, _, _, _, _, _, _, _, _, _, _, idle⟩ := may
    rw [idle] at hrn
    cases hrn
  · rcases running_after may heg hrn with rfl | kept
    · exact .inr (.inl ⟨r, rcd⟩)
    · exact .inr (.inr ⟨_, knowsLater, kept⟩)

theorem conducts_of_active (hr : Reached rule cfg db past)
    (hl : past.state.agent.turns[turn]? = some v) (hac : v.active) :
    ∃ t, Conducts past t v.sessionID turn := by
  suffices every : ∀ turn v, past.state.agent.turns[turn]? = some v →
      v.active → ∃ t, Conducts past t v.sessionID turn from
    every turn v hl hac
  refine Reached.induction ?_ ?_ hr
  · intro turn v hl
    cases hl
  intro past w s s' next ih turn v hl hac
  -- a Turn that was active before still has its goroutine
  have hgo {pre : Turn} (hf : past.state.agent.turns[turn]? = some pre)
      (was : pre.active) (h : v.sessionID = pre.sessionID)
      (hal : w.trace ≠ .crashed w.state :: past.trace)
      (still : ∀ t oc, w.trace ≠ .performed t (.agent (.endRun turn)) oc w.state :: past.trace) :
      ∃ t, Conducts w t v.sessionID turn := by
    obtain ⟨t, conducts⟩ := ih turn pre hf was
    rcases conducts.next s s' next with crashed | ⟨oc, hed⟩ | kept
    · exact absurd crashed hal
    · exact absurd hed (still t oc)
    · exact ⟨t, h ▸ kept⟩
  cases next.turn hl with
  | reserved _ _ he =>
    subst he
    cases hac
  | kept hf hal hut =>
    exact hgo hf hac rfl hal fun t oc hrcd => hut hrcd .endRun
  | @stepped pf _ r _ pre hrcd step hf he =>
    subst he
    have hal : w.trace ≠ .crashed w.state :: past.trace := by simp [hrcd]
    cases step with
    | @beginRun _ ses tg =>
      obtain ⟨kn, hk, held, hbg, hue, _⟩ := registrar_of_performed s' hrcd rfl (by simp)
      obtain ⟨_, hl, hn⟩ := (registry_of_reached s).located ⟨kn, hk, held⟩
      rw [hf] at hl
      cases hl
      refine ⟨pf, kn.after (.agent (.beginRun turn ses tg)) (), ?_, ⟨?_, hbg, hue⟩, rfl⟩
      · rw [hrcd, knows_performed_self, hk]
        rfl
      · exact held.trans (by rw [← hn]; rfl)
    | endRun => cases hac
    | _ => exact hgo hf hac rfl hal (by simp [hrcd])
  | invoked hrcd hf he | emitted hrcd hf he =>
    subst he
    refine hgo hf hac rfl ?_ ?_ <;> simp [hrcd]
  | crashed _ _ he =>
    subst he
    cases hac

/-! ## The row of an engaged Turn -/

theorem Busy.next (busy : Busy past.state.db sid) (next : Next rule past w) :
    Busy w.state.db sid ∨ ∃ t ctx site ow st now r, w.trace = .performed t
        (.store ctx site (.updateAgentSessionState ow sid st now)) r
        w.state :: past.trace ∧ st.settled := by
  obtain ⟨row, hf, hus⟩ := busy
  rcases next.writes with h | ⟨t, ctx, site, _, r, v, rcd, ha⟩
  · exact .inl ⟨row, by rw [h]; exact hf, hus⟩
  have ch := session_change ha sid
  rw [hf] at ch
  generalize hl : w.state.db.agentSessions.get sid = after at ch
  cases ch with
  | kept => exact .inl ⟨row, hl, hus⟩
  | approvalMode hse _ | archived hse _ | deleted hse _ | begun hse _ =>
    rw [hus] at hse
    cases hse
  | @state ow st now _ _ _ =>
    cases fin : st.settled with
    | false => exact .inl ⟨_, hl, fin⟩
    | true =>
      have hky : row.id = sid := Relational.Table.key_of_get hf
      subst hky
      exact .inr ⟨t, ctx, site, ow, st, now, r, rcd, fin⟩
  | externalID | upgraded => exact .inl ⟨_, hl, hus⟩
  | unpaired => exact .inl ⟨_, hl, rfl⟩

theorem settler_of_performed {ow : String} {r : Except StoreError Unit} {wd : World}
    {tr : Trace} (hr : Reached rule cfg db w) (hrcd : w.trace = .performed t
      (.store ctx site (.updateAgentSessionState ow sid st now)) r wd :: tr) (fin : st.settled) :
    ∃ kn, turnDiscipline.knows t tr = some kn ∧
      kn.may (.store ctx site (.updateAgentSessionState ow sid st now)) := by
  obtain ⟨_, _, _⟩ := w
  subst hrcd
  obtain ⟨g, runs, hal⟩ := hr.performer
  have role : g.role = .startTurn ∨ g.role = .runTurn ∨ g.role = .invoke := by
    simpa [Role.mayPerform, performers, statementPerformers] using hal
  by_cases invokes : g.role = .invoke
  · -- a tool call asks for the two other states
    obtain ⟨_, _, _, rfl⟩ := invoke_of_role invokes
    obtain ⟨kn, hk⟩ := knows_of_runs (D := callDiscipline) runs rfl
    obtain ⟨_, _, _, _, _, _, _, _, o⟩ := (hr.kept call_bodies).1 kn hk
    rcases o with rfl | rfl <;> cases fin
  · have registrar : g.role ∈ [Role.startTurn, .runTurn, .configuration] := by
      rcases role with h | h | h
      · simp [h]
      · simp [h]
      · exact absurd h invokes
    obtain ⟨a, hb⟩ := registrar_starts registrar
    obtain ⟨kn, hk⟩ := knows_of_runs (D := turnDiscipline) runs hb
    exact ⟨kn, hk, (hr.kept turn_bodies_kept).1 kn hk⟩

theorem beginTurn_busy {ow : String} {s s' : Db}
    (ha : beginTurn ow sid now s = .ok (1, s')) : Busy s' sid := by
  have one := congrArg Prod.fst (Except.ok.inj ha)
  obtain ⟨_, _, _, hw⟩ := updateSession_written one
  rw [congrArg Prod.snd (Except.ok.inj ha)] at hw
  exact ⟨_, hw, rfl⟩

def EngagedBy (past : History) (thread : Nat) (sessionID : String) (turn : Nat) : Prop :=
  ∃ known, turnDiscipline.knows thread past.trace = some known ∧ known.Engaged sessionID turn

section Busy

variable {spared : String → Prop}
  (registries : ∀ {past}, Reached rule cfg db past → Registry spared past)
include registries

/-- Only the holder of a session's Turn asks for its final state. -/
theorem settler_is_holder {settler : Nat} {ow : String} {r : Except StoreError Unit}
    (s : Reached rule cfg db past) (s' : Reached rule cfg db w)
    (holder : Holder past t (.turn sid turn)) (kept : spared sid)
    (hrcd : w.trace = .performed settler
      (.store ctx site (.updateAgentSessionState ow sid st now)) r
      w.state :: past.trace) (fin : st.settled) : settler = t := by
  obtain ⟨kn, hk, _, names, _⟩ := settler_of_performed s' hrcd fin
  obtain ⟨n, held⟩ := (informed_of_reached s hk).holds names
  have hreg := registries s
  have ho : Holder past settler (.turn sid n) := ⟨kn, hk, held⟩
  cases hreg.single (hreg.recorded ho kept) (hreg.recorded holder kept) rfl
  exact hreg.alone ho holder kept

theorem busy_of_engaged (hr : Reached rule cfg db past)
    (eg : EngagedBy past t sid turn) (kept : spared sid) : Busy past.state.db sid := by
  suffices every : ∀ t turn, EngagedBy past t sid turn → Busy past.state.db sid from every t turn eg
  refine Reached.induction ?_ ?_ hr
  · rintro t turn ⟨_, k, _⟩
    cases k
  intro past w s s' next ih t turn eg
  obtain ⟨k', k, eg⟩ := eg
  have hst := next
  cases next with
  | @performed pf _ _ r _ hal ran =>
    by_cases h : pf = t
    · subst h
      rw [knows_performed_self, Option.map_eq_some_iff] at k
      obtain ⟨kn, knew, rfl⟩ := k
      rcases engaged_before ((s'.kept turn_bodies_kept).1 kn knew) eg with
        ⟨eg, hus⟩ | ⟨ctx, site, ow, now, rfl, he⟩
      · rcases (ih pf turn ⟨kn, knew, eg⟩).next hst with
          busy | ⟨_, ctx, site, ow, st, now, _, rcd, _⟩
        · exact busy
        · cases rcd
          exact absurd rfl (hus ctx site ow sid st now)
      · cases he
        exact beginTurn_busy (Transaction.run_ok (perform_store ran).1)
    · rw [knows_performed_ne h] at k
      rcases (ih t turn ⟨k', k, eg⟩).next hst with
        busy | ⟨settler, _, _, _, _, _, _, rcd, fin⟩
      · exact busy
      have hho : Holder past t (.turn sid turn) := ⟨k', k, eg.1⟩
      have settles := settler_is_holder registries s s' hho kept rcd fin
      cases rcd
      exact absurd settles h
  | @entered pa g hal had =>
    change Busy (enter _ _ _).db sid
    rw [enter_db]
    by_cases new : past.threads = t
    · subst new
      rw [knows_entered_self] at k
      cases g with
      | runTurn n _ _ _ _ =>
        cases k
        cases eg.1
        obtain ⟨giver, kn, _, knew, hhd⟩ := handed_over s s' had
        exact ih giver turn ⟨kn, knew, hhd⟩
      | startTurn | sessionModels | selectSessionModel =>
        cases k
        cases eg.1
      | _ => cases k
    · by_cases hcd : pa = some t
      · subst hcd
        rw [knows_entered_parent new, Option.map_eq_some_iff] at k
        obtain ⟨kn, _, rfl⟩ := k
        cases eg.1
      · rw [knows_entered_ne new hcd] at k
        exact ih t turn ⟨k', k, eg⟩
  | crashed _ => cases k

/-- While an Adapter runs, the row of its session is busy. -/
theorem busy_of_active (hr : Reached rule cfg db past)
    (hl : past.state.agent.turns[turn]? = some v) (hac : v.active)
    (kept : spared v.sessionID) : Busy past.state.db v.sessionID := by
  obtain ⟨t, kn, hk, heg, _⟩ := conducts_of_active hr hl hac
  exact busy_of_engaged registries hr ⟨kn, hk, heg⟩ kept

end Busy

end Facts

end AISummoner.Agent
