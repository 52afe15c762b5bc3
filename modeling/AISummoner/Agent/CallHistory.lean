import AISummoner.Agent.InvokeConduct
import AISummoner.Store.ToolCallLifecycle

/-! # Tool calls in the history of the server

What the knowledge of a call means for the database: a row it has read was
there, the identifier of the call is its own, and its row is inserted once.  So
the rows of one identifier are one row at different times.
-/

namespace AISummoner.Agent

open Concurrency Concurrency.Discipline Store AISummoner.Runtime App

/-- The row was in the database at some moment of the past. -/
def Seen (trace : Trace) (row : ToolCall) : Prop :=
  ∃ entry ∈ trace, entry.state.db.toolCalls.get row.id = some row

variable {row : ToolCall} {w : History} {op : Operation}
  {r : op.Response} {id : String} {t : Nat}

theorem Seen.cons {tr : Trace} (seen : Seen tr row) (e : HistoryEntry) : Seen (e :: tr) row := by
  obtain ⟨pre, hm, hf⟩ := seen
  exact ⟨pre, List.mem_cons_of_mem e hm, hf⟩

theorem seen_head {tr : Trace} {e : HistoryEntry}
    (hf : e.state.db.toolCalls.get id = some row) : Seen (e :: tr) row := by
  have hky : row.id = id := Relational.Table.key_of_get hf
  exact ⟨e, List.mem_cons_self, by rw [hky]; exact hf⟩

theorem Seen.suffix {tr pre : Trace} (seen : Seen pre row) (hwi : pre <:+ tr) : Seen tr row := by
  obtain ⟨e, hm, hf⟩ := seen
  exact ⟨e, hwi.subset hm, hf⟩

theorem Seen.cases_next {rule : Step → History → Bool} {p : History}
    (next : Next rule p w) (seen : Seen w.trace row) :
    w.state.db.toolCalls.get row.id = some row ∨ Seen p.trace row := by
  obtain ⟨e, hrcd, led⟩ := next.trace
  obtain ⟨o, hm, hf⟩ := seen
  rw [hrcd] at hm
  rcases List.mem_cons.mp hm with rfl | pre
  · exact .inl (led ▸ hf)
  · exact .inr ⟨o, pre, hf⟩

theorem mem_identifiers_of_toolCall {db : Db} (hf : db.toolCalls.get id = some row) :
    id ∈ db.identifiers := by
  have hky : row.id = id := Relational.Table.key_of_get hf
  have hm := List.mem_map_of_mem (f := ToolCall.id) (Relational.Table.mem_of_get hf)
  rw [hky] at hm
  exact List.mem_append_left _ (List.mem_append_right _ hm)

/-! ## What a call knows is so -/

structure Backed (trace : Trace) (thread : Nat) (known : CallKnowledge) : Prop where
  named : ∀ {id}, known.named = some id → Minted trace "tool" thread id
  inserted : ∀ {row}, known.inserted = some row → known.named = some row.id
  acknowledged : known.acknowledged = true → ∃ row, known.inserted = some row ∧ Seen trace row
  rows : ∀ row ∈ known.rows, known.named = some row.id ∧ Seen trace row
  aborted : known.aborted = true → ∃ row, known.named = some row.id ∧ row.status = .failed ∧
    row.decision = none ∧ Seen trace row
  started : known.started = true → ∃ row, known.named = some row.id ∧ row.status = .started ∧
    Seen trace row
  finished : ∀ {status}, known.finished = some status → ∃ row, known.named = some row.id ∧
    row.status = status ∧ (status, row.exitCode) ∈ known.aims ∧ Seen trace row

namespace Backed

variable {tr : Trace} {t : Nat} {k : CallKnowledge}

theorem cons (hbk : Backed tr t k) (e : HistoryEntry) : Backed (e :: tr) t k where
  named same := (hbk.named same).cons e
  inserted := hbk.inserted
  acknowledged holds := by
    obtain ⟨row, hgi, seen⟩ := hbk.acknowledged holds
    exact ⟨row, hgi, seen.cons e⟩
  rows row member := (hbk.rows row member).imp_right fun seen => seen.cons e
  aborted holds := by
    obtain ⟨row, own, sts, dec, seen⟩ := hbk.aborted holds
    exact ⟨row, own, sts, dec, seen.cons e⟩
  started holds := by
    obtain ⟨row, own, sts, seen⟩ := hbk.started holds
    exact ⟨row, own, sts, seen.cons e⟩
  finished holds := by
    obtain ⟨row, own, sts, aimed, seen⟩ := hbk.finished holds
    exact ⟨row, own, sts, aimed, seen.cons e⟩

theorem saw (hbk : Backed tr t k) {site : Site} (own : k.named = some row.id)
    (seen : Seen tr row) : Backed tr t (k.saw site row) where
  named := hbk.named
  inserted := hbk.inserted
  acknowledged := hbk.acknowledged
  rows := by
    intro o hm
    rcases List.mem_cons.mp hm with rfl | pre
    · exact ⟨own, seen⟩
    · exact hbk.rows o pre
  aborted := hbk.aborted
  started := hbk.started
  finished := hbk.finished

theorem aimed (hbk : Backed tr t k) (aim : ToolStatus × Option Int) :
    Backed tr t { k with aims := aim :: k.aims } where
  named := hbk.named
  inserted := hbk.inserted
  acknowledged := hbk.acknowledged
  rows := hbk.rows
  aborted := hbk.aborted
  started := hbk.started
  finished holds := by
    obtain ⟨row, own, sts, made, seen⟩ := hbk.finished holds
    exact ⟨row, own, sts, List.mem_cons_of_mem _ made, seen⟩

theorem of_same {k' : CallKnowledge} (hbk : Backed tr t k) (h : k' = { k' with
      named := k.named, inserted := k.inserted, acknowledged := k.acknowledged
      rows := k.rows, aborted := k.aborted, started := k.started
      finished := k.finished, aims := k.aims }) : Backed tr t k' := by
  rw [h]
  exact ⟨hbk.named, hbk.inserted, hbk.acknowledged, hbk.rows, hbk.aborted,
    hbk.started, hbk.finished⟩

end Backed

section Own

variable {tr : Trace} {t : Nat} {k : CallKnowledge} {ctx : Context} {site : Site}
  {wd w : World}

theorem backed_statement {stm : Statement} {cho : Choice}
    {r : Except StoreError stm.Result} (hbk : Backed tr t k) (may : k.mayStore stm)
    (ran : perform t (.store ctx site stm) cho wd = some (r, w)) :
    Backed (.performed t (.store ctx site stm) r w :: tr) t (k.afterStore site stm r) := by
  have hst := (perform_store ran).1
  have hs := hbk.cons (.performed t (.store ctx site stm) r w)
  have ha {v : stm.Result} (ok : r = .ok v) :
      stm.body wd.db = .ok (v, w.db) := by
    rw [ok] at hst
    exact Transaction.run_ok hst
  cases stm with
  | createAgentToolCall ow row =>
    obtain ⟨_, _, ses, _, args, cid, now, hn, _, _, _, _, rfl⟩ := may
    refine { hs with inserted := ?_, acknowledged := ?_ }
    · intro row hgi
      have is : Service.newToolCall cid ses args now = row := Option.some.inj hgi
      subst is
      exact hn
    · intro hack
      cases r with
      | error err => cases hack
      | ok v =>
        -- the columns the INSERT leaves NULL are not set in a new call either
        obtain ⟨_, _, toolCalls, hins, hw⟩ := createAgentToolCall_ok (ha rfl)
        have hf : w.db.toolCalls.get cid =
            some (Service.newToolCall cid ses args now) := by
          rw [hw, Relational.Table.get_of_insert? hins]
          exact if_pos rfl
        exact ⟨_, rfl, seen_head hf⟩
  | agentToolCallByOwner ow cid =>
    cases r with
    | error err => exact hs.of_same rfl
    | ok row =>
      obtain ⟨h, hf, _⟩ := agentToolCallByOwner_ok (ha rfl)
      rw [← h] at hf
      have hky : row.id = cid := Relational.Table.key_of_get hf
      refine hs.saw ?_ (seen_head hf)
      rw [hky]
      exact may.2
  | failPendingToolCall ow cid exc now =>
    cases r with
    | error err => exact hs.of_same rfl
    | ok af =>
      refine { hs with aborted := ?_ }
      intro hh
      by_cases one : af = 1
      · obtain ⟨_, h⟩ := failPendingToolCall_ok (ha rfl)
        rw [Prod.mk.injEq] at h
        obtain ⟨row, _, hud, hw⟩ := updateToolCall_written (h.1.symm.trans one)
        rw [← h.2] at hw
        have hky := Relational.Table.key_of_get hw
        refine ⟨_, ?_, ?_, ?_, seen_head hw⟩
        · rw [hky]
          exact may.2
        · rfl
        · exact (ToolCall.undecided_iff.mp hud).2
      · have hpre : k.aborted := by simpa [CallKnowledge.afterStore, one] using hh
        exact hs.aborted hpre
  | startToolCall ow cid =>
    cases r with
    | error err => exact hs.of_same rfl
    | ok af =>
      refine { hs with started := ?_ }
      intro hh
      by_cases one : af = 1
      · have h := Except.ok.inj (ha rfl)
        rw [Prod.mk.injEq] at h
        obtain ⟨row, _, _, hw⟩ := updateToolCall_written (h.1.trans one)
        rw [h.2] at hw
        have hky := Relational.Table.key_of_get hw
        refine ⟨_, ?_, ?_, seen_head hw⟩
        · rw [hky]
          exact may.1.2
        · rfl
      · have hpre : k.started := by simpa [CallKnowledge.afterStore, one] using hh
        exact hs.started hpre
  | finishToolCall ow cid sts code exc now =>
    cases r with
    | error err => exact (hs.aimed (sts, code)).of_same rfl
    | ok af =>
      refine { hs.aimed (sts, code) with finished := ?_ }
      intro ed hh
      by_cases one : af = 1
      · have is : sts = ed := by simpa [CallKnowledge.afterStore, one] using hh
        subst is
        obtain ⟨_, _, h⟩ := finishToolCall_ok (ha rfl)
        rw [Prod.mk.injEq] at h
        obtain ⟨row, _, _, hw⟩ := updateToolCall_written (h.1.symm.trans one)
        rw [← h.2] at hw
        have hky := Relational.Table.key_of_get hw
        refine ⟨_, ?_, ?_, ?_, seen_head hw⟩
        · rw [hky]
          exact may.1.2
        · rfl
        · exact List.mem_cons_self
      · have hpre : k.finished = some ed := by
          simpa [CallKnowledge.afterStore, one] using hh
        exact (hs.aimed (sts, code)).finished hpre
  | updateAgentSessionState => exact hs.of_same rfl
  | _ => exact hs

theorem backed_agent {op : AgentOperation} {r : op.Response}
    (hbk : Backed tr t k) : Backed tr t (k.afterAgent op r) := by
  cases op with
  | acquireGate turn ctx | installPending cid pnd =>
    cases r with
    | error _ => exact hbk
    | ok _ => exact hbk.of_same rfl
  | releaseGate | endInvoke | invoker | sendDecision | publish => exact hbk.of_same rfl
  | _ => exact hbk

theorem backed_observation {obs : Observation} (hbk : Backed tr t k) :
    Backed tr t (k.afterObservation obs) := by
  cases obs with
  | publishing | exec => exact hbk.of_same rfl
  | _ => exact hbk

theorem backed_own {cho : Choice} (hbk : Backed tr t k) (may : k.may op)
    (ran : perform t op cho wd = some (r, w)) : Backed (.performed t op r w :: tr) t
      (k.after op r) := by
  have hs := hbk.cons (.performed t op r w)
  cases op with
  | store _ _ _ => exact backed_statement hbk may ran
  | agent op => exact backed_agent hs
  | observe _ => exact backed_observation hs
  | newID kind =>
    cases r with
    | none => exact hs
    | some id =>
      by_cases tool : kind = "tool"
      · subst tool
        -- nothing is known of a call that has no name yet
        have unnamed : k.named = none := (may rfl).2
        have nameless {o : String} : k.named ≠ some o := by simp [unnamed]
        refine ⟨?_, ?_, ?_, ?_, ?_, ?_, ?_⟩
        · intro o hgi
          have is : id = o := Option.some.inj hgi
          subst is
          exact ⟨w, List.mem_cons_self⟩
        · exact fun hgi => absurd (hs.inserted hgi) nameless
        · intro hh
          obtain ⟨row, hgi, _⟩ := hs.acknowledged hh
          exact absurd (hs.inserted hgi) nameless
        · exact fun row hm => absurd (hs.rows row hm).1 nameless
        · intro hh
          obtain ⟨row, own, _⟩ := hs.aborted hh
          exact absurd own nameless
        · intro hh
          obtain ⟨row, own, _⟩ := hs.started hh
          exact absurd own nameless
        · intro _ hh
          obtain ⟨row, own, _⟩ := hs.finished hh
          exact absurd own nameless
      · have kept : k.after (.newID kind) (some id) = k := by
          simp [CallKnowledge.after, tool]
        rw [kept]
        exact hs
  | _ => exact hs

end Own

section Facts

variable {rule : Step → History → Bool} {cfg : Configuration} {db : Db}
  {p : History}

theorem call_bodies {g : Goroutine} {k : CallKnowledge} (hb : callDiscipline.start g = some k) :
    callDiscipline.Follows (body g) (fun _ _ => True) k := by
  cases g with
  | invoke _ _ _ =>
    cases hb
    exact Service.invoke_follows
  | _ => cases hb

theorem backed_of_reached (hr : Reached rule cfg db p)
    {k : CallKnowledge} (hk : callDiscipline.knows t p.trace = some k) : Backed p.trace t k := by
  refine Reached.knowing call_bodies ?_ ?_ ?_ ?_ hr hk
  · intro p _ g k _ _ _ hb
    cases g with
    | invoke _ _ _ =>
      cases hb
      exact ⟨nofun, nofun, nofun, nofun, nofun, nofun, nofun⟩
    | _ => cases hb
  · intro p w t k _ _ next _ hbk
    obtain ⟨e, hrcd, _⟩ := next.trace
    rw [hrcd]
    exact hbk.cons e
  · intro p t _ _ r _ k _ _ may _ ran hbk
    exact backed_own hbk may ran
  · intro p w t k _ _ him
    exact him.elim

/-! ## One row per identifier -/

/-- A row of this identifier was found by the process, or the call that made the
    identifier has inserted it. -/
def Born (db : Db) (trace : Trace) (id : String) : Prop :=
  id ∈ db.identifiers ∨ ∃ thread, Minted trace "tool" thread id ∧
    ∀ known, callDiscipline.knows thread trace = some known → known.inserted.isSome = true

/-- A call keeps its name, and what it has done stays done. -/
structure CallKnowledge.Later (known later : CallKnowledge) : Prop where
  named : ∀ {id}, known.named = some id → later.named = some id
  inserted : known.inserted.isSome = true → later.inserted.isSome = true
  aims : ∀ aim ∈ known.aims, aim ∈ later.aims
  announced : known.announced = true → later.announced = true

theorem later_refl (k : CallKnowledge) : k.Later k :=
  ⟨fun h => h, fun h => h, fun _ h => h, fun h => h⟩

theorem later_after {k : CallKnowledge} (may : k.may op) : k.Later (k.after op r) := by
  have h := later_refl k
  have has {aim : ToolStatus × Option Int} {finished : Option ToolStatus} :
      k.Later { k with aims := aim :: k.aims, finished } :=
    { h with aims := fun _ hm => List.mem_cons_of_mem _ hm }
  cases op with
  | store _ _ stm =>
    cases stm with
    | createAgentToolCall => exact { h with inserted := fun _ => rfl }
    | finishToolCall =>
      cases r with
      | ok v | error err => exact has
    | agentToolCallByOwner | failPendingToolCall | startToolCall =>
      cases r with
      | ok v | error err => exact { h with }
    | _ => exact { h with }
  | agent op =>
    cases op with
    | acquireGate | installPending =>
      cases r with
      | ok v => exact { h with }
      | error err => exact h
    | _ => exact { h with }
  | observe obs =>
    cases obs with
    | publishing _ _ =>
      exact { h with announced := fun already => by simp [CallKnowledge.after,
        CallKnowledge.afterObservation, already] }
    | _ => exact { h with }
  | newID kind =>
    cases r with
    | none => exact h
    | some _ =>
      by_cases tool : kind = "tool"
      · -- a call is named once
        have unnamed : k.named = none := (may tool).2
        simp only [CallKnowledge.after, tool, if_true]
        exact { h with named := fun hn => by simp [unnamed] at hn }
      · simp only [CallKnowledge.after, tool, if_false]
        exact h
  | _ => exact h

theorem stable_of_minted {K : CallKnowledge → Prop}
    (stable : ∀ {k : CallKnowledge} {op : Operation} {r : op.Response},
      k.may op → K k → K (k.after op r)) (s : Reached rule cfg db p)
    (s' : Reached rule cfg db w) (next : Next rule p w) (mi : Minted p.trace "tool" t id)
    (hh : ∀ k, callDiscipline.knows t p.trace = some k → K k) :
    ∀ k', callDiscipline.knows t w.trace = some k' → K k' := by
  intro k' hk
  obtain ⟨_, hm⟩ := mi
  obtain ⟨k, knew, h | ⟨_, h⟩ | ⟨op, r, hrcd, h⟩⟩ := next.knew (s.performed_below hm) hk
  · exact h ▸ hh k knew
  · exact h ▸ hh k knew
  · have kept := s'.kept call_bodies
    rw [hrcd] at kept
    exact h ▸ stable (kept.1 k knew) (hh k knew)

theorem Born.next (born : Born db p.trace id) (s : Reached rule cfg db p)
    (s' : Reached rule cfg db w) (next : Next rule p w) : Born db w.trace id := by
  rcases born with initial | ⟨t, hmi, hins⟩
  · exact .inl initial
  refine .inr ⟨t, hmi.next next, ?_⟩
  apply stable_of_minted _ s s' next hmi hins
  intro k _ r may hgi
  exact (later_after may).inserted hgi

/-- Whoever has just done something that belongs to calls of `Invoke` knew what it takes. -/
theorem caller_of_performed {wd : World} {tr : Trace} (hr : Reached rule cfg db w)
    (hp : w.trace = .performed t op r wd :: tr) (how : performers op = some [.invoke]) :
    ∃ k, callDiscipline.knows t tr = some k ∧ k.may op := by
  obtain ⟨_, _, _⟩ := w
  subst hp
  obtain ⟨g, runs, role⟩ := hr.performer
  obtain ⟨_, _, _, rfl⟩ := invoke_of_role (by simpa [Role.mayPerform, how] using role)
  obtain ⟨k, hk⟩ := knows_of_runs (D := callDiscipline) runs rfl
  exact ⟨k, hk, (hr.kept call_bodies).1 k hk⟩

/-- Whoever inserts a row of a call is the call that made its identifier, and
    inserts it for the first time. -/
theorem inserts_unborn {ctx : Context} {site : Site} {ow : String}
    {r : Except StoreError Unit} (s : Reached rule cfg db p) (s' : Reached rule cfg db w)
    (inserts : w.trace = .performed t (.store ctx site (.createAgentToolCall ow row))
      r w.state :: p.trace) : ¬Born db p.trace row.id ∧ Born db w.trace row.id := by
  obtain ⟨k, hk, may⟩ := caller_of_performed s' inserts rfl
  obtain ⟨_, uninserted, _, _, _, _, _, hn, _, _, _, _, rfl⟩ := may
  have hmi := (backed_of_reached s hk).named hn
  refine ⟨?_, .inr ⟨t, ?_, ?_⟩⟩
  · rintro (initial | ⟨o, pre, ins⟩)
    · exact s.minted_new hmi initial
    · have h : o = t := s.chronicle.minted_once pre hmi
      subst h
      have hgi := ins k hk
      rw [uninserted] at hgi
      cases hgi
  · rw [inserts]
    exact hmi.cons _
  · intro _ knowsLater
    rw [inserts, knows_performed_self, hk] at knowsLater
    cases knowsLater
    rfl

/-- Where a row comes from: it was there and has grown, or it is the first of its identifier. -/
theorem row_origin {k' : ToolCall} (s : Reached rule cfg db p)
    (s' : Reached rule cfg db w) (next : Next rule p w)
    (hf : w.state.db.toolCalls.get id = some k') :
    (∃ row, p.state.db.toolCalls.get id = some row ∧ row.Grows k') ∨
      (¬Born db p.trace id ∧ Born db w.trace id) := by
  rcases next.writes with h | ⟨t, _, _, _, r, v, rcd, ha⟩
  · rw [h] at hf
    exact .inl ⟨k', hf, .refl k'⟩
  have ch := toolCall_change ha id
  rw [hf] at ch
  cases hpr : p.state.db.toolCalls.get id with
  | some row =>
    rw [hpr] at ch
    exact .inl ⟨row, rfl, grows_of_change ch⟩
  | none =>
    rw [hpr] at ch
    cases ch with
    | @created _ tc _ _ _ _ =>
      have hky : tc.id = id := (Relational.Table.key_of_get hf :)
      subst hky
      exact .inr (inserts_unborn s s' rcd)

/-- The rows of one identifier, at any two moments, are one row. -/
structure RowsPersist (db : Db) (past : History) : Prop where
  born : ∀ {id row}, past.state.db.toolCalls.get id = some row → Born db past.trace id
  seenBorn : ∀ {row}, Seen past.trace row → Born db past.trace row.id
  grows : ∀ {row later}, Seen past.trace row →
    past.state.db.toolCalls.get row.id = some later → row.Grows later

theorem rowsPersist_of_reached (hr : Reached rule cfg db p) : RowsPersist db p := by
  refine Reached.induction ?_ ?_ hr
  · have unseen {row : ToolCall} : ¬Seen [] row := fun ⟨_, hm, _⟩ => nomatch hm
    exact ⟨fun hf => .inl (mem_identifiers_of_toolCall hf), fun seen => absurd seen unseen,
      fun seen => absurd seen unseen⟩
  intro p w s s' next persist
  have born {id : String} {row : ToolCall} (hf : w.state.db.toolCalls.get id = some row) :
      Born db w.trace id := by
    rcases row_origin s s' next hf with ⟨pre, hl, _⟩ | ⟨_, now⟩
    · exact (persist.born hl).next s s' next
    · exact now
  refine ⟨born, fun seen => ?_, fun seen hf => ?_⟩
  · rcases seen.cases_next next with hpr | pre
    · exact born hpr
    · exact (persist.seenBorn pre).next s s' next
  · rcases seen.cases_next next with hpr | pre
    · rw [hpr] at hf
      cases hf
      exact .refl _
    · rcases row_origin s s' next hf with ⟨_, hl, grown⟩ | ⟨unborn, _⟩
      · exact (persist.grows pre hl).trans grown
      · exact absurd (persist.seenBorn pre) unborn

end Facts

end AISummoner.Agent
