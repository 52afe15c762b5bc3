import AISummoner.Agent.Engagement
import AISummoner.Agent.Approval

/-! # One Turn or one configuration at a time

`StartTurn` reads its session again after `BeginAgentTurn`; if that read fails,
its deferred `releaseTurn` names the zero session, and the registration stays.
As long as these reads succeed, the registries hold what some thread holds, and
nobody else removes it.
-/

namespace AISummoner.Agent

open Concurrency Store AISummoner.Runtime App

def rereadSucceeds (step : Step) (past : History) : Bool :=
  match step with
  | .perform _ (.store ctx .reread statement) choice =>
    (statement.body.run (past.state.storeFault ctx choice) past.state.db).1.isOk
  | _ => true

variable {known : TurnKnowledge} {thread : Nat} {holding : Holding} {sid : String}

section Facts

variable {cfg : Configuration} {db : Db} {p c' : History}

theorem lost_after {op : Operation} {r : op.Response} (lost : (known.after op r).lost) :
    known.lost ∨ ∃ ctx ow sid err, op = .store ctx .reread (.agentSessionByOwner ow sid) ∧
        HEq r (.error err : Except StoreError AgentSession) := by
  cases op with
  | store ctx site stm =>
    cases stm with
    | agentSessionByOwner ow sid =>
      cases r with
      | ok => cases site <;> exact .inl lost
      | error err =>
        rcases Bool.or_eq_true_iff.mp lost with s | now
        · exact .inl s
        · have h : site = .reread := by simpa using now
          subst h
          exact .inr ⟨_, _, _, err, rfl, .rfl⟩
    | beginTurn | createAgentMessage =>
      cases r with
      | ok | error => exact .inl lost
    | _ => exact .inl lost
  | agent op =>
    cases op with
    | reserveTurn | reserveSessionConfiguration | beginMutation =>
      cases r with
      | ok | error => exact .inl lost
    | _ => exact .inl lost
  | observe obs =>
    cases obs with
    | _ => exact .inl lost
  | _ => exact .inl lost

theorem found_again (hr : Reached rereadSucceeds cfg db p) (hk : turnDiscipline.knows thread p.trace = some known) :
    known.lost ≠ true := by
  refine Reached.knowing (motive := fun _ _ known => known.lost ≠ true) turn_bodies_kept
    ?_ ?_ ?_ ?_ hr hk
  · intro _ _ g known _ _ _ hb
    cases g with
    | startTurn | sessionModels | selectSessionModel | runTurn =>
      cases hb
      nofun
    | _ => cases hb
  · intro _ _ _ _ _ _ _ _ hf
    exact hf
  · intro p thread _ cho r w known _ _ _ al ran hf lost
    rcases lost_after lost with s | ⟨ctx, ow, sid, _, rfl, he⟩
    · exact hf s
    cases he
    have succeeded : (((Statement.agentSessionByOwner ow sid).body.run
      (p.state.storeFault ctx cho) p.state.db).1).isOk := al
    rw [(perform_store ran).1] at succeeded
    cases succeeded
  · intro _ _ _ _ _ _ _ _ hf
    exact hf

theorem registry_whole (hr : Reached rereadSucceeds cfg db p) : Registry (fun _ => True) p := by
  refine Reached.induction (registry_begin _ _ boot_records) ?_ hr
  intro p _ s s' next reg
  exact reg.next next (registration_step s s' next) fun hk lost =>
    absurd lost (found_again s hk)

theorem held_of_recorded (hr : Reached rereadSucceeds cfg db p) (rcd : Recorded p.state.agent holding) :
    ∃ thread, Holder p thread holding := by
  suffices every : ∀ holding, Recorded p.state.agent holding →
      ∃ thread, Holder p thread holding from every holding rcd
  refine Reached.induction ?_ ?_ hr
  · intro holding rcd
    exact absurd rcd boot_records
  intro p _ s s' next ih holding rcd
  cases registration_step s s' next with
  | kept hos mem =>
    obtain ⟨thread, ho⟩ := ih holding (mem.records.mp rcd)
    exact ⟨thread, hos.mpr ho⟩
  | @handed giver hgi gave _ hos mem =>
    obtain ⟨thread, ho⟩ := ih holding (mem.records.mp rcd)
    by_cases h : thread = giver
    · subst h
      exact ⟨p.threads, hos.mpr (.inl ⟨rfl, ho.unique gave⟩)⟩
    · exact ⟨thread, hos.mpr (.inr ⟨h, ho⟩)⟩
  | @took taker _ _ _ _ hos mem =>
    rcases mem.records.mp rcd with rfl | old
    · exact ⟨taker, hos.mpr (.inl ⟨rfl, rfl⟩)⟩
    · obtain ⟨thread, ho⟩ := ih holding old
      exact ⟨thread, hos.mpr (.inr ho)⟩
  | @gaveUp leaver known hgi _ hk held hn _ hos mem =>
    obtain ⟨old, spared⟩ := mem.records.mp rcd
    obtain ⟨thread, ho⟩ := ih holding old
    by_cases h : thread = leaver
    · -- the leaver named its own session
      subst h
      cases ho.unique ⟨known, hk, held⟩
      rcases hn with rfl | ⟨lost, _⟩
      · exact absurd ⟨rfl, rfl⟩ spared
      · exact absurd lost (found_again s hk)
    · exact ⟨thread, hos.mpr ⟨h, ho⟩⟩
  | crashed _ _ rcs _ => exact absurd rcd rcs

/-- Only a crash or its own holder removes a registration. -/
theorem removed_by_holder (s : Reached rereadSucceeds cfg db p)
    (s' : Reached rereadSucceeds cfg db c') (next : Next rereadSucceeds p c')
    (was : Recorded p.state.agent holding) (gone : ¬Recorded c'.state.agent holding) :
    c'.trace = .crashed c'.state :: p.trace ∨ ∃ thread r,
      c'.trace = .performed thread (.agent (holding.release holding.sessionID)) r
        c'.state :: p.trace ∧ Holder p thread holding := by
  cases registration_step s s' next with
  | kept _ mem | handed _ _ _ mem => exact absurd (mem.records.mpr was) gone
  | took _ _ _ _ mem => exact absurd (mem.records.mpr (.inr was)) gone
  | @gaveUp leaver known hgi name hk held hn rcd _ mem =>
    have struck : holding.sessionID = name := by
      by_contra ne
      exact gone (mem.records.mpr ⟨was, fun ⟨h, _⟩ => ne h⟩)
    have own : name = hgi.sessionID := by
      rcases hn with h | ⟨lost, _⟩
      · exact h
      · exact absurd lost (found_again s hk)
    have hreg := registry_whole s
    have mine : Recorded p.state.agent hgi := hreg.recorded ⟨known, hk, held⟩ trivial
    cases hreg.single was mine (struck.trans own)
    subst struck
    obtain ⟨r, rcd⟩ := rcd
    exact .inr ⟨leaver, r, rcd, known, hk, held⟩
  | crashed rcd => exact .inl rcd

theorem released_once (s : Reached rereadSucceeds cfg db p) (s' : Reached rereadSucceeds cfg db c')
    (next : Next rereadSucceeds p c') {kind : Holding} {name : String}
    {r : (kind.release name).Response} (hrcd : c'.trace =
      .performed thread (.agent (kind.release name)) r c'.state :: p.trace) :
    ∃ holding : Holding, holding.sessionID = name ∧ holding.release name = kind.release name ∧
      Holder p thread holding ∧ ¬Recorded c'.state.agent holding ∧ ∀ o, ¬Holder c' thread o := by
  cases next with
  | entered _ _ | crashed _ => cases hrcd
  | @performed _ _ _ _ w _ ran =>
    cases kind with
    | turn _ _ =>
      cases hrcd
      obtain ⟨known, hk, _, hn⟩ := registrar_of_performed s' rfl rfl (by simp)
      have hh : known.Holds name := by
        rcases hn with names | ⟨lost, _⟩
        · exact (informed_of_reached s hk).holds names
        · exact absurd lost (found_again s hk)
      obtain ⟨turn, held⟩ := hh
      refine ⟨.turn name turn, rfl, rfl, ⟨known, hk, held⟩, ?_, ?_⟩
      · intro kept
        exact ((released_of_releaseTurn (perform_agent ran).1).records.mp kept).2 ⟨rfl, rfl⟩
      · intro o ho
        cases (holder_performed_self hk).mp ho
    | configuration _ =>
      cases hrcd
      obtain ⟨known, hk, held⟩ := registrar_of_performed s' rfl rfl (by simp)
      refine ⟨.configuration name, rfl, rfl, ⟨known, hk, held⟩, ?_, ?_⟩
      · intro kept
        exact ((released_of_releaseSessionConfiguration (perform_agent ran).1).records.mp
          kept).2 ⟨rfl, rfl⟩
      · intro o ho
        cases (holder_performed_self hk).mp ho

/-- Nobody can change the permissions of a session, archive it or delete it. -/
structure Guarded (db : Db) (sessionID : String) : Prop where
  approvalMode : ∀ owner mode now, updateApprovalMode owner sessionID mode now db = .ok (0, db)
  archived : ∀ owner archived now, updateArchived owner sessionID archived now db = .ok (0, db)
  deleted : ∀ owner, ∃ error, deleteAgentSessionByOwner owner sessionID db = .error error

theorem Busy.guarded (busy : Busy db sid) : Guarded db sid := by
  obtain ⟨_, hf, hus⟩ := busy
  have h {o : AgentSession} (again : db.agentSessions.get sid = some o) :
      o.state.settled = false := by
    rw [hf] at again
    cases again
    exact hus
  refine ⟨?_, ?_, ?_⟩
  · intro ow _ now
    unfold updateApprovalMode
    rw [updateSession_of_none]
    intro o again
    rw [h again, Bool.false_and]
  · intro ow _ now
    unfold updateArchived
    rw [updateSession_of_none]
    intro o again
    rw [h again, Bool.false_and]
  · intro ow
    cases deleted : deleteAgentSessionByOwner ow sid db with
    | error err => exact ⟨err, rfl⟩
    | ok _ =>
      obtain ⟨o, _, hse, _⟩ := deleteAgentSessionByOwner_ok deleted
      rw [h o] at hse
      cases hse

end Facts

/-! ## The whole -/

structure RegistrationsKept (configuration : Configuration) (db : Db)
    (machine : Machine Server Goroutine History) : Prop where
  /-- A session has one Turn or one configuration at most. -/
  single : ∀ {first second : Holding}, Recorded machine.state.state.agent first →
    Recorded machine.state.state.agent second → first.sessionID = second.sessionID → first = second
  /-- What is registered is what some thread holds, one thread each. -/
  held : ∀ {holding}, Recorded machine.state.state.agent holding ↔
    ∃ thread, Holder machine.state thread holding
  alone : ∀ {first second holding}, Holder machine.state first holding →
    Holder machine.state second holding → first = second
  /-- A thread that has ended holds nothing. -/
  finished : ∀ {thread holding}, machine.threads[thread]? = some (.done ()) →
    ¬Holder machine.state thread holding
  /-- A registration is removed by its holder, or by the end of the process. -/
  removed : ∀ {changed holding}, Reached rereadSucceeds configuration db changed →
    Next rereadSucceeds machine.state changed → Recorded machine.state.state.agent holding →
    ¬Recorded changed.state.agent holding →
    changed.trace = .crashed changed.state :: machine.state.trace ∨ ∃ thread response,
      changed.trace = .performed thread (.agent (holding.release holding.sessionID)) response
        changed.state :: machine.state.trace ∧ Holder machine.state thread holding
  /-- Whoever releases holds what it releases, and holds nothing afterwards. -/
  released : ∀ {changed thread} {kind : Holding} {name response},
    Reached rereadSucceeds configuration db changed → Next rereadSucceeds machine.state changed →
    changed.trace = .performed thread (.agent (kind.release name)) response changed.state ::
      machine.state.trace →
    ∃ holding : Holding, holding.sessionID = name ∧ holding.release name = kind.release name ∧
      Holder machine.state thread holding ∧ ¬Recorded changed.state.agent holding ∧
      ∀ other, ¬Holder changed thread other
  /-- While an Adapter runs, its session is there, in one of two states unless it is
      revoked, and the requests that need a settled session are refused. -/
  guarded : ∀ {turn : Nat} {value : Turn},
    machine.state.state.agent.turns[turn]? = some value → value.active = true →
    (∃ row, machine.state.state.db.agentSessions.get value.sessionID = some row ∧
      (row.state ≠ .revoked → row.state = .running ∨ row.state = .waitingApproval)) ∧
    Guarded machine.state.state.db value.sessionID

theorem Busy.state {db : Db} (busy : Busy db sid) : ∃ row, db.agentSessions.get sid = some row ∧
      (row.state ≠ .revoked → row.state = .running ∨ row.state = .waitingApproval) := by
  obtain ⟨row, hf, hus⟩ := busy
  refine ⟨row, hf, ?_⟩
  cases hst : row.state with
  | running | waitingApproval | revoked => simp
  | idle | failed =>
    rw [hst] at hus
    cases hus

/-- In every run in which the second look of `StartTurn` succeeds: registrations
    exclude each other, each is removed once, by whoever holds it, and while an
    Adapter runs its session is not settled. -/
theorem registrations_kept {configuration : Configuration} {db : Db} {schedule : Schedule}
    {machine : Machine Server Goroutine History}
    (ran : ranBy rereadSucceeds configuration db schedule = some machine) :
    RegistrationsKept configuration db machine := by
  have reached := reached_of_ran ran
  have registry := registry_whole reached
  refine ⟨registry.single, ?_, ?_, ?_, fun after next => removed_by_holder reached after next,
    fun after next => released_once reached after next, ?_⟩
  · intro holding
    refine ⟨held_of_recorded reached, ?_⟩
    rintro ⟨thread, holder⟩
    exact registry.recorded holder trivial
  · intro first second holding one another
    exact registry.alone one another trivial
  · rintro thread holding finished ⟨known, knows, held⟩
    have idle : known.held = none :=
      Discipline.ends_of_run (System.restrict_refines history rereadSucceeds) turn_bodies ran
        finished knows
    rw [idle] at held
    cases held
  · intro turn value located active
    have busy := busy_of_active registry_whole reached located active trivial
    exact ⟨busy.state, busy.guarded⟩

/-- Thread 0 admits a Turn; its second look at the session fails, and it returns. -/
def lostSchedule : Schedule :=
  .start (.startTurn [] "alice" "session" "hello") :: steps 0 7 ++ making 0 "message" ++ steps 0 2 ++
    [.run 0 { fault := .lost }] ++ steps 0 10

def hasEnded : Program Server Goroutine Unit → Bool
  | .done _ => true
  | _ => false

def leaks (sessionID : String) (machine : Machine Server Goroutine History) : Bool :=
  machine.threads.all hasEnded && (machine.state.state.agent.running sessionID).isSome

theorem registration_survives_lost_session :
    (ranBy freely sampleConfiguration sampleDb lostSchedule).any (leaks "session") = true := by
  decide +kernel

def adapterRuns (machine : Machine Server Goroutine History) : Bool :=
  machine.state.state.agent.turns.any Turn.active &&
    (machine.state.state.agent.running "session").isSome

theorem registrations_kept_running :
    ∃ machine, ranBy rereadSucceeds sampleConfiguration sampleDb turnSchedule = some machine ∧
      adapterRuns machine = true ∧ RegistrationsKept sampleConfiguration sampleDb machine := by
  have ran : (ranBy rereadSucceeds sampleConfiguration sampleDb turnSchedule).any
      adapterRuns = true := by decide +kernel
  obtain ⟨machine, ran, runs⟩ := (Option.any_eq_true _ _).mp ran
  exact ⟨machine, ran, runs, registrations_kept ran⟩

end AISummoner.Agent
