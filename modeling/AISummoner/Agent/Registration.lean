import AISummoner.Agent.TurnPrograms
import AISummoner.App.Turns
import AISummoner.Store.Effects

/-! # Registrations

What the registries `running` and `configuring` of the service have to do with
the threads that hold registrations.  `RegistrationStep` says everything a step
can do to them; the invariants are read off it.
-/

namespace AISummoner.Agent

open Concurrency Concurrency.Discipline Store AISummoner.Runtime App

def Holder (past : History) (thread : Nat) (holding : Holding) : Prop :=
  ∃ known, turnDiscipline.knows thread past.trace = some known ∧ known.held = some holding

variable {k : TurnKnowledge} {op : Operation} {r : op.Response}
  {t : Nat} {sessionID : String} {wd : World} {g : Goroutine}
  {spared : String → Prop} {pa : Option Nat} {turn : Nat}

theorem Holder.unique {p : History} {a b : Holding} (one : Holder p t a)
    (other : Holder p t b) : a = b := by
  obtain ⟨k, hk, held⟩ := one
  obtain ⟨_, knowsAgain, heldAgain⟩ := other
  rw [hk] at knowsAgain
  cases knowsAgain
  rw [held] at heldAgain
  exact Option.some.inj heldAgain

variable {other : Holding} {ow : String} {st : World}

section Facts

variable {rule : Step → History → Bool} {cfg : Configuration} {db : Db}
  {p w : History}

theorem turn_bodies_kept (hb : turnDiscipline.start g = some k) :
    turnDiscipline.Follows (body g) (fun _ _ => True) k :=
  (turn_bodies hb).mono fun _ _ _ => trivial

/-! ## The names of a session -/

/-- The session a thread deals with is the one the request names. -/
structure Informed (known : TurnKnowledge) : Prop where
  found : ∀ {session}, known.found = some session → session.id = known.requested
  reread : ∀ {session}, known.reread = some session → session.id = known.requested
  held : ∀ {sessionID}, known.Holds sessionID → sessionID = known.requested

theorem Informed.holds (hin : Informed k) (names : k.Names sessionID) : k.Holds sessionID := by
  obtain ⟨⟨other, hh⟩, called⟩ := names
  have h : sessionID = other := by
    rw [hin.held hh]
    rcases called with hh | ⟨_, read, rfl⟩ | ⟨_, rqd⟩
    · exact hin.held hh
    · exact hin.reread read
    · exact rqd
  exact h ▸ hh

theorem Informed.of_same {k' : TurnKnowledge} (hin : Informed k)
    (hrqd : k'.requested = k.requested) (held : k'.held = k.held)
    (hf : k'.found = k.found) (reread : k'.reread = k.reread) : Informed k' where
  found hgi := by
    rw [hrqd]
    exact hin.found (hf ▸ hgi)
  reread hgi := by
    rw [hrqd]
    exact hin.reread (reread ▸ hgi)
  held := by
    rintro _ ⟨turn, hgi⟩
    rw [hrqd]
    exact hin.held ⟨turn, held ▸ hgi⟩

theorem informed_statement {ctx : Context} {site : Site} {stm : Statement} {cho : Choice}
    {r : Except StoreError stm.Result} (hin : Informed k) (may : k.mayStore site stm)
    (ran : perform t (.store ctx site stm) cho p.state =
      some (r, wd)) : Informed (k.afterStore site stm r) := by
  have hst := (perform_store ran).1
  cases stm with
  | agentSessionByOwner _ sessionID =>
    cases r with
    | error err => exact hin.of_same rfl rfl rfl rfl
    | ok ses =>
      obtain ⟨_, hl, _⟩ := agentSessionByOwner_ok (Transaction.run_ok hst)
      have hky : ses.id = sessionID := Relational.Table.key_of_get hl
      cases site with
      | admission =>
        refine ⟨fun hgi => ?_, hin.reread, hin.held⟩
        cases hgi
        exact hky.trans (may.1 rfl).2
      | reread =>
        refine ⟨hin.found, fun hgi => ?_, hin.held⟩
        cases hgi
        exact hky.trans (hin.held (may.2 (.inr rfl)))
      | begin => exact hin.of_same rfl rfl rfl rfl
      | _ => exact hin
  | beginTurn =>
    cases r with
    | error err | ok haf => exact hin.of_same rfl rfl rfl rfl
  | createAgentMessage =>
    cases r with
    | error err => exact hin
    | ok _ => exact hin.of_same rfl rfl rfl rfl
  | updateAgentSessionState => exact hin.of_same rfl rfl rfl rfl
  | _ => exact hin

theorem informed_agent {op : AgentOperation} {r : op.Response}
    (hin : Informed k) (may : k.mayAgent op) : Informed (k.afterAgent op r) := by
  cases op with
  | reserveTurn sessionID _ _ _ =>
    cases r with
    | error err => exact hin.of_same rfl rfl rfl rfl
    | ok _ =>
      refine ⟨hin.found, hin.reread, ?_⟩
      rintro other ⟨_, held⟩
      cases held
      obtain ⟨_, _, _, hf, rfl⟩ := may
      exact hin.found hf
  | reserveSessionConfiguration sessionID =>
    cases r with
    | error err => exact hin
    | ok _ =>
      refine ⟨hin.found, hin.reread, ?_⟩
      rintro other ⟨_, held⟩
      cases held
  | beginMutation =>
    cases r with
    | error err => exact hin.of_same rfl rfl rfl rfl
    | ok _ => exact hin
  | releaseTurn | releaseSessionConfiguration =>
    refine ⟨hin.found, hin.reread, ?_⟩
    rintro other ⟨_, held⟩
    cases held
  | beginRun | endRun | transcript | publish => exact hin.of_same rfl rfl rfl rfl
  | _ => exact hin

theorem informed_of_reached (hr : Reached rule cfg db p)
    (hk : turnDiscipline.knows t p.trace = some k) : Informed k := by
  refine Reached.knowing (motive := fun _ _ k => Informed k) turn_bodies_kept
    ?_ ?_ ?_ ?_ hr hk
  · intro _ _ g k _ _ _ hb
    cases g with
    | startTurn | sessionModels | selectSessionModel =>
      cases hb
      exact ⟨nofun, nofun, nofun⟩
    | runTurn =>
      cases hb
      refine ⟨nofun, nofun, ?_⟩
      rintro other ⟨_, held⟩
      cases held
      rfl
    | _ => cases hb
  · intro _ _ _ _ _ _ _ _ hin
    exact hin
  · intro p t op _ r _ k _ _ may _ ran hin
    cases op with
    | store _ _ _ => exact informed_statement hin may ran
    | agent op => exact informed_agent hin may
    | observe obs =>
      cases obs with
      | publishing => exact hin.of_same rfl rfl rfl rfl
      | _ => exact hin
    | _ => exact hin
  · intro _ _ _ _ _ _ _ _ hin
    refine ⟨hin.found, hin.reread, ?_⟩
    rintro other ⟨_, held⟩
    cases held

def registers : Operation → Bool
  | .agent (.reserveTurn ..) | .agent (.releaseTurn _) | .agent (.reserveSessionConfiguration _)
  | .agent (.releaseSessionConfiguration _) => true
  | _ => false

theorem held_after (hfo : registers op = false) : (k.after op r).held = k.held := by
  cases op with
  | store _ site stm =>
    cases stm with
    | agentSessionByOwner =>
      cases r with
      | ok => cases site <;> rfl
      | error => rfl
    | beginTurn | createAgentMessage =>
      cases r with
      | ok | error => rfl
    | _ => rfl
  | agent op =>
    cases op with
    | reserveTurn | releaseTurn | reserveSessionConfiguration | releaseSessionConfiguration =>
      cases hfo
    | beginMutation =>
      cases r with
      | ok | error => rfl
    | _ => rfl
  | observe obs =>
    cases obs with
    | _ => rfl
  | _ => rfl

theorem registrar_starts (role : g.role ∈ [.startTurn, .runTurn, .configuration]) :
    ∃ k, turnDiscipline.start g = some k := by
  cases g with
  | startTurn | sessionModels | selectSessionModel | runTurn => exact ⟨_, rfl⟩
  | _ => simp [Goroutine.role] at role

theorem registrar_of_performed {roles : List Role} {tr : Trace} (hr : Reached rule cfg db w)
    (hp : w.trace = .performed t op r wd :: tr) (how : performers op = some roles)
    (registrars : roles ⊆ [.startTurn, .runTurn, .configuration]) :
    ∃ k, turnDiscipline.knows t tr = some k ∧ k.may op := by
  obtain ⟨_, _, _⟩ := w
  subst hp
  obtain ⟨g, runs, hal⟩ := hr.performer
  have role : g.role ∈ roles := by simpa [Role.mayPerform, how] using hal
  obtain ⟨a, hb⟩ := registrar_starts (registrars role)
  obtain ⟨k, hk⟩ := knows_of_runs (D := turnDiscipline) runs hb
  exact ⟨k, hk, (hr.kept turn_bodies_kept).1 k hk⟩

/-! ## One step -/

def Recorded (memory : Memory) : Holding → Prop
  | .turn sessionID turn => memory.running sessionID = some turn
  | .configuration sessionID => memory.configuring sessionID = true

/-- What a holding counts for in the wait group of Turns. -/
def Holding.turns : Holding → Nat
  | .turn _ _ => 1
  | .configuration _ => 0

def Holding.ReservedBy : Holding → Operation → Prop
  | .turn sessionID _, .agent (.reserveTurn name _ _ _) => name = sessionID
  | .configuration sessionID, .agent (.reserveSessionConfiguration name) => name = sessionID
  | _, _ => False

def Holding.release (name : String) : Holding → AgentOperation
  | .turn _ _ => .releaseTurn name
  | .configuration _ => .releaseSessionConfiguration name

structure Registered (before after : Memory) (holding : Holding) : Prop where
  vacant : ∀ {other : Holding}, other.sessionID = holding.sessionID → ¬Recorded before other
  records : ∀ {other}, Recorded after other ↔ other = holding ∨ Recorded before other
  placed : ∀ {sessionID turn}, holding = .turn sessionID turn → turn = before.turns.length ∧
    (after.turns[turn]?).map Turn.sessionID = some sessionID
  counted : after.activeTurns = before.activeTurns + holding.turns

/-- A registration of this kind is removed, the one the name stands for. -/
structure Released (before after : Memory) (name : String) (holding : Holding) : Prop where
  records : ∀ {other : Holding}, Recorded after other ↔
    Recorded before other ∧ ¬(other.sessionID = name ∧ other.turns = holding.turns)
  counted : after.activeTurns = before.activeTurns - holding.turns

structure Unregistered (before after : Memory) : Prop where
  records : ∀ {other}, Recorded after other ↔ Recorded before other
  counted : after.activeTurns = before.activeTurns

theorem unregistered_of_same {s s' : Memory} (hrn : s'.running = s.running)
    (configuring : s'.configuring = s.configuring)
    (ct : s'.activeTurns = s.activeTurns) : Unregistered s s' where
  records {other} := by
    cases other with
    | turn => rw [Recorded, Recorded, hrn]
    | configuration => rw [Recorded, Recorded, configuring]
  counted := ct

theorem refusal_none {mem : Memory} (welcome : mem.refusal sessionID = none) :
    mem.closed = false ∧ mem.revoked sessionID = none ∧ mem.archived sessionID = none ∧
      mem.running sessionID = none ∧ mem.configuring sessionID = false := by
  unfold Memory.refusal at welcome
  repeat' split at welcome
  all_goals simp_all

theorem vacant_of_welcome {mem : Memory}
    (welcome : mem.refusal sessionID = none) (h : other.sessionID = sessionID) :
    ¬Recorded mem other := by
  obtain ⟨_, _, _, idle, unconfigured⟩ := refusal_none welcome
  subst h
  cases other with
  | turn name turn =>
    intro rcd
    have nobody : mem.running name = none := idle
    rw [Recorded, nobody] at rcd
    cases rcd
  | configuration name =>
    intro rcd
    have nobody : mem.configuring name = false := unconfigured
    rw [Recorded, nobody] at rcd
    cases rcd

theorem recorded_replace_turn {mem s' : Memory}
    (hrn : s'.running = replace mem.running sessionID (some turn))
    (configuring : s'.configuring = mem.configuring) (vacant : mem.running sessionID = none) :
    Recorded s' other ↔ other = .turn sessionID turn ∨ Recorded mem other := by
  cases other with
  | configuration name => simp [Recorded, configuring]
  | turn name n =>
    by_cases h : name = sessionID
    · subst h
      simp [Recorded, hrn, vacant, eq_comm]
    · simp [Recorded, hrn, replace_ne _ _ h, h]

theorem recorded_replace_configuration {mem s' : Memory} (hrn : s'.running = mem.running)
    (configuring : s'.configuring = replace mem.configuring sessionID true)
    (vacant : mem.configuring sessionID = false) :
    Recorded s' other ↔ other = .configuration sessionID ∨ Recorded mem other := by
  cases other with
  | turn name n => simp [Recorded, hrn]
  | configuration name =>
    by_cases h : name = sessionID
    · subst h
      simp [Recorded, configuring, vacant]
    · simp [Recorded, configuring, replace_ne _ _ h, h]

section Memory

variable {t : Nat} {sessionID did uid : String} {scp : Scope} {cho : Choice}
  {contexts : Contexts} {mem s' : Memory}

theorem reserveTurn_cases {r : Except AgentError Nat}
    (ran : stepAgent t (.reserveTurn sessionID did uid scp) cho contexts mem = some (r, s')) :
    (∃ err, r = .error err ∧ mem.refusal sessionID = some err ∧ s' = mem) ∨
      ∃ turn, r = .ok turn ∧ mem.refusal sessionID = none ∧
        Registered mem s' (.turn sessionID turn) := by
  simp only [stepAgent, Memory.reserveTurn] at ran
  split at ran
  next err refused =>
    cases ran
    exact .inl ⟨err, rfl, refused, rfl⟩
  next welcome =>
    cases ran
    refine .inr ⟨_, rfl, welcome, vacant_of_welcome welcome, ?_, ?_, rfl⟩
    · exact recorded_replace_turn rfl rfl (refusal_none welcome).2.2.2.1
    · intro _ turn he
      cases he
      exact ⟨rfl, by simp⟩

theorem reserveSessionConfiguration_cases {r : Except AgentError Unit}
    (ran : stepAgent t (.reserveSessionConfiguration sessionID) cho contexts mem = some (r, s')) :
    (∃ err, r = .error err ∧ mem.refusal sessionID = some err ∧ s' = mem) ∨
      r = .ok () ∧ mem.refusal sessionID = none ∧ Registered mem s' (.configuration sessionID) := by
  simp only [stepAgent, Memory.reserveSessionConfiguration] at ran
  split at ran
  next err refused =>
    cases ran
    exact .inl ⟨err, rfl, refused, rfl⟩
  next welcome =>
    cases ran
    refine .inr ⟨rfl, welcome, vacant_of_welcome welcome, ?_, by simp, rfl⟩
    exact recorded_replace_configuration rfl rfl (refusal_none welcome).2.2.2.2

theorem released_of_releaseTurn {r : Unit}
    (ran : stepAgent t (.releaseTurn sessionID) cho contexts mem =
      some (r, s')) : Released mem s' sessionID (.turn ow turn) := by
  cases ran
  refine ⟨fun {other} => ?_, rfl⟩
  cases other with
  | configuration name => simp [Recorded, Memory.releaseTurn, Holding.turns]
  | turn name n =>
    by_cases h : name = sessionID
    · simp [Recorded, Memory.releaseTurn, Holding.turns, Holding.sessionID, h]
    · simp [Recorded, Memory.releaseTurn, Holding.sessionID, replace_ne _ _ h, h]

theorem released_of_releaseSessionConfiguration {r : Unit}
    (ran : stepAgent t (.releaseSessionConfiguration sessionID) cho contexts mem =
      some (r, s')) : Released mem s' sessionID (.configuration ow) := by
  cases ran
  refine ⟨fun {other} => ?_, rfl⟩
  cases other with
  | turn name n => simp [Recorded, Memory.releaseSessionConfiguration, Holding.turns]
  | configuration name =>
    by_cases h : name = sessionID
    · simp [Recorded, Memory.releaseSessionConfiguration, Holding.turns, Holding.sessionID, h]
    · simp [Recorded, Memory.releaseSessionConfiguration, Holding.sessionID, replace_ne _ _ h, h]

end Memory

/-- Everything a step can do to the registries and to their holders. -/
inductive RegistrationStep (past changed : History) : Prop
  | kept (holders : ∀ {thread holding}, Holder changed thread holding ↔ Holder past thread holding)
      (memory : Unregistered past.state.agent changed.state.agent)
  /-- `StartTurn` starts the goroutine of its Turn. -/
  | handed {giver : Nat} {holding : Holding} (gave : Holder past giver holding)
      (recorded : ∃ child,
        changed.trace = .entered (some giver) past.threads child changed.state :: past.trace)
      (holders : ∀ {thread other}, Holder changed thread other ↔
        (thread = past.threads ∧ other = holding) ∨ (thread ≠ giver ∧ Holder past thread other))
      (memory : Unregistered past.state.agent changed.state.agent)
  | took {thread : Nat} {holding : Holding} (free : ∀ {other}, ¬Holder past thread other)
      (welcome : past.state.agent.refusal holding.sessionID = none)
      (recorded : ∃ operation response, holding.ReservedBy operation ∧
        changed.trace = .performed thread operation response changed.state :: past.trace)
      (holders : ∀ {other kept}, Holder changed other kept ↔
        (other = thread ∧ kept = holding) ∨ Holder past other kept)
      (memory : Registered past.state.agent changed.state.agent holding)
  | gaveUp {thread : Nat} {known : TurnKnowledge} {holding : Holding} {name : String}
      (knows : turnDiscipline.knows thread past.trace = some known)
      (held : known.held = some holding)
      (named : name = holding.sessionID ∨ (known.lost = true ∧ name = ""))
      (recorded : ∃ response, changed.trace =
        .performed thread (.agent (holding.release name)) response changed.state :: past.trace)
      (holders : ∀ {other kept}, Holder changed other kept ↔ other ≠ thread ∧ Holder past other kept)
      (memory : Released past.state.agent changed.state.agent name holding)
  | crashed (recorded : changed.trace = .crashed changed.state :: past.trace)
      (holders : ∀ {thread holding}, ¬Holder changed thread holding)
      (records : ∀ {holding}, ¬Recorded changed.state.agent holding)
      (counted : changed.state.agent.activeTurns = 0)

theorem holder_performed_self {holding : Holding} (hk : turnDiscipline.knows t p.trace = some k) :
    Holder (p.perform t op r wd) t holding ↔ (k.after op r).held = some holding := by
  unfold Holder
  simp only [knows_performed_self, hk, Option.map_some, Option.some.injEq]
  constructor
  · rintro ⟨_, rfl, held⟩
    exact held
  · intro held
    exact ⟨_, rfl, held⟩

theorem holder_performed_ne {other : Nat} {holding : Holding} (ne : t ≠ other) :
    Holder (p.perform t op r wd) other holding ↔ Holder p other holding := by
  unfold Holder
  rw [knows_performed_ne ne]

theorem holder_performed {held : Option Holding} (hk : turnDiscipline.knows t p.trace = some k)
    (left : (k.after op r).held = held) {other : Nat} {holding : Holding} :
    Holder (p.perform t op r wd) other holding ↔ (other = t ∧ held = some holding) ∨
          (other ≠ t ∧ Holder p other holding) := by
  by_cases h : other = t
  · subst h
    rw [holder_performed_self hk, left]
    simp
  · rw [holder_performed_ne fun he => h he.symm]
    simp [h]

theorem holder_performed_foreign {other : Nat} {holding : Holding} (hfo : registers op = false) :
    Holder (p.perform t op r wd) other holding ↔ Holder p other holding := by
  by_cases h : t = other
  · subst h
    cases hk : turnDiscipline.knows t p.trace with
    | none =>
      unfold Holder
      simp [knows_performed_self, hk]
    | some k =>
      rw [holder_performed_self hk, held_after hfo]
      unfold Holder
      simp [hk]
  · exact holder_performed_ne h

theorem unregistered_of_foreign {cho : Choice} {s s' : World}
    (ran : perform t op cho s = some (r, s'))
    (hfo : registers op = false) : Unregistered s.agent s'.agent := by
  by_cases agent : ∃ hinn, op = .agent hinn
  case neg =>
    rw [perform_memory ran fun hinn he => agent ⟨hinn, he⟩]
    exact unregistered_of_same rfl rfl rfl
  obtain ⟨hinn, rfl⟩ := agent
  have unmoved := stepAgent_unmoved (perform_agent ran).1
  have hut : .running ∉ touches hinn ∧ .configuring ∉ touches hinn ∧
      .activeTurns ∉ touches hinn := by
    cases hinn <;> first | (simp [touches]; done) | cases hfo
  exact unregistered_of_same (unmoved .running hut.1) (unmoved .configuring hut.2.1)
    (unmoved .activeTurns hut.2.2)

section Registrar

variable {t : Nat} {op : Operation} {r : op.Response} {wd : World}
  {k : TurnKnowledge} {holding : Holding} {name : String}
  (hk : turnDiscipline.knows t p.trace = some k)
include hk

theorem not_holder_of_idle (idle : k.held = none) : ¬Holder p t other := by
  rintro ⟨_, again, held⟩
  rw [hk] at again
  cases again
  rw [idle] at held
  cases held

theorem step_of_refused (idle : k.held = none) (left : (k.after op r).held = none)
    (mem : Unregistered p.state.agent wd.agent) : RegistrationStep p (p.perform t op r wd) := by
  refine .kept (fun {other kept} => ?_) mem
  rw [holder_performed hk left]
  constructor
  · rintro (⟨_, him⟩ | ⟨_, ho⟩)
    · cases him
    · exact ho
  · intro ho
    refine .inr ⟨?_, ho⟩
    rintro rfl
    exact not_holder_of_idle hk idle ho

theorem step_of_reserved (idle : k.held = none)
    (left : (k.after op r).held = some holding) (reserved : holding.ReservedBy op)
    (welcome : p.state.agent.refusal holding.sessionID = none)
    (mem : Registered p.state.agent wd.agent holding) : RegistrationStep p
      (p.perform t op r wd) := by
  have free {other : Holding} : ¬Holder p t other := not_holder_of_idle hk idle
  refine .took free welcome ⟨op, r, reserved, rfl⟩ (fun {other kept} => ?_) mem
  rw [holder_performed hk left]
  constructor
  · rintro (⟨h, he⟩ | ⟨_, ho⟩)
    · exact .inl ⟨h, (Option.some.inj he).symm⟩
    · exact .inr ho
  · rintro (⟨h, he⟩ | ho)
    · exact .inl ⟨h, by rw [he]⟩
    · refine .inr ⟨?_, ho⟩
      rintro rfl
      exact free ho

theorem step_of_released {r : (holding.release name).Response} (held : k.held = some holding)
    (left : (k.after (.agent (holding.release name)) r).held = none)
    (hn : name = holding.sessionID ∨ (k.lost ∧ name = ""))
    (mem : Released p.state.agent wd.agent name holding) : RegistrationStep p
      (p.perform t (.agent (holding.release name)) r wd) := by
  refine .gaveUp hk held hn ⟨r, rfl⟩ (fun {other kept} => ?_) mem
  rw [holder_performed hk left]
  simp

end Registrar

theorem step_of_performed {cho : Choice} (s : Reached rule cfg db p)
    (s' : Reached rule cfg db (p.perform t op r wd))
    (ran : perform t op cho p.state = some (r, wd)) : RegistrationStep p (p.perform t op r wd) := by
  cases hfo : registers op with
  | false =>
    exact .kept (holder_performed_foreign hfo) (unregistered_of_foreign ran hfo)
  | true =>
    cases op with
    | agent op =>
      cases op with
      | reserveTurn sessionID _ _ _ =>
        obtain ⟨k, hk, idle, _⟩ := registrar_of_performed s' rfl rfl (by simp)
        rcases reserveTurn_cases (perform_agent ran).1 with
          ⟨err, rfl, _, h⟩ | ⟨turn, rfl, welcome, hrg⟩
        · exact step_of_refused hk idle idle (by rw [h]; exact unregistered_of_same rfl rfl rfl)
        · exact step_of_reserved hk idle rfl rfl welcome hrg
      | reserveSessionConfiguration sessionID =>
        obtain ⟨k, hk, idle⟩ := registrar_of_performed s' rfl rfl (by simp)
        rcases reserveSessionConfiguration_cases (perform_agent ran).1 with
          ⟨err, rfl, _, h⟩ | ⟨rfl, welcome, hrg⟩
        · exact step_of_refused hk idle idle (by rw [h]; exact unregistered_of_same rfl rfl rfl)
        · exact step_of_reserved hk idle rfl rfl welcome hrg
      | releaseTurn sessionID =>
        obtain ⟨k, hk, _, hn⟩ := registrar_of_performed s' rfl rfl (by simp)
        have released {ow : String} {turn : Nat} :
            Released p.state.agent wd.agent sessionID (.turn ow turn) :=
          released_of_releaseTurn (perform_agent ran).1
        rcases hn with names | ⟨lost, hem, _, turn, held⟩
        · obtain ⟨turn, held⟩ := (informed_of_reached s hk).holds names
          exact step_of_released hk held rfl (.inl rfl) released
        · exact step_of_released hk held rfl (.inr ⟨lost, hem⟩) released
      | releaseSessionConfiguration sessionID =>
        obtain ⟨k, hk, held⟩ := registrar_of_performed s' rfl rfl (by simp)
        exact step_of_released hk held rfl (.inl rfl)
          (released_of_releaseSessionConfiguration (perform_agent ran).1)
      | _ => cases hfo
    | _ => cases hfo

theorem holder_entered {holding : Holding} : Holder (p.enter pa g st) t holding ↔ (t = p.threads ∧
        ∃ a, turnDiscipline.start g = some a ∧ a.held = some holding) ∨
      (t ≠ p.threads ∧ pa ≠ some t ∧ Holder p t holding) := by
  unfold Holder
  by_cases h : p.threads = t
  · subst h
    simp [knows_entered_self]
  have other : t ≠ p.threads := fun he => h he.symm
  by_cases cd : pa = some t
  · -- whoever starts a thread holds nothing afterwards
    subst cd
    simp only [knows_entered_parent h, other, false_and, false_or, ne_eq,
      not_true_eq_false, and_false, iff_false]
    rintro ⟨k, hk, held⟩
    obtain ⟨_, _, rfl⟩ := Option.map_eq_some_iff.mp hk
    cases held
  · simp [knows_entered_ne h cd, other, cd]

theorem handed_over {scp : Scope} {ses : AgentSession} {msg : AgentMessage}
    {tg : ExecutionTarget} (s : Reached rule cfg db p) (s' : Reached rule cfg db
      (p.enter pa (.runTurn turn scp ses msg tg) st))
    (had : pa = none → admits (.runTurn turn scp ses msg tg) p.state) :
    ∃ giver k, pa = some giver ∧ turnDiscipline.knows giver p.trace = some k ∧
      k.held = some (.turn ses.id turn) ∧ k.begun ∧ k.ended = false := by
  cases pa with
  | none => cases had rfl
  | some giver =>
    obtain ⟨spawner, runs, spawned⟩ := s'.spawner
    have role : spawner.role ∈ [Role.startTurn, .runTurn, .configuration] := by
      have he : some Role.startTurn = some spawner.role := spawned
      rw [← Option.some.inj he]
      exact List.mem_cons_self
    obtain ⟨a, hb⟩ := registrar_starts role
    obtain ⟨k, hk⟩ := knows_of_runs (D := turnDiscipline) runs hb
    obtain ⟨sessionID, _, _, _, _, _, he, held, reread, hbg, hue, _⟩ :=
      (s'.kept turn_bodies_kept).1 giver k rfl hk
    cases he
    have hin := informed_of_reached s hk
    have hn : sessionID = ses.id := by
      rw [hin.held ⟨turn, held⟩, hin.reread reread]
    exact ⟨giver, k, rfl, hk, hn ▸ held, hbg, hue⟩

theorem step_of_entered (s : Reached rule cfg db p) (s' : Reached rule cfg db
      (p.enter pa g (enter p.threads g p.state))) (had : pa = none → admits g p.state) :
    RegistrationStep p (p.enter pa g (enter p.threads g p.state)) := by
  have mem : Unregistered p.state.agent (enter p.threads g p.state).agent := by
    cases g <;> exact unregistered_of_same rfl rfl rfl
  have hbl {t : Nat} {holding : Holding} (ho : Holder p t holding) :
      t ≠ p.threads := by
    obtain ⟨k, hk, _⟩ := ho
    exact Nat.ne_of_lt (s.knows_below hk)
  by_cases runs : ∃ turn scp ses msg tg, g = .runTurn turn scp ses msg tg
  · obtain ⟨turn, scp, ses, msg, tg, rfl⟩ := runs
    obtain ⟨_, k, rfl, hk, held, _⟩ := handed_over s s' had
    refine .handed ⟨k, hk, held⟩ ⟨_, rfl⟩ (fun {other kept} => ?_) mem
    rw [holder_entered]
    constructor
    · rintro (⟨h, a, hb, held⟩ | ⟨_, hfo, ho⟩)
      · cases hb
        cases held
        exact .inl ⟨h, rfl⟩
      · exact .inr ⟨fun he => hfo (by rw [he]), ho⟩
    · rintro (⟨h, he⟩ | ⟨ne, ho⟩)
      · exact .inl ⟨h, _, rfl, by rw [he]⟩
      · exact .inr ⟨hbl ho, fun he => ne (Option.some.inj he).symm, ho⟩
  · refine .kept (fun {other kept} => ?_) mem
    rw [holder_entered]
    constructor
    · rintro (⟨_, a, hb, held⟩ | ⟨_, _, ho⟩)
      · cases g with
        | runTurn => exact absurd ⟨_, _, _, _, _, rfl⟩ runs
        | startTurn | sessionModels | selectSessionModel =>
          cases hb
          cases held
        | _ => cases hb
      · exact ho
    · intro ho
      refine .inr ⟨hbl ho, fun cd => ?_, ho⟩
      -- a thread the discipline looks at starts only the goroutine of a Turn
      obtain ⟨k, hk, _⟩ := ho
      obtain ⟨_, turn, scp, ses, msg, tg, he, _⟩ := (s'.kept turn_bodies_kept).1 _ k cd hk
      exact runs ⟨turn, scp, ses, msg, tg, he⟩

theorem registration_step (s : Reached rule cfg db p)
    (s' : Reached rule cfg db w) (next : Next rule p w) : RegistrationStep p w := by
  cases next with
  | performed _ ran => exact step_of_performed s s' ran
  | entered _ had => exact step_of_entered s s' had
  | crashed _ =>
    refine .crashed rfl ?_ ?_ rfl
    · rintro t holding ⟨k, hk, _⟩
      cases hk
    · intro holding rcd
      cases holding <;> cases rcd

/-! ## The registries and their holders -/

/-- What the registries say about the holders.  A session is spared if the deferred
    call of a Turn that lost its session cannot name it. -/
structure Registry (spared : String → Prop) (past : History) : Prop where
  located : ∀ {thread sessionID turn}, Holder past thread (.turn sessionID turn) →
    ∃ value, past.state.agent.turns[turn]? = some value ∧ value.sessionID = sessionID
  recorded : ∀ {thread} {holding : Holding}, Holder past thread holding →
    spared holding.sessionID → Recorded past.state.agent holding
  alone : ∀ {first second} {holding : Holding}, Holder past first holding →
    Holder past second holding → spared holding.sessionID → first = second
  distinct : ∀ {first second sessionID other turn}, Holder past first (.turn sessionID turn) →
    Holder past second (.turn other turn) → first = second
  single : ∀ {first second : Holding}, Recorded past.state.agent first →
    Recorded past.state.agent second → first.sessionID = second.sessionID → first = second

theorem Registry.of_vacant (hhos : ∀ {t holding}, ¬Holder p t holding)
    (hrcs : ∀ {holding}, ¬Recorded p.state.agent holding) : Registry spared p where
  located holder := absurd holder hhos
  recorded holder := absurd holder hhos
  alone holder := absurd holder hhos
  distinct holder := absurd holder hhos
  single recorded := absurd recorded hrcs

theorem Registry.below (reg : Registry spared p) (ho : Holder p t (.turn sessionID turn)) :
    turn < p.state.agent.turns.length := by
  obtain ⟨_, hf, _⟩ := reg.located ho
  exact (List.getElem?_eq_some_iff.mp hf).1

theorem Registry.stays (reg : Registry spared p) (next : Next rule p w)
    (ho : Holder p t (.turn sessionID turn)) :
    ∃ v, w.state.agent.turns[turn]? = some v ∧ v.sessionID = sessionID := by
  obtain ⟨s, hf, hn⟩ := reg.located ho
  obtain ⟨s', hl, h⟩ := next.identity hf
  have h : s'.sessionID = s.sessionID := congrArg Prod.fst h
  exact ⟨s', hl, h.trans hn⟩

theorem Registry.next (reg : Registry spared p) (next : Next rule p w) (step : RegistrationStep p w)
    (safe : ∀ {t k}, turnDiscipline.knows t p.trace = some k →
      k.lost → ¬spared "") : Registry spared w := by
  cases step with
  | kept hos mem =>
    refine ⟨?_, ?_, ?_, ?_, ?_⟩
    · intro t sessionID turn ho
      exact reg.stays next (hos.mp ho)
    · intro t holding ho kept
      exact mem.records.mpr (reg.recorded (hos.mp ho) kept)
    · intro a b holding one hano
      exact reg.alone (hos.mp one) (hos.mp hano)
    · intro a b sessionID other turn one hano
      exact reg.distinct (hos.mp one) (hos.mp hano)
    · intro a b one hano
      exact reg.single (mem.records.mp one) (mem.records.mp hano)
  | @handed _ hgi gave _ hos mem =>
    refine ⟨?_, ?_, ?_, ?_, ?_⟩
    · intro t sessionID turn ho
      rcases hos.mp ho with ⟨_, rfl⟩ | ⟨_, ho⟩
      · exact reg.stays next gave
      · exact reg.stays next ho
    · intro t holding ho kept
      apply mem.records.mpr
      rcases hos.mp ho with ⟨_, rfl⟩ | ⟨_, ho⟩
      · exact reg.recorded gave kept
      · exact reg.recorded ho kept
    · intro a b holding one hano kept
      rcases hos.mp one with ⟨rfl, rfl⟩ | ⟨notGiver, one⟩
      · rcases hos.mp hano with ⟨rfl, _⟩ | ⟨notGiver, hano⟩
        · rfl
        · exact absurd (reg.alone hano gave kept) notGiver
      · rcases hos.mp hano with ⟨_, rfl⟩ | ⟨_, hano⟩
        · exact absurd (reg.alone one gave kept) notGiver
        · exact reg.alone one hano kept
    · intro a b sessionID other turn one hano
      rcases hos.mp one with ⟨rfl, rfl⟩ | ⟨notGiver, one⟩
      · rcases hos.mp hano with ⟨rfl, _⟩ | ⟨notGiver, hano⟩
        · rfl
        · exact absurd (reg.distinct hano gave) notGiver
      · rcases hos.mp hano with ⟨_, rfl⟩ | ⟨_, hano⟩
        · exact absurd (reg.distinct one gave) notGiver
        · exact reg.distinct one hano
    · intro a b one hano
      exact reg.single (mem.records.mp one) (mem.records.mp hano)
  | @took _ _ _ _ _ hos mem =>
    refine ⟨?_, ?_, ?_, ?_, ?_⟩
    · intro t sessionID turn ho
      rcases hos.mp ho with ⟨_, rfl⟩ | ho
      · obtain ⟨v, hl, hn⟩ := Option.map_eq_some_iff.mp (mem.placed rfl).2
        exact ⟨v, hl, hn⟩
      · exact reg.stays next ho
    · intro t holding ho kept
      apply mem.records.mpr
      rcases hos.mp ho with ⟨_, rfl⟩ | ho
      · exact .inl rfl
      · exact .inr (reg.recorded ho kept)
    · intro a b holding one hano kept
      rcases hos.mp one with ⟨rfl, rfl⟩ | one
      · rcases hos.mp hano with ⟨rfl, _⟩ | hano
        · rfl
        · exact absurd (reg.recorded hano kept) (mem.vacant rfl)
      · rcases hos.mp hano with ⟨_, rfl⟩ | hano
        · exact absurd (reg.recorded one kept) (mem.vacant rfl)
        · exact reg.alone one hano kept
    · intro a b sessionID other turn one hano
      -- the new Turn has the next number
      rcases hos.mp one with ⟨rfl, rfl⟩ | one
      · rcases hos.mp hano with ⟨rfl, _⟩ | hano
        · rfl
        · exact absurd (mem.placed rfl).1 (Nat.ne_of_lt (reg.below hano))
      · rcases hos.mp hano with ⟨_, rfl⟩ | hano
        · exact absurd (mem.placed rfl).1 (Nat.ne_of_lt (reg.below one))
        · exact reg.distinct one hano
    · intro a b one hano h
      rcases mem.records.mp one with rfl | one
      · rcases mem.records.mp hano with rfl | hano
        · rfl
        · exact absurd hano (mem.vacant h.symm)
      · rcases mem.records.mp hano with rfl | hano
        · exact absurd one (mem.vacant h)
        · exact reg.single one hano h
  | @gaveUp _ k hgi _ hk held hn _ hos mem =>
    refine ⟨?_, ?_, ?_, ?_, ?_⟩
    · intro t sessionID turn ho
      exact reg.stays next (hos.mp ho).2
    · intro t holding ho kept
      obtain ⟨ne, ho⟩ := hos.mp ho
      have old := reg.recorded ho kept
      refine mem.records.mpr ⟨old, ?_⟩
      rintro ⟨struck, _⟩
      rcases hn with rfl | ⟨lost, rfl⟩
      · -- both threads would hold what is recorded for the session
        have mine : Recorded p.state.agent hgi := reg.recorded ⟨k, hk, held⟩ (struck ▸ kept)
        cases reg.single old mine struck
        exact ne (reg.alone ho ⟨k, hk, held⟩ kept)
      · exact safe hk lost (struck ▸ kept)
    · intro a b holding one hano
      exact reg.alone (hos.mp one).2 (hos.mp hano).2
    · intro a b sessionID other turn one hano
      exact reg.distinct (hos.mp one).2 (hos.mp hano).2
    · intro a b one hano
      exact reg.single (mem.records.mp one).1 (mem.records.mp hano).1
  | crashed _ hos rcs _ => exact .of_vacant hos rcs

theorem registry_begin (spared : String → Prop) (wd : World)
    (hrcs : ∀ {holding}, ¬Recorded wd.agent holding) :
    Registry spared (System.Traced.begin wd) := by
  refine .of_vacant ?_ hrcs
  rintro t holding ⟨_, hk, _⟩
  cases hk

theorem boot_records {holding : Holding} : ¬Recorded (World.boot cfg db).agent holding := by
  intro rcd
  cases holding <;> cases rcd

/-- Whatever happens, the registries are right about every session that has a name. -/
theorem registry_of_reached (hr : Reached rule cfg db p) : Registry (· ≠ "") p := by
  refine Reached.induction (registry_begin _ _ boot_records) ?_ hr
  intro p w s s' next reg
  exact reg.next next (registration_step s s' next) fun _ _ hn => hn rfl

end Facts

end AISummoner.Agent
