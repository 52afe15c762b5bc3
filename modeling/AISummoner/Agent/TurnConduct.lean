import AISummoner.App.Conduct

/-! # The conduct of a Turn

A Turn is reserved by `StartTurn` and handed over to `runTurn`.  Whoever holds a
registration gives it up once, writes a final state only while it holds it and no
Adapter runs, and announces one outcome, after it has been written.
-/

namespace AISummoner.Agent

open Concurrency Concurrency.Discipline Store AISummoner.Runtime App

inductive Holding where
  | turn (sessionID : String) (turn : Nat)
  | configuration (sessionID : String)
  deriving DecidableEq, Repr

def Holding.sessionID : Holding → String
  | .turn sessionID _ => sessionID
  | .configuration sessionID => sessionID

structure TurnKnowledge where
  /-- The session the request names. -/
  requested : String
  held : Option Holding := none
  /-- The session `StartTurn` read first, and the one it read after `BeginAgentTurn`. -/
  found : Option AgentSession := none
  reread : Option AgentSession := none
  /-- The second look failed. -/
  lost : Bool := false
  /-- The request was refused because the session is busy. -/
  refused : Bool := false
  /-- `BeginAgentTurn` changed no row. -/
  unbegun : Bool := false
  /-- `BeginAgentTurn` reports a conflict: it changed no row, and then found the session. -/
  conflicted : Bool := false
  /-- The session was set to `running` for the Turn. -/
  begun : Bool := false
  /-- A final state was asked for. -/
  ended : Bool := false
  /-- `Adapter.Run` is executing. -/
  running : Bool := false
  /-- The reasoning and the text the Adapter has emitted. -/
  transcript : Option (String × String) := none
  /-- The messages the store acknowledged. -/
  saved : List (MessageRole × String) := []
  /-- The final state the store acknowledged last. -/
  settled : Option SessionState := none
  /-- The final state that goes with the outcome announced. -/
  concluded : Option SessionState := none
  /-- The publication in progress. -/
  calling : Option (String × Payload) := none

namespace TurnKnowledge

def Holds (known : TurnKnowledge) (sessionID : String) : Prop :=
  ∃ turn, known.held = some (.turn sessionID turn)

/-- One of the names `StartTurn` has for the session it holds a Turn of. -/
def Names (known : TurnKnowledge) (sessionID : String) : Prop :=
  (∃ other, known.Holds other) ∧
    (known.Holds sessionID ∨ (∃ session, known.reread = some session ∧ sessionID = session.id) ∨
      (known.lost = true ∧ sessionID = known.requested))

theorem Holds.names {known : TurnKnowledge} {sid : String} (hh : known.Holds sid) :
    known.Names sid :=
  ⟨⟨sid, hh⟩, .inl hh⟩

/-- The final state an outcome goes with. -/
def outcome : Payload → Option SessionState
  | .turnCompleted => some .idle
  | .turnFailed .. => some .failed
  | _ => none

def afterStore (known : TurnKnowledge) (site : Site) :
    (statement : Statement) → Except StoreError statement.Result → TurnKnowledge
  | .agentSessionByOwner _ _, .ok session =>
    match site with
    | .admission => { known with found := some session }
    | .begin => { known with conflicted := known.conflicted || known.unbegun }
    | .reread => { known with reread := some session }
    | _ => known
  | .agentSessionByOwner _ _, .error error =>
    { known with
      lost := known.lost || site = .reread
      conflicted := known.conflicted || (site = .begin && error = .conflict) }
  | .beginTurn .., .ok affected =>
    { known with begun := known.begun || affected = 1, unbegun := affected ≠ 1 }
  | .beginTurn .., .error error =>
    { known with conflicted := known.conflicted || error = .conflict }
  | .updateAgentSessionState _ _ state _, response =>
    { known with ended := true, settled := if response.isOk then some state else none }
  | .createAgentMessage _ message, .ok _ =>
    { known with saved := (message.role, message.content) :: known.saved }
  | _, _ => known

def afterAgent (known : TurnKnowledge) :
    (operation : AgentOperation) → operation.Response → TurnKnowledge
  | .reserveTurn sessionID .., .ok turn =>
    { known with
      held := some (.turn sessionID turn), begun := false, ended := false, settled := none }
  | .beginMutation, .error error | .reserveTurn .., .error error =>
    { known with refused := known.refused || error = .turnInProgress }
  | .reserveSessionConfiguration sessionID, .ok _ =>
    { known with held := some (.configuration sessionID) }
  | .releaseTurn _, _ | .releaseSessionConfiguration _, _ => { known with held := none }
  | .beginRun .., _ => { known with running := true }
  | .endRun _, _ => { known with running := false }
  | .transcript _, (reasoning, text, _) => { known with transcript := some (reasoning, text) }
  | .publish _, _ => { known with calling := none }
  | _, _ => known

def after (known : TurnKnowledge) : (operation : Operation) → operation.Response → TurnKnowledge
  | .store _ site statement, response => known.afterStore site statement response
  | .agent operation, response => known.afterAgent operation response
  | .observe (.publishing sessionID payload), _ =>
    { known with
      calling := some (sessionID, payload)
      concluded := (outcome payload).orElse fun _ => known.concluded }
  | _, _ => known

/-! ## What may be done -/

def mayStore (known : TurnKnowledge) (site : Site) : Statement → Prop
  | .agentSessionByOwner _ sessionID =>
    (site = .admission → known.held = none ∧ sessionID = known.requested) ∧
      (site = .begin ∨ site = .reread → known.Holds sessionID)
  | .beginTurn _ sessionID _ =>
    known.Holds sessionID ∧ known.begun = false ∧ known.ended = false
  | .updateAgentSessionState _ sessionID state _ =>
    known.running = false ∧ known.Names sessionID ∧ (state = .failed ∨ state = .idle)
  | .createAgentMessage _ message =>
    known.Names message.sessionID ∧ known.running = false ∧
      match message.role with
      | .user => True
      | .reasoning => ∃ text, known.transcript = some (message.content, text)
      | .assistant => ∃ reasoning, known.transcript = some (reasoning, message.content)
  | _ => True

def mayAgent (known : TurnKnowledge) : AgentOperation → Prop
  | .reserveTurn sessionID .. =>
    known.held = none ∧ known.concluded = none ∧
      ∃ session, known.found = some session ∧ sessionID = session.id
  | .reserveSessionConfiguration _ => known.held = none
  | .releaseTurn sessionID =>
    known.running = false ∧ (known.Names sessionID ∨
      (known.lost = true ∧ sessionID = "" ∧ ∃ other, known.Holds other))
  | .releaseSessionConfiguration sessionID => known.held = some (.configuration sessionID)
  | .beginRun turn session _ =>
    known.held = some (.turn session.id turn) ∧ known.begun = true ∧ known.ended = false ∧
      known.running = false ∧ known.transcript = none
  | .endRun turn => known.running = true ∧ ∃ sessionID, known.held = some (.turn sessionID turn)
  | .transcript turn =>
    known.running = false ∧ known.transcript = none ∧
      ∃ sessionID, known.held = some (.turn sessionID turn)
  | .publish event => known.calling = some (event.sessionID, event.payload)
  | _ => True

def mayPublish (known : TurnKnowledge) : Payload → Prop
  | .sessionState state => known.concluded.getD .running = state
  | .reasoningDone text =>
    known.concluded = none ∧ ∃ other, known.transcript = some (text, other)
  | .textDone text =>
    known.concluded = none ∧ ∃ other, known.transcript = some (other, text)
  | .turnCompleted =>
    known.concluded = none ∧ known.settled = some .idle ∧ ∃ reasoning text,
      known.transcript = some (reasoning, text) ∧
      (reasoning ≠ "" → (.reasoning, reasoning) ∈ known.saved) ∧
      (text ≠ "" → (.assistant, text) ∈ known.saved)
  | .turnFailed .. => known.concluded = none ∧ known.settled = some .failed
  | _ => False

def mayObserve (known : TurnKnowledge) : Observation → Prop
  | .publishing sessionID payload =>
    known.running = false ∧ known.Holds sessionID ∧ known.mayPublish payload
  | .startTurnReply result =>
    result = .error .turnInProgress → known.refused = true ∨ known.conflicted = true
  | _ => True

def may (known : TurnKnowledge) : Operation → Prop
  | .store _ site statement => known.mayStore site statement
  | .agent operation => known.mayAgent operation
  | .observe observation => known.mayObserve observation
  | _ => True

/-- The Turn is handed over to its goroutine, for the session that was read last. -/
def mayFork (known : TurnKnowledge) (child : Goroutine) : Prop :=
  ∃ sessionID turn scope session message target,
    child = .runTurn turn scope session message target ∧
    known.held = some (.turn sessionID turn) ∧ known.reread = some session ∧
    known.begun = true ∧ known.ended = false ∧ known.running = false

end TurnKnowledge

/-- The threads that take a registration, or are given one. -/
def turnDiscipline : Discipline Server Goroutine TurnKnowledge where
  start
    | .startTurn _ _ sessionID _ | .sessionModels _ _ sessionID
    | .selectSessionModel _ _ sessionID _ => some { requested := sessionID }
    | .runTurn turn _ session _ _ =>
      some { requested := session.id, held := some (.turn session.id turn), begun := true }
    | _ => none
  after := TurnKnowledge.after
  afterFork known _ := { known with held := none }
  may := TurnKnowledge.may
  mayFork := TurnKnowledge.mayFork

section Ignored

variable {known : TurnKnowledge}

theorem turn_ignores_statement {ctx : Context} {site : Site} {stm : Statement}
    (hun : performers (.store ctx site stm) = none) : known.mayStore site stm ∧
      ∀ r, known.afterStore site stm r = known := by
  cases stm with
  | agentSessionByOwner _ _ =>
    -- the looks of `StartTurn` belong to it
    have hel : site ≠ .admission ∧ site ≠ .begin ∧ site ≠ .reread := by
      simpa [performers] using hun
    obtain ⟨a, b, third⟩ := hel
    refine ⟨⟨fun h => absurd h a, ?_⟩, fun r => ?_⟩
    · rintro (h | h)
      · exact absurd h b
      · exact absurd h third
    · cases r with
      | ok _ => cases site <;> first | rfl | contradiction
      | error _ => simp [TurnKnowledge.afterStore, b, third]
  | _ => first | exact ⟨trivial, fun _ => rfl⟩ | cases hun

theorem turn_ignores_agent {op : AgentOperation} (hun : agentPerformers op = none) :
    known.mayAgent op ∧ ∀ r, known.afterAgent op r = known := by
  cases op <;> first | exact ⟨trivial, fun _ => rfl⟩ | cases hun

theorem turn_ignores_unowned {op : Operation} (hun : performers op = none) :
    known.may op ∧ ∀ r, known.after op r = known := by
  cases op with
  | store _ _ _ => exact turn_ignores_statement hun
  | agent op => exact turn_ignores_agent hun
  | observe _ => cases hun
  | _ => exact ⟨trivial, fun _ => rfl⟩

end Ignored

theorem turn_ignores : Ignores turnDiscipline fun op => performers op = none where
  may unowned := (turn_ignores_unowned unowned).1
  after unowned := (turn_ignores_unowned unowned).2 _

end AISummoner.Agent
