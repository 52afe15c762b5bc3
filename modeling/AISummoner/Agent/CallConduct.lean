import AISummoner.App.Conduct

/-! # The conduct of one tool call

What a call of `Invoke` learns from its own operations, and what it does only
after having learned enough.  What the knowledge means for the database is said
in `Agent.CallHistory`.
-/

namespace AISummoner.Agent

open Concurrency Concurrency.Discipline Store AISummoner.Runtime App

structure CallKnowledge where
  turn : Nat
  ctx : Context
  request : ToolRequest
  /-- The call holds the gate of its Turn. -/
  gate : Bool := false
  /-- The call has returned to the Adapter. -/
  left : Bool := false
  /-- The identifier made for the call. -/
  named : Option String := none
  invoker : Option (AgentSession × ExecutionTarget) := none
  /-- The row given to the store, and whether the store acknowledged it. -/
  inserted : Option ToolCall := none
  acknowledged : Bool := false
  /-- The channel is registered and `installPending` may still send. -/
  installing : Bool := false
  /-- Every row read, latest first. -/
  rows : List ToolCall := []
  /-- The last session state written is `running`, and it was acknowledged. -/
  resumed : Bool := false
  /-- The abort found a decision on a row that is still `pending`. -/
  raced : Bool := false
  /-- The store answered an attempt at failing the undecided row. -/
  tried : Bool := false
  /-- The last attempt of a loop got no answer. -/
  exhausted : Bool := false
  /-- An attempt at failing the undecided row changed it. -/
  aborted : Bool := false
  /-- The store was asked to move the row to `started`, and it did. -/
  launching : Bool := false
  started : Bool := false
  /-- Every terminal status and exit code asked for. -/
  aims : List (ToolStatus × Option Int) := []
  /-- The terminal status the row was moved to. -/
  finished : Option ToolStatus := none
  executed : Bool := false
  /-- The publication in progress. -/
  calling : Option (String × Payload) := none
  /-- `tool_call.completed` was published. -/
  announced : Bool := false

namespace CallKnowledge

/-- The call holds the gate, and `toolCallID` is its own identifier. -/
def Own (known : CallKnowledge) (toolCallID : String) : Prop :=
  known.gate = true ∧ known.named = some toolCallID

def Terminal (known : CallKnowledge) (status : ToolStatus) : Prop :=
  Store.terminalToolStatus status = true ∧
    ((∃ row ∈ known.rows, row.status = status) ∨ known.finished = some status ∨
      (known.aborted = true ∧ status = .failed))

def Launched (known : CallKnowledge) : Prop :=
  known.started = true ∨
    (known.acknowledged = true ∧ ∃ row, known.inserted = some row ∧ row.status = .started)

def Decided (known : CallKnowledge) (decision : Decision) : Prop :=
  ∃ row ∈ known.rows, row.decision = some decision

/-- The row is not left undecided, unless the store gave no answer to the end. -/
def Closed (known : CallKnowledge) : Prop :=
  known.acknowledged = false ∨ known.Launched ∨ known.tried = true ∨ known.exhausted = true ∨
    ∃ decision, known.Decided decision

/-- The four ways `tool_call.completed` is filled in, each after asking for its own ends. -/
inductive Presents (known : CallKnowledge) (status : ToolStatus) : CompletionDetails → Prop
  /-- The call was given up, or its end was persisted with an error. -/
  | bare (aims : ∀ aim ∈ known.aims, aim.1 = .completed ∨ aim = (.failed, none)) :
      Presents known status {}
  | denied {failure : Option ToolFailure}
      (aims : ∀ aim ∈ known.aims, aim = (.denied, none) ∨ aim = (.failed, none)) :
      Presents known status { denied := some true, failure := failure }
  | failed {details : CompletionDetails} (undenied : details.denied = some false)
      (reason : details.failure.isSome = true)
      (aims : ∀ aim ∈ known.aims, aim = (.failed, none)) : Presents known status details
  | completed {code : Int} (settled : status = .completed)
      (aims : ∀ aim ∈ known.aims, aim = (.completed, some code) ∨ aim = (.failed, none)) :
      Presents known status { exitCode := some code }

/-! ## What is learned -/

def inAbort : Site → Bool
  | .abort _ => true
  | _ => false

def announcesEnd : Payload → Bool
  | .toolCompleted .. => true
  | _ => false

def saw (known : CallKnowledge) (site : Site) (row : ToolCall) : CallKnowledge :=
  { known with
    rows := row :: known.rows
    installing := if site = .reconcile then row.decision.isSome else known.installing
    raced := known.raced || (inAbort site && row.status = .pending && row.decision.isSome) }

def afterStore (known : CallKnowledge) (site : Site) :
    (statement : Statement) → Except StoreError statement.Result → CallKnowledge
  | .createAgentToolCall _ row, response =>
    { known with inserted := some row, acknowledged := response.isOk }
  | .agentToolCallByOwner _ _, .ok row => known.saw site row
  | .agentToolCallByOwner _ _, .error _ =>
    { known with installing := if site = .reconcile then false else known.installing }
  | .updateAgentSessionState _ _ state _, response =>
    { known with resumed := response.isOk && state = .running }
  | .failPendingToolCall .., .ok affected =>
    { known with tried := true, aborted := known.aborted || affected = 1 }
  | .failPendingToolCall .., .error _ =>
    { known with exhausted := known.exhausted || site = .attempt 1 }
  | .startToolCall .., .ok affected =>
    { known with launching := true, started := known.started || affected = 1 }
  | .startToolCall .., .error _ => { known with launching := true }
  | .finishToolCall _ _ status code _ _, .ok affected =>
    { known with
      aims := (status, code) :: known.aims
      finished := if affected = 1 then some status else known.finished }
  | .finishToolCall _ _ status code _ _, .error _ =>
    { known with aims := (status, code) :: known.aims }
  | _, _ => known

def afterAgent (known : CallKnowledge) :
    (operation : AgentOperation) → operation.Response → CallKnowledge
  | .acquireGate .., .ok _ => { known with gate := true }
  | .releaseGate _, _ => { known with gate := false }
  | .endInvoke _, _ => { known with left := true }
  | .invoker _, invoker => { known with invoker := some invoker }
  | .installPending .., .ok _ => { known with installing := true }
  | .sendDecision .., _ => { known with installing := false }
  | .publish _, _ => { known with calling := none }
  | _, _ => known

def afterObservation (known : CallKnowledge) : Observation → CallKnowledge
  | .publishing sessionID payload =>
    { known with
      calling := some (sessionID, payload)
      announced := known.announced || announcesEnd payload }
  | .exec _ => { known with executed := true }
  | _ => known

def after (known : CallKnowledge) :
    (operation : Operation) → operation.Response → CallKnowledge
  | .store _ site statement, response => known.afterStore site statement response
  | .agent operation, response => known.afterAgent operation response
  | .observe observation, _ => known.afterObservation observation
  | .newID kind, some id => if kind = "tool" then { known with named := some id } else known
  | _, _ => known

/-! ## What may be done -/

def mayStore (known : CallKnowledge) : Statement → Prop
  | .createAgentToolCall owner row =>
    known.gate = true ∧ known.inserted = none ∧
      ∃ session target arguments toolCallID now, known.named = some toolCallID ∧
        known.invoker = some (session, target) ∧ owner = session.userID ∧
        known.request.name = toolRemoteExec ∧
        parseRemoteExecArguments known.request.arguments = .ok arguments ∧
        row = Service.newToolCall toolCallID session arguments now
  | .agentToolCallByOwner _ toolCallID | .failPendingToolCall _ toolCallID _ _ =>
    known.Own toolCallID
  | .startToolCall _ toolCallID =>
    known.Own toolCallID ∧ (known.resumed = true ∨ known.raced = true) ∧
      ∃ decision, decision ≠ .deny ∧ known.Decided decision
  | .finishToolCall _ toolCallID status code _ _ =>
    known.Own toolCallID ∧ (code.isSome = true → status = .completed)
  | .updateAgentSessionState owner sessionID state _ =>
    known.gate = true ∧ known.launching = false ∧
      ∃ session target, known.invoker = some (session, target) ∧ owner = session.userID ∧
        sessionID = session.id ∧ session.approvalMode = .perCommand ∧
        (state = .waitingApproval ∨ state = .running)
  | _ => True

def mayAgent (known : CallKnowledge) : AgentOperation → Prop
  | .acquireGate turn ctx => turn = known.turn ∧ ctx = known.ctx ∧ known.gate = false ∧
      known.named = none ∧ known.left = false
  | .releaseGate turn => turn = known.turn ∧ known.gate = true ∧ known.Closed
  | .endInvoke turn => turn = known.turn ∧ known.gate = false
  | .invoker turn => turn = known.turn ∧ known.gate = true ∧ known.invoker = none
  | .installPending toolCallID pending =>
    known.Own toolCallID ∧ known.acknowledged = true ∧ pending.decision = none
  | .sendDecision toolCallID _ => known.Own toolCallID ∧ known.installing = true
  | .awaitDecision toolCallID _ | .removePending toolCallID => known.Own toolCallID
  | .upgradeApprovalMode turn => turn = known.turn ∧ known.gate = true ∧ known.started = true ∧
      known.Decided .approveSession
  | .publish event =>
    known.gate = true ∧ known.calling = some (event.sessionID, event.payload)
  | _ => True

def mayPublish (known : CallKnowledge) : Payload → Prop
  | .toolCompleted toolCallID status details =>
    known.Own toolCallID ∧ known.announced = false ∧ known.Terminal status ∧
      known.Presents status details
  | .toolPending toolCallID _ | .toolStarted toolCallID _ | .toolOutput toolCallID .. =>
    known.Own toolCallID ∧ known.announced = false
  | _ => True

def mayObserve (known : CallKnowledge) : Observation → Prop
  | .publishing sessionID payload =>
    known.gate = true ∧
      (∃ session target, known.invoker = some (session, target) ∧ sessionID = session.id) ∧
      known.mayPublish payload
  | .waited toolCallID result =>
    known.Own toolCallID ∧ ∀ decision, result = .ok decision → known.Decided decision
  | .finished toolCallID status _ =>
    known.Own toolCallID ∧ ∀ final, status = some final → known.Terminal final
  | .exec request =>
    known.gate = true ∧ known.executed = false ∧ known.Launched ∧
      ∃ session target arguments scope, known.invoker = some (session, target) ∧
        parseRemoteExecArguments known.request.arguments = .ok arguments ∧
        request = {
          ctx := scope :: known.ctx, timeoutMS := arguments.timeoutMS, deviceID := session.deviceID
          target, command := arguments.command, cwd := arguments.cwd }
  | _ => True

def may (known : CallKnowledge) : Operation → Prop
  | .store _ _ statement => known.mayStore statement
  | .agent operation => known.mayAgent operation
  | .observe observation => known.mayObserve observation
  | .newID kind => kind = "tool" → known.gate = true ∧ known.named = none
  | _ => True

end CallKnowledge

/-- Only calls of `Invoke` are looked at; they start nothing. -/
def callDiscipline : Discipline Server Goroutine CallKnowledge where
  start
    | .invoke turn ctx request => some { turn, ctx, request }
    | _ => none
  after := CallKnowledge.after
  afterFork known _ := known
  may := CallKnowledge.may
  mayFork _ _ := False

variable {known : CallKnowledge}

theorem ignores_statement {ctx : Context} {site : Site}
    {stm : Statement} (hun : performers (.store ctx site stm) = none) :
    known.mayStore stm ∧ ∀ r, known.afterStore site stm r = known := by
  cases stm <;> first | exact ⟨trivial, fun _ => rfl⟩ | cases hun

theorem ignores_agent {op : AgentOperation} (hun : agentPerformers op = none) :
    known.mayAgent op ∧ ∀ r, known.afterAgent op r = known := by
  cases op <;> first | exact ⟨trivial, fun _ => rfl⟩ | cases hun

theorem ignores_unowned {op : Operation} (hun : performers op = none) :
    known.may op ∧ ∀ r, known.after op r = known := by
  cases op with
  | store _ _ _ => exact ignores_statement hun
  | agent op => exact ignores_agent hun
  | observe _ => cases hun
  | newID kind =>
    have ho : kind ≠ "tool" := by
      intro h
      subst h
      cases hun
    refine ⟨fun h => absurd h ho, fun made => ?_⟩
    cases made with
    | none => rfl
    | some _ => simp [CallKnowledge.after, ho]
  | _ => exact ⟨trivial, fun _ => rfl⟩

theorem call_ignores : Ignores callDiscipline fun op => performers op = none where
  may unowned := (ignores_unowned unowned).1
  after unowned := (ignores_unowned unowned).2 _

/-! ## From one moment of a call to a later one -/

namespace CallKnowledge

/-- What a call keeps while it waits and settles; `tries` are the ends it may ask for meanwhile. -/
structure Since (tries : List (ToolStatus × Option Int)) (known later : CallKnowledge) : Prop where
  turn : later.turn = known.turn
  ctx : later.ctx = known.ctx
  request : later.request = known.request
  gate : later.gate = known.gate
  left : later.left = known.left
  named : later.named = known.named
  invoker : later.invoker = known.invoker
  inserted : later.inserted = known.inserted
  acknowledged : later.acknowledged = known.acknowledged
  launching : later.launching = known.launching
  started : later.started = known.started
  executed : later.executed = known.executed
  announced : later.announced = known.announced
  rows : ∀ row ∈ known.rows, row ∈ later.rows
  tried : known.tried = true → later.tried = true
  exhausted : known.exhausted = true → later.exhausted = true
  aims : ∀ aim ∈ later.aims, aim ∈ known.aims ∨ aim ∈ tries

variable {tries : List (ToolStatus × Option Int)} {known k' last : CallKnowledge}

theorem Since.refl (known : CallKnowledge) : Since tries known known := by
  constructor <;> first | rfl | exact fun _ h => h | exact fun h => h | skip
  exact fun _ hm => .inl hm

theorem Since.trans (a : Since tries known k') (b : Since tries k' last) :
    Since tries known last where
  turn := b.turn.trans a.turn
  ctx := b.ctx.trans a.ctx
  request := b.request.trans a.request
  gate := b.gate.trans a.gate
  left := b.left.trans a.left
  named := b.named.trans a.named
  invoker := b.invoker.trans a.invoker
  inserted := b.inserted.trans a.inserted
  acknowledged := b.acknowledged.trans a.acknowledged
  launching := b.launching.trans a.launching
  started := b.started.trans a.started
  executed := b.executed.trans a.executed
  announced := b.announced.trans a.announced
  rows row hm := b.rows row (a.rows row hm)
  tried holds := b.tried (a.tried holds)
  exhausted holds := b.exhausted (a.exhausted holds)
  aims aim hm := by
    rcases b.aims aim hm with pre | tried
    · exact a.aims aim pre
    · exact .inr tried

theorem Since.any (hsi : Since [] known k') : Since tries known k' :=
  { hsi with aims := fun aim hm => .inl ((hsi.aims aim hm).resolve_right (by simp)) }

theorem Since.widen {aim : ToolStatus × Option Int} (hsi : Since [aim] known k')
    (hm : aim ∈ tries) : Since tries known k' :=
  { hsi with
    aims := by
      intro o made
      rcases hsi.aims o made with pre | only
      · exact .inl pre
      · exact .inr (List.mem_singleton.mp only ▸ hm) }

theorem Since.unaimed (hsi : Since [] known k') (hfr : known.aims = []) : k'.aims = [] := by
  apply List.eq_nil_iff_forall_not_mem.mpr
  intro aim made
  have tried := hsi.aims aim made
  simp [hfr] at tried

theorem Since.own (hsi : Since tries known k') {cid : String} (own : known.Own cid) : k'.Own cid :=
  ⟨hsi.gate.trans own.1, hsi.named.trans own.2⟩

theorem Since.decided (hsi : Since tries known k') {dec : Decision}
    (de : known.Decided dec) : k'.Decided dec := by
  obtain ⟨row, hm, he⟩ := de
  exact ⟨row, hsi.rows row hm, he⟩

theorem Since.launched (hsi : Since tries known k') (hla : known.Launched) : k'.Launched := by
  rcases hla with hst | ⟨hack, row, hins, sts⟩
  · exact .inl (hsi.started.trans hst)
  · exact .inr ⟨hsi.acknowledged.trans hack, row, hsi.inserted.trans hins, sts⟩

theorem since_saw (site : Site) (row : ToolCall) : Since tries known (known.saw site row) :=
  { Since.refl known with rows := fun _ hm => List.mem_cons_of_mem _ hm }

end CallKnowledge

end AISummoner.Agent
