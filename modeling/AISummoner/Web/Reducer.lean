import AISummoner.Web.Projection

/-! # The browser's copy of a conversation

`web/src/agent/useAgentEvents.ts` keeps the view of one session.  A message is shown
before the server has accepted it; if it is refused, the view it was added to comes
back.  The events of a tool call and the answer to a decision both write its status,
and the later one wins.
-/

namespace AISummoner.Web

open Store Agent

def streamDisconnectedMessage : String := "Agent 事件流已断开，正在等待重连…"

structure Submission where
  id : String
  previousView : AgentViewState
  sawTurnEvent : Bool
  deriving DecidableEq, Repr

structure ManagedState where
  sessionID : Option String := none
  view : AgentViewState := initialAgentViewState
  submission : Option Submission := none
  deriving DecidableEq, Repr

inductive Action where
  | reset (sessionID : Option String) (view : AgentViewState)
  | event (sessionID : String) (payload : Payload)
  | beginUser (sessionID messageID content : String)
  | acceptUser (sessionID messageID : String)
  | rejectUser (sessionID messageID : String)
  | decision (sessionID toolID : String) (decision : Decision)
  | streamError (sessionID : String)
  | streamOpen (sessionID : String)
  deriving DecidableEq, Repr

def addUserMessage (state : AgentViewState) (content messageID : String) : AgentViewState :=
  { state with
    turnState := .running, failure := none, failureCode := none
    timeline := state.timeline ++ [.message ⟨messageID, .user, content⟩] }

def patchDecision (decision : Decision) (tool : ToolCallView) : ToolCallView :=
  { tool with
    decision := some decision
    status := if decision = .deny then .stored .denied else .approved }

def markToolDecision (state : AgentViewState) (toolID : String) (decision : Decision) :
    AgentViewState :=
  { state with timeline := upsertTool state.timeline toolID (patchDecision decision) }

/-- Every event but `session.state` belongs to a turn. -/
def isTurnEvent : Payload → Bool
  | .sessionState _ => false
  | _ => true

/-- The stream's own failure does not replace another one. -/
def streamFailed (view : AgentViewState) : AgentViewState :=
  match view.failure with
  | some failure =>
    if failure ≠ "" ∧ failure ≠ streamDisconnectedMessage then view
    else { view with failure := some streamDisconnectedMessage }
  | none => { view with failure := some streamDisconnectedMessage }

def streamOpened (view : AgentViewState) : AgentViewState :=
  if view.failure = some streamDisconnectedMessage then { view with failure := none } else view

def Action.sessionID : Action → Option String
  | .reset sessionID _ => sessionID
  | .event sessionID _ | .beginUser sessionID _ _ | .acceptUser sessionID _
  | .rejectUser sessionID _ | .decision sessionID _ _ | .streamError sessionID
  | .streamOpen sessionID => some sessionID

/-- The actions of the session that is shown. -/
def ManagedState.apply (state : ManagedState) : Action → ManagedState
  | .reset sessionID view => { sessionID, view }
  | .event _ payload =>
    { state with
      view := projectAgentEvent state.view payload
      submission := state.submission.map fun submission =>
        { submission with sawTurnEvent := submission.sawTurnEvent || isTurnEvent payload } }
  | .beginUser _ messageID content =>
    if state.submission.isSome then state
    else
      { state with
        view := addUserMessage state.view content messageID
        submission := some ⟨messageID, state.view, false⟩ }
  | .acceptUser _ messageID =>
    if state.submission.map Submission.id = some messageID then { state with submission := none }
    else state
  | .rejectUser _ messageID =>
    match state.submission with
    | some submission =>
      if submission.id = messageID then
        { state with
          view := if submission.sawTurnEvent then state.view else submission.previousView
          submission := none }
      else state
    | none => state
  | .decision _ toolID decision =>
    { state with view := markToolDecision state.view toolID decision }
  | .streamError _ => { state with view := streamFailed state.view }
  | .streamOpen _ => { state with view := streamOpened state.view }

def reducer (state : ManagedState) (action : Action) : ManagedState :=
  match action with
  | .reset .. => state.apply action
  | _ => if state.sessionID = action.sessionID then state.apply action else state

/-! ## The status of a tool call -/

def shownStatus (view : AgentViewState) (id : String) : Option ShownStatus :=
  (findTool view.timeline id).map ToolCallView.status

/-- The action writes the status of the call, or replaces the whole view. -/
def Action.Restates (id : String) : Action → Prop
  | .reset .. => True
  | .event _ (.toolPending called _) | .event _ (.toolStarted called _)
  | .event _ (.toolCompleted called _ _) | .decision _ called _ => called = id
  | _ => False

/-- The call has the status in the view, and in the view a refusal would bring back. -/
structure Settled (id : String) (status : ShownStatus) (state : ManagedState) : Prop where
  view : shownStatus state.view id = some status
  previous : ∀ submission ∈ state.submission, submission.sawTurnEvent = false →
    shownStatus submission.previousView id = some status

variable {st : ManagedState} {view : AgentViewState} {id sid m : String} {status : ShownStatus}
  {act : Action}

theorem shownStatus_addUserMessage (ct : String) :
    shownStatus (addUserMessage view ct m) id = shownStatus view id := by
  simp [shownStatus, addUserMessage, findTool_append, findTool]

theorem shownStatus_markToolDecision {toolID : String} (dec : Decision) (ne : toolID ≠ id) :
    shownStatus (markToolDecision view toolID dec) id = shownStatus view id := by
  have keeps (tool : ToolCallView) : (patchDecision dec tool).id = tool.id := rfl
  simp only [shownStatus, markToolDecision, findTool_upsertTool_ne keeps view.timeline ne]

theorem shownStatus_stream : shownStatus (streamFailed view) id = shownStatus view id ∧
      shownStatus (streamOpened view) id = shownStatus view id := by
  constructor
  · unfold streamFailed
    repeat' split
    all_goals rfl
  · unfold streamOpened
    split <;> rfl

theorem shownStatus_projectAgentEvent {pl : Payload} (hn : id ≠ "")
    (hq : ¬Action.Restates id (.event sid pl)) (hs : shownStatus view id = some status) :
    shownStatus (projectAgentEvent view pl) id = some status := by
  by_cases o : pl.toolCall ≠ some id
  · unfold shownStatus
    rwa [findTool_projectAgentEvent_ne o]
  have about : pl.toolCall = some id := not_not.mp o
  cases pl with
  | toolOutput _ stdout stderr =>
    cases about
    obtain ⟨tool, hf, rfl⟩ := Option.map_eq_some_iff.mp hs
    have keeps (tool : ToolCallView) : (patchOutput stdout stderr tool).id = tool.id := rfl
    simp [shownStatus, projectAgentEvent, projectTool, hn, findTool_upsertTool keeps, hf,
      patchOutput]
  | toolPending | toolStarted | toolCompleted =>
    cases about
    exact absurd rfl hq
  | _ => cases about

theorem Settled.apply (hn : id ≠ "") (se : Settled id status st)
    (hq : ¬act.Restates id) : Settled id status (st.apply act) := by
  obtain ⟨hsh, previous⟩ := se
  cases act with
  | reset => exact absurd trivial hq
  | event _ _ =>
    refine ⟨shownStatus_projectAgentEvent hn hq hsh, ?_⟩
    intro submission hsub hsaw
    obtain ⟨old, hold, rfl⟩ := Option.map_eq_some_iff.mp hsub
    exact previous old hold (Bool.or_eq_false_iff.mp hsaw).1
  | beginUser _ messageID _ =>
    simp only [ManagedState.apply]
    split
    · exact ⟨hsh, previous⟩
    refine ⟨by rw [shownStatus_addUserMessage, hsh], ?_⟩
    -- the view a refusal brings back is the one before the message
    rintro _ ⟨⟩ _
    exact hsh
  | acceptUser =>
    simp only [ManagedState.apply]
    split
    · exact ⟨hsh, fun _ h => by cases h⟩
    · exact ⟨hsh, previous⟩
  | rejectUser _ messageID =>
    simp only [ManagedState.apply]
    split
    · next submission hsub =>
      split
      · refine ⟨?_, fun _ h => by cases h⟩
        cases hsaw : submission.sawTurnEvent with
        | true => exact hsh
        | false => exact previous submission hsub hsaw
      · exact ⟨hsh, previous⟩
    · exact ⟨hsh, previous⟩
  | decision _ _ dec =>
    exact ⟨(shownStatus_markToolDecision dec hq).trans hsh, previous⟩
  | streamError => exact ⟨shownStatus_stream.1.trans hsh, previous⟩
  | streamOpen => exact ⟨shownStatus_stream.2.trans hsh, previous⟩

theorem Settled.reducer (hn : id ≠ "") (se : Settled id status st)
    (hq : ¬act.Restates id) : Settled id status (reducer st act) := by
  have happ := se.apply hn hq
  unfold Web.reducer
  split
  · exact happ
  · split
    · exact happ
    · exact se

theorem Settled.actions (hn : id ≠ "") (actions : List Action)
    (hq : ∀ act ∈ actions, ¬act.Restates id) (se : Settled id status st) :
    Settled id status (actions.foldl Web.reducer st) := by
  induction actions generalizing st with
  | nil => exact se
  | cons act actions ih =>
    simp only [List.mem_cons, forall_eq_or_imp] at hq
    exact ih hq.2 (se.reducer hn hq.1)

/-- A call that was shown to have ended keeps its status until something else is
    said about it. -/
theorem status_stays (state : ManagedState) (sid id : String) (status : ToolStatus)
    (details : CompletionDetails) (later : List Action) (shown : state.sessionID = some sid)
    (named : id ≠ "") (quiet : ∀ action ∈ later, ¬action.Restates id) :
    shownStatus (later.foldl reducer
      (reducer state (.event sid (.toolCompleted id status details)))).view id =
      some (.stored status) := by
  refine (Settled.actions named later quiet ⟨?_, ?_⟩).view
  · have keeps (tool : ToolCallView) : (patchCompleted status details tool).id = tool.id := rfl
    simp [reducer, shown, Action.sessionID, ManagedState.apply, shownStatus, projectAgentEvent,
      projectTool, named, findTool_upsertTool keeps, patchCompleted]
  · -- an end is an event of a turn, so no refusal takes it back
    intro submission hsub hsaw
    simp [reducer, shown, Action.sessionID, ManagedState.apply, isTurnEvent] at hsub
    obtain ⟨old, _, rfl⟩ := hsub
    cases hsaw

def callEnded : Action := .event "ses_1" (.toolCompleted "call_1" .completed {})

theorem status_stays_output :
    shownStatus ([.event "ses_1" (.toolOutput "call_1" [] [] 0 false)].foldl reducer
      (reducer { sessionID := some "ses_1" } callEnded)).view "call_1" =
      some (.stored .completed) :=
  status_stays { sessionID := some "ses_1" } "ses_1" "call_1" .completed {} _ rfl (by decide)
    (by simp [Action.Restates])

/-- The answer to the decision takes the end back. -/
theorem status_approved_after_end :
    shownStatus ([callEnded, .decision "ses_1" "call_1" .approveOnce].foldl reducer
      { sessionID := some "ses_1" }).view "call_1" = some .approved := by
  decide

/-! ## Messages that are refused -/

/-- The actions that do not belong to a turn. -/
def Action.Aside : Action → Prop
  | .event _ (.sessionState _) | .decision .. | .streamError _ | .streamOpen _ => True
  | _ => False

theorem reducer_aside (st : ManagedState) (aside : act.Aside) :
    (reducer st act).sessionID = st.sessionID ∧ (reducer st act).submission = st.submission := by
  cases act with
  | event _ pl =>
    cases pl with
    | sessionState =>
      simp only [reducer]
      split
      · simp [ManagedState.apply, isTurnEvent]
      · exact ⟨rfl, rfl⟩
    | _ => exact aside.elim
  | decision | streamError | streamOpen =>
    simp only [reducer]
    split <;> exact ⟨rfl, rfl⟩
  | _ => exact aside.elim

theorem actions_aside (st : ManagedState) {actions : List Action}
    (aside : ∀ act ∈ actions, act.Aside) : (actions.foldl reducer st).sessionID = st.sessionID ∧
      (actions.foldl reducer st).submission = st.submission := by
  induction actions generalizing st with
  | nil => exact ⟨rfl, rfl⟩
  | cons act actions ih =>
    simp only [List.mem_cons, forall_eq_or_imp] at aside
    obtain ⟨ses, submission⟩ := reducer_aside st aside.1
    obtain ⟨session', submission'⟩ := ih (reducer st act) aside.2
    exact ⟨session'.trans ses, submission'.trans submission⟩

end AISummoner.Web
