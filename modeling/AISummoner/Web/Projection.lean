import AISummoner.Agent.Settlement

/-! # What the browser shows

`web/src/agent/events.ts`: the view of a conversation is built from the events of a
session, or from a snapshot of its rows.  This module compares what the two show of
a tool call once its end was published.
-/

namespace AISummoner.Web

open Concurrency Encoding Store Agent App

/-! ## Views -/

inductive MessageAuthor where
  | user
  | assistant
  deriving DecidableEq, Repr

structure AgentMessageView where
  id : String
  role : MessageAuthor
  content : String
  deriving DecidableEq, Repr

/-- The statuses of rows, and those only the browser uses. -/
inductive ShownStatus where
  | running
  | approved
  | stored (status : ToolStatus)
  deriving DecidableEq, Repr

structure ToolCallView where
  id : String
  name : String
  command : String
  cwd : Option String := none
  timeoutMs : Option Int := none
  status : ShownStatus
  decision : Option Decision := none
  output : String
  exitCode : Option Int := none
  truncated : Option Bool := none
  denied : Option Bool := none
  failureCode : Option String := none
  error : Option String := none
  deriving DecidableEq, Repr

structure AgentReasoningView where
  id : String
  content : String
  running : Bool
  deriving DecidableEq, Repr

inductive TimelineItem where
  | message (message : AgentMessageView)
  | reasoning (reasoning : AgentReasoningView)
  | tool (tool : ToolCallView)
  deriving DecidableEq, Repr

abbrev Timeline := List TimelineItem

inductive TurnState where
  | idle
  | running
  | waiting
  | completed
  | failed
  deriving DecidableEq, Repr

structure AgentViewState where
  /-- `none` is `'ready'`, before any event. -/
  sessionState : Option SessionState := none
  turnState : TurnState := .idle
  timeline : Timeline := []
  failure : Option String := none
  failureCode : Option String := none
  deriving DecidableEq, Repr

def initialAgentViewState : AgentViewState := {}

def turnFailureMessages (code : String) : Option String :=
  if code = failureCommandDenied then some "命令已被拒绝。"
  else if code = failureDeviceOffline then some "设备当前离线。"
  else if code = failureExecCanceled then some "远程命令已取消。"
  else if code = failureExecTimeout then some "远程命令执行超时。"
  else if code = failureExecTransport then some "远程命令通道异常。"
  else if code = failureInvalidCWD then some "远程工作目录无效，请使用被控设备对应平台的绝对路径。"
  else if code = failurePowerShell then some "Windows PowerShell 未能启动远程命令。"
  else if code = failureApprovalTimeout then some "命令审批已超时。"
  else if code = "credential_required" then some "尚未配置 DeepSeek API 密钥，请先在设置中完成配置。"
  else none

/-! ## Values of a payload -/

/-- A string of the service after it went through JSON. -/
def textValue (bytes : Bytes) : String := String.ofList (decodeRunes bytes)

def joinOutputStreams (stdout stderr : Option String) : Option String :=
  match stdout, stderr with
  | none, none => none
  | none, some stderr => some stderr
  | some stdout, none => some stdout
  | some stdout, some stderr =>
    if stdout = "" then some stderr
    else if stderr = "" then some stdout
    else some (stdout ++ (if stdout.toList.getLast? = some '\n' then "" else "\n") ++ stderr)

/-- `cwd` is omitted from the JSON if it is empty. -/
def shownDirectory (arguments : RemoteExecArguments) : Option String :=
  if arguments.cwd = "" then none else some arguments.cwd

/-- The members of the stored arguments; a text that is no object is taken for the command. -/
def toolArguments (argumentsJSON : Bytes) : List (List Char × Scalar) :=
  let characters := decodeRunes argumentsJSON
  match flatObject characters with
  | some (entries, rest) =>
    if (skipBlanks rest).isEmpty then entries else [("command".toList, .string characters)]
  | none => [("command".toList, .string characters)]

def memberValue (entries : List (List Char × Scalar)) (key : String) : Option Scalar :=
  (entries.reverse.find? fun entry => entry.1 = key.toList).map Prod.snd

def stringValue (entries : List (List Char × Scalar)) (key : String) : Option String :=
  match memberValue entries key with
  | some (.string characters) => some (String.ofList characters)
  | _ => none

def numberValue (entries : List (List Char × Scalar)) (key : String) : Option Int :=
  match memberValue entries key with
  | some (.number value) => parseInt value
  | _ => none

def findTool : Timeline → String → Option ToolCallView
  | [], _ => none
  | .tool tool :: items, id => if tool.id = id then some tool else findTool items id
  | _ :: items, id => findTool items id

def commandUnavailable : String := "(command unavailable)"

/-- The card of a call nothing is known about. -/
def unknownTool (id : String) : ToolCallView where
  id := id
  name := toolRemoteExec
  command := commandUnavailable
  status := .stored .pending
  output := ""

/-- Patch the first card of the call, or add one at the end. -/
def upsertTool : Timeline → String → (ToolCallView → ToolCallView) → Timeline
  | [], id, patch => [.tool (patch (unknownTool id))]
  | .tool tool :: items, id, patch =>
    if tool.id = id then .tool (patch tool) :: items else .tool tool :: upsertTool items id patch
  | item :: items, id, patch => item :: upsertTool items id patch

/-! ## Texts of a timeline -/

def messageCount (timeline : Timeline) (role : MessageAuthor) : Nat :=
  timeline.countP fun
    | .message message => message.role = role
    | _ => false

def appendAssistantDelta (timeline : Timeline) (text : String) : Timeline :=
  if text = "" then timeline
  else
    match timeline.getLast? with
    | some (.message ⟨id, .assistant, content⟩) =>
      timeline.dropLast ++ [.message ⟨id, .assistant, content ++ text⟩]
    | _ =>
      timeline ++ [.message
        ⟨"assistant-" ++ toString (messageCount timeline .assistant + 1), .assistant, text⟩]

def reasoningCount (timeline : Timeline) : Nat :=
  timeline.countP fun
    | .reasoning _ => true
    | _ => false

def appendReasoningDelta (timeline : Timeline) (text : String) : Timeline :=
  if text = "" then timeline
  else
    match timeline.getLast? with
    | some (.reasoning ⟨id, content, true⟩) =>
      timeline.dropLast ++ [.reasoning ⟨id, content ++ text, true⟩]
    | _ =>
      timeline ++ [.reasoning ⟨"reasoning-" ++ toString (reasoningCount timeline + 1), text, true⟩]

/-- A reasoning that does not go on; a longer text replaces its own beginning. -/
def settleReasoning (text : String) : TimelineItem → Option TimelineItem
  | .reasoning ⟨id, content, _⟩ =>
    some (.reasoning ⟨id, if content.toList.isPrefixOf text.toList then text else content, false⟩)
  | _ => none

/-- Rewrite the last item that can be rewritten. -/
def rewriteLast (rewrite : TimelineItem → Option TimelineItem) : Timeline → Option Timeline
  | [] => none
  | item :: items =>
    match rewriteLast rewrite items with
    | some rewritten => some (item :: rewritten)
    | none => (rewrite item).map (· :: items)

def settleAllReasoning (timeline : Timeline) : Timeline :=
  timeline.map fun
    | .reasoning reasoning => .reasoning { reasoning with running := false }
    | item => item

def settleLatestReasoning (timeline : Timeline) (text : String) : Timeline :=
  match rewriteLast (settleReasoning text) timeline with
  | some rewritten => rewritten
  | none => settleAllReasoning (appendReasoningDelta timeline text)

def settleText (timeline : Timeline) (text : String) : Timeline :=
  if text = "" then timeline
  else
    match timeline.getLast? with
    | some (.message ⟨id, .assistant, content⟩) =>
      if content.toList.isPrefixOf text.toList then
        timeline.dropLast ++ [.message ⟨id, .assistant, text⟩]
      else timeline
    | _ => appendAssistantDelta timeline text

/-! ## Events -/

def patchPending (arguments : RemoteExecArguments) (tool : ToolCallView) : ToolCallView :=
  { tool with
    name := toolRemoteExec, command := arguments.command, cwd := shownDirectory arguments
    timeoutMs := some arguments.timeoutMS, status := .stored .pending }

/-- Unlike a pending call, a started one keeps a directory the event does not name. -/
def patchStarted (arguments : RemoteExecArguments) (tool : ToolCallView) : ToolCallView :=
  { tool with
    name := toolRemoteExec, command := arguments.command
    cwd := (shownDirectory arguments).orElse fun _ => tool.cwd
    timeoutMs := some arguments.timeoutMS, status := .running }

def patchOutput (stdout stderr : Bytes) (tool : ToolCallView) : ToolCallView :=
  { tool with
    output := tool.output ++
      (joinOutputStreams (some (textValue stdout)) (some (textValue stderr))).getD "" }

/-- The exit code is the event's, also if the event has none. -/
def patchCompleted (status : ToolStatus) (details : CompletionDetails) (tool : ToolCallView) :
    ToolCallView :=
  { tool with
    status := .stored status
    exitCode := details.exitCode
    truncated := details.truncated.orElse fun _ => tool.truncated
    denied := details.denied.orElse fun _ => tool.denied
    failureCode := details.failure.map ToolFailure.code
    error := details.failure.map ToolFailure.message
    output := (joinOutputStreams (details.stdout.map textValue)
      (details.stderr.map textValue)).getD tool.output }

/-- The events of a tool; a call without an identifier is ignored. -/
def projectTool (state : AgentViewState) (id : String) (turnState : TurnState)
    (patch : ToolCallView → ToolCallView) : AgentViewState :=
  if id = "" then state
  else { state with turnState, timeline := upsertTool state.timeline id patch }

def projectAgentEvent (state : AgentViewState) : Payload → AgentViewState
  | .sessionState shown => { state with sessionState := some shown }
  -- the browser does not listen to this one
  | .providerState _ => state
  | .reasoningDelta delta =>
    { state with
      turnState := .running, timeline := appendReasoningDelta state.timeline delta
      failure := none, failureCode := none }
  | .reasoningDone text =>
    { state with timeline := settleLatestReasoning state.timeline text }
  | .textDelta delta =>
    { state with
      turnState := .running, timeline := appendAssistantDelta state.timeline delta
      failure := none, failureCode := none }
  | .textDone text => { state with timeline := settleText state.timeline text }
  | .toolPending id arguments => projectTool state id .waiting (patchPending arguments)
  | .toolStarted id arguments => projectTool state id .running (patchStarted arguments)
  | .toolOutput id stdout stderr _ _ =>
    projectTool state id state.turnState (patchOutput stdout stderr)
  | .toolCompleted id status details => projectTool state id .running (patchCompleted status details)
  | .turnCompleted =>
    { state with
      turnState := .completed, timeline := settleAllReasoning state.timeline
      failure := none, failureCode := none }
  | .turnFailed code _ =>
    { state with
      turnState := .failed, timeline := settleAllReasoning state.timeline
      failure := some ((turnFailureMessages code).getD "Agent 本轮执行失败。")
      failureCode := some code }

def snapshotTool (tool : ToolCall) : ToolCallView :=
  let entries := toolArguments tool.argumentsJSON
  let excerpt := textValue (tool.outputExcerpt.getD [])
  let persistedFailureCode :=
    if (tool.status = .failed ∨ tool.status = .denied) ∧ (turnFailureMessages excerpt).isSome then
      some excerpt
    else none
  { id := tool.id
    name := tool.name
    command := (stringValue entries "command").getD commandUnavailable
    cwd := stringValue entries "cwd"
    timeoutMs := numberValue entries "timeout_ms"
    status := .stored tool.status
    decision := tool.decision
    output := if persistedFailureCode.isSome then "" else excerpt
    exitCode := tool.exitCode
    denied := some (tool.status = .denied)
    failureCode := persistedFailureCode }

/-! ## Cards and the events about them -/

theorem findTool_append {ha hb : Timeline} {id : String} :
    findTool (ha ++ hb) id = (findTool ha id).or (findTool hb id) := by
  induction ha with
  | nil => rfl
  | cons item _ ih =>
    cases item with
    | tool tool =>
      by_cases h : tool.id = id
      · simp [findTool, h]
      · simpa [findTool, h] using ih
    | _ => exact ih

variable {patch : ToolCallView → ToolCallView} {pl : Payload} {sid : String}

theorem findTool_upsertTool
    (keeps : ∀ tool, (patch tool).id = tool.id) (timeline : Timeline) (id : String) :
    findTool (upsertTool timeline id patch) id =
      some (patch ((findTool timeline id).getD (unknownTool id))) := by
  induction timeline with
  | nil => simp [upsertTool, findTool, keeps, unknownTool]
  | cons item _ ih =>
    cases item with
    | tool tool =>
      by_cases h : tool.id = id
      · simp [upsertTool, findTool, h, keeps]
      · simpa [upsertTool, findTool, h] using ih
    | _ => exact ih

theorem findTool_upsertTool_ne
    (keeps : ∀ tool, (patch tool).id = tool.id) (timeline : Timeline) {id o : String}
    (ne : o ≠ id) : findTool (upsertTool timeline o patch) id = findTool timeline id := by
  induction timeline with
  | nil => simp [upsertTool, findTool, keeps, unknownTool, ne]
  | cons item _ ih =>
    cases item with
    | tool tool =>
      by_cases h : tool.id = o
      · simp [upsertTool, findTool, h, keeps, ne]
      · simp only [upsertTool, h, if_false, findTool, ih]
    | _ => exact ih

def TimelineItem.cardless : TimelineItem → Prop
  | .tool _ => False
  | _ => True

theorem findTool_cardless {item : TimelineItem} (cardless : item.cardless) (items : Timeline)
    (id : String) : findTool (item :: items) id = findTool items id := by
  cases item with
  | tool tool => exact cardless.elim
  | _ => rfl

variable {timeline : Timeline} {st : AgentViewState} {text id : String}

theorem findTool_replaceLast {last item : TimelineItem}
    (hf : timeline.getLast? = some last) (hs : last.cardless) (hs' : item.cardless) :
    findTool (timeline.dropLast ++ [item]) id = findTool timeline id := by
  obtain ⟨_, rfl⟩ := List.getLast?_eq_some_iff.mp hf
  rw [List.dropLast_concat, findTool_append, findTool_append, findTool_cardless hs,
    findTool_cardless hs']

theorem findTool_appendAssistantDelta :
    findTool (appendAssistantDelta timeline text) id = findTool timeline id := by
  unfold appendAssistantDelta
  split
  · rfl
  split
  · next found => exact findTool_replaceLast found trivial trivial
  · simp [findTool_append, findTool]

theorem findTool_appendReasoningDelta :
    findTool (appendReasoningDelta timeline text) id = findTool timeline id := by
  unfold appendReasoningDelta
  split
  · rfl
  split
  · next found => exact findTool_replaceLast found trivial trivial
  · simp [findTool_append, findTool]

theorem findTool_settleAllReasoning :
    findTool (settleAllReasoning timeline) id = findTool timeline id := by
  induction timeline with
  | nil => rfl
  | cons item _ ih =>
    cases item with
    | tool tool =>
      by_cases h : tool.id = id
      · simp [settleAllReasoning, findTool, h]
      · simpa [settleAllReasoning, findTool, h] using ih
    | _ => exact ih

theorem findTool_rewriteLast {rewritten : Timeline}
    (hf : rewriteLast (settleReasoning text) timeline = some rewritten) :
    findTool rewritten id = findTool timeline id := by
  induction timeline generalizing rewritten with
  | nil => cases hf
  | cons item items ih =>
    simp only [rewriteLast] at hf
    cases hk' : rewriteLast (settleReasoning text) items with
    | some w =>
      rw [hk'] at hf
      cases hf
      have h := ih hk'
      cases item with
      | tool tool => simp only [findTool, h]
      | _ => exact h
    | none =>
      rw [hk'] at hf
      cases item with
      | reasoning _ =>
        cases hf
        rfl
      | _ => cases hf

theorem findTool_settleLatestReasoning :
    findTool (settleLatestReasoning timeline text) id = findTool timeline id := by
  unfold settleLatestReasoning
  split
  · next found => exact findTool_rewriteLast found
  · rw [findTool_settleAllReasoning, findTool_appendReasoningDelta]

theorem findTool_settleText : findTool (settleText timeline text) id = findTool timeline id := by
  unfold settleText
  split
  · rfl
  split
  · next found =>
    split
    · exact findTool_replaceLast found trivial trivial
    · rfl
  · exact findTool_appendAssistantDelta

theorem findTool_projectAgentEvent_ne (ho : pl.toolCall ≠ some id) :
    findTool (projectAgentEvent st pl).timeline id = findTool st.timeline id := by
  have framed {called : String} {turnState : TurnState} {patch : ToolCallView → ToolCallView}
      (keeps : ∀ tool, (patch tool).id = tool.id) (ne : some called ≠ some id) :
      findTool (projectTool st called turnState patch).timeline id = findTool st.timeline id := by
    unfold projectTool
    split
    · rfl
    · exact findTool_upsertTool_ne keeps st.timeline fun h => ne (congrArg some h)
  cases pl with
  | sessionState | providerState => rfl
  | reasoningDelta => exact findTool_appendReasoningDelta
  | reasoningDone => exact findTool_settleLatestReasoning
  | textDelta => exact findTool_appendAssistantDelta
  | textDone => exact findTool_settleText
  | toolPending | toolStarted | toolOutput | toolCompleted => exact framed (fun _ => rfl) ho
  | turnCompleted | turnFailed => exact findTool_settleAllReasoning

def Undenied (state : AgentViewState) (id : String) : Prop :=
  ∀ tool, findTool state.timeline id = some tool → tool.denied ≠ some true

theorem undenied_projectAgentEvent (hud : Undenied st id)
    (hgo : pl.toolCall = some id → CallKnowledge.announcesEnd pl = false) :
    Undenied (projectAgentEvent st pl) id := by
  by_cases ho : pl.toolCall ≠ some id
  · intro tool hf
    rw [findTool_projectAgentEvent_ne ho] at hf
    exact hud tool hf
  have about : pl.toolCall = some id := not_not.mp ho
  have patched {turnState : TurnState} {patch : ToolCallView → ToolCallView}
      (keeps : ∀ tool, (patch tool).id = tool.id)
      (denies : ∀ tool, (patch tool).denied = tool.denied) :
      Undenied (projectTool st id turnState patch) id := by
    unfold projectTool
    split
    · exact hud
    intro tool hf
    rw [findTool_upsertTool keeps, Option.some.injEq] at hf
    rw [← hf, denies]
    cases s : findTool st.timeline id with
    | none => simp [unknownTool]
    | some pre => exact hud pre s
  cases pl with
  | toolCompleted => cases hgo about
  | toolPending | toolStarted | toolOutput =>
    cases about
    exact patched (fun _ => rfl) (fun _ => rfl)
  | _ => cases about

/-! ## The live view of a session -/

/-- The payload of an event of the session that was handed to the hub. -/
def handed (sessionID : String) : HistoryEntry → Option Payload
  | .performed _ (.agent (.publish event)) accepted _ =>
    if accepted = true ∧ event.sessionID = sessionID then some event.payload else none
  | _ => none

/-- What a subscriber of the session gets of a part of the past, oldest first. -/
def published (sessionID : String) (recent : Trace) : List Payload :=
  recent.reverse.filterMap (handed sessionID)

theorem handed_eq {e : HistoryEntry} (hgi : handed sid e = some pl) : ∃ t ev ha w,
      e = .performed t (.agent (.publish ev)) ha w ∧ ev.payload = pl := by
  cases e with
  | performed t op r w =>
    cases op with
    | agent op =>
      cases op with
      | publish ev =>
        simp only [handed, Option.ite_none_right_eq_some] at hgi
        exact ⟨t, ev, r, w, rfl, Option.some.inj hgi.2⟩
      | _ => cases hgi
    | _ => cases hgi
  | _ => cases hgi

section Live

variable {id : String} {payloads : List Payload}

theorem findTool_project_others (hoth : ∀ pl ∈ payloads, pl.toolCall ≠ some id) :
    findTool (payloads.foldl projectAgentEvent st).timeline id = findTool st.timeline id := by
  induction payloads generalizing st with
  | nil => rfl
  | cons pl payloads ih =>
    obtain ⟨ha, rest⟩ := List.forall_mem_cons.mp hoth
    rw [List.foldl_cons, ih rest, findTool_projectAgentEvent_ne ha]

theorem undenied_project (hud : Undenied st id)
    (goOn : ∀ pl ∈ payloads, pl.toolCall = some id → CallKnowledge.announcesEnd pl = false) :
    Undenied (payloads.foldl projectAgentEvent st) id := by
  induction payloads generalizing st with
  | nil => exact hud
  | cons pl payloads ih =>
    obtain ⟨a, rest⟩ := List.forall_mem_cons.mp goOn
    exact ih (undenied_projectAgentEvent hud a) rest

end Live

/-- How far a card shown live agrees with the card of a snapshot.  The status
    always does.  A denial is shown as denied also if its row had to be failed;
    the exit code of a failed execution is the executor's although the row has
    none; and a completion that was persisted with an error is shown without its
    code. -/
structure Agrees (tool : ToolCallView) (row : ToolCall) : Prop where
  status : tool.status = (snapshotTool row).status
  denied : tool.denied.getD false = (snapshotTool row).denied.getD false ∨
    (row.status = .failed ∧ tool.denied = some true)
  exitCode : tool.exitCode = (snapshotTool row).exitCode ∨
    (row.status = .failed ∧ tool.failureCode.isSome = true) ∨
    (row.status = .completed ∧ tool.exitCode = none)

theorem agrees_of_reports {dts : CompletionDetails} {row : ToolCall} {card : ToolCallView}
    (hud : card.denied ≠ some true) (hrp : Reports dts row) :
    Agrees (patchCompleted row.status dts card) row where
  status := rfl
  denied := by
    have hsh : (snapshotTool row).denied = some (decide (row.status = .denied)) := rfl
    rcases hrp.denied with h | ⟨denied, hfa⟩
    · left
      rw [hsh]
      cases sent : dts.denied with
      | some denied =>
        rw [sent] at h
        cases denied <;> simp_all [patchCompleted]
      | none =>
        rw [sent] at h
        -- nothing was sent, so the flag of the card stays
        have kept : (patchCompleted row.status dts card).denied = card.denied := by
          simp [patchCompleted, sent]
        have ho : row.status ≠ .denied := fun denied => nomatch h.mpr denied
        rw [kept]
        cases flag : card.denied with
        | none => simp [ho]
        | some denied =>
          cases denied with
          | true => exact absurd flag hud
          | false => simp [ho]
    · exact .inr ⟨hfa, by simp [patchCompleted, denied]⟩
  exitCode := by
    rcases hrp.exitCode with h | ⟨hfa, reason⟩ | ⟨completed, hmi⟩
    · exact .inl h
    · exact .inr (.inl ⟨hfa, by simpa [patchCompleted] using reason⟩)
    · exact .inr (.inr ⟨completed, hmi⟩)

section Facts

variable {rule : Step → History → Bool} {cfg : Configuration} {db : Db}
  {p : History}

theorem published_others {nw hol : Trace} {ed : HistoryEntry} (hr : Reached rule cfg db p)
    (hsp : p.trace = nw ++ ed :: hol) (ends : endsCall id ed) :
    ∀ pl ∈ published sid nw, pl.toolCall ≠ some id := by
  intro pl hm about
  obtain ⟨e, made, hgi⟩ := List.mem_filterMap.mp hm
  obtain ⟨t, _, _, w, rfl, said⟩ := handed_eq hgi
  obtain ⟨_, between, rfl⟩ := List.append_of_mem (List.mem_reverse.mp made)
  rw [List.append_assoc, List.cons_append] at hsp
  obtain ⟨_, s, rcd⟩ := hr.back hsp
  have hsl := last_word s rcd (by rw [said]; exact about)
    (List.mem_append_right between List.mem_cons_self)
  rw [ends] at hsl
  cases hsl

theorem published_goesOn {ol recent : Trace} {t : Nat} {ev : Event} {a : Bool}
    {w : World} (hr : Reached rule cfg db p) (hrcd : p.trace =
      .performed t (.agent (.publish ev)) a w :: (recent ++ ol))
    (about : ev.payload.toolCall = some id) : ∀ pl ∈ published sid recent, pl.toolCall = some id →
      CallKnowledge.announcesEnd pl = false := by
  intro pl hm h
  obtain ⟨e, made, hgi⟩ := List.mem_filterMap.mp hm
  obtain ⟨_, _, _, _, rfl, said⟩ := handed_eq hgi
  have hsl := last_word hr hrcd about
    (List.mem_append_left ol (List.mem_reverse.mp made))
  simpa [endsCall, said, h] using hsl

end Facts

/-- What a browser shows that got every event of a session. -/
def liveView (sessionID : String) (past : History) : AgentViewState :=
  (published sessionID past.trace).foldl projectAgentEvent initialAgentViewState

end AISummoner.Web
