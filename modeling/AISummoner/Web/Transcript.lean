import AISummoner.Web.Projection

/-! # The texts of a Turn

The rows of a timeline hold the answer and the reasoning of a Turn in pieces; the
`done` events carry each text as a whole.  This module says what is left of the two
once a Turn was projected.
-/

namespace AISummoner.Web

open Agent

/-! ## Texts of a timeline and of a Turn -/

def assistantText : Timeline → String
  | [] => ""
  | .message ⟨_, .assistant, content⟩ :: items => content ++ assistantText items
  | _ :: items => assistantText items

def reasoningText : Timeline → String
  | [] => ""
  | .reasoning reasoning :: items => reasoning.content ++ reasoningText items
  | _ :: items => reasoningText items

/-- The events of a Turn before it is over. -/
def streams : Payload → Bool
  | .reasoningDone _ | .textDone _ | .turnCompleted | .turnFailed .. => false
  | _ => true

def turnText : List Payload → String
  | [] => ""
  | .textDelta delta :: events => delta ++ turnText events
  | _ :: events => turnText events

def turnReasoning : List Payload → String
  | [] => ""
  | .reasoningDelta delta :: events => delta ++ turnReasoning events
  | _ :: events => turnReasoning events

/-- `runTurn` publishes the end of a text only if there was one, the reasoning first. -/
def doneEvents (reasoning text : String) : List Payload :=
  (if reasoning = "" then [] else [.reasoningDone reasoning]) ++
    (if text = "" then [] else [.textDone text])

def projectAll (state : AgentViewState) (events : List Payload) : AgentViewState :=
  events.foldl projectAgentEvent state

def turnEvents (events : List Payload) : List Payload :=
  events ++ doneEvents (turnReasoning events) (turnText events)

/-! ## What a row adds -/

theorem assistantText_append (a b : Timeline) :
    assistantText (a ++ b) = assistantText a ++ assistantText b := by
  induction a with
  | nil => simp [assistantText]
  | cons item _ ih =>
    match item with
    | .message ⟨_, .assistant, content⟩ =>
      simp only [List.cons_append, assistantText, ih, String.append_assoc]
    | .message ⟨_, .user, _⟩ | .reasoning _ | .tool _ => exact ih

theorem reasoningText_append (a b : Timeline) :
    reasoningText (a ++ b) = reasoningText a ++ reasoningText b := by
  induction a with
  | nil => simp [reasoningText]
  | cons item _ ih =>
    cases item with
    | reasoning reasoning =>
      simp only [List.cons_append, reasoningText, ih, String.append_assoc]
    | message _ | tool _ => exact ih

variable {tl : Timeline} {st : AgentViewState}

theorem split_last {item : TimelineItem} (last : tl.getLast? = some item) :
    tl = tl.dropLast ++ [item] := by
  obtain ⟨_, rfl⟩ := List.getLast?_eq_some_iff.mp last
  simp

theorem texts_appendAssistantDelta (tl : Timeline) (text : String) :
    assistantText (appendAssistantDelta tl text) = assistantText tl ++ text ∧
      reasoningText (appendAssistantDelta tl text) = reasoningText tl := by
  unfold appendAssistantDelta
  split
  · rename_i hem
    simp [hem]
  split
  · rename_i id content last
    obtain ⟨_, rfl⟩ := List.getLast?_eq_some_iff.mp last
    simp [assistantText_append, assistantText, reasoningText_append, reasoningText,
      String.append_assoc]
  · simp [assistantText_append, assistantText, reasoningText_append, reasoningText]

theorem texts_appendReasoningDelta (tl : Timeline) (text : String) :
    reasoningText (appendReasoningDelta tl text) = reasoningText tl ++ text ∧
      assistantText (appendReasoningDelta tl text) = assistantText tl := by
  unfold appendReasoningDelta
  split
  · rename_i hem
    simp [hem]
  split
  · rename_i id content last
    obtain ⟨_, rfl⟩ := List.getLast?_eq_some_iff.mp last
    simp [assistantText_append, assistantText, reasoningText_append, reasoningText,
      String.append_assoc]
  · simp [assistantText_append, assistantText, reasoningText_append, reasoningText]

theorem texts_upsertTool (tl : Timeline) (id : String) (patch : ToolCallView → ToolCallView) :
    assistantText (upsertTool tl id patch) = assistantText tl ∧
      reasoningText (upsertTool tl id patch) = reasoningText tl := by
  induction tl with
  | nil => exact ⟨rfl, rfl⟩
  | cons item _ ih =>
    match item with
    | .tool tool =>
      simp only [upsertTool]
      split
      · exact ⟨rfl, rfl⟩
      · exact ih
    | .message ⟨_, .assistant, content⟩ => exact ⟨congrArg (content ++ ·) ih.1, ih.2⟩
    | .message ⟨_, .user, _⟩ => exact ih
    | .reasoning reasoning => exact ⟨ih.1, congrArg (reasoning.content ++ ·) ih.2⟩

/-! ## The end of the reasoning -/

def reasoningContent : TimelineItem → Option String
  | .reasoning reasoning => some reasoning.content
  | _ => none

def latestReasoning : Timeline → Option String
  | [] => none
  | item :: items => (latestReasoning items).or (reasoningContent item)

/-- A row that is replaced by a text it begins is that text already. -/
def Reconciles (content text : String) : Prop := content.toList <+: text.toList → content = text

instance (content text : String) : Decidable (Reconciles content text) :=
  inferInstanceAs (Decidable (_ → _))

/-- What `settleReasoning` makes of a content. -/
def settled (content text : String) : String :=
  if content.toList.isPrefixOf text.toList then text else content

variable {content text reasoning : String}

theorem settled_eq_iff : settled content text = content ↔ Reconciles content text := by
  unfold settled Reconciles
  rw [← List.isPrefixOf_iff_prefix]
  split
  · rename_i hb
    simp [hb, eq_comm]
  · rename_i hb
    simp [hb]

theorem reasoningText_of_latest (hab : latestReasoning tl = none) : reasoningText tl = "" := by
  induction tl with
  | nil => rfl
  | cons item _ ih =>
    obtain ⟨k', here⟩ := Option.or_eq_none_iff.mp hab
    cases item with
    | reasoning reasoning => cases here
    | message _ | tool _ => exact ih k'

theorem rewriteLast_of_latest (hab : latestReasoning tl = none) :
    rewriteLast (settleReasoning text) tl = none := by
  induction tl with
  | nil => rfl
  | cons item _ ih =>
    obtain ⟨k', here⟩ := Option.or_eq_none_iff.mp hab
    cases item with
    | reasoning reasoning => cases here
    | message _ | tool _ => simp [rewriteLast, ih k', settleReasoning]

theorem rewriteLast_settle (latest : latestReasoning tl = some content) :
    ∃ s id hrn s', tl = s ++ .reasoning ⟨id, content, hrn⟩ :: s' ∧
      latestReasoning s' = none ∧ rewriteLast (settleReasoning text) tl =
        some (s ++ .reasoning ⟨id, settled content text, false⟩ :: s') := by
  induction tl with
  | nil => cases latest
  | cons item items ih =>
    cases hk' : latestReasoning items with
    | some f =>
      rw [latestReasoning, hk'] at latest
      cases latest
      obtain ⟨s, id, hrn, s', h, hab, hrw⟩ := ih hk'
      refine ⟨item :: s, id, hrn, s', by rw [h]; rfl, hab, ?_⟩
      simp [rewriteLast, hrw]
    | none =>
      rw [latestReasoning, hk'] at latest
      cases item with
      | reasoning reasoning =>
        cases latest
        refine ⟨[], reasoning.id, reasoning.running, items, rfl, hk', ?_⟩
        simp [rewriteLast, rewriteLast_of_latest hk', settleReasoning, settled]
      | message _ | tool _ => cases latest

theorem assistantText_settleAllReasoning (tl : Timeline) :
    assistantText (settleAllReasoning tl) = assistantText tl := by
  induction tl with
  | nil => rfl
  | cons item _ ih =>
    match item with
    | .message ⟨_, .assistant, content⟩ => exact congrArg (content ++ ·) ih
    | .message ⟨_, .user, _⟩ | .reasoning _ | .tool _ => exact ih

theorem assistantText_settleLatestReasoning (tl : Timeline) (text : String) :
    assistantText (settleLatestReasoning tl text) = assistantText tl := by
  unfold settleLatestReasoning
  cases latest : latestReasoning tl with
  | none =>
    rw [rewriteLast_of_latest latest]
    exact (assistantText_settleAllReasoning _).trans (texts_appendReasoningDelta _ _).2
  | some _ =>
    obtain ⟨s, _, _, _, h, _, hrw⟩ := rewriteLast_settle latest
    rw [hrw, h]
    simp only [assistantText_append, assistantText]

theorem reasoningText_settleLatestReasoning (latest : latestReasoning tl = some content) :
    reasoningText (settleLatestReasoning tl text) = reasoningText tl ↔ Reconciles content text := by
  obtain ⟨s, _, _, _, h, hab, hrw⟩ := rewriteLast_settle latest
  unfold settleLatestReasoning
  rw [hrw, h, ← settled_eq_iff]
  simp only [reasoningText_append, reasoningText, reasoningText_of_latest hab, String.append_empty]
  exact String.append_right_inj _

theorem getLast_settleLatestReasoning (hsh : latestReasoning tl ≠ none) (msg : AgentMessageView) :
    (settleLatestReasoning tl text).getLast? = some (.message msg) ↔
      tl.getLast? = some (.message msg) := by
  obtain ⟨_, latest⟩ := Option.ne_none_iff_exists'.mp hsh
  obtain ⟨s, _, _, s', h, _, hrw⟩ := rewriteLast_settle latest
  unfold settleLatestReasoning
  rw [hrw, h, List.getLast?_append, List.getLast?_append]
  cases s' with
  | nil | cons item items => simp

/-- The last row is a message of the assistant that the whole text leaves as it is. -/
def EndsReconciled (timeline : Timeline) (text : String) : Prop :=
  ∃ id content, timeline.getLast? = some (.message ⟨id, .assistant, content⟩) ∧
    Reconciles content text

theorem reasoningText_settleText (tl : Timeline) (text : String) :
    reasoningText (settleText tl text) = reasoningText tl := by
  unfold settleText
  split
  · rfl
  split
  · rename_i id content last
    split
    · conv => rhs; rw [split_last last]
      simp only [reasoningText_append, reasoningText]
    · rfl
  · exact (texts_appendAssistantDelta tl text).2

theorem assistantText_settleText (hne : text ≠ "") :
    assistantText (settleText tl text) = assistantText tl ↔ EndsReconciled tl text := by
  unfold settleText
  rw [if_neg hne]
  split
  · rename_i id content last
    have ends : EndsReconciled tl text ↔ Reconciles content text := by
      constructor
      · rintro ⟨_, _, again, reconciles⟩
        cases Option.some.inj (last.symm.trans again)
        exact reconciles
      · intro reconciles
        exact ⟨id, content, last, reconciles⟩
    rw [ends]
    split
    · rename_i hb
      have hb := List.isPrefixOf_iff_prefix.mp hb
      conv => lhs; rhs; rw [split_last last]
      simp only [assistantText_append, assistantText, String.append_empty]
      rw [String.append_right_inj]
      exact ⟨fun h _ => h.symm, fun reconciles => (reconciles hb).symm⟩
    · rename_i hb
      refine ⟨fun _ hst => ?_, fun _ => rfl⟩
      exact absurd (List.isPrefixOf_iff_prefix.mpr hst) hb
  · rename_i o
    rw [(texts_appendAssistantDelta tl text).1]
    constructor
    · intro h
      have hlen := congrArg String.length h
      rw [String.length_append] at hlen
      exact absurd (String.length_eq_zero_iff.mp (by omega)) hne
    · rintro ⟨id, content, last, _⟩
      exact absurd last (o id content)

/-! ## A whole Turn -/

theorem texts_project {ev : Payload} (streaming : streams ev) :
    assistantText (projectAgentEvent st ev).timeline = assistantText st.timeline ++ turnText [ev] ∧
      reasoningText (projectAgentEvent st ev).timeline =
        reasoningText st.timeline ++ turnReasoning [ev] := by
  have tools (id : String) (turnState : TurnState) (patch : ToolCallView → ToolCallView) :
      assistantText (projectTool st id turnState patch).timeline =
          assistantText st.timeline ++ "" ∧
        reasoningText (projectTool st id turnState patch).timeline =
          reasoningText st.timeline ++ "" := by
    unfold projectTool
    split
    · simp
    · simpa using texts_upsertTool st.timeline id patch
  cases ev with
  | textDelta dt =>
    have hsh := texts_appendAssistantDelta st.timeline dt
    exact ⟨hsh.1.trans (by simp [turnText]), hsh.2.trans (by simp [turnReasoning])⟩
  | reasoningDelta dt =>
    have hsh := texts_appendReasoningDelta st.timeline dt
    exact ⟨hsh.2.trans (by simp [turnText]), hsh.1.trans (by simp [turnReasoning])⟩
  | sessionState hsh | providerState hsh =>
    exact ⟨(String.append_empty).symm, (String.append_empty).symm⟩
  | toolPending id args | toolStarted id args
  | toolOutput id stdout stderr exitCode truncated | toolCompleted id sts dts =>
    exact tools ..
  | _ => cases streaming

theorem turnText_cons (ev : Payload) (evs : List Payload) :
    turnText (ev :: evs) = turnText [ev] ++ turnText evs := by
  cases ev <;> simp [turnText]

theorem turnReasoning_cons (ev : Payload) (evs : List Payload) :
    turnReasoning (ev :: evs) = turnReasoning [ev] ++ turnReasoning evs := by
  cases ev <;> simp [turnReasoning]

theorem texts_projectAll {evs : List Payload} (streaming : ∀ ev ∈ evs, streams ev)
    (st : AgentViewState) : assistantText (projectAll st evs).timeline =
        assistantText st.timeline ++ turnText evs ∧ reasoningText (projectAll st evs).timeline =
        reasoningText st.timeline ++ turnReasoning evs := by
  induction evs generalizing st with
  | nil => exact ⟨(String.append_empty).symm, (String.append_empty).symm⟩
  | cons ev evs ih =>
    obtain ⟨here, k'⟩ := List.forall_mem_cons.mp streaming
    obtain ⟨text, reasoning⟩ := ih k' (projectAgentEvent st ev)
    constructor
    · rw [turnText_cons, ← String.append_assoc, ← (texts_project here).1]
      exact text
    · rw [turnReasoning_cons, ← String.append_assoc, ← (texts_project here).2]
      exact reasoning

/-- The rows a Turn left can take its whole texts: the last reasoning and the last row are
    not proper beginnings of them, and the last row is the answer. -/
structure Reconcilable (timeline : Timeline) (reasoning text : String) : Prop where
  reasoning : reasoning ≠ "" →
    ∀ content, latestReasoning timeline = some content → Reconciles content reasoning
  text : text ≠ "" → EndsReconciled timeline text

theorem endsReconciled_settleLatestReasoning (hsh : latestReasoning tl ≠ none) :
    EndsReconciled (settleLatestReasoning tl reasoning) text ↔ EndsReconciled tl text := by
  simp only [EndsReconciled, getLast_settleLatestReasoning hsh]

theorem timeline_done (st : AgentViewState) (reasoning text : String) :
    (projectAll st (doneEvents reasoning text)).timeline =
      settleText (if reasoning = "" then st.timeline
        else settleLatestReasoning st.timeline reasoning) text := by
  unfold doneEvents projectAll
  by_cases noReasoning : reasoning = "" <;> by_cases noText : text = "" <;>
    simp [noReasoning, noText, projectAgentEvent, settleText]

theorem texts_done (hsh : reasoning ≠ "" → latestReasoning st.timeline ≠ none) :
    (assistantText (projectAll st (doneEvents reasoning text)).timeline =
          assistantText st.timeline ∧
        reasoningText (projectAll st (doneEvents reasoning text)).timeline =
          reasoningText st.timeline) ↔ Reconcilable st.timeline reasoning text := by
  rw [timeline_done, reasoningText_settleText]
  -- The reasoning is settled first, and the text of the answer does not see it.
  generalize first : (if reasoning = "" then st.timeline
    else settleLatestReasoning st.timeline reasoning) = rows
  have hans : assistantText rows = assistantText st.timeline := by
    rw [← first]
    split
    · rfl
    · exact assistantText_settleLatestReasoning _ _
  have ends : EndsReconciled rows text ↔ EndsReconciled st.timeline text := by
    rw [← first]
    split
    · exact Iff.rfl
    · rename_i hne
      exact endsReconciled_settleLatestReasoning (hsh hne)
  have textKept : assistantText (settleText rows text) = assistantText st.timeline ↔
      (text ≠ "" → EndsReconciled st.timeline text) := by
    by_cases hem : text = ""
    · simp [settleText, hem, hans]
    · rw [← hans, assistantText_settleText hem, ends]
      simp [hem]
  have reasoningKept : reasoningText rows = reasoningText st.timeline ↔
      (reasoning ≠ "" →
        ∀ content, latestReasoning st.timeline = some content → Reconciles content reasoning) := by
    rw [← first]
    by_cases hem : reasoning = ""
    · simp [hem]
    · obtain ⟨content, latest⟩ := Option.ne_none_iff_exists'.mp (hsh hem)
      rw [if_neg hem, reasoningText_settleLatestReasoning latest]
      simp [hem, latest]
  rw [textKept, reasoningKept]
  exact ⟨fun ⟨text, reasoning⟩ => ⟨reasoning, text⟩, fun ⟨reasoning, text⟩ => ⟨text, reasoning⟩⟩

/-- What is shown of a Turn is what it streamed, for both of its texts, exactly if the rows
    it left can take the whole texts. -/
theorem turn_shown_once_iff {events : List Payload} (streaming : ∀ event ∈ events, streams event = true)
    (state : AgentViewState) :
    (assistantText (projectAll state (turnEvents events)).timeline =
          assistantText state.timeline ++ turnText events ∧
        reasoningText (projectAll state (turnEvents events)).timeline =
          reasoningText state.timeline ++ turnReasoning events) ↔
      Reconcilable (projectAll state events).timeline (turnReasoning events) (turnText events) := by
  obtain ⟨text, reasoning⟩ := texts_projectAll streaming state
  -- Reasoning that was streamed stands in some row.
  have shown : turnReasoning events ≠ "" →
      latestReasoning (projectAll state events).timeline ≠ none := by
    intro nonempty absent
    rw [reasoningText_of_latest absent] at reasoning
    exact nonempty (String.append_eq_empty_iff.mp reasoning.symm).2
  rw [← text, ← reasoning, ← texts_done shown]
  unfold turnEvents projectAll
  rw [List.foldl_append]

/-- An answer that goes on after a tool call with the characters it began with. -/
def interruptedAnswer : List Payload :=
  [.textDelta "ok", .toolStarted "call-1" ⟨"hostname", "", 30000⟩, .textDelta "ok"]

theorem interrupted_answer_shown_twice :
    (∀ event ∈ interruptedAnswer, streams event = true) ∧
      turnText interruptedAnswer = "okok" ∧
      assistantText (projectAll initialAgentViewState (turnEvents interruptedAnswer)).timeline =
        "okokok" := by
  decide +kernel

/-- Reasoning, a call and an answer in two pieces that begin differently are shown once. -/
theorem turn_shown_once_iff_inspection :
    assistantText (projectAll initialAgentViewState (turnEvents
        [.reasoningDelta "plan", .textDelta "first ", .toolStarted "call-1" ⟨"hostname", "", 30000⟩,
          .textDelta "second"])).timeline = "first second" ∧
      reasoningText (projectAll initialAgentViewState (turnEvents
        [.reasoningDelta "plan", .textDelta "first ", .toolStarted "call-1" ⟨"hostname", "", 30000⟩,
          .textDelta "second"])).timeline = "plan" := by
  refine (turn_shown_once_iff (by decide) initialAgentViewState).mpr ⟨?_, ?_⟩
  · intro _ content latest
    cases latest
    decide +kernel
  · intro _
    exact ⟨"assistant-2", "second", by decide +kernel, by decide +kernel⟩

end AISummoner.Web
