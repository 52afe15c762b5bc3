import AISummoner.Encoding.Timestamp
import AISummoner.Web.Projection

/-! # The timeline of a snapshot

`projectAgentSnapshot` of `web/src/agent/events.ts` sorts a timeline by the texts of
the creation times.  The server writes them (`agentapi/responses.go`) without the
last zeros of the second, and then a later moment can have the smaller text.
-/

namespace AISummoner.Web

open Encoding Store

/-- An item of the timeline and what it is sorted by. -/
structure Entry (τ : Type) where
  createdAt : τ
  priority : Nat
  order : Nat
  item : TimelineItem

/-- `created_at` as `messageResponse` and `toolCallResponse` write it. -/
def Entry.respond (entry : Entry Time) : Entry String :=
  { entry with createdAt := rfc3339Nano entry.createdAt }

def messageEntry (message : AgentMessage) (order : Nat) : Entry Time where
  createdAt := message.createdAt
  order := order
  priority :=
    match message.role with
    | .user => 0
    | .reasoning => 1
    | .assistant => 3
  item :=
    match message.role with
    | .user => .message ⟨message.id, .user, message.content⟩
    | .reasoning => .reasoning ⟨message.id, message.content, false⟩
    | .assistant => .message ⟨message.id, .assistant, message.content⟩

def toolEntry (tool : ToolCall) (order : Nat) : Entry Time where
  createdAt := tool.createdAt
  priority := 2
  order := order
  item := .tool (snapshotTool tool)

/-- The rows of the snapshot in the order of the two lists. -/
def snapshotEntries (snapshot : AgentSnapshot) : List (Entry Time) :=
  snapshot.messages.zipIdx.map (fun (message, order) => messageEntry message order) ++
    (snapshot.toolCalls.zipIdx snapshot.messages.length).map
      fun (tool, order) => toolEntry tool order

/-- The comparison of the sort, `localeCompare` being the order of the texts. -/
def Entry.notAfter (left right : Entry String) : Bool :=
  left.createdAt < right.createdAt || left.createdAt == right.createdAt &&
    (left.priority < right.priority || left.priority == right.priority && left.order ≤ right.order)

def snapshotTurnState : SessionState → TurnState
  | .running => .running
  | .waitingApproval => .waiting
  | .failed => .failed
  | _ => .idle

def projectAgentSnapshot (snapshot : AgentSnapshot) : AgentViewState where
  sessionState := some snapshot.session.state
  turnState := snapshotTurnState snapshot.session.state
  timeline := (((snapshotEntries snapshot).map Entry.respond).insertionSort
    (Entry.notAfter · ·)).map Entry.item
  failure :=
    if snapshot.session.state = .failed then some "上一轮 Agent 执行失败。可在此重试，或新建会话。" else none

/-! ## Chronological order -/

/-- By the moments, then by the roles, then by the positions. -/
def Entry.key (entry : Entry Time) : Time ×ₗ Nat ×ₗ Nat :=
  toLex (entry.createdAt, toLex (entry.priority, entry.order))

def Entry.Precedes (left right : Entry Time) : Prop := left.key ≤ right.key

instance : DecidableRel Entry.Precedes := fun left right =>
  inferInstanceAs (Decidable (left.key ≤ right.key))

instance : Std.Total Entry.Precedes := ⟨fun left right => le_total left.key right.key⟩

instance : IsTrans (Entry Time) Entry.Precedes := ⟨fun _ _ _ => le_trans⟩

theorem notAfter_respond {left right : Entry Time} (dated : Dated left.createdAt)
    (dated' : Dated right.createdAt)
    (h : fractionWidth left.createdAt = fractionWidth right.createdAt) :
    left.respond.notAfter right.respond ↔ left.Precedes right := by
  have hpre := rfc3339Nano_lt_iff dated dated' h
  have hk' := rfc3339Nano_lt_iff dated' dated h.symm
  have he : rfc3339Nano left.createdAt = rfc3339Nano right.createdAt ↔
      left.createdAt = right.createdAt := by
    rw [eq_iff_le_not_lt, eq_iff_le_not_lt, hpre, ← not_lt, hk', not_lt]
  simp only [Entry.notAfter, Bool.or_eq_true, Bool.and_eq_true, decide_eq_true_eq, beq_iff_eq]
  simp only [Entry.respond, Entry.Precedes, Entry.key, Prod.Lex.toLex_le_toLex, hpre, he]

def demoSession : AgentSession :=
  ⟨"ses_1", "user_1", "dev_1", .perCommand, "deepseek", none, .idle, 0, 0, none⟩

/-- A question and its answer, created at the two moments. -/
def exchange (asked answered : Time) : AgentSnapshot where
  session := demoSession
  messages := [⟨"msg_1", "ses_1", .user, "question", asked⟩,
    ⟨"msg_2", "ses_1", .assistant, "answer", answered⟩]
  toolCalls := []

end AISummoner.Web
