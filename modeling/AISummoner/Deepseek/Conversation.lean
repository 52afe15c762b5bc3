import AISummoner.Agent.Conversation
import AISummoner.Deepseek.Stream

/-! # The conversation sent to the direct provider

`conversationMessages` of `internal/deepseek/adapter.go` checks the history once
more, with limits of its own, and adds the user's text if the history does not
end with it.  On the history of a Turn neither changes anything.
-/

namespace AISummoner.Deepseek

open Agent
open Opencode (Failure protocolError)
open Store (AgentMessage MessageRole)

def systemPrompt : String :=
  "You are an agent operating on one selected remote device. Use remote_exec for every device fact or action; never claim that a command ran unless its tool result proves it. The server may require the user to approve a command. Keep the final answer concise and distinguish observed command output from inference."

inductive WireRole where
  | system
  | user
  | assistant
  | tool
  deriving DecidableEq, Repr

structure WireMessage where
  role : WireRole
  content : String
  reasoningContent : String := ""
  toolCalls : List WireToolCall := []
  toolCallID : String := ""
  deriving DecidableEq, Repr

/-- What `conversationMessages` reads of a `RunRequest`. -/
structure RunRequest where
  userText : String
  history : List ConversationMessage
  deriving DecidableEq, Repr

def validUserText (value : String) : Bool :=
  decide (value ≠ "") && decide (value.utf8ByteSize ≤ maxMessageBytes) &&
    !(Store.trimSpace value.toList).isEmpty && !value.toList.contains (Char.ofNat 0)

def wireRole : MessageRole → Option WireRole
  | .user => some .user
  | .assistant => some .assistant
  | .reasoning => none

def appendHistory : List ConversationMessage → List WireMessage → Nat →
    Except Failure (List WireMessage)
  | [], messages, _ => .ok messages
  | message :: history, messages, totalBytes =>
    match wireRole message.role, validUserText message.content with
    | some role, true =>
      let totalBytes := totalBytes + message.content.utf8ByteSize
      if messages.length > maxConversationHistoryMessages ∨
          totalBytes > maxConversationHistoryBytes then
        .error (protocolError "DeepSeek conversation history exceeds limit")
      else appendHistory history (messages ++ [{ role, content := message.content }]) totalBytes
    | _, _ => .error (protocolError "invalid DeepSeek conversation history")

def conversationMessages (request : RunRequest) : Except Failure (List WireMessage) :=
  (appendHistory request.history [{ role := .system, content := systemPrompt }] 0).map
    fun messages =>
      if request.history.getLast? = some ⟨.user, request.userText⟩ then messages
      else messages ++ [{ role := .user, content := request.userText }]

/-- The conversation of the Turn that `message` starts. -/
def turnConversation (messages : List AgentMessage) (message : AgentMessage) :
    Except Failure (List WireMessage) :=
  conversationMessages ⟨message.content, conversationHistory messages⟩

/-! ## What is sent -/

/-- A message of the dialogue as it is sent: without reasoning. -/
def sentAs (message : ConversationMessage) : WireMessage where
  role := if message.role = .user then .user else .assistant
  content := message.content

/-- A message of the user or the assistant that the provider takes. -/
def Sendable (message : ConversationMessage) : Prop :=
  (message.role = .user ∨ message.role = .assistant) ∧ validUserText message.content = true

variable {history : List ConversationMessage}

theorem appendHistory_within {msgs : List WireMessage}
    {totalBytes : Nat} (sendable : ∀ msg ∈ history, Sendable msg)
    (hcnt : msgs.length + history.length ≤ maxConversationHistoryMessages + 1)
    (hbs : totalBytes + contentBytes history ≤ maxConversationHistoryBytes) :
    appendHistory history msgs totalBytes = .ok (msgs ++ history.map sentAs) := by
  induction history generalizing msgs totalBytes with
  | nil => rw [List.map_nil, List.append_nil, appendHistory]
  | cons msg history ih =>
    obtain ⟨role, hva⟩ := sendable msg List.mem_cons_self
    have sent : wireRole msg.role = some (sentAs msg).role := by
      rcases role with h | h <;> simp [sentAs, h, wireRole]
    rw [List.length_cons] at hcnt
    have more : contentBytes (msg :: history) =
        msg.content.utf8ByteSize + contentBytes history := rfl
    rw [more] at hbs
    simp only [appendHistory, sent, hva]
    rw [if_neg (by omega), ih
      (fun o hm => sendable o (List.mem_cons_of_mem _ hm))
      (by simp only [List.length_append, List.length_singleton]; omega) (by omega),
      List.map_cons, List.append_assoc, List.singleton_append]
    rfl

theorem dropWhile_append_of_stop {α : Type} {drops : α → Bool} {items : List α} {last : α}
    (stops : drops last = false) :
    (items ++ [last]).dropWhile drops = items.dropWhile drops ++ [last] := by
  rw [List.dropWhile_append]
  split
  · rename_i hem
    rw [List.isEmpty_iff.mp hem, List.dropWhile_cons_of_neg (by simp [stops]), List.nil_append]
  · rfl

theorem dropWhile_assistant (roles : ∀ msg ∈ history, msg.role = .user ∨ msg.role = .assistant) :
    (history.dropWhile fun msg => decide (msg.role ≠ .user)) =
      history.dropWhile fun msg => decide (msg.role = .assistant) := by
  induction history with
  | nil => rfl
  | cons msg history ih =>
    have hoth := ih fun o hm =>
      roles o (List.mem_cons_of_mem _ hm)
    rcases roles msg List.mem_cons_self with user | assistant
    · simp [user]
    · simp only [List.dropWhile_cons, assistant]
      exact hoth

theorem ends_with_current {msgs : List ConversationMessage} {recent : List ConversationMessage}
    {ct : String} (longest : Recent (msgs ++ [⟨.user, ct⟩]) recent)
    (hva : validUserText ct) : ∃ pre, recent = pre ++ [⟨.user, ct⟩] := by
  have alone : WithinLimits [⟨.user, ct⟩] := by
    have size : ct.utf8ByteSize ≤ Agent.maxMessageBytes := by
      simp only [validUserText, Bool.and_eq_true, decide_eq_true_eq] at hva
      exact hva.1.1.2
    refine ⟨Nat.le_add_left 1 63, ?_⟩
    rw [contentBytes_singleton]
    exact Nat.le_trans size (by decide)
  obtain ⟨pre, h⟩ := longest.longest _ (List.suffix_append _ _) alone
  exact ⟨pre, h.symm⟩

/-- The conversation is the system prompt and then the longest end of the dialogue within
    64 messages and 256 KiB, from its first message of the user on: it ends with the
    current message, once, and holds no reasoning. -/
theorem conversation_is_recent_dialogue (earlier : List AgentMessage) (current : AgentMessage)
    (role : current.role = .user)
    (valid : ∀ message ∈ dialogue (earlier ++ [current]), validUserText message.content = true) :
    ∃ recent conversation, Recent (dialogue (earlier ++ [current])) recent ∧
      conversation = { role := .system, content := systemPrompt } ::
        (recent.dropWhile fun message => decide (message.role = .assistant)).map sentAs ∧
      turnConversation (earlier ++ [current]) current = .ok conversation ∧
      conversation.getLast? = some { role := .user, content := current.content } ∧
      ∀ message ∈ conversation, message.reasoningContent = "" := by
  have longest := recent_collectHistory (earlier ++ [current])
  have split : dialogue (earlier ++ [current]) = dialogue earlier ++ [⟨.user, current.content⟩] := by
    simp [dialogue, role]
  have currentValid : validUserText current.content = true :=
    valid ⟨.user, current.content⟩ (by rw [split]; simp)
  obtain ⟨before, ends⟩ := ends_with_current (split ▸ longest) currentValid
  set recent := (collectHistory (earlier ++ [current]).reverse [] 0).reverse with found
  have roles (message : ConversationMessage) (member : message ∈ recent) :
      message.role = .user ∨ message.role = .assistant :=
    role_of_mem_dialogue (longest.ending.mem member)
  have history : conversationHistory (earlier ++ [current]) =
      recent.dropWhile fun message => decide (message.role = .assistant) := by
    rw [← dropWhile_assistant roles]
    rfl
  have kept : conversationHistory (earlier ++ [current]) =
      (before.dropWhile fun message => decide (message.role = .assistant)) ++
        [⟨.user, current.content⟩] := by
    rw [history, ends, dropWhile_append_of_stop rfl]
  have suffix : conversationHistory (earlier ++ [current]) <:+ recent :=
    history ▸ List.dropWhile_suffix _
  have within := longest.within.of_suffix suffix
  have sendable (message : ConversationMessage)
      (member : message ∈ conversationHistory (earlier ++ [current])) : Sendable message :=
    ⟨roles message (suffix.mem member), valid message (longest.ending.mem (suffix.mem member))⟩
  have appended : appendHistory (conversationHistory (earlier ++ [current]))
      [{ role := .system, content := systemPrompt }] 0 =
      .ok ([{ role := .system, content := systemPrompt }] ++
        (conversationHistory (earlier ++ [current])).map sentAs) := by
    obtain ⟨count, bytes⟩ := within
    exact appendHistory_within sendable (by rw [List.length_singleton]; omega) (by omega)
  refine ⟨recent, _, longest, rfl, ?_, ?_, ?_⟩
  · rw [turnConversation, conversationMessages, appended]
    simp only [Except.map]
    rw [if_pos (by rw [kept, List.getLast?_concat]), history]
    rfl
  · rw [← history, kept, List.map_append, ← List.cons_append]
    exact List.getLast?_concat
  · intro message member
    rcases List.mem_cons.mp member with rfl | member
    · rfl
    · obtain ⟨said, _, rfl⟩ := List.mem_map.mp member
      rfl

/-- The reasoning and the answer of an earlier Turn, of which the question is lost. -/
def earlierTurn : List AgentMessage :=
  [⟨"m1", "s", .assistant, "Done.", 1⟩, ⟨"m2", "s", .user, "And now?", 2⟩,
    ⟨"m3", "s", .reasoning, "Hm.", 3⟩, ⟨"m4", "s", .assistant, "Still done.", 4⟩]

theorem conversation_is_recent_dialogue_second_turn :
    ∃ recent conversation,
      Recent (dialogue (earlierTurn ++ [⟨"m5", "s", .user, "Thanks.", 5⟩])) recent ∧
      conversation = { role := .system, content := systemPrompt } ::
        (recent.dropWhile fun message => decide (message.role = .assistant)).map sentAs ∧
      turnConversation (earlierTurn ++ [⟨"m5", "s", .user, "Thanks.", 5⟩])
        ⟨"m5", "s", .user, "Thanks.", 5⟩ = .ok conversation ∧
      conversation.getLast? = some { role := .user, content := "Thanks." } ∧
      ∀ message ∈ conversation, message.reasoningContent = "" :=
  conversation_is_recent_dialogue earlierTurn ⟨"m5", "s", .user, "Thanks.", 5⟩ rfl
    (by decide +kernel)

end AISummoner.Deepseek
