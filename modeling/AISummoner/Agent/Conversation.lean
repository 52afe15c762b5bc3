import AISummoner.Agent.Types

/-! # The dialogue a Turn starts from

`conversationHistory` keeps the longest end of the dialogue within 64 messages
and 256 KiB, and drops what precedes the first message of the user.
-/

namespace AISummoner.Agent

open Store (AgentMessage MessageRole)

def maxConversationHistoryMessages : Nat := 64
def maxConversationHistoryBytes : Nat := 256 * 1024

structure ConversationMessage where
  role : MessageRole
  content : String
  deriving DecidableEq, Repr

/-- The loop over the messages, the last one first. -/
def collectHistory : List AgentMessage → List ConversationMessage → Nat → List ConversationMessage
  | [], reversed, _ => reversed
  | message :: messages, reversed, totalBytes =>
    if message.role ≠ .user ∧ message.role ≠ .assistant then
      collectHistory messages reversed totalBytes
    else if reversed.length ≥ maxConversationHistoryMessages ∨
        (totalBytes : Int) > maxConversationHistoryBytes - message.content.utf8ByteSize then reversed
    else
      collectHistory messages (reversed ++ [⟨message.role, message.content⟩])
        (totalBytes + message.content.utf8ByteSize)

def conversationHistory (messages : List AgentMessage) : List ConversationMessage :=
  (collectHistory messages.reverse [] 0).reverse.dropWhile fun message => message.role ≠ .user

/-! ## What it is -/

def dialogue (messages : List AgentMessage) : List ConversationMessage :=
  (messages.filter fun message => message.role = .user ∨ message.role = .assistant).map
    fun message => ⟨message.role, message.content⟩

def contentBytes (messages : List ConversationMessage) : Nat :=
  (messages.map fun message => message.content.utf8ByteSize).sum

def WithinLimits (messages : List ConversationMessage) : Prop :=
  messages.length ≤ maxConversationHistoryMessages ∧
    contentBytes messages ≤ maxConversationHistoryBytes

/-- `recent` is the longest end of `messages` within the limits. -/
structure Recent (messages recent : List ConversationMessage) : Prop where
  ending : recent <:+ messages
  within : WithinLimits recent
  longest : ∀ other, other <:+ messages → WithinLimits other → other <:+ recent

theorem role_of_mem_dialogue {msgs : List AgentMessage} {msg : ConversationMessage}
    (hm : msg ∈ dialogue msgs) : msg.role = .user ∨ msg.role = .assistant := by
  obtain ⟨_, kept, rfl⟩ := List.mem_map.mp hm
  exact of_decide_eq_true (List.mem_filter.mp kept).2

theorem contentBytes_append (a b : List ConversationMessage) :
    contentBytes (a ++ b) = contentBytes a + contentBytes b := by
  simp [contentBytes]

theorem contentBytes_singleton (msg : ConversationMessage) :
    contentBytes [msg] = msg.content.utf8ByteSize := by
  simp [contentBytes]

theorem withinLimits_reverse {msgs : List ConversationMessage} :
    WithinLimits msgs.reverse ↔ WithinLimits msgs := by
  have hbs : contentBytes msgs.reverse = contentBytes msgs := by
    rw [contentBytes, List.map_reverse, List.sum_reverse, contentBytes]
  rw [WithinLimits, WithinLimits, List.length_reverse, hbs]

theorem WithinLimits.of_suffix {edg msgs : List ConversationMessage}
    (hwi : WithinLimits msgs) (sfx : edg <:+ msgs) : WithinLimits edg := by
  obtain ⟨s, rfl⟩ := sfx
  rw [WithinLimits, List.length_append, contentBytes_append] at hwi
  exact ⟨by omega, by omega⟩

theorem dialogue_cons (msg : AgentMessage) (msgs : List AgentMessage) : dialogue (msg :: msgs) =
      if msg.role = .user ∨ msg.role = .assistant then ⟨msg.role, msg.content⟩ :: dialogue msgs
      else dialogue msgs := by
  unfold dialogue
  rw [List.filter_cons]
  split <;> simp_all

theorem collectHistory_stops (msgs : List AgentMessage) (rv : List ConversationMessage)
    (hwi : WithinLimits rv) : ∃ ta rest, dialogue msgs = ta ++ rest ∧
      collectHistory msgs rv (contentBytes rv) = rv ++ ta ∧ WithinLimits (rv ++ ta) ∧
      ∀ next hoth, rest = next :: hoth → ¬ WithinLimits (rv ++ ta ++ [next]) := by
  induction msgs generalizing rv with
  | nil => exact ⟨[], [], rfl, (List.append_nil _).symm, by rwa [List.append_nil], nofun⟩
  | cons msg msgs ih =>
    rw [dialogue_cons]
    unfold collectHistory
    by_cases spoken : msg.role = .user ∨ msg.role = .assistant
    · rw [if_pos spoken, if_neg (by tauto)]
      by_cases exceeds : rv.length ≥ maxConversationHistoryMessages ∨
          (contentBytes rv : Int) >
            maxConversationHistoryBytes - msg.content.utf8ByteSize
      · rw [if_pos exceeds]
        refine ⟨[], _, rfl, (List.append_nil _).symm, by rwa [List.append_nil], ?_⟩
        rintro next hoth ⟨⟩ ⟨cnt, bs⟩
        rw [List.append_nil, List.length_append, List.length_singleton] at cnt
        rw [List.append_nil, contentBytes_append, contentBytes_singleton] at bs
        dsimp only at bs
        omega
      · rw [if_neg exceeds]
        -- one message more is within the limits
        have more : WithinLimits (rv ++ [⟨msg.role, msg.content⟩]) := by
          simp only [WithinLimits, List.length_append, List.length_singleton, contentBytes_append,
            contentBytes_singleton]
          omega
        obtain ⟨ta, rest, hsp, collected, fits, stops⟩ := ih _ more
        rw [contentBytes_append, contentBytes_singleton] at collected
        simp only [List.append_assoc, List.singleton_append] at collected fits stops
        refine ⟨⟨msg.role, msg.content⟩ :: ta, rest, ?_, collected, fits, ?_⟩
        · rw [hsp, List.cons_append]
        · simpa only [List.append_assoc, List.cons_append] using stops
    · rw [if_neg spoken, if_pos (by tauto)]
      exact ih rv hwi

theorem dialogue_reverse (msgs : List AgentMessage) :
    dialogue msgs.reverse = (dialogue msgs).reverse := by
  rw [dialogue, List.filter_reverse, List.map_reverse, dialogue]

theorem recent_collectHistory (msgs : List AgentMessage) :
    Recent (dialogue msgs) (collectHistory msgs.reverse [] 0).reverse := by
  have ⟨ta, rest, split, collected, within, stops⟩ :=
    collectHistory_stops msgs.reverse [] ⟨Nat.zero_le _, Nat.zero_le _⟩
  have hwh : dialogue msgs = rest.reverse ++ ta.reverse := by
    rw [← List.reverse_append, ← split, dialogue_reverse, List.reverse_reverse]
  have hf : collectHistory msgs.reverse [] 0 = ta := collected
  rw [hf, hwh]
  refine ⟨List.suffix_append _ _, withinLimits_reverse.mpr within, ?_⟩
  intro o edg fits
  rcases List.suffix_or_suffix_of_suffix edg (List.suffix_append rest.reverse ta.reverse)
    with shorter | longer
  · exact shorter
  -- a longer end would hold the message at which the loop stopped
  obtain ⟨s, rfl⟩ := longer
  have start := ((List.suffix_append_inj_of_length_eq rfl).mp edg).1
  cases rest with
  | nil =>
    rw [List.suffix_nil.mp start]
    exact List.suffix_rfl
  | cons next hoth =>
    rw [List.reverse_cons, List.suffix_concat_iff] at start
    rcases start with rfl | ⟨_, rfl, _⟩
    · exact List.suffix_rfl
    refine absurd ?_ (stops next hoth rfl)
    rw [← withinLimits_reverse, List.nil_append, List.reverse_append]
    apply fits.of_suffix
    rw [List.append_assoc]
    exact List.suffix_append _ _

end AISummoner.Agent
