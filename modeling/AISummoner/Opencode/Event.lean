import AISummoner.Encoding.Utf8

/-! # Events of the provider

`internal/opencode/sse.go`: the events as they come out of the JSON of a record,
and the checks that look at one event only.  A string of the provider is any list
of bytes; decoding the JSON itself is left to `encoding/json`.
-/

namespace AISummoner.Opencode

open Encoding

/-- A string as the program holds it: any bytes. -/
abbrev Text := List UInt8

def maximumMessageRoles : Nat := 512
def maximumPendingParts : Nat := 512
def maximumEventIDs : Nat := 2048
def maximumTextParts : Nat := 512
def maxMessageBytes : Nat := 32 * 1024

inductive Failure where
  /-- `agent.AdapterError`. -/
  | adapter (code message : String)
  /-- An error of the sink or of the context, passed on. -/
  | passed (error : String)
  deriving DecidableEq, Repr

def protocolError (message : String) : Failure := .adapter "protocol_error" message

def contains (text : Text) (part : String) : Bool := decide (utf8 part <:+: text)

/-! ## Decoded events -/

/-- `parseProviderState` reads a string, or the `type` of an object. -/
inductive RawStatus where
  | absent
  | malformed
  | named (state : Text)
  deriving DecidableEq, Repr

structure MessageInfo where
  id : Text
  sessionID : Text := []
  role : Text
  parentID : Text := []
  finish : Text := []
  /-- The JSON of the error. -/
  error : Text := []
  deriving DecidableEq, Repr

structure MessagePart where
  id : Text
  sessionID : Text := []
  messageID : Text
  type : Text
  text : Text
  role : Text := []
  deriving DecidableEq, Repr

structure EventProperties where
  sessionID : Text := []
  messageID : Text := []
  partID : Text := []
  field : Text := []
  delta : Text := []
  status : RawStatus := .absent
  info : Option MessageInfo := none
  part : Option MessagePart := none
  /-- The JSON of the error. -/
  error : Text := []
  assistantMessageID : Text := []
  textID : Text := []
  deriving DecidableEq, Repr

inductive RawProperties where
  | absent
  | malformed
  | decoded (properties : EventProperties)
  deriving DecidableEq, Repr

structure ProviderEvent where
  id : Text
  type : Text
  properties : RawProperties
  deriving DecidableEq, Repr

/-! ## Enumerations behind strings -/

inductive EventType where
  | messageUpdated
  | messagePartDelta
  | messagePartUpdated
  | compatibilityDelta
  | sessionStatus
  | sessionIdle
  | sessionError
  /-- Any other type; `tool` if the word occurs in it. -/
  | other (tool : Bool)
  deriving DecidableEq, Repr

def eventType (type : Text) : EventType :=
  if type = utf8 "message.updated" then .messageUpdated
  else if type = utf8 "message.part.delta" then .messagePartDelta
  else if type = utf8 "message.part.updated" then .messagePartUpdated
  else if type = utf8 "session.next.text.delta" then .compatibilityDelta
  else if type = utf8 "session.status" then .sessionStatus
  else if type = utf8 "session.idle" then .sessionIdle
  else if type = utf8 "session.error" then .sessionError
  else .other (contains type "tool")

inductive Role where
  | assistant
  | user
  | system
  deriving DecidableEq, Repr

/-- A role in lower case; other roles are not looked at. -/
def roleOf (lowered : Text) : Option Role :=
  if lowered = utf8 "assistant" then some .assistant
  else if lowered = utf8 "user" then some .user
  else if lowered = utf8 "system" then some .system
  else none

inductive PartKind where
  | text
  | reasoning
  deriving DecidableEq, Repr

def partKindOf (type : Text) : Option PartKind :=
  if type = utf8 "text" then some .text
  else if type = utf8 "reasoning" then some .reasoning
  else none

inductive Family where
  | messagePart
  | compatibility
  deriving DecidableEq, Repr

/-! ## Identities -/

def validEventIdentity (value : Text) : Bool :=
  value ≠ [] && decide (value.length ≤ 512) && validString value && decide (0 ∉ value)

def validSessionIdentity (value : Text) : Bool :=
  decide (value.length ≤ 512) && validString value && decide (0 ∉ value)

def partKey (messageID partID : Text) : Text :=
  if messageID = [] ∨ partID = [] then [] else messageID ++ 0 :: partID

/-- The session named so far, and the next place that may name one. -/
def agreeOnSession (sessionID value : Text) : Except Failure Text :=
  if value = [] then .ok sessionID
  else if validSessionIdentity value = false then
    .error (protocolError "invalid OpenCode session identity")
  else if sessionID ≠ [] ∧ sessionID ≠ value then
    .error (protocolError "OpenCode event session identity changed")
  else .ok value

def sessionValues (properties : EventProperties) : List Text :=
  properties.sessionID ::
    (properties.info.toList.map MessageInfo.sessionID ++
      properties.part.toList.map MessagePart.sessionID)

def consistentSessionID (properties : EventProperties) : Except Failure Text :=
  (sessionValues properties).foldlM agreeOnSession []

/-! ## What a record is taken for -/

structure Received where
  sessionID : Text
  id : Text
  type : EventType
  properties : EventProperties
  deriving DecidableEq, Repr

/-- The checks of `consume` before it looks at the tracker; `none` is a record that is not
    one JSON object of the expected shape. -/
def receive (record : Option ProviderEvent) : Except Failure Received :=
  match record with
  | none => .error (protocolError "malformed OpenCode event")
  | some event =>
    if event.id = [] ∨ 512 < event.id.length ∨ event.type = [] ∨ 128 < event.type.length then
      .error (protocolError "malformed OpenCode event")
    else
      match event.properties with
      | .absent => .error (protocolError "malformed OpenCode event")
      | .malformed => .error (protocolError "malformed OpenCode event properties")
      | .decoded properties =>
        match consistentSessionID properties with
        | .error failure => .error failure
        | .ok sessionID => .ok ⟨sessionID, event.id, eventType event.type, properties⟩

theorem messageID_ne_nil {v : Text} (hva : validEventIdentity v) : v ≠ [] := by
  simp only [validEventIdentity, Bool.and_eq_true, decide_eq_true_eq, ne_eq] at hva
  exact hva.1.1.1

theorem nul_notMem {v : Text} (hva : validEventIdentity v) : 0 ∉ v := by
  simp only [validEventIdentity, Bool.and_eq_true, decide_eq_true_eq] at hva
  exact hva.2

theorem append_nul_inj {a b rest remainder : Text} (free : 0 ∉ a)
    (o : 0 ∉ b) (h : a ++ 0 :: rest = b ++ 0 :: remainder) : a = b ∧ rest = remainder := by
  induction a generalizing b with
  | nil =>
    cases b with
    | nil =>
      simp only [List.nil_append, List.cons.injEq, true_and] at h
      exact ⟨rfl, h⟩
    | cons byte bs =>
      simp only [List.nil_append, List.cons_append, List.cons.injEq] at h
      exact absurd (List.mem_cons.mpr (.inl h.1)) o
  | cons byte bs ih =>
    cases b with
    | nil =>
      simp only [List.nil_append, List.cons_append, List.cons.injEq] at h
      exact absurd (List.mem_cons.mpr (.inl h.1.symm)) free
    | cons _ tail =>
      simp only [List.cons_append, List.cons.injEq] at h
      obtain ⟨sameBytes, sameRest⟩ := ih (fun hm => free (.tail _ hm))
        (fun hm => o (.tail _ hm)) h.2
      exact ⟨by rw [h.1, sameBytes], sameRest⟩

theorem partKey_inj {mid pid otherMessageID otherPartID : Text} (msg : validEventIdentity mid)
    (om : validEventIdentity otherMessageID) (part : pid ≠ []) (hop' : otherPartID ≠ [])
    (h : partKey mid pid = partKey otherMessageID otherPartID) :
    mid = otherMessageID ∧ pid = otherPartID := by
  simp only [partKey, messageID_ne_nil msg, messageID_ne_nil om, part, hop', or_self, if_false] at h
  exact append_nul_inj (nul_notMem msg) (nul_notMem om) h

end AISummoner.Opencode
