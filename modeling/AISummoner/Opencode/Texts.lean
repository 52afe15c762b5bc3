import AISummoner.Opencode.Tracker

/-! # What one event does

The three kinds of text events differ in how they are read and not in what is done
with them: a text is emitted if its message answers the prompt, waits if nothing is
known about its message, and is dropped otherwise.
-/

namespace AISummoner.Opencode

open Encoding Relational Streams

/-! ## Reading a text -/

def textOf (setup : Setup) (event : Received) : Except Failure (Option (Text × PendingText)) :=
  match event.type with
  | .messagePartDelta =>
    if event.properties.field ≠ utf8 "text" ∨ event.properties.delta = [] ∨
        validString event.properties.delta = false then
      .ok none
    else if validEventIdentity event.properties.messageID = false ∨
        validEventIdentity event.properties.partID = false then
      .error (protocolError "invalid OpenCode text identity")
    else
      .ok (some (event.properties.messageID, {
          family := .messagePart
          partID := event.properties.partID, delta := event.properties.delta }))
  | .messagePartUpdated =>
    match event.properties.part with
    | none => .ok none
    | some part =>
      match partKindOf part.type with
      | none => .ok none
      | some kind =>
        if validString part.text = false then .ok none
        else if validEventIdentity part.messageID = false ∨ validEventIdentity part.id = false then
          .error (protocolError "invalid OpenCode text identity")
        else if part.role ≠ [] ∧ setup.toLower part.role ≠ utf8 "assistant" then .ok none
        else
          .ok (some (part.messageID,
            { family := .messagePart, partID := part.id, kind := kind, full := some part.text }))
  | .compatibilityDelta =>
    if event.properties.delta = [] ∨ validString event.properties.delta = false then .ok none
    else if event.properties.assistantMessageID = [] then .ok none
    else if validEventIdentity event.properties.assistantMessageID = false ∨
        (event.properties.textID ≠ [] ∧ validEventIdentity event.properties.textID = false) then
      .error (protocolError "invalid OpenCode compatibility identity")
    else
      .ok (some (event.properties.assistantMessageID, {
          family := .compatibility
          partID := event.properties.textID, delta := event.properties.delta }))
  | _ => .ok none

def EventType.isText : EventType → Bool
  | .messagePartDelta | .messagePartUpdated | .compatibilityDelta => true
  | _ => false

structure ReadText (messageID : Text) (text : PendingText) : Prop where
  message : validEventIdentity messageID = true
  part : text.family = .messagePart ∨ text.partID ≠ [] → validEventIdentity text.partID = true
  /-- A text is a snapshot or a delta. -/
  exclusive : text.full ≠ none → text.delta = []
  snapshot : text.full ≠ none → text.family = .messagePart
  nonempty : text.full = none → text.delta ≠ []

theorem readText_of_textOf {su : Setup} {ev : Received} {mid : Text}
    {text : PendingText} (read : textOf su ev = .ok (some (mid, text))) :
    ReadText mid text ∧ ev.type.isText := by
  unfold textOf at read
  split at read
  · rename_i type
    split at read
    · cases read
    rename_i hca
    split at read
    · cases read
    rename_i hva
    cases read
    simp only [not_or, Bool.not_eq_false] at hva hca
    refine ⟨⟨hva.1, fun _ => hva.2, fun full => absurd rfl full, fun full => absurd rfl full,
      fun _ => hca.2.1⟩, by rw [type]; rfl⟩
  · rename_i type
    split at read
    · cases read
    split at read
    · cases read
    split at read
    · cases read
    split at read
    · cases read
    rename_i hva
    split at read
    · cases read
    · cases read
      simp only [not_or, Bool.not_eq_false] at hva
      refine ⟨⟨hva.1, fun _ => hva.2, fun _ => rfl, fun _ => rfl, nofun⟩, by rw [type]; rfl⟩
  · rename_i type
    split at read
    · cases read
    rename_i hca
    split at read
    · cases read
    split at read
    · cases read
    rename_i hva
    cases read
    simp only [not_or, Bool.not_eq_false, not_and] at hva hca
    refine ⟨⟨hva.1, ?_, fun full => absurd rfl full, fun full => absurd rfl full,
      fun _ => hca.1⟩, by rw [type]; rfl⟩
    rintro (o | part)
    · cases o
    · exact hva.2 part
  · cases read

namespace Correlation

/-- The message is known to answer the prompt: its row says so. -/
def Sound (correlation : Correlation) : Prop :=
  ∀ messageID, correlation.currentAssistants messageID = true →
    correlation.promptMessageID ≠ [] ∧ correlation.messages.get messageID =
      some ⟨messageID, .assistant, correlation.promptMessageID⟩

def takeText (setup : Setup) (correlation : Correlation) (messageID : Text) (text : PendingText) :
    Correlation × Except Failure Bool :=
  if correlation.currentAssistants messageID then
    correlation.withDelivery (emitPending setup correlation.delivery messageID text)
  else if correlation.known messageID then (correlation, .ok false)
  else correlation.enqueue messageID text

theorem handle_text {su : Setup} {c : Correlation} (hs : c.Sound)
    {ev : Received} (hca : ev.type.isText) : c.handle su ev = match textOf su ev with
      | .error err => (c, .error err)
      | .ok none => (c, .ok false)
      | .ok (some (mid, text)) => c.takeText su mid text := by
  have assistant (mid : Text) (cur : c.currentAssistants mid) :
      c.isAssistant mid := by
    simp [isAssistant, (hs mid cur).2]
  unfold handle textOf
  cases type : ev.type with
  | messagePartDelta =>
    simp only [messageDelta]
    split
    · rfl
    split
    · rfl
    · cases cur : c.currentAssistants ev.properties.messageID with
      | true => simp [takeText, cur, assistant _ cur, emitPending]
      | false => simp [takeText, cur]
  | messagePartUpdated =>
    simp only [messagePartUpdated]
    cases ev.properties.part with
    | none => rfl
    | some part =>
      simp only
      cases partKindOf part.type with
      | none => rfl
      | some _ =>
        simp only
        split
        · rfl
        split
        · rfl
        split
        · rfl
        · cases cur : c.currentAssistants part.messageID with
          | true => simp [takeText, cur, assistant _ cur, emitPending]
          | false => simp [takeText, cur]
  | compatibilityDelta =>
    simp only [compatibilityDelta]
    split
    · rfl
    split
    · rfl
    split
    · rfl
    · cases cur : c.currentAssistants ev.properties.assistantMessageID with
      | true => simp [takeText, cur, emitPending]
      | false => simp [takeText, cur]
  | _ =>
    rw [type] at hca
    cases hca

end Correlation

/-! ## Every event -/

def updateOf (setup : Setup) (event : Received) : Option (MessageInfo × Role) :=
  if event.type = .messageUpdated then
    event.properties.info.bind fun info => (roleOf (setup.toLower info.role)).map (info, ·)
  else none

def rowOf (update : MessageInfo × Role) : MessageRow := ⟨update.1.id, update.2, update.1.parentID⟩

def isIdle (setup : Setup) (event : Received) : Bool :=
  match event.type with
  | .sessionIdle => true
  | .sessionStatus => parseProviderState setup event.properties.status = .ok (utf8 "idle")
  | _ => false

namespace Correlation

inductive Handled (setup : Setup) (correlation : Correlation) (event : Received) :
    Correlation × Except Failure Bool → Prop
  | ignored (noText : textOf setup event = .ok none) (noUpdate : updateOf setup event = none) :
    Handled setup correlation event (correlation, .ok false)
  | refused (failure : Failure) : Handled setup correlation event (correlation, .error failure)
  | text {messageID : Text} {text : PendingText}
    (read : textOf setup event = .ok (some (messageID, text))) :
    Handled setup correlation event (correlation.takeText setup messageID text)
  | updated {update : MessageInfo × Role} (reports : updateOf setup event = some update)
    (valid : validEventIdentity update.1.id = true)
    (admitted : correlation.refuses (rowOf update) = none) :
    Handled setup correlation event ((correlation.note (rowOf update)).release setup update.1)
  | told {state : Text} (type : event.type = .sessionStatus)
    (parsed : parseProviderState setup event.properties.status = .ok state) :
    Handled setup correlation event (correlation.tell setup state)
  | idle (type : event.type = .sessionIdle) :
    Handled setup correlation event (correlation.noteIdle, .ok correlation.noteIdle.turnEnded)
  | worked {messageID : Text} (current : correlation.currentAssistants messageID = true)
    (noText : textOf setup event = .ok none) (noUpdate : updateOf setup event = none) :
    Handled setup correlation event ({ correlation with
      delivery := { correlation.delivery with assistantActivity := true } }, .ok false)

theorem updateOf_of_isText {su : Setup} {ev : Received} (hca : ev.type.isText) :
    updateOf su ev = none := by
  unfold updateOf
  split
  · rename_i type
    rw [type] at hca
    cases hca
  · rfl

theorem handled (su : Setup) {c : Correlation} (hs : c.Sound)
    (ev : Received) : Handled su c ev (c.handle su ev) := by
  cases text : ev.type.isText with
  | true =>
    rw [handle_text hs text]
    match read : textOf su ev with
    | .error err => exact .refused err
    | .ok none => exact .ignored read (updateOf_of_isText text)
    | .ok (some (msgID, text)) => exact .text read
  | false =>
    have noText : textOf su ev = .ok none := by
      unfold textOf
      cases type : ev.type with
      | messagePartDelta | messagePartUpdated | compatibilityDelta =>
        rw [type] at text
        cases text
      | _ => rfl
    have hnu (ho : ev.type ≠ .messageUpdated) : updateOf su ev = none := if_neg ho
    unfold handle
    cases type : ev.type with
    | messagePartDelta | messagePartUpdated | compatibilityDelta =>
      rw [type] at text
      cases text
    | messageUpdated =>
      simp only [messageUpdated]
      cases hf : ev.properties.info with
      | none => exact .ignored noText (by simp [updateOf, hf])
      | some info =>
        simp only
        split
        · exact .refused _
        rename_i hva
        split
        · exact .refused _
        cases hn : roleOf (su.toLower info.role) with
        | none => exact .ignored noText (by simp [updateOf, hf, hn])
        | some role =>
          have hrp : updateOf su ev = some (info, role) := by
            simp [updateOf, hf, hn, type]
          simp only
          cases had : c.refuses ⟨info.id, role, info.parentID⟩ with
          | some err => exact .refused err
          | none => exact .updated hrp (by simpa using hva) had
    | sessionStatus =>
      simp only [sessionStatus]
      cases hpa : parseProviderState su ev.properties.status with
      | error err => exact .refused err
      | ok _ => exact .told type hpa
    | sessionIdle => exact .idle type
    | sessionError =>
      simp only
      split
      · exact .refused _
      · exact .ignored noText (hnu (by simp [type]))
    | other _ =>
      simp only
      split
      · rename_i worked
        simp only [Bool.and_eq_true] at worked
        exact .worked worked.2 noText (hnu (by simp [type]))
      · exact .ignored noText (hnu (by simp [type]))

end Correlation

end AISummoner.Opencode
