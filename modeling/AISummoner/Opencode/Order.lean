import AISummoner.Opencode.Association

/-! # The place of the first update

Nothing of a message is emitted before its first update, and then what waited is
emitted as it would have been; so the place of the update among the texts is not
seen from outside.
-/

namespace AISummoner.Opencode

open Encoding Relational Streams

namespace Correlation

variable {su : Setup} {mid : Text}

/-- What is seen from outside: the calls of the sink, and the answer. -/
def seen (outcome : Correlation × Except Failure Bool) : List Emission × Except Failure Bool :=
  (outcome.1.delivery.emitted, outcome.2)

variable {c : Correlation} {ev up : Received} {info : MessageInfo} {q : Queue}

theorem handle_firstUpdate (hs : c.Sound)
    (hrp : updateOf su ev = some (info, .assistant)) (own : info.id = mid)
    (hna : c.currentAssistants mid = false) : (∃ err, ∀ q, ∃ s',
        { c with queue := q }.handle su ev = (s', .error err) ∧
          s'.delivery.emitted = c.delivery.emitted) ∨ (∀ q, ∃ s' ed,
        { c with queue := q }.handle su ev = (s', .ok ed) ∧ s'.delivery = c.delivery ∧ s'.Sound ∧
          s'.currentAssistants mid = false ∧ s'.known mid) ∨
      ∃ base : Correlation, base.Sound ∧ base.currentAssistants mid ∧
        base.delivery.emitted = c.delivery.emitted ∧ ∀ q, { c with queue := q }.handle su ev =
          { base with queue := q }.replay su mid := by
  subst own
  obtain ⟨type, hf, role⟩ : ev.type = .messageUpdated ∧
      ev.properties.info = some info ∧ roleOf (su.toLower info.role) = some .assistant := by
    unfold updateOf at hrp
    split at hrp
    · rename_i type
      obtain ⟨o, hf, hn⟩ := Option.bind_eq_some_iff.mp hrp
      obtain ⟨role, known, h⟩ := Option.map_eq_some_iff.mp hn
      cases h
      exact ⟨type, hf, known⟩
    · cases hrp
  have hha (q : Queue) : { c with queue := q }.handle su ev =
      { c with queue := q }.messageUpdated su ev.properties := by
    simp only [handle, type]
  simp only [hha, messageUpdated, hf, role]
  by_cases hva : validEventIdentity info.id = false
  · left
    refine ⟨protocolError "invalid OpenCode message identity", fun q => ?_⟩
    exact ⟨{ c with queue := q }, by rw [if_pos hva], rfl⟩
  simp only [if_neg hva]
  by_cases hpa : info.parentID ≠ [] ∧ validEventIdentity info.parentID = false
  · left
    refine ⟨protocolError "invalid OpenCode parent identity", fun q => ?_⟩
    exact ⟨{ c with queue := q }, by rw [if_pos hpa], rfl⟩
  simp only [if_neg hpa]
  cases ad : c.refuses ⟨info.id, .assistant, info.parentID⟩ with
  | some err =>
    left
    refine ⟨err, fun q => ⟨{ c with queue := q }, ?_, rfl⟩⟩
    have h : { c with queue := q }.refuses
        ⟨info.id, .assistant, info.parentID⟩ = some err := ad
    rw [h]
  | none =>
    have admits (q : Queue) : { c with queue := q }.refuses
        ⟨info.id, .assistant, info.parentID⟩ = none := ad
    have hs' := hs.note ad
    simp only [admits, note, noteAssistant] at hs' ⊢
    by_cases han : c.promptMessageID ≠ [] ∧ info.parentID = c.promptMessageID
    · simp only [if_pos han, release, Function.update_self, if_true] at hs' ⊢
      cases finish : finishOf su info with
      | error err => exact .inl ⟨err, fun q => ⟨_, rfl, rfl⟩⟩
      | ok fin =>
        refine .inr (.inr ⟨{ c with
          messages := c.messages.put ⟨info.id, .assistant, info.parentID⟩
          currentAssistants := Function.update c.currentAssistants info.id true
          assistantFinal := c.assistantFinal || fin
          delivery := { c.delivery with assistantActivity := true } }, hs', ?_, rfl, fun q => rfl⟩)
        exact Function.update_self ..
    · simp only [if_neg han, release, hna, Bool.false_eq_true, if_false] at hs' ⊢
      refine .inr (.inl fun q => ⟨_, _, rfl, rfl, hs', hna, ?_⟩)
      simp [known, Table.get_put]

def emittedBy (emission : Delivery × Option Failure) : List Emission × Except Failure Bool :=
  (emission.1.emitted, match emission.2 with
    | none => .ok false
    | some failure => .error failure)

theorem Fits.left {a b : List PendingText} (fits : q.Fits (a ++ b)) : q.Fits a := by
  have hrcs := fits.records
  have hbs := fits.bytes
  simp only [List.length_append, List.map_append, List.sum_append] at hrcs hbs
  exact ⟨by omega, by omega⟩

theorem pendingTexts_append (su : Setup) (a b : List Received) :
    pendingTexts su (a ++ b) = pendingTexts su a ++ pendingTexts su b :=
  List.filterMap_append

theorem seen_replay {base : Correlation} (s : base.Sound)
    (han : base.currentAssistants mid) {st : Correlation} (hha : st.handle su up =
      { base with queue := q }.replay su mid) {evs : List Received}
    (carry : ∀ ev ∈ evs, Carries su mid ev) :
    seen (receiveAll su st (up :: evs)) =
      emittedBy (emitAll su mid base.delivery (q.pendingOf mid ++ pendingTexts su evs)) := by
  rw [emitAll_append]
  match emits : emitAll su mid base.delivery (q.pendingOf mid) with
  | (d, some err) =>
    have step : unending (handle su) st up =
        ({ base with queue := q, delivery := d }, .error err) := by
      simp [unending, hha, replay, emits, Except.map]
    rw [receiveAll, feed_stop step (by simp)]
    rfl
  | (d, none) =>
    have step : unending (handle su) st up =
        ({ base with queue := q.clearPending mid, delivery := d }, .ok false) := by
      simp [unending, hha, replay, emits, Except.map]
    have hs' : { base with
        queue := q.clearPending mid, delivery := d }.Sound := s
    rw [receiveAll, feed_continue step]
    exact congrArg seen (receiveAll_current hs' han carry)

theorem seen_split (hcn : c.Consistent) (unknown : c.messages.get mid = none) {txs : List Received}
    (carry : ∀ ev ∈ txs, Carries su mid ev)
    (fits : c.queue.Fits (pendingTexts su txs)) (hrp : updateOf su up = some (info, .assistant))
    (own : info.id = mid) : ∃ res, ∀ s s', s ++ s' = txs →
      seen (receiveAll su c (s ++ up :: s')) = res := by
  have hs := hcn.sound
  have hna : c.currentAssistants mid = false := by
    rw [Bool.eq_false_iff]
    intro han
    rw [(hs mid han).2] at unknown
    cases unknown
  -- The texts before the update wait.
  have hwa {s s' : List Received} (hsp : s ++ s' = txs) :
      receiveAll su c (s ++ up :: s') =
        receiveAll su { c with
          queue := c.queue.addAll mid (pendingTexts su s) }
          (up :: s') := by
    subst hsp
    rw [pendingTexts_append] at fits
    exact feed_append_continue (receiveAll_unknown hs hna unknown
      hcn.counted.nonneg (fun ev hm => carry ev (List.mem_append_left _ hm)) (Fits.left fits)) _
  have carryAfter {s s' : List Received} (hsp : s ++ s' = txs) :
      ∀ ev ∈ s', Carries su mid ev := by
    subst hsp
    exact fun ev hm => carry ev (List.mem_append_right _ hm)
  obtain ⟨err, fails⟩ | o | ⟨base, soundBase, han, _, replays⟩ := handle_firstUpdate hs hrp own hna
  · refine ⟨(c.delivery.emitted, .error err), fun s s' hsp => ?_⟩
    obtain ⟨st, hha, hem⟩ := fails (c.queue.addAll mid (pendingTexts su s))
    rw [hwa hsp]
    have step : unending (handle su) { c with
        queue := c.queue.addAll mid (pendingTexts su s) } up =
        (st, .error err) := by
      simp [unending, hha, Except.map]
    rw [receiveAll, feed_stop step (by simp)]
    rw [← hem]
    rfl
  · refine ⟨(c.delivery.emitted, .ok false), fun s s' hsp => ?_⟩
    obtain ⟨st, _, hha, hd, hs', noAnswerNext, known⟩ :=
      o (c.queue.addAll mid (pendingTexts su s))
    rw [hwa hsp]
    have step : unending (handle su) { c with
        queue := c.queue.addAll mid (pendingTexts su s) } up =
        (st, .ok false) := by
      simp [unending, hha, Except.map]
    rw [receiveAll, feed_continue step, ← hd]
    exact congrArg seen (receiveAll_other hs' noAnswerNext known (carryAfter hsp))
  · refine ⟨emittedBy (emitAll su mid base.delivery
      (c.queue.pendingOf mid ++ pendingTexts su txs)), fun s s' hsp => ?_⟩
    rw [hwa hsp, seen_replay soundBase han (replays _) (carryAfter hsp),
      Queue.pendingOf_addAll, ← hsp, pendingTexts_append, List.append_assoc]

theorem quiet_handle (hs : c.Sound) (hq : c.idleObserved = false)
    (type : ev.type.isText ∨ ev.type = .messageUpdated) :
    (c.handle su ev).1.idleObserved = false ∧ (c.handle su ev).2 ≠ .ok true := by
  have step := handled su hs ev
  generalize c.handle su ev = result at step
  cases step with
  | ignored | refused => exact ⟨hq, by simp⟩
  | @text mid text _ =>
    unfold takeText
    split
    · exact ⟨hq, by unfold withDelivery; split <;> simp⟩
    split
    · exact ⟨hq, by simp⟩
    · obtain ⟨_, h⟩ | ⟨q, _, h⟩ := c.enqueue_cases mid text
      · simp [h, hq]
      · simp [h, hq]
  | @updated up _ _ _ =>
    have quietNote : (c.note (rowOf up)).idleObserved = false := by
      unfold note notePrompt noteAssistant
      repeat' split
      all_goals exact hq
    unfold release
    split
    · split
      · exact ⟨quietNote, by simp⟩
      · unfold replay
        split
        · exact ⟨quietNote, by simp⟩
        · exact ⟨quietNote, by simp [turnEnded, quietNote]⟩
    · exact ⟨quietNote, by simp [turnEnded, quietNote]⟩
  | told ho | idle ho =>
    rw [ho] at type
    simp [EventType.isText] at type
  | worked => exact ⟨hq, by simp⟩

end Correlation

/-- From every state a tracker reaches: the first update of a message can arrive before, after
    or among its texts, and what the sink is told and whether that fails is the same.  Before an
    idle was observed this is also what is read up to the end of a Turn, for then nothing here
    ends it.  The counters of the queue are right after any events. -/
theorem first_update_place_irrelevant (setup : Setup) (promptMessageID : Text)
    (past : List (Bool × Text)) (correlation : Correlation)
    (reached : (feed (Tracker.consume setup) (newTracker promptMessageID) past).1.correlation =
      correlation) :
    (∀ messageID texts update info,
      correlation.messages.get messageID = none →
      (∀ event ∈ texts, Carries setup messageID event) →
      correlation.queue.Fits (pendingTexts setup texts) →
      updateOf setup update = some (info, .assistant) → info.id = messageID →
      ∀ before after before' after', before ++ after = texts → before' ++ after' = texts →
        Correlation.seen (correlation.receiveAll setup (before ++ update :: after)) =
            Correlation.seen (correlation.receiveAll setup (before' ++ update :: after')) ∧
          (correlation.idleObserved = false →
            Correlation.seen
                (feed (Correlation.handle setup) correlation (before ++ update :: after)) =
              Correlation.seen
                (feed (Correlation.handle setup) correlation (before' ++ update :: after')))) ∧
    ∀ events, (feed (Correlation.handle setup) correlation events).1.queue.Counted := by
  have consistent : correlation.Consistent :=
    reached ▸ consistent_feed setup (Correlation.consistent_new promptMessageID) past
  constructor
  · intro messageID texts update info unknown carry fits reports own before after before' after'
      split split'
    obtain ⟨result, same⟩ := Correlation.seen_split consistent unknown carry fits reports own
    have agree := (same before after split).trans (same before' after' split').symm
    refine ⟨agree, fun quiet => ?_⟩
    -- No event here ends a Turn.
    have updates : update.type = .messageUpdated := by
      unfold updateOf at reports
      split at reports
      · assumption
      · cases reports
    have unended (before after : List Received) (split : before ++ after = texts) :
        feed (unending (Correlation.handle setup)) correlation (before ++ update :: after) =
          feed (Correlation.handle setup) correlation (before ++ update :: after) := by
      refine feed_unending (fun state => state.Sound ∧ state.idleObserved = false)
        ⟨consistent.sound, quiet⟩ fun event member state holds => ?_
      have type : event.type.isText = true ∨ event.type = .messageUpdated := by
        simp only [List.mem_append, List.mem_cons] at member
        obtain earlier | rfl | later := member
        · exact .inl (carry event (split ▸ List.mem_append_left _ earlier)).1
        · exact .inr updates
        · exact .inl (carry event (split ▸ List.mem_append_right _ later)).1
      obtain ⟨quietNext, goesOn⟩ := Correlation.quiet_handle holds.1 holds.2 type
      exact ⟨⟨holds.1.handle event, quietNext⟩, goesOn⟩
    rw [← unended before after split, ← unended before' after' split']
    exact agree
  · intro events
    exact (feed_kept Correlation.Consistent consistent
      (fun _ event consistent => consistent.handle event) events).counted

def openSetup (decode : Text → Option ProviderEvent) : Setup where
  externalSessionID := utf8 "ses_1"
  decode := decode
  toLower := id
  sink := fun _ _ => none

def ownEvent (type : EventType) (properties : EventProperties) : Received :=
  ⟨utf8 "ses_1", utf8 "evt_1", type, properties⟩

def deltaEvent (messageID partID delta : String) : Received :=
  ownEvent .messagePartDelta
    { messageID := utf8 messageID, partID := utf8 partID, field := utf8 "text", delta := utf8 delta }

def answerUpdate (messageID parentID finish : String) : Received :=
  ownEvent .messageUpdated
    { info := some ⟨utf8 messageID, [], utf8 "assistant", utf8 parentID, utf8 finish, []⟩ }

theorem first_update_place_irrelevant_two_deltas :
    Correlation.seen (Correlation.receiveAll (openSetup fun _ => none)
        (newTracker (utf8 "msg_1")).correlation
        [deltaEvent "msg_2" "prt_1" "a", deltaEvent "msg_2" "prt_1" "b",
          answerUpdate "msg_2" "msg_1" ""]) =
      Correlation.seen (Correlation.receiveAll (openSetup fun _ => none)
        (newTracker (utf8 "msg_1")).correlation
        [answerUpdate "msg_2" "msg_1" "", deltaEvent "msg_2" "prt_1" "a",
          deltaEvent "msg_2" "prt_1" "b"]) := by
  refine ((first_update_place_irrelevant (openSetup fun _ => none) (utf8 "msg_1") [] _ rfl).1
    (utf8 "msg_2") [deltaEvent "msg_2" "prt_1" "a", deltaEvent "msg_2" "prt_1" "b"]
    (answerUpdate "msg_2" "msg_1" "") _ rfl ?_ ?_ rfl rfl
    [deltaEvent "msg_2" "prt_1" "a", deltaEvent "msg_2" "prt_1" "b"] [] [] _ rfl rfl).1
  · intro event member
    simp only [List.mem_cons, List.not_mem_nil, or_false] at member
    obtain rfl | rfl := member
    · exact ⟨rfl, _, rfl, by rintro _ ⟨⟩; rfl⟩
    · exact ⟨rfl, _, rfl, by rintro _ ⟨⟩; rfl⟩
  · exact ⟨by decide +kernel, by decide +kernel⟩

end AISummoner.Opencode
