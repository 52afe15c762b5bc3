import AISummoner.Opencode.Fragments
import AISummoner.Opencode.Reception

/-! # When a Turn has succeeded

A Turn ends well once an answer to its prompt has finished and the session went idle
after the answer had begun.  Each flag of the tracker is traced back to the event
that set it.
-/

namespace AISummoner.Opencode

open Encoding Relational Streams

variable {c : Correlation} {ev : Received} {mid : Text} {cf : Text}
  {ans : Bool} {su : Setup}

namespace Correlation

variable {su : Setup}

/-! ## What one event changes -/

theorem SameMessages.keeps {s s' : Correlation} (h : SameMessages s s')
    (cur : s.currentAssistants mid) : s'.currentAssistants mid := by
  rw [h.current]
  exact cur

theorem current_note (row : MessageRow) (cur : (c.note row).currentAssistants mid) :
    c.currentAssistants mid ∨
      row.role = .assistant ∧ row.id = mid ∧ row.parentID = c.promptMessageID ∧
        c.promptMessageID ≠ [] := by
  unfold note at cur
  cases role : row.role with
  | user =>
    simp only [role, notePrompt] at cur
    split at cur <;> exact .inl cur
  | system =>
    simp only [role] at cur
    exact .inl cur
  | assistant =>
    simp only [role, noteAssistant] at cur
    split at cur
    · rename_i han
      by_cases h : mid = row.id
      · exact .inr ⟨rfl, h.symm, han.2, han.1⟩
      · simp only [Function.update_of_ne h] at cur
        exact .inl cur
    · exact .inl cur

theorem current_of_current (row : MessageRow) (cur : c.currentAssistants mid) :
    (c.note row).currentAssistants mid := by
  unfold note notePrompt noteAssistant
  repeat' split
  all_goals try exact cur
  by_cases h : mid = row.id
  · simp [h]
  · simpa [Function.update_of_ne h] using cur

theorem prompt_note (c : Correlation) (row : MessageRow) :
    (c.note row).promptMessageID = c.promptMessageID ∨ c.promptMessageID = [] ∧ row.role = .user ∧
        (c.note row).promptMessageID = row.id := by
  unfold note
  cases role : row.role with
  | user =>
    simp only [notePrompt]
    split
    · rename_i noPrompt
      exact .inr ⟨noPrompt, trivial, rfl⟩
    · exact .inl rfl
  | system => exact .inl rfl
  | assistant =>
    simp only [noteAssistant]
    split <;> exact .inl rfl

theorem current_handle (hs : c.Sound) (cur : (c.handle su ev).1.currentAssistants mid) :
    c.currentAssistants mid ∨ ∃ info, updateOf su ev = some (info, .assistant) ∧ info.id = mid ∧
        info.parentID = c.promptMessageID ∧ c.promptMessageID ≠ [] := by
  have step := handled su hs ev
  generalize c.handle su ev = result at step cur
  cases step with
  | ignored | refused => exact .inl cur
  | text => exact .inl ((takeText_sameMessages ..).current ▸ cur)
  | @updated up hrp _ _ =>
    rw [(release_sameMessages ..).current] at cur
    obtain pre | ⟨role, own, pa, hn⟩ := current_note _ cur
    · exact .inl pre
    · obtain ⟨info, _⟩ := up
      cases role
      exact .inr ⟨info, hrp, own, pa, hn⟩
  | told => exact .inl ((tell_sameMessages ..).current ▸ cur)
  | idle => exact .inl ((noteIdle_sameMessages _).current ▸ cur)
  | worked => exact .inl cur

theorem current_kept (hs : c.Sound) (ev : Received) (cur : c.currentAssistants mid) :
    (c.handle su ev).1.currentAssistants mid := by
  have step := handled su hs ev
  generalize c.handle su ev = result at step
  cases step with
  | ignored | refused => exact cur
  | text => exact (takeText_sameMessages ..).keeps cur
  | updated => exact (release_sameMessages ..).keeps (current_of_current _ cur)
  | told => exact (tell_sameMessages ..).keeps cur
  | idle => exact (noteIdle_sameMessages _).keeps cur
  | worked => exact cur

theorem prompt_handle (su : Setup) (hs : c.Sound) (ev : Received) :
    (c.handle su ev).1.promptMessageID = c.promptMessageID ∨
      c.promptMessageID = [] ∧ ∃ info ans, updateOf su ev = some (info, .user) ∧
        (c.handle su ev).1.promptMessageID = info.id ∧ (c.handle su ev).2 = .ok ans := by
  have step := handled su hs ev
  generalize c.handle su ev = result at step
  cases step with
  | ignored | refused => exact .inl rfl
  | text => exact .inl (takeText_sameMessages ..).prompt
  | @updated up hrp _ _ =>
    obtain h | ⟨noPrompt, role, prompt⟩ := c.prompt_note (rowOf up)
    · exact .inl ((release_sameMessages ..).prompt.trans h)
    obtain ⟨info, _⟩ := up
    cases role
    refine .inr ⟨noPrompt, info, ?_⟩
    -- Nothing answers a prompt that was not there, so nothing is emitted.
    have hna : (c.note (rowOf (info, .user))).currentAssistants info.id = false := by
      rw [Bool.eq_false_iff]
      intro cur
      obtain pre | ⟨o, _⟩ := current_note _ cur
      · exact (hs info.id pre).1 noPrompt
      · cases o
    refine ⟨(c.note (rowOf (info, .user))).turnEnded, hrp,
      (release_sameMessages ..).prompt.trans prompt, ?_⟩
    simp [release, hna]
  | told => exact .inl (tell_sameMessages ..).prompt
  | idle => exact .inl (noteIdle_sameMessages _).prompt
  | worked => exact .inl rfl

theorem active_handle (hs : c.Sound) (hac : (c.handle su ev).1.delivery.assistantActivity) :
    c.delivery.assistantActivity ∨ ∃ mid, (c.handle su ev).1.currentAssistants mid := by
  have step := handled su hs ev
  generalize c.handle su ev = result at step hac
  cases step with
  | ignored | refused => exact .inl hac
  | @text mid text _ =>
    rw [delivery_takeText] at hac
    split at hac
    · rename_i cur
      exact .inr ⟨mid, (takeText_sameMessages ..).keeps cur⟩
    · exact .inl hac
  | @updated up _ _ _ =>
    cases cur : (c.note (rowOf up)).currentAssistants up.1.id with
    | true => exact .inr ⟨_, (release_sameMessages ..).keeps cur⟩
    | false =>
      simp only [release, cur, Bool.false_eq_true, if_false] at hac
      obtain h | ⟨noted, hac⟩ : (c.note (rowOf up)).delivery =
            c.delivery ∨ ∃ mid,
            (c.note (rowOf up)).currentAssistants mid := by
        unfold note notePrompt noteAssistant
        repeat' split
        all_goals first
          | exact .inl rfl
          | exact .inr ⟨_, Function.update_self ..⟩
      · exact .inl (h ▸ hac)
      · exact .inr ⟨noted, (release_sameMessages ..).keeps hac⟩
  | told =>
    rw [delivery_tell] at hac
    exact .inl hac
  | idle =>
    rw [delivery_noteIdle] at hac
    exact .inl hac
  | worked cur => exact .inr ⟨_, cur⟩

/-- What was emitted tells a state of the provider, or is a fragment of one of these messages. -/
def EmittedFor (messages : Text → Bool) (delivery : Delivery) : Prop :=
  ∀ emission ∈ delivery.emitted, (∃ state, emission.call = .providerState state) ∨
    ∃ origin, emission.origin = some origin ∧ messages origin.messageID = true

variable {msgs : Text → Bool} {d : Delivery}

theorem EmittedFor.sendText (pre : EmittedFor msgs d) (own : msgs mid) (call : Call)
    (pid : Text) (fam : Family) : EmittedFor msgs (d.sendText su call ⟨mid, pid, fam⟩).1 := by
  intro em hm
  rw [Delivery.sendText_emitted, List.mem_append, List.mem_singleton] at hm
  obtain s | rfl := hm
  · exact pre em s
  · exact .inr ⟨_, rfl, own⟩

theorem EmittedFor.emit (pre : EmittedFor msgs d) (own : msgs mid) (text : PendingText) :
    EmittedFor msgs (emitPending su d mid text).1 := by
  have step := Delivery.emits su d mid text
  generalize emitPending su d mid text = result at step
  cases step with
  | held | failed | fellBack => exact pre
  | opened got =>
    rw [got.same]
    exact pre
  | extended _ _ got =>
    rw [Delivery.extendPart_eq, got.same]
    refine EmittedFor.sendText ?_ own _ _ _
    exact pre
  | compatibility _ cho =>
    refine EmittedFor.sendText ?_ own _ _ _
    cases cho <;> exact pre

theorem emittedFor_handle (hcn : c.Consistent) (ev : Received)
    (pre : EmittedFor c.currentAssistants c.delivery) :
    EmittedFor (c.handle su ev).1.currentAssistants (c.handle su ev).1.delivery := by
  have step := handled su hcn.sound ev
  generalize c.handle su ev = result at step
  cases step with
  | ignored | refused => exact pre
  | @text _ text _ =>
    rw [(takeText_sameMessages ..).current, delivery_takeText]
    split
    · rename_i cur
      exact pre.emit cur text
    · exact pre
  | @updated up _ _ _ =>
    rw [(release_sameMessages ..).current]
    have noted : EmittedFor (c.note (rowOf up)).currentAssistants
        (c.note (rowOf up)).delivery := by
      intro em hm
      have h : (c.note (rowOf up)).delivery.emitted =
          c.delivery.emitted := by
        obtain h | h := c.delivery_note (rowOf up) <;> rw [h]
      obtain st | ⟨og, hf, cur⟩ := pre em (h ▸ hm)
      · exact .inl st
      · exact .inr ⟨og, hf, current_of_current _ cur⟩
    unfold release
    split
    · rename_i cur
      split
      · exact noted
      have hwt : ∀ text ∈ c.queue.pendingOf up.1.id,
          ReadText up.1.id text := fun text hm =>
        hcn.counted.read _ (Queue.mem_pendingOf.mp hm)
      have unrestricted : AllowsAll su (fun _ _ _ => True) up.1.id
          (c.note (rowOf up)).delivery (c.queue.pendingOf up.1.id) :=
        allowsAll_of_forall _ (fun _ _ => trivial) _
      have all : EmittedFor (c.note (rowOf up)).currentAssistants
          (emitAll su up.1.id (c.note (rowOf up)).delivery (c.queue.pendingOf up.1.id)).1 :=
        emitAll_kept (EmittedFor (c.note (rowOf up)).currentAssistants)
          (fun _ text _ _ hh => hh.emit cur text) hwt unrestricted noted
      unfold replay
      simp only [queue_note]
      split <;> rename_i fed <;> rw [fed] at all <;> exact all
    · exact noted
  | told =>
    rw [(tell_sameMessages ..).current, delivery_tell]
    intro em hm
    simp only [Delivery.send, List.mem_append, List.mem_singleton] at hm
    obtain s | rfl := hm
    · exact pre em s
    · exact .inl ⟨_, rfl⟩
  | idle =>
    rw [(noteIdle_sameMessages _).current, delivery_noteIdle]
    exact pre
  | worked => exact pre

theorem flags_takeText (su : Setup) (c : Correlation) (mid : Text) (text : PendingText) :
    (c.takeText su mid text).1.idleObserved = c.idleObserved ∧
      (c.takeText su mid text).1.assistantFinal = c.assistantFinal ∧
      (c.takeText su mid text).2 ≠ .ok true := by
  unfold takeText
  split
  · exact ⟨rfl, rfl, by unfold withDelivery; split <;> simp⟩
  split
  · exact ⟨rfl, rfl, by simp⟩
  · obtain ⟨_, h⟩ | ⟨q, _, h⟩ := c.enqueue_cases mid text <;>
      simp [h]

theorem flags_note (c : Correlation) (row : MessageRow) :
    (c.note row).idleObserved = c.idleObserved ∧
      (c.note row).assistantFinal = c.assistantFinal := by
  unfold note notePrompt noteAssistant
  repeat' split
  all_goals exact ⟨rfl, rfl⟩

theorem flags_release (su : Setup) (c : Correlation) (info : MessageInfo) :
    (c.release su info).1.idleObserved = c.idleObserved ∧ ((c.release su info).1.assistantFinal →
        c.assistantFinal ∨ c.currentAssistants info.id ∧
          finalAssistantFinish su info.finish = .ok true) ∧ ((c.release su info).2 = .ok true →
        (c.release su info).1.turnEnded) := by
  unfold release
  split
  · rename_i cur
    split
    · exact ⟨rfl, .inl, nofun⟩
    rename_i fin finish
    have hrd : (c.assistantFinal || fin) →
        c.assistantFinal ∨ c.currentAssistants info.id ∧
          finalAssistantFinish su info.finish = .ok true := by
      intro either
      rw [Bool.or_eq_true] at either
      obtain pre | here := either
      · exact .inl pre
      subst here
      refine .inr ⟨cur, ?_⟩
      unfold finishOf at finish
      split at finish
      · cases finish
      · exact finish
    unfold replay
    split
    · exact ⟨rfl, hrd, nofun⟩
    · exact ⟨rfl, hrd, fun hed => Except.ok.inj hed⟩
  · exact ⟨rfl, .inl, fun hed => Except.ok.inj hed⟩

theorem flags_noteIdle (c : Correlation) : (c.noteIdle.idleObserved →
        c.idleObserved ∨ c.delivery.assistantActivity) ∧
      c.noteIdle.assistantFinal = c.assistantFinal := by
  unfold noteIdle
  split
  · rename_i hac
    exact ⟨fun _ => .inr hac, rfl⟩
  · exact ⟨.inl, rfl⟩

theorem flags_tell (su : Setup) (c : Correlation) (st : Text) : ((c.tell su st).1.idleObserved →
        c.idleObserved ∨ st = utf8 "idle" ∧ c.delivery.assistantActivity) ∧
      (c.tell su st).1.assistantFinal = c.assistantFinal ∧ ((c.tell su st).2 = .ok true →
        (c.tell su st).1.turnEnded) := by
  unfold tell
  split
  · exact ⟨.inl, rfl, nofun⟩
  rename_i d told
  split
  · rename_i idle
    obtain ⟨ob, fin⟩ := flags_noteIdle { c with delivery := d }
    refine ⟨fun now => ?_, fin, fun hed => Except.ok.inj hed⟩
    obtain pre | hac := ob now
    · exact .inl pre
    refine .inr ⟨idle, ?_⟩
    have h : d = (c.delivery.send su (.providerState st) none).1 := by
      rw [told]
    rw [h] at hac
    exact hac
  · exact ⟨.inl, rfl, fun hed => Except.ok.inj hed⟩

theorem idle_handle (hs : c.Sound) (hob : (c.handle su ev).1.idleObserved) : c.idleObserved ∨
      isIdle su ev ∧ c.delivery.assistantActivity := by
  have step := handled su hs ev
  generalize c.handle su ev = result at step hob
  cases step with
  | ignored | refused => exact .inl hob
  | text => exact .inl ((flags_takeText ..).1 ▸ hob)
  | @updated hup =>
    rw [(flags_release ..).1, (c.flags_note (rowOf hup)).1] at hob
    exact .inl hob
  | @told st type hpa =>
    obtain pre | ⟨rfl, hac⟩ := (flags_tell su c st).1 hob
    · exact .inl pre
    · exact .inr ⟨by simp [isIdle, type, hpa], hac⟩
  | idle type =>
    obtain pre | hac := c.flags_noteIdle.1 hob
    · exact .inl pre
    · exact .inr ⟨by simp [isIdle, type], hac⟩
  | worked => exact .inl hob

theorem final_handle (hs : c.Sound) (fin : (c.handle su ev).1.assistantFinal) : c.assistantFinal ∨
      ∃ info, updateOf su ev = some (info, .assistant) ∧
        info.parentID = c.promptMessageID ∧ c.promptMessageID ≠ [] ∧
        finalAssistantFinish su info.finish = .ok true := by
  have step := handled su hs ev
  generalize c.handle su ev = result at step fin
  cases step with
  | ignored | refused => exact .inl fin
  | text => exact .inl ((flags_takeText ..).2.1 ▸ fin)
  | @updated up hrp _ had =>
    obtain ⟨_, rd, _⟩ := flags_release su (c.note (rowOf up)) up.1
    obtain pre | ⟨cur, finish⟩ := rd fin
    · rw [(c.flags_note (rowOf up)).2] at pre
      exact .inl pre
    obtain ⟨info, role⟩ := up
    -- The row that was noted is the row of a message that answers the prompt.
    obtain ⟨hasPrompt, row⟩ := hs.note had info.id cur
    have noted : (c.note (rowOf (info, role))).messages.get info.id =
        some ⟨info.id, role, info.parentID⟩ := by
      unfold note notePrompt noteAssistant
      repeat' split
      all_goals simp [rowOf, Table.get_put]
    rw [noted] at row
    obtain ⟨_, isAssistant, pa⟩ := MessageRow.mk.inj (Option.some.inj row)
    subst isAssistant
    obtain h | ⟨_, o, _⟩ := c.prompt_note (rowOf (info, .assistant))
    · exact .inr ⟨info, hrp, pa.trans h, h ▸ hasPrompt, finish⟩
    · cases o
  | told => exact .inl ((flags_tell ..).2.1 ▸ fin)
  | idle => exact .inl (c.flags_noteIdle.2 ▸ fin)
  | worked => exact .inl fin

theorem ended_handle (hs : c.Sound) (hed : (c.handle su ev).2 = .ok true) :
    (c.handle su ev).1.idleObserved ∧ (c.handle su ev).1.assistantFinal := by
  have flags (s' : Correlation) (both : s'.turnEnded) :
      s'.idleObserved ∧ s'.assistantFinal := by
    simpa [turnEnded] using both
  have step := handled su hs ev
  generalize c.handle su ev = result at step hed
  cases step with
  | ignored | refused => cases hed
  | text => exact absurd hed (flags_takeText ..).2.2
  | updated => exact flags _ ((flags_release ..).2.2 hed)
  | told => exact flags _ ((flags_tell ..).2.2 hed)
  | idle => exact flags _ (Except.ok.inj hed)
  | worked => cases hed

end Correlation

/-! ## Runs -/

def userMessage (setup : Setup) (event : Received) : Option Text :=
  match updateOf setup event with
  | some (info, .user) => some info.id
  | _ => none

/-- The prompt of a Turn: the one it was given, or the first user message it was told of. -/
def currentPrompt (setup : Setup) (configured : Text) (events : List Received) : Text :=
  if configured = [] then (events.findSome? (userMessage setup)).getD [] else configured

structure Answers (setup : Setup) (prompt : Text) (event : Received) (info : MessageInfo) : Prop where
  reports : updateOf setup event = some (info, .assistant)
  parent : info.parentID = prompt
  named : prompt ≠ []

structure Traced (setup : Setup) (configured : Text) (past : List Received)
    (correlation : Correlation) : Prop where
  consistent : correlation.Consistent
  prompt : correlation.promptMessageID = currentPrompt setup configured past
  named : ∀ event ∈ past, ∀ id, userMessage setup event = some id → id ≠ []
  current : ∀ messageID, correlation.currentAssistants messageID = true →
    ∃ event ∈ past, ∃ info, Answers setup correlation.promptMessageID event info ∧
      info.id = messageID
  active : correlation.delivery.assistantActivity = true →
    ∃ messageID, correlation.currentAssistants messageID = true
  idle : correlation.idleObserved = true → ∃ before idle after, past = before ++ idle :: after ∧
    isIdle setup idle = true ∧
      ∃ event ∈ before, ∃ info, Answers setup correlation.promptMessageID event info
  final : correlation.assistantFinal = true →
    ∃ event ∈ past, ∃ info, Answers setup correlation.promptMessageID event info ∧
      finalAssistantFinish setup info.finish = .ok true
  emitted : Correlation.EmittedFor correlation.currentAssistants correlation.delivery

theorem traced_new (su : Setup) (cf : Text) : Traced su cf [] (newTracker cf).correlation := by
  refine ⟨Correlation.consistent_new cf, ?_, nofun, nofun, nofun, nofun, nofun, nofun⟩
  unfold currentPrompt
  split
  · rename_i hem
    exact hem
  · rfl

namespace Traced

variable {su : Setup} {cf : Text} {p : List Received} {c : Correlation}

theorem prompt_eq (htr : Traced su cf p c) (ev : Received) (hk : c.promptMessageID ≠ []) :
    (c.handle su ev).1.promptMessageID = c.promptMessageID :=
  (Correlation.prompt_handle su htr.consistent.sound ev).resolve_right fun o =>
    hk o.1

theorem prompt_of_user (htr : Traced su cf p c) {id : Text} (user : userMessage su ev = some id)
    (ha : (c.handle su ev).2 = .ok ans) : id ≠ [] ∧ (c.promptMessageID = [] →
      (c.handle su ev).1.promptMessageID = id) := by
  obtain ⟨info, hrp, rfl⟩ : ∃ info, updateOf su ev = some (info, .user) ∧ info.id = id := by
    unfold userMessage at user
    split at user
    · rename_i info hrp
      exact ⟨info, hrp, Option.some.inj user⟩
    · cases user
  have step := Correlation.handled su htr.consistent.sound ev
  generalize c.handle su ev = result at step ha
  cases step with
  | ignored _ hnu | worked _ _ hnu =>
    rw [hnu] at hrp
    cases hrp
  | refused => cases ha
  | text read =>
    rw [Correlation.updateOf_of_isText (readText_of_textOf read).2] at hrp
    cases hrp
  | updated again hva _ =>
    cases again.symm.trans hrp
    refine ⟨messageID_ne_nil hva, fun noPrompt => ?_⟩
    rw [(Correlation.release_sameMessages ..).prompt]
    simp [Correlation.note, Correlation.notePrompt, rowOf, noPrompt]
  | told type | idle type => simp [updateOf, type] at hrp

theorem prompt_step (htr : Traced su cf p c) (ha : (c.handle su ev).2 = .ok ans) :
    (c.handle su ev).1.promptMessageID = currentPrompt su cf (p ++ [ev]) := by
  have hs := htr.prompt
  unfold currentPrompt at hs ⊢
  by_cases hgi : cf = []
  · rw [if_pos hgi] at hs ⊢
    rw [List.findSome?_append]
    cases hf : p.findSome? (userMessage su) with
    | some id =>
      rw [hf] at hs
      have hn : c.promptMessageID ≠ [] := by
        obtain ⟨pre, hm, user⟩ := List.exists_of_findSome?_eq_some hf
        rw [hs]
        exact htr.named pre hm id user
      rw [htr.prompt_eq ev hn, hs]
      rfl
    | none =>
      rw [hf] at hs
      simp only [Option.getD_none] at hs
      cases user : userMessage su ev with
      | some id =>
        simp [user, (htr.prompt_of_user user ha).2 hs]
      | none =>
        obtain h | ⟨_, _, _, hrp, _⟩ := Correlation.prompt_handle su htr.consistent.sound ev
        · simp [user, h, hs]
        · simp [userMessage, hrp] at user
  · rw [if_neg hgi] at hs ⊢
    rw [htr.prompt_eq ev (hs ▸ hgi), hs]

end Traced

variable {p evs : List Received}

theorem Traced.handle (htr : Traced su cf p c) (ha : (c.handle su ev).2 = .ok ans) :
    Traced su cf (p ++ [ev]) (c.handle su ev).1 := by
  have hs := htr.consistent.sound
  have stays {info : MessageInfo} {hpre : Received}
      (han : Answers su c.promptMessageID hpre info) :
      Answers su (c.handle su ev).1.promptMessageID hpre info := by
    rw [htr.prompt_eq ev han.named]
    exact han
  have last : ev ∈ p ++ [ev] := by simp
  refine ⟨htr.consistent.handle ev, htr.prompt_step ha, ?_, ?_, ?_, ?_, ?_,
    Correlation.emittedFor_handle htr.consistent ev htr.emitted⟩
  · intro o hm id user
    obtain hpre | rfl := List.mem_append.mp hm |>.imp_right List.mem_singleton.mp
    · exact htr.named o hpre id user
    · exact (htr.prompt_of_user user ha).1
  · intro mid cur
    obtain hpre | ⟨info, hrp, own, pa, hn⟩ := Correlation.current_handle hs cur
    · obtain ⟨up, hm, info, han, own⟩ := htr.current mid hpre
      exact ⟨up, List.mem_append_left _ hm, info, stays han, own⟩
    · exact ⟨ev, last, info, stays ⟨hrp, pa, hn⟩, own⟩
  · intro hac
    obtain hpre | now := Correlation.active_handle hs hac
    · obtain ⟨mid, cur⟩ := htr.active hpre
      exact ⟨mid, Correlation.current_kept hs ev cur⟩
    · exact now
  · intro hob
    obtain hpre | ⟨idle, hac⟩ := Correlation.idle_handle hs hob
    · obtain ⟨s, idle, s', hsp, isIdle, up, hm, info, han⟩ :=
        htr.idle hpre
      exact ⟨s, idle, s' ++ [ev], by simp [hsp], isIdle, up, hm, info, stays han⟩
    · obtain ⟨mid, cur⟩ := htr.active hac
      obtain ⟨up, hm, info, han, _⟩ := htr.current mid cur
      exact ⟨p, ev, [], rfl, idle, up, hm, info, stays han⟩
  · intro fin
    obtain hpre | ⟨info, hrp, pa, hn, finish⟩ := Correlation.final_handle hs fin
    · obtain ⟨up, hm, info, han, finish⟩ := htr.final hpre
      exact ⟨up, List.mem_append_left _ hm, info, stays han, finish⟩
    · exact ⟨ev, last, info, stays ⟨hrp, pa, hn⟩, finish⟩

theorem traced_of_feed
    (fed : feed (Correlation.handle su) (newTracker cf).correlation evs = (c, .ok ans)) :
    Traced su cf (consumed (Correlation.handle su) (newTracker cf).correlation evs) c := by
  refine feed_invariant_ok (fun p st => Traced su cf p st)
    (traced_new su cf) (fun p st ev _ ans htr hst => ?_) fed
  have ha : (st.handle su ev).2 = .ok ans := by rw [hst]
  have hs' := htr.handle ha
  rwa [hst] at hs'

theorem currentPrompt_append (hk : currentPrompt su cf p ≠ []) (more : List Received) :
    currentPrompt su cf (p ++ more) = currentPrompt su cf p := by
  unfold currentPrompt at hk ⊢
  split
  · rename_i hgi
    rw [if_pos hgi] at hk
    rw [List.findSome?_append]
    cases hf : p.findSome? (userMessage su) with
    | some _ => rfl
    | none =>
      rw [hf] at hk
      exact absurd rfl hk
  · rfl

theorem emitted_answers (su : Setup) (cf : Text) (evs : List Received) :
    ∀ em ∈ (feed (Correlation.handle su) (newTracker cf).correlation evs).1.delivery.emitted,
      (∃ st, em.call = .providerState st) ∨ ∃ og, em.origin = some og ∧
      ∃ ev ∈ consumed (Correlation.handle su) (newTracker cf).correlation evs,
        ∃ info, Answers su (currentPrompt su cf
          (consumed (Correlation.handle su) (newTracker cf).correlation evs))
          ev info ∧ info.id = og.messageID := by
  obtain ⟨p, mid', hgo, all, ends⟩ := feed_last (Correlation.handle su)
    (newTracker cf).correlation evs
  have htr := traced_of_feed hgo
  rw [all] at htr
  have stays {info : MessageInfo} {pre : Received} (more : List Received)
      (han : Answers su mid'.promptMessageID pre info) :
      Answers su (currentPrompt su cf (p ++ more)) pre info := by
    have hn := han.named
    rw [htr.prompt] at han hn
    rwa [currentPrompt_append hn]
  intro em hm
  obtain ⟨read, fed⟩ | ⟨last, read, fed⟩ := ends
  · rw [fed] at hm
    obtain st | ⟨og, hf, cur⟩ := htr.emitted em hm
    · exact .inl st
    obtain ⟨ev, pre, info, han, own⟩ := htr.current _ cur
    rw [read]
    exact .inr ⟨og, hf, ev, pre, info, by simpa using stays [] han, own⟩
  · rw [fed] at hm
    obtain st | ⟨og, hf, cur⟩ :=
      Correlation.emittedFor_handle htr.consistent last htr.emitted em hm
    · exact .inl st
    rw [read]
    refine .inr ⟨og, hf, ?_⟩
    obtain s | ⟨info, hrp, own, pa, hn⟩ := Correlation.current_handle htr.consistent.sound cur
    · obtain ⟨ev, pre, info, han, own⟩ := htr.current _ s
      exact ⟨ev, List.mem_append_left _ pre, info, stays [last] han, own⟩
    · exact ⟨last, List.mem_append_right _ (List.mem_singleton_self _), info,
        stays [last] ⟨hrp, pa, hn⟩, own⟩

theorem ended_answers
    (fed : feed (Correlation.handle su) (newTracker cf).correlation evs = (c, .ok true)) :
    ∃ prompt, prompt = currentPrompt su cf
        (consumed (Correlation.handle su) (newTracker cf).correlation evs) ∧
      (∃ ev ∈ consumed (Correlation.handle su) (newTracker cf).correlation evs,
        ∃ info, Answers su prompt ev info ∧ finalAssistantFinish su info.finish = .ok true) ∧
      ∃ s idle s',
        consumed (Correlation.handle su) (newTracker cf).correlation evs = s ++ idle :: s' ∧
        isIdle su idle ∧ ∃ ev ∈ s, ∃ info, Answers su prompt ev info := by
  have htr := traced_of_feed fed
  obtain ⟨p, mid', hgo, _, ends⟩ := feed_last (Correlation.handle su)
    (newTracker cf).correlation evs
  obtain ⟨_, o⟩ | ⟨last, _, hst⟩ := ends
  · rw [fed] at o
    cases o
  have hed : (mid'.handle su last).2 = .ok true := by rw [← hst, fed]
  have flags := Correlation.ended_handle (traced_of_feed hgo).consistent.sound hed
  rw [← hst, fed] at flags
  exact ⟨_, htr.prompt, htr.final flags.2, htr.idle flags.1⟩

end AISummoner.Opencode
