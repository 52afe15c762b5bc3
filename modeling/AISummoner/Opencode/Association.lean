import AISummoner.Opencode.Texts

/-! # Messages and their texts

A text may arrive before the update that says which prompt its message answers.
This module is about the order of the two: wherever the first update of a message
arrives among its texts, the same is emitted.  The counters of the queue are right
in every state.
-/

namespace AISummoner.Opencode

open Encoding Relational Streams

/-! ## What a message is known for -/

variable {c : Correlation} {mid : Text} {text : PendingText} {su : Setup}
  {evs : List Received}

namespace Correlation

structure SameMessages (before after : Correlation) : Prop where
  prompt : after.promptMessageID = before.promptMessageID
  messages : after.messages = before.messages
  current : after.currentAssistants = before.currentAssistants

theorem SameMessages.refl (c : Correlation) : SameMessages c c := ⟨rfl, rfl, rfl⟩

theorem SameMessages.sound {s s' : Correlation} (h : SameMessages s s')
    (hs : s.Sound) : s'.Sound := by
  intro mid cur
  rw [h.prompt, h.messages]
  exact hs mid (h.current ▸ cur)

theorem enqueue_cases (c : Correlation) (mid : Text) (text : PendingText) :
    (∃ err, c.enqueue mid text = (c, .error err)) ∨ ∃ q, c.queue.add mid text = (q, none) ∧
        c.enqueue mid text = ({ c with queue := q }, .ok false) := by
  unfold enqueue
  match added : c.queue.add mid text with
  | (q, none) => exact .inr ⟨q, rfl, rfl⟩
  | (_, some err) => exact .inl ⟨err, rfl⟩

theorem takeText_sameMessages (su : Setup) (c : Correlation) (mid : Text)
    (text : PendingText) : SameMessages c (c.takeText su mid text).1 := by
  unfold takeText
  split
  · exact ⟨rfl, rfl, rfl⟩
  split
  · exact .refl _
  obtain ⟨_, h⟩ | ⟨q, _, h⟩ := c.enqueue_cases mid text
  · rw [h]
    exact .refl _
  · rw [h]
    exact ⟨rfl, rfl, rfl⟩

theorem replay_sameMessages (su : Setup) (c : Correlation) (mid : Text) :
    SameMessages c (c.replay su mid).1 := by
  unfold replay
  split <;> exact ⟨rfl, rfl, rfl⟩

theorem release_sameMessages (su : Setup) (c : Correlation) (info : MessageInfo) :
    SameMessages c (c.release su info).1 := by
  unfold release
  split
  · split
    · exact .refl _
    · obtain ⟨prompt, msgs, cur⟩ := replay_sameMessages su
        { c with assistantFinal := c.assistantFinal || _ } info.id
      exact ⟨prompt, msgs, cur⟩
  · exact ⟨rfl, rfl, rfl⟩

theorem noteIdle_sameMessages (c : Correlation) : SameMessages c c.noteIdle := by
  unfold noteIdle
  split
  · exact ⟨rfl, rfl, rfl⟩
  · exact .refl _

theorem tell_sameMessages (su : Setup) (c : Correlation) (st : Text) :
    SameMessages c (c.tell su st).1 := by
  unfold tell
  split
  · exact ⟨rfl, rfl, rfl⟩
  split
  · obtain ⟨prompt, msgs, cur⟩ := noteIdle_sameMessages
      { c with
        delivery := (c.delivery.send su (.providerState st) none).1 }
    rename_i told _
    rw [told] at prompt msgs cur
    exact ⟨prompt, msgs, cur⟩
  · exact ⟨rfl, rfl, rfl⟩

theorem get_of_refuses {row : MessageRow} (had : c.refuses row = none)
    {existing : MessageRow} (hf : c.messages.get mid = some existing) :
    (c.messages.put row).get mid = some existing := by
  rw [Table.get_put]
  split
  · rename_i h
    subst h
    unfold refuses at had
    rw [hf] at had
    simp only [ite_eq_left_iff, reduceCtorEq, imp_false, not_not] at had
    rw [had]
  · exact hf

theorem Sound.note (hs : c.Sound) {row : MessageRow}
    (had : c.refuses row = none) : (c.note row).Sound := by
  intro mid
  cases role : row.role with
  | system =>
    simp only [Correlation.note, role]
    intro cur
    exact ⟨(hs mid cur).1, get_of_refuses had (hs mid cur).2⟩
  | user =>
    simp only [Correlation.note, role, notePrompt]
    split
    · rename_i noPrompt
      -- Without a prompt nothing answers it yet.
      intro cur
      exact absurd noPrompt (hs mid cur).1
    · intro cur
      exact ⟨(hs mid cur).1, get_of_refuses had (hs mid cur).2⟩
  | assistant =>
    simp only [Correlation.note, role, noteAssistant]
    split
    · rename_i han
      intro cur
      refine ⟨han.1, ?_⟩
      by_cases h : mid = row.id
      · subst h
        rw [Table.get_put, if_pos rfl, ← han.2, ← role]
      · simp only [Function.update_of_ne h] at cur
        exact get_of_refuses had (hs mid cur).2
    · intro cur
      exact ⟨(hs mid cur).1, get_of_refuses had (hs mid cur).2⟩

theorem Sound.handle (hs : c.Sound) (ev : Received) : (c.handle su ev).1.Sound := by
  have step := handled su hs ev
  generalize c.handle su ev = result at step
  cases step with
  | ignored | refused => exact hs
  | text => exact (takeText_sameMessages ..).sound hs
  | updated _ _ had => exact (release_sameMessages ..).sound (hs.note had)
  | told => exact (tell_sameMessages ..).sound hs
  | idle => exact (noteIdle_sameMessages _).sound hs
  | worked => exact hs

end Correlation

/-! ## The counters of the queue -/

namespace Queue

structure Counted (queue : Queue) : Prop where
  records : queue.pendingRecords = queue.pending.length
  bytes : queue.pendingBytes = (queue.pending.map fun entry => entry.2.size).sum
  read : ∀ entry ∈ queue.pending, ReadText entry.1 entry.2

theorem counted_empty : ({} : Queue).Counted := ⟨rfl, rfl, nofun⟩

theorem Counted.add {q added : Queue} (hct : q.Counted) (read : ReadText mid text)
    (adds : q.add mid text = (added, none)) : added.Counted := by
  unfold Queue.add at adds
  split at adds
  · cases adds
    exact hct
  split at adds
  · cases adds
  cases adds
  refine ⟨?_, ?_, ?_⟩
  · simp [hct.records]
  · simp [hct.bytes]
  · intro e hm
    obtain pre | here := List.mem_append.mp hm
    · exact hct.read e pre
    · rw [List.mem_singleton] at here
      subst here
      exact read

theorem released_eq (read : ReadText mid text) : released text = text.size := by
  unfold released PendingText.size
  cases full : text.full with
  | none => simp
  | some _ => simp [read.exclusive (by simp [full])]

theorem sum_clear (pnd : List (Text × PendingText)) (mid : Text) :
    ((pnd.filter fun e => e.1 ≠ mid).map fun e => e.2.size).sum +
        (((pnd.filter fun e => e.1 = mid).map Prod.snd).map PendingText.size).sum =
      (pnd.map fun e => e.2.size).sum := by
  induction pnd with
  | nil => rfl
  | cons e _ ih =>
    by_cases h : e.1 = mid
    · simp only [ne_eq, decide_not, h, decide_true, Bool.not_true, Bool.false_eq_true,
        not_false_eq_true, List.filter_cons_of_neg, List.filter_cons_of_pos, List.map_cons,
        List.sum_cons] at ih ⊢
      omega
    · simp only [ne_eq, decide_not, h, decide_false, Bool.not_false, Bool.false_eq_true,
        not_false_eq_true, List.filter_cons_of_neg, List.filter_cons_of_pos, List.map_cons,
        List.sum_cons] at ih ⊢
      omega

theorem length_clear (pnd : List (Text × PendingText)) (mid : Text) :
    (pnd.filter fun e => e.1 ≠ mid).length +
      (pnd.filter fun e => e.1 = mid).length = pnd.length := by
  have hpts := List.length_eq_length_filter_add (l := pnd) fun e => e.1 = mid
  simp only [ne_eq, decide_not] at hpts ⊢
  omega

theorem mem_pendingOf {q : Queue} : text ∈ q.pendingOf mid ↔ (mid, text) ∈ q.pending := by
  simp [pendingOf]

theorem Counted.clearPending {q : Queue} (hct : q.Counted) (mid : Text) :
    (q.clearPending mid).Counted := by
  refine ⟨?_, ?_, ?_⟩
  · have hpts := length_clear q.pending mid
    have hrcs := hct.records
    simp only [Queue.clearPending, pendingOf, List.length_map]
    omega
  · have hpts := sum_clear q.pending mid
    have hbs := hct.bytes
    have sizes : (q.pendingOf mid).map released =
        (q.pendingOf mid).map PendingText.size := by
      refine List.map_congr_left fun _ hm => ?_
      exact released_eq (hct.read _ (mem_pendingOf.mp hm))
    simp only [Queue.clearPending]
    rw [sizes]
    simp only [pendingOf]
    omega
  · intro e hm
    exact hct.read e (List.mem_of_mem_filter hm)

end Queue

namespace Correlation

structure Consistent (correlation : Correlation) : Prop where
  sound : correlation.Sound
  counted : correlation.queue.Counted

theorem consistent_new (pmid : Text) : (newTracker pmid).correlation.Consistent :=
  ⟨nofun, Queue.counted_empty⟩

theorem counted_takeText (hct : c.queue.Counted) (read : ReadText mid text) :
    (c.takeText su mid text).1.queue.Counted := by
  unfold takeText
  split
  · exact hct
  split
  · exact hct
  obtain ⟨_, h⟩ | ⟨q, added, h⟩ := c.enqueue_cases mid text
  · rw [h]
    exact hct
  · rw [h]
    exact hct.add read added

theorem counted_release (hct : c.queue.Counted) (info : MessageInfo) :
    (c.release su info).1.queue.Counted := by
  unfold release
  split
  · split
    · exact hct
    · unfold replay
      split
      · exact hct
      · exact hct.clearPending info.id
  · exact hct.clearPending info.id

theorem queue_note (c : Correlation) (row : MessageRow) : (c.note row).queue = c.queue := by
  unfold note notePrompt noteAssistant
  repeat' split
  all_goals rfl

theorem queue_noteIdle (c : Correlation) : c.noteIdle.queue = c.queue := by
  unfold noteIdle
  split <;> rfl

theorem queue_tell (su : Setup) (c : Correlation) (st : Text) :
    (c.tell su st).1.queue = c.queue := by
  unfold tell
  split
  · rfl
  · split
    · exact queue_noteIdle _
    · rfl

theorem Consistent.handle (hcn : c.Consistent) (ev : Received) : (c.handle su ev).1.Consistent := by
  refine ⟨hcn.sound.handle ev, ?_⟩
  have hct := hcn.counted
  have step := handled su hcn.sound ev
  generalize c.handle su ev = result at step
  cases step with
  | ignored | refused => exact hct
  | text read => exact counted_takeText hct (readText_of_textOf read).1
  | updated => exact counted_release (by rw [queue_note]; exact hct) _
  | told => exact (queue_tell ..).symm ▸ hct
  | idle => exact (queue_noteIdle _).symm ▸ hct
  | worked => exact hct

end Correlation

variable {trk : Tracker} {q : Queue} {txs : List PendingText}

theorem consistent_consume (hcn : trk.correlation.Consistent) (rc : Bool × Text) :
    (trk.consume su rc).1.correlation.Consistent := by
  unfold Tracker.consume
  split
  · exact hcn
  unfold Tracker.accept
  repeat' split
  all_goals first
    | exact hcn
    | exact Correlation.Consistent.handle hcn _

theorem consistent_feed (su : Setup) (hcn : trk.correlation.Consistent) (rcs : List (Bool × Text)) :
    (feed (Tracker.consume su) trk rcs).1.correlation.Consistent :=
  feed_kept (fun hst : Tracker => hst.correlation.Consistent) hcn
    (fun _ rc hcn => consistent_consume hcn rc) rcs

/-! ## Texts of one message -/

def Carries (setup : Setup) (messageID : Text) (event : Received) : Prop :=
  event.type.isText = true ∧
    ∃ read, textOf setup event = .ok read ∧ ∀ entry ∈ read, entry.1 = messageID

def pendingText (setup : Setup) (event : Received) : Option PendingText :=
  match textOf setup event with
  | .ok (some (_, text)) => some text
  | _ => none

def pendingTexts (setup : Setup) (events : List Received) : List PendingText :=
  events.filterMap (pendingText setup)

structure Queue.Fits (queue : Queue) (texts : List PendingText) : Prop where
  records : queue.pendingRecords + texts.length ≤ maximumPendingParts
  bytes : queue.pendingBytes + (texts.map PendingText.size).sum ≤ maxMessageBytes

def Queue.addAll (queue : Queue) (messageID : Text) (texts : List PendingText) : Queue where
  pending := queue.pending ++ texts.map (messageID, ·)
  pendingRecords := queue.pendingRecords + texts.length
  pendingBytes := queue.pendingBytes + (texts.map PendingText.size).sum

theorem Queue.pendingOf_addAll (q : Queue) (mid : Text) (txs : List PendingText) :
    (q.addAll mid txs).pendingOf mid = q.pendingOf mid ++ txs := by
  have own : (txs.map (mid, ·)).filter (fun e => e.1 = mid) =
      txs.map (mid, ·) :=
    List.filter_eq_self.mpr (by simp)
  simp only [pendingOf, addAll, List.filter_append, List.map_append, own, List.map_map]
  simp [Function.comp_def]

theorem Queue.Counted.nonneg (hct : q.Counted) : 0 ≤ q.pendingBytes := by
  rw [hct.bytes]
  exact Int.natCast_nonneg _

theorem Queue.add_of_fits (nonneg : 0 ≤ q.pendingBytes) (hn : mid ≠ []) (fits : q.Fits (text :: txs)) :
    q.add mid text = (q.addAll mid [text], none) := by
  have hrcs := fits.records
  have hbs := fits.bytes
  simp only [List.length_cons, List.map_cons, List.sum_cons] at hrcs hbs
  unfold add
  rw [if_neg hn, if_neg (by omega)]
  simp [addAll]

theorem Queue.addAll_cons (q : Queue) (mid : Text) (text : PendingText) (txs : List PendingText) :
    (q.addAll mid [text]).addAll mid txs = q.addAll mid (text :: txs) := by
  simp only [addAll, Queue.mk.injEq, List.append_assoc, List.map_cons, List.map_nil,
    List.cons_append, List.nil_append, List.length_cons, List.length_nil, List.sum_cons,
    List.sum_nil, true_and]
  omega

theorem Queue.Fits.tail (fits : q.Fits (text :: txs)) : (q.addAll mid [text]).Fits txs := by
  have hrcs := fits.records
  have hbs := fits.bytes
  simp only [List.length_cons, List.map_cons, List.sum_cons] at hrcs hbs
  constructor
  · simp only [addAll, List.length_cons, List.length_nil]
    omega
  · simp only [addAll, List.map_cons, List.map_nil, List.sum_cons, List.sum_nil]
    omega

namespace Correlation

theorem emitAll_append (su : Setup) (mid : Text) (d : Delivery) (a b : List PendingText) :
    emitAll su mid d (a ++ b) = match emitAll su mid d a with
      | (d, none) => emitAll su mid d b
      | (d, some err) => (d, some err) := by
  induction a generalizing d with
  | nil => rfl
  | cons _ _ ih =>
    simp only [List.cons_append, emitAll]
    split
    · exact ih _
    · rfl

abbrev receiveAll (setup : Setup) : Correlation → List Received → Correlation × Except Failure Bool :=
  feed (unending (handle setup))

variable {su : Setup} {mid : Text}

theorem handle_carries (hs : c.Sound) {ev : Received} (ca : Carries su mid ev) :
    (pendingText su ev = none ∧ c.handle su ev = (c, .ok false)) ∨
      ∃ text, pendingText su ev = some text ∧ ReadText mid text ∧
        c.handle su ev = c.takeText su mid text := by
  obtain ⟨isText, read, hf, own⟩ := ca
  rw [handle_text hs isText]
  unfold pendingText
  rw [hf]
  match read with
  | none => exact .inl ⟨rfl, rfl⟩
  | some (otherID, text) =>
    obtain rfl : otherID = mid := own _ rfl
    exact .inr ⟨text, rfl, (readText_of_textOf hf).1, rfl⟩

theorem receiveAll_unknown (s : c.Sound) (hna : c.currentAssistants mid = false)
    (unknown : c.messages.get mid = none) (nonneg : 0 ≤ c.queue.pendingBytes)
    (carry : ∀ ev ∈ evs, Carries su mid ev) (fits : c.queue.Fits (pendingTexts su evs)) :
    receiveAll su c evs = ({ c with
         queue := c.queue.addAll mid (pendingTexts su evs) }, .ok false) := by
  induction evs generalizing c with
  | nil => simp [pendingTexts, Queue.addAll]
  | cons ev evs ih =>
    obtain ⟨here, k'⟩ := List.forall_mem_cons.mp carry
    obtain ⟨hsl, hha⟩ | ⟨text, reads, read, hha⟩ := handle_carries s here
    · have step : unending (handle su) c ev = (c, .ok false) := by
        simp [unending, hha, Except.map]
      have txs : pendingTexts su (ev :: evs) = pendingTexts su evs := by
        simp [pendingTexts, hsl]
      rw [txs] at fits ⊢
      rw [receiveAll, feed_continue step]
      exact ih s hna unknown nonneg k' fits
    have txs : pendingTexts su (ev :: evs) = text :: pendingTexts su evs := by
      simp [pendingTexts, reads]
    rw [txs] at fits ⊢
    have added := Queue.add_of_fits nonneg (messageID_ne_nil read.message) fits
    have step : unending (handle su) c ev =
        ({ c with queue := c.queue.addAll mid [text] }, .ok false) := by
      simp [unending, hha, takeText, hna, known, unknown, enqueue, added, Except.map]
    have hs' : { c with
        queue := c.queue.addAll mid [text] }.Sound := s
    have nonnegNext : 0 ≤ (c.queue.addAll mid [text]).pendingBytes := by
      simp only [Queue.addAll, List.map_cons, List.map_nil, List.sum_cons, List.sum_nil]
      omega
    rw [receiveAll, feed_continue step]
    refine (ih hs' hna unknown nonnegNext k' fits.tail).trans ?_
    rw [Queue.addAll_cons]

theorem receiveAll_current (s : c.Sound) (han : c.currentAssistants mid)
    (carry : ∀ ev ∈ evs, Carries su mid ev) : receiveAll su c evs = c.withDelivery
      (emitAll su mid c.delivery (pendingTexts su evs)) := by
  induction evs generalizing c with
  | nil => rfl
  | cons ev evs ih =>
    obtain ⟨here, k'⟩ := List.forall_mem_cons.mp carry
    obtain ⟨hsl, hha⟩ | ⟨text, reads, _, hha⟩ := handle_carries s here
    · have step : unending (handle su) c ev = (c, .ok false) := by
        simp [unending, hha, Except.map]
      have txs : pendingTexts su (ev :: evs) = pendingTexts su evs := by
        simp [pendingTexts, hsl]
      rw [txs, receiveAll, feed_continue step]
      exact ih s han k'
    have txs : pendingTexts su (ev :: evs) = text :: pendingTexts su evs := by
      simp [pendingTexts, reads]
    rw [txs]
    rcases emits : emitPending su c.delivery mid text with ⟨d, _ | err⟩
    case none =>
      have step : unending (handle su) c ev =
          ({ c with delivery := d }, .ok false) := by
        simp [unending, hha, takeText, han, withDelivery, emits, Except.map]
      have hs' : { c with delivery := d }.Sound := s
      rw [receiveAll, feed_continue step]
      refine (ih hs' han k').trans ?_
      simp [emitAll, emits, withDelivery]
    case some =>
      have step : unending (handle su) c ev =
          ({ c with delivery := d }, .error err) := by
        simp [unending, hha, takeText, han, withDelivery, emits, Except.map]
      rw [receiveAll, feed_stop step (by simp)]
      simp [emitAll, emits, withDelivery]

theorem receiveAll_other (hs : c.Sound) (hna : c.currentAssistants mid = false)
    (isKnown : c.known mid) (carry : ∀ ev ∈ evs, Carries su mid ev) :
    receiveAll su c evs = (c, .ok false) := by
  induction evs with
  | nil => rfl
  | cons ev evs ih =>
    obtain ⟨here, k'⟩ := List.forall_mem_cons.mp carry
    have step : unending (handle su) c ev = (c, .ok false) := by
      obtain ⟨_, hha⟩ | ⟨_, _, _, hha⟩ := handle_carries hs here
      · simp [unending, hha, Except.map]
      · simp [unending, hha, takeText, hna, isKnown, Except.map]
    rw [receiveAll, feed_continue step]
    exact ih k'

end Correlation

end AISummoner.Opencode
