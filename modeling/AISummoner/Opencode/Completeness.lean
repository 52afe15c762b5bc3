import AISummoner.Opencode.Outcome
import AISummoner.Opencode.Parts

/-! # Nothing of an answer is lost

The text received for a part is what its deltas and snapshots come to in their
order.  If the updates of a message arrive when its prompt is known, all of it has
been emitted when a Turn ends well.
-/

namespace AISummoner.Opencode

open Encoding Relational Streams

/-! ## What was received -/

def textFor (setup : Setup) (messageID : Text) (event : Received) : Option PendingText :=
  match textOf setup event with
  | .ok (some (owner, text)) => if owner = messageID then some text else none
  | _ => none

def textsOf (setup : Setup) (messageID : Text) (events : List Received) : List PendingText :=
  events.filterMap (textFor setup messageID)

/-- A delta is added; a snapshot counts if it goes on from what there is. -/
def growText (stored : Text) (text : PendingText) : Text :=
  match text.full with
  | none => stored ++ text.delta
  | some content => if stored <+: content then content else stored

def growPart (partID : Text) (stored : Text) (text : PendingText) : Text :=
  if text.partID = partID then growText stored text else stored

def receivedText (texts : List PendingText) (partID : Text) : Text :=
  texts.foldl (growPart partID) []

theorem textsOf_append (su : Setup) (mid : Text) (p : List Received) (ev : Received) :
    textsOf su mid (p ++ [ev]) = textsOf su mid p ++ (textFor su mid ev).toList := by
  unfold textsOf
  rw [List.filterMap_append]
  cases carried : textFor su mid ev <;> simp [carried]

namespace Delivery

variable {su : Setup} {d : Delivery} {mid : Text}

theorem storedText_elsewhere {text : PendingText} (read : ReadText mid text)
    (hfam : text.family = .messagePart) {otherID pid : Text}
    (hva : validEventIdentity otherID) (hvp : validEventIdentity pid)
    (ho : otherID ≠ mid ∨ pid ≠ text.partID) :
    (Correlation.emitPending su d mid text).1.storedText otherID pid =
      d.storedText otherID pid := by
  have ne : partKey otherID pid ≠ partKey mid text.partID := by
    intro h
    obtain ⟨sameMessage, samePart⟩ := partKey_inj hva read.message (messageID_ne_nil hvp)
      (messageID_ne_nil (read.part (.inl hfam))) h
    exact ho.elim (absurd sameMessage) (absurd samePart)
  have step := emits su d mid text
  generalize Correlation.emitPending su d mid text = result at step
  cases step with
  | held | failed | fellBack => rfl
  | opened got =>
    unfold storedText
    rw [got.elsewhere _ ne]
  | extended _ _ got =>
    unfold storedText
    rw [extendPart_eq, sendText_parts]
    simp only [setPart, setFamily, Table.get_put, got.keyed, if_neg ne]
    rw [got.elsewhere _ ne]
  | compatibility ho =>
    rw [hfam] at ho
    cases ho

theorem storedText_extendPart {part : TextPart} {pid text dt : Text}
    (hky : part.key = partKey mid pid) :
    (d.extendPart su mid pid part text dt).1.storedText mid pid = text := by
  unfold storedText
  rw [extendPart_eq, sendText_parts]
  simp [setPart, setFamily, Table.get_put, hky]

theorem storedText_emit (plain : d.Plain) {text : PendingText}
    (hfam : text.family = .messagePart) {s' : Delivery}
    (hem : Correlation.emitPending su d mid text = (s', none)) : s'.storedText mid text.partID =
      growText (d.storedText mid text.partID) text := by
  have free := plain.free mid (partKey mid text.partID)
  unfold Correlation.emitPending growText at *
  cases full : text.full with
  | none =>
    simp only [hfam, full, emitDelta, free, Bool.false_eq_true, if_false] at hem ⊢
    split at hem
    · cases hem
    rename_i hlk
    have got := gotPart hlk
    have hsr := congrArg (fun res => res.1.storedText mid text.partID) hem
    simp only [storedText_extendPart got.keyed] at hsr
    rw [got.storedText, hsr]
  | some ct =>
    simp only [hfam, full, emitFull, free, Bool.false_eq_true, if_false] at hem ⊢
    split at hem
    · cases hem
    rename_i hop part hlk
    have got := gotPart hlk
    rw [got.storedText]
    by_cases shorter : ct <+: part.text
    · rw [if_pos shorter] at hem
      cases hem
      have hsr : s'.storedText mid text.partID = part.text := by
        unfold storedText
        rw [got.stored]
        rfl
      rw [hsr]
      split
      · rename_i longer
        exact (longer.eq_of_length_le shorter.length_le)
      · rfl
    · rw [if_neg shorter] at hem
      split at hem
      · rename_i longer
        have hsr := congrArg (fun res => res.1.storedText mid text.partID) hem
        simp only [storedText_extendPart got.keyed] at hsr
        rw [if_pos longer, hsr]
      · cases hem

theorem storedText_emitAll {txs : List PendingText} (hft : d.Faithful)
    (read : ∀ text ∈ txs, ReadText mid text)
    (hfam : ∀ text ∈ txs, text.family = .messagePart) {s' : Delivery}
    (hem : Correlation.emitAll su mid d txs = (s', none)) {pid : Text}
    (hvp : validEventIdentity pid) (hva : validEventIdentity mid) : s'.storedText mid pid =
      txs.foldl (growPart pid) (d.storedText mid pid) := by
  induction txs generalizing d with
  | nil =>
    cases hem
    rfl
  | cons text txs ih =>
    obtain ⟨readHere, readLater⟩ := List.forall_mem_cons.mp read
    obtain ⟨familyHere, familyLater⟩ := List.forall_mem_cons.mp hfam
    unfold Correlation.emitAll at hem
    rcases ha : Correlation.emitPending su d mid text with ⟨next, _ | _⟩
    case some =>
      rw [ha] at hem
      cases hem
    case none =>
      rw [ha] at hem
      have faithfulNext : next.Faithful := by
        have kept : (Correlation.emitPending su d mid text).1.Faithful :=
          hft.emit readHere familyHere
        rwa [ha] at kept
      rw [ih faithfulNext readLater familyLater hem, List.foldl_cons]
      congr 1
      unfold growPart
      split
      · rename_i h
        subst h
        exact storedText_emit hft.plain familyHere ha
      rename_i o
      have kept : (Correlation.emitPending su d mid text).1.storedText mid
          pid = d.storedText mid pid :=
        storedText_elsewhere readHere familyHere hva hvp
          (.inr fun h => o h.symm)
      rwa [ha] at kept

end Delivery

/-! ## One message -/

namespace Queue

theorem pendingOf_clearPending_self (q : Queue) (mid : Text) :
    (q.clearPending mid).pendingOf mid = [] := by
  simp only [pendingOf, clearPending, List.filter_filter, List.map_eq_nil_iff,
    List.filter_eq_nil_iff]
  intro e _
  simp

theorem pendingOf_clearPending_ne (q : Queue) {mid o : Text} (ne : mid ≠ o) :
    (q.clearPending o).pendingOf mid = q.pendingOf mid := by
  simp only [pendingOf, clearPending, List.filter_filter]
  congr 1
  refine List.filter_congr fun e _ => ?_
  by_cases own : e.1 = mid
  · simp [own, ne]
  · simp [own]

theorem pendingOf_add {q added : Queue} {ow : Text} {text : PendingText}
    (hn : ow ≠ []) (adds : q.add ow text = (added, none)) (mid : Text) : added.pendingOf mid =
      q.pendingOf mid ++ if ow = mid then [text] else [] := by
  unfold Queue.add at adds
  rw [if_neg hn] at adds
  split at adds
  · cases adds
  · cases adds
    simp only [pendingOf, List.filter_append, List.map_append]
    by_cases own : ow = mid <;> simp [own]

end Queue

variable {c : Correlation} {ev : Received} {p : List Received} {ans : Bool}
  {info : MessageInfo}

namespace Correlation

variable {su : Setup} {mid : Text}

structure Untouched (messageID : Text) (before after : Correlation) : Prop where
  messages : after.messages.get messageID = before.messages.get messageID
  current : after.currentAssistants messageID = before.currentAssistants messageID
  pending : after.queue.pendingOf messageID = before.queue.pendingOf messageID
  stored : ∀ partID, validEventIdentity partID = true →
    after.delivery.storedText messageID partID = before.delivery.storedText messageID partID

theorem Untouched.refl (mid : Text) (c : Correlation) : Untouched mid c c :=
  ⟨rfl, rfl, rfl, fun _ _ => rfl⟩

theorem untouched_takeText (hva : validEventIdentity mid) {ow : Text}
    {text : PendingText} (read : ReadText ow text) (hfam : text.family = .messagePart)
    (ho : mid ≠ ow) : Untouched mid c (c.takeText su ow text).1 := by
  have h := c.takeText_sameMessages su ow text
  refine ⟨by rw [h.messages], by rw [h.current], ?_, ?_⟩
  · unfold takeText
    split
    · rfl
    split
    · rfl
    obtain ⟨_, h⟩ | ⟨q, added, h⟩ := c.enqueue_cases ow text
    · rw [h]
    rw [h]
    simp only
    rw [Queue.pendingOf_add (messageID_ne_nil read.message) added mid,
      if_neg (Ne.symm ho), List.append_nil]
  · intro _ hvp
    rw [delivery_takeText]
    split
    · exact Delivery.storedText_elsewhere read hfam hva hvp (.inl ho)
    · rfl

variable {row : MessageRow} {s s' : Correlation}

theorem untouched_note (c : Correlation) (ho : mid ≠ row.id) : Untouched mid c (c.note row) := by
  refine ⟨?_, ?_, by rw [queue_note], ?_⟩
  · have h : (c.note row).messages = c.messages.put row := by
      unfold note notePrompt noteAssistant
      repeat' split
      all_goals rfl
    rw [h, Table.get_put, if_neg ho]
  · unfold note notePrompt noteAssistant
    repeat' split
    all_goals try rfl
    simp [Function.update_of_ne ho]
  · intro _ _
    obtain h | h := c.delivery_note row <;> rw [h]
    rfl

theorem untouched_release (hop : c.OfParts) (hva : validEventIdentity mid) (ho : mid ≠ info.id) :
    Untouched mid c (c.release su info).1 := by
  unfold release
  split
  · split
    · exact .refl ..
    · unfold replay
      have hel (pid : Text) (hvp : validEventIdentity pid) :
          (emitAll su info.id c.delivery (c.queue.pendingOf info.id)).1.storedText mid pid =
            c.delivery.storedText mid pid := by
        have hfam : AllowsAll su (fun _ _ text => text.family = .messagePart) info.id
            c.delivery (c.queue.pendingOf info.id) :=
          allowsAll_of_forall _
            (fun text hm => hop.waiting _ (Queue.mem_pendingOf.mp hm)) _
        refine emitAll_kept (fun d => d.storedText mid pid =
          c.delivery.storedText mid pid) ?_ ?_ hfam rfl
        · intro d text read hfam h
          rw [Delivery.storedText_elsewhere read hfam hva hvp (.inl ho), h]
        · exact fun text hm =>
            hop.consistent.counted.read _ (Queue.mem_pendingOf.mp hm)
      split
      · rename_i fed
        simp only [fed] at hel
        exact ⟨rfl, rfl, rfl, hel⟩
      · rename_i fed
        simp only [fed] at hel
        exact ⟨rfl, rfl, Queue.pendingOf_clearPending_ne _ ho, hel⟩
  · exact ⟨rfl, rfl, Queue.pendingOf_clearPending_ne _ ho, fun _ _ => rfl⟩

theorem Untouched.trans {mid' : Correlation}
    (a : Untouched mid s mid') (b : Untouched mid mid' s') : Untouched mid s s' :=
  ⟨b.messages.trans a.messages, b.current.trans a.current, b.pending.trans a.pending,
    fun pid hva => (b.stored pid hva).trans (a.stored pid hva)⟩

theorem OfParts.note (hop : c.OfParts) (had : c.refuses row = none) : (c.note row).OfParts := by
  refine ⟨⟨hop.consistent.sound.note had, ?_⟩, ?_, ?_⟩
  · rw [queue_note]
    exact hop.consistent.counted
  · obtain h | h := c.delivery_note row <;> rw [h]
    · exact hop.faithful
    · exact ⟨⟨hop.faithful.plain.fallback, hop.faithful.plain.families⟩,
        hop.faithful.text, hop.faithful.kind⟩
  · rw [queue_note]
    exact hop.waiting

def Updates (setup : Setup) (messageID : Text) (event : Received) : Prop :=
  ∃ update, updateOf setup event = some update ∧ update.1.id = messageID

theorem untouched_handle (hop : c.OfParts)
    (hva : validEventIdentity mid) (ho : ev.type ≠ .compatibilityDelta)
    (noText : textFor su mid ev = none) (hnu : ¬ Updates su mid ev) :
    Untouched mid c (c.handle su ev).1 := by
  have step := handled su hop.consistent.sound ev
  generalize c.handle su ev = result at step
  cases step with
  | ignored | refused => exact .refl ..
  | @text ow text read =>
    have hfo : mid ≠ ow := by
      rintro rfl
      simp [textFor, read] at noText
    exact untouched_takeText hva (readText_of_textOf read).1 (family_of_textOf read ho) hfo
  | @updated up hrp _ had =>
    have hfo : mid ≠ up.1.id := fun h => hnu ⟨up, hrp, h.symm⟩
    exact (untouched_note c hfo).trans
      (untouched_release (hop.note had) hva hfo)
  | @told st =>
    have h := c.tell_sameMessages su st
    refine ⟨by rw [h.messages], by rw [h.current], by rw [queue_tell], fun _ _ => ?_⟩
    rw [delivery_tell]
    rfl
  | idle =>
    have h := c.noteIdle_sameMessages
    refine ⟨by rw [h.messages], by rw [h.current], by rw [queue_noteIdle], fun _ _ => ?_⟩
    rw [delivery_noteIdle]
  | worked => exact ⟨rfl, rfl, rfl, fun _ _ => rfl⟩

structure Waiting (setup : Setup) (messageID : Text) (past : List Received)
    (correlation : Correlation) : Prop where
  unknown : correlation.messages.get messageID = none
  pending : correlation.queue.pendingOf messageID = textsOf setup messageID past
  stored : ∀ partID, validEventIdentity partID = true →
    correlation.delivery.storedText messageID partID = []

structure Flowing (setup : Setup) (messageID : Text) (past : List Received)
    (correlation : Correlation) : Prop where
  current : correlation.currentAssistants messageID = true
  pending : correlation.queue.pendingOf messageID = []
  stored : ∀ partID, validEventIdentity partID = true →
    correlation.delivery.storedText messageID partID =
      receivedText (textsOf setup messageID past) partID

theorem Waiting.untouched (hwt : Waiting su mid p s) (h : Untouched mid s s')
    (noText : textFor su mid ev = none) : Waiting su mid (p ++ [ev]) s' := by
  refine ⟨h.messages.trans hwt.unknown, ?_, fun pid hva => ?_⟩
  · rw [h.pending, hwt.pending, textsOf_append, noText]
    simp
  · rw [h.stored pid hva, hwt.stored pid hva]

theorem Flowing.untouched (hfl : Flowing su mid p s) (h : Untouched mid s s')
    (noText : textFor su mid ev = none) : Flowing su mid (p ++ [ev]) s' := by
  refine ⟨h.current.trans hfl.current, h.pending.trans hfl.pending, fun pid hva => ?_⟩
  rw [h.stored pid hva, hfl.stored pid hva, textsOf_append, noText]
  simp

theorem receivedText_append (txs : List PendingText) (text : PendingText) (pid : Text) :
    receivedText (txs ++ [text]) pid = growPart pid (receivedText txs pid) text := by
  simp [receivedText]

theorem textOf_of_textFor {text : PendingText} (hca : textFor su mid ev = some text) :
    textOf su ev = .ok (some (mid, text)) := by
  unfold textFor at hca
  split at hca
  · rename_i ow o read
    split at hca
    · rename_i own
      subst own
      cases hca
      exact read
    · cases hca
  · cases hca

theorem Waiting.text (hop : c.OfParts) (hwt : Waiting su mid p c) {text : PendingText}
    (hca : textFor su mid ev = some text) (ha : (c.handle su ev).2 = .ok ans) :
    Waiting su mid (p ++ [ev]) (c.handle su ev).1 := by
  have read := textOf_of_textFor hca
  obtain ⟨readText, isText⟩ := readText_of_textOf read
  have hna : c.currentAssistants mid = false := by
    rw [Bool.eq_false_iff]
    intro cur
    have row := (hop.consistent.sound mid cur).2
    rw [hwt.unknown] at row
    cases row
  have hha : c.handle su ev = c.enqueue mid text := by
    rw [handle_text hop.consistent.sound isText, read]
    simp [takeText, hna, known, hwt.unknown]
  rw [hha] at ha ⊢
  obtain ⟨_, h⟩ | ⟨q, added, h⟩ := c.enqueue_cases mid text
  · rw [h] at ha
    cases ha
  rw [h]
  refine ⟨hwt.unknown, ?_, hwt.stored⟩
  simp only
  rw [Queue.pendingOf_add (messageID_ne_nil readText.message) added, if_pos rfl, hwt.pending,
    textsOf_append, hca]
  rfl

theorem Flowing.text (hop : c.OfParts)
    (hfl : Flowing su mid p c) (ho : ev.type ≠ .compatibilityDelta)
    {text : PendingText} (hca : textFor su mid ev = some text) (ha : (c.handle su ev).2 = .ok ans) :
    Flowing su mid (p ++ [ev]) (c.handle su ev).1 := by
  have read := textOf_of_textFor hca
  obtain ⟨readText, isText⟩ := readText_of_textOf read
  have hfam := family_of_textOf read ho
  have hha : c.handle su ev = c.withDelivery
      (emitPending su c.delivery mid text) := by
    rw [handle_text hop.consistent.sound isText, read]
    simp [takeText, hfl.current]
  rw [hha] at ha ⊢
  rcases hem : emitPending su c.delivery mid text with ⟨_, _ | _⟩
  case some =>
    rw [hem] at ha
    cases ha
  case none =>
    refine ⟨hfl.current, hfl.pending, fun pid hva => ?_⟩
    rw [textsOf_append, hca, Option.toList_some, receivedText_append, ← hfl.stored pid hva]
    unfold growPart
    split
    · rename_i own
      subst own
      exact Delivery.storedText_emit hop.faithful.plain hfam hem
    rename_i hfo
    have kept : (emitPending su c.delivery mid text).1.storedText mid
        pid = c.delivery.storedText mid pid :=
      Delivery.storedText_elsewhere readText hfam readText.message hva
        (.inr fun h => hfo h.symm)
    rwa [hem] at kept

theorem handle_update (hs : c.Sound) {up : MessageInfo × Role} (hrp : updateOf su ev = some up)
    (ha : (c.handle su ev).2 = .ok ans) : validEventIdentity up.1.id ∧ c.refuses (rowOf up) = none ∧
      c.handle su ev = (c.note (rowOf up)).release su up.1 := by
  have step := handled su hs ev
  generalize c.handle su ev = result at step ha ⊢
  cases step with
  | ignored _ hnu | worked _ _ hnu =>
    rw [hnu] at hrp
    cases hrp
  | refused => cases ha
  | text read =>
    rw [updateOf_of_isText (readText_of_textOf read).2] at hrp
    cases hrp
  | updated again hva had =>
    cases again.symm.trans hrp
    exact ⟨hva, had, rfl⟩
  | told type | idle type => simp [updateOf, type] at hrp

theorem release_accepted (cur : c.currentAssistants info.id)
    (ha : (c.release su info).2 = .ok ans) :
    ∃ s', emitAll su info.id c.delivery (c.queue.pendingOf info.id) = (s', none) ∧
      (c.release su info).1.delivery = s' ∧
      (c.release su info).1.queue = c.queue.clearPending info.id := by
  unfold release replay at *
  simp only [cur, if_true] at ha ⊢
  split at ha
  · cases ha
  split at ha
  · cases ha
  · rename_i s' hem
    exact ⟨s', hem, rfl, rfl⟩

theorem flowing_update (hop : c.OfParts)
    (hrp : updateOf su ev = some (info, .assistant)) (own : info.id = mid)
    (hpa : info.parentID = c.promptMessageID) (hn : c.promptMessageID ≠ [])
    (s : Waiting su mid p c ∨ Flowing su mid p c) (ha : (c.handle su ev).2 = .ok ans) :
    Flowing su mid (p ++ [ev]) (c.handle su ev).1 := by
  subst own
  obtain ⟨hva, had, hha⟩ := handle_update hop.consistent.sound hrp ha
  have noText : textFor su info.id ev = none := by
    cases hca : textFor su info.id ev with
    | none => rfl
    | some text =>
      rw [updateOf_of_isText (readText_of_textOf (textOf_of_textFor hca)).2] at hrp
      cases hrp
  have hcur : (c.note (rowOf (info, .assistant))).currentAssistants info.id := by
    simp [note, noteAssistant, rowOf, hpa, hn]
  have notedParts := hop.note had
  have storedNote (pid : Text) :
      (c.note (rowOf (info, .assistant))).delivery.storedText info.id pid =
        c.delivery.storedText info.id pid := by
    obtain h | h := c.delivery_note (rowOf (info, .assistant)) <;> rw [h]
    rfl
  rw [hha] at ha ⊢
  obtain ⟨_, hem, d, hq⟩ := release_accepted hcur ha
  refine ⟨(release_sameMessages ..).keeps hcur, ?_, fun pid hvp => ?_⟩
  · rw [hq]
    exact Queue.pendingOf_clearPending_self _ _
  · rw [queue_note] at hem
    have hsr := Delivery.storedText_emitAll notedParts.faithful
      (fun text hm => hop.consistent.counted.read _ (Queue.mem_pendingOf.mp hm))
      (fun text hm => hop.waiting _ (Queue.mem_pendingOf.mp hm))
      hem hvp hva
    rw [d, hsr, storedNote, textsOf_append, noText, Option.toList_none, List.append_nil]
    obtain hwt | hfl := s
    · rw [hwt.pending, hwt.stored pid hvp]
      rfl
    · rw [hfl.pending, hfl.stored pid hvp]
      rfl

end Correlation

/-- The updates of a message arrive when the prompt they name is known. -/
def PromptFirst (setup : Setup) (configured messageID : Text) (events : List Received) : Prop :=
  ∀ past event rest state, events = past ++ event :: rest →
    feed (Correlation.handle setup) (newTracker configured).correlation past =
      (state, .ok false) →
    ∀ info role, updateOf setup event = some (info, role) → info.id = messageID →
      role = .assistant ∧ info.parentID = state.promptMessageID ∧ state.promptMessageID ≠ []

theorem flowing_of_feed {su : Setup} {cf mid : Text}
    (hva : validEventIdentity mid) {evs read : List Received}
    (reads : consumed (Correlation.handle su) (newTracker cf).correlation evs = read)
    (nc : ∀ ev ∈ read, ev.type ≠ .compatibilityDelta) (promptFirst : PromptFirst su cf mid read)
    (an : ∃ ev ∈ read, Correlation.Updates su mid ev)
    (fed : feed (Correlation.handle su) (newTracker cf).correlation evs =
      (c, .ok ans)) : c.OfParts ∧ Correlation.Flowing su mid read c := by
  have always : c.OfParts ∧
      (Correlation.Waiting su mid read c ∧ (∀ ev ∈ read, ¬ Correlation.Updates su mid ev) ∨
        Correlation.Flowing su mid read c) := by
    have start : Correlation.Waiting su mid [] (newTracker cf).correlation :=
      ⟨rfl, rfl, fun _ _ => rfl⟩
    refine feed_ok_along (fun p st => st.OfParts ∧ (Correlation.Waiting su mid p st ∧
          (∀ ev ∈ p, ¬ Correlation.Updates su mid ev) ∨ Correlation.Flowing su mid p st)) ?_ rfl
      ⟨Correlation.ofParts_new cf, .inl ⟨start, by simp⟩⟩ reads.symm fed
    intro p ev rest st next ans hsp hr hol hst
    obtain ⟨hop, s⟩ := hol
    have ho := nc ev (hsp ▸ List.mem_append_right _ List.mem_cons_self)
    have ha : (st.handle su ev).2 = .ok ans := by rw [hst]
    have s' : (st.handle su ev).1 = next := by rw [hst]
    rw [← s']
    refine ⟨hop.handle ho, ?_⟩
    by_cases updates : Correlation.Updates su mid ev
    · obtain ⟨⟨info, role⟩, hrp, own⟩ := updates
      obtain ⟨rfl, pa, hn⟩ := promptFirst p ev rest st hsp hr info role hrp own
      exact .inr (Correlation.flowing_update hop hrp own pa hn (s.imp_left And.left) ha)
    have hsl : ∀ pre ∈ p ++ [ev], (∀ ev ∈ p, ¬ Correlation.Updates su mid ev) →
        ¬ Correlation.Updates su mid pre := by
      intro pre hm none
      obtain inPast | rfl := List.mem_append.mp hm |>.imp_right List.mem_singleton.mp
      · exact none pre inPast
      · exact updates
    cases hca : textFor su mid ev with
    | some text =>
      obtain ⟨hwt, none⟩ | hfl := s
      · exact .inl ⟨hwt.text hop hca ha, fun pre hm => hsl pre hm none⟩
      · exact .inr (hfl.text hop ho hca ha)
    | none =>
      have h := Correlation.untouched_handle hop hva ho hca updates
      obtain ⟨hwt, none⟩ | hfl := s
      · exact .inl ⟨hwt.untouched h hca, fun pre hm => hsl pre hm none⟩
      · exact .inr (hfl.untouched h hca)
  obtain ⟨hop, ⟨_, none⟩ | hfl⟩ := always
  · obtain ⟨ev, hm, updates⟩ := an
    exact absurd updates (none ev hm)
  · exact ⟨hop, hfl⟩

theorem emitted_of_ended {su : Setup} {cf mid : Text} {evs read : List Received}
    (reads : consumed (Correlation.handle su) (newTracker cf).correlation evs = read)
    (hnc : ∀ ev ∈ read, ev.type ≠ .compatibilityDelta) (promptFirst : PromptFirst su cf mid read)
    (han : ∃ ev ∈ read, Correlation.Updates su mid ev) (hva : validEventIdentity mid)
    (fed : feed (Correlation.handle su) (newTracker cf).correlation evs =
      (c, .ok ans)) {pid : Text} (hvp : validEventIdentity pid) :
    fragmentsOf c.delivery.emitted mid pid = receivedText (textsOf su mid read) pid := by
  obtain ⟨hop, hfl⟩ := flowing_of_feed hva reads hnc promptFirst han fed
  rw [hop.faithful.text mid pid hva hvp, hfl.stored pid hvp]

end AISummoner.Opencode
