import AISummoner.Opencode.Association

/-! # What is emitted

Fragments of text are emitted in one way only, `emitPending`, whether their text
waited or not.  `emits` says what that can do, and `delivery_kept` carries a
property of what was emitted over any event.
-/

namespace AISummoner.Opencode

open Encoding Relational Streams

namespace Delivery

variable {su : Setup} {delivery : Delivery}

@[simp] theorem recordFirstFamily_fallbackFamily (mid : Text) (fam : Family) :
    (delivery.recordFirstFamily mid fam).fallbackFamily = delivery.fallbackFamily := by
  unfold recordFirstFamily
  split <;> rfl

@[simp] theorem recordFirstFamily_families (mid : Text) (fam : Family) :
    (delivery.recordFirstFamily mid fam).families = delivery.families := by
  unfold recordFirstFamily
  split <;> rfl

@[simp] theorem recordFirstFamily_parts (mid : Text) (fam : Family) :
    (delivery.recordFirstFamily mid fam).parts = delivery.parts := by
  unfold recordFirstFamily
  split <;> rfl

@[simp] theorem recordFirstFamily_emitted (mid : Text) (fam : Family) :
    (delivery.recordFirstFamily mid fam).emitted = delivery.emitted := by
  unfold recordFirstFamily
  split <;> rfl

@[simp] theorem sendText_fallbackFamily (call : Call) (og : Origin) :
    (delivery.sendText su call og).1.fallbackFamily = delivery.fallbackFamily := by
  simp [sendText, send]

@[simp] theorem sendText_families (call : Call) (og : Origin) :
    (delivery.sendText su call og).1.families = delivery.families := by
  simp [sendText, send]

@[simp] theorem sendText_parts (call : Call) (og : Origin) :
    (delivery.sendText su call og).1.parts = delivery.parts := by
  simp [sendText, send]

@[simp] theorem sendText_emitted (call : Call) (og : Origin) :
    (delivery.sendText su call og).1.emitted = delivery.emitted ++ [⟨call, some og⟩] := by
  simp [sendText, send]

def partCall (kind : PartKind) (delta : Text) : Call :=
  match kind with
  | .reasoning => .reasoning delta
  | .text => .text delta

theorem extendPart_eq (mid pid : Text) (part : TextPart) (text dt : Text) :
    delivery.extendPart su mid pid part text dt =
      ((delivery.setFamily part.key .messagePart).setPart { part with text := text }).sendText su
        (partCall part.kind dt) ⟨mid, pid, .messagePart⟩ := by
  unfold extendPart emitPartDelta partCall
  split <;> rename_i kind <;> simp [kind]

structure GotPart (before after : Delivery) (key : Text) (kind : Option PartKind)
    (part : TextPart) : Prop where
  keyed : part.key = key
  stored : after.parts.get key = some part
  elsewhere : ∀ other, other ≠ key → after.parts.get other = before.parts.get other
  same : after = { before with parts := after.parts }
  /-- A part is made without text; a delta makes a text of it. -/
  origin : before.parts.get key = some part ∨
    before.parts.get key = none ∧ part = ⟨key, [], kind.getD .text⟩
  agrees : ∀ asked, kind = some asked → part.kind = asked

theorem gotPart {s' : Delivery} {key : Text} {kind : Option PartKind} {part : TextPart}
    (got : delivery.getPart key kind = .ok (s', part)) : GotPart delivery s' key kind part := by
  unfold getPart at got
  split at got
  · cases got
  split at got
  · rename_i hf
    split at got
    · rename_i agrees
      cases got
      refine ⟨Table.key_of_get hf, hf, fun _ _ => rfl, rfl, .inl hf, ?_⟩
      intro has asks
      subst asks
      simp only [reduceCtorEq, Option.some.injEq, false_or] at agrees
      exact agrees.symm
    · cases got
  · rename_i hab
    split at got
    · cases got
    cases got
    refine ⟨rfl, ?_, ?_, rfl, .inr ⟨hab, rfl⟩, ?_⟩
    · simp [setPart, Table.get_put]
    · intro o ne
      simp [setPart, Table.get_put, ne]
    · intro has asks
      simp [asks]

/-- How a compatibility delta that is emitted was let through. -/
inductive Chosen (delivery : Delivery) (messageID partID : Text) : Delivery → Prop
  | unnamed (noPart : partID = []) (decided : delivery.decideFallback messageID = .compatibility) :
    Chosen delivery messageID partID (delivery.setFallback messageID .compatibility)
  | fallback (named : partID ≠ [])
    (decided : delivery.fallbackFamily messageID = some .compatibility) :
    Chosen delivery messageID partID delivery
  | part (named : partID ≠ []) (undecided : delivery.fallbackFamily messageID = none)
    (free : delivery.families (partKey messageID partID) ≠ some .messagePart) :
    Chosen delivery messageID partID
      (delivery.setFamily (partKey messageID partID) .compatibility)

def asked (text : PendingText) : Option PartKind := text.full.map fun _ => text.kind

inductive Emits (setup : Setup) (delivery : Delivery) (messageID : Text) (text : PendingText) :
    Delivery × Option Failure → Prop
  | held : Emits setup delivery messageID text (delivery, none)
  | failed (failure : Failure) : Emits setup delivery messageID text (delivery, some failure)
  | fellBack (family : text.family = .compatibility)
    (decided : delivery.decideFallback messageID = .messagePart) :
    Emits setup delivery messageID text (delivery.setFallback messageID .messagePart, none)
  | opened {after : Delivery} {part : TextPart}
    (got : GotPart delivery after (partKey messageID text.partID) (asked text) part)
    (failure : Option Failure) : Emits setup delivery messageID text (after, failure)
  | extended {after : Delivery} {part : TextPart} {delta : Text}
    (family : text.family = .messagePart)
    (free : delivery.taken messageID (partKey messageID text.partID) = false)
    (got : GotPart delivery after (partKey messageID text.partID) (asked text) part) :
    Emits setup delivery messageID text
      (after.extendPart setup messageID text.partID part (part.text ++ delta) delta)
  | compatibility {chosen : Delivery} (family : text.family = .compatibility)
    (choice : Chosen delivery messageID text.partID chosen) :
    Emits setup delivery messageID text
      (chosen.sendText setup (.text text.delta) ⟨messageID, text.partID, .compatibility⟩)

theorem emits (su : Setup) (delivery : Delivery) (mid : Text) (text : PendingText) :
    Emits su delivery mid text (Correlation.emitPending su delivery mid text) := by
  unfold Correlation.emitPending
  cases fam : text.family with
  | compatibility =>
    simp only
    unfold emitCompatibility
    by_cases hn : text.partID = []
    · rw [if_pos hn]
      cases hde : delivery.decideFallback mid with
      | messagePart => exact .fellBack fam hde
      | compatibility => exact .compatibility fam (.unnamed hn hde)
    rw [if_neg hn]
    match hde : delivery.fallbackFamily mid with
    | some .messagePart => exact .held
    | some .compatibility => exact .compatibility fam (.fallback hn hde)
    | none =>
      simp only
      split
      · exact .held
      · rename_i free
        exact .compatibility fam (.part hn hde free)
  | messagePart =>
    cases full : text.full with
    | none =>
      have noKind : asked text = none := by simp [asked, full]
      simp only
      unfold emitDelta
      split
      · exact .held
      rename_i free
      split
      · exact .failed _
      · rename_i got
        exact .extended fam (by simpa using free) (noKind ▸ gotPart got)
    | some ct =>
      have itsKind : asked text = some text.kind := by simp [asked, full]
      simp only
      unfold emitFull
      split
      · exact .held
      rename_i free
      split
      · exact .failed _
      rename_i part got
      split
      · exact .opened (itsKind ▸ gotPart got) none
      split
      · rename_i grows
        have hwh : part.text ++ ct.drop part.text.length = ct :=
          List.prefix_iff_eq_append.mp grows
        have grown : Emits su delivery mid text
            (Delivery.extendPart su _ mid text.partID part
              (part.text ++ ct.drop part.text.length) (ct.drop part.text.length)) :=
          .extended fam (by simpa using free) (itsKind ▸ gotPart got)
        rwa [hwh] at grown
      · exact .opened (itsKind ▸ gotPart got) _

end Delivery

/-! ## Properties of what was emitted -/

namespace Correlation

variable {mid : Text} {delivery : Delivery} {texts : List PendingText}
  {c : Correlation} {ev : Received} {guard : Text → PendingText → Prop}
  {o : Delivery → Text → PendingText → Prop}

section Kept

variable {su : Setup} {al : Delivery → Text → PendingText → Prop}

def AllowsAll (setup : Setup) (allowed : Delivery → Text → PendingText → Prop) (messageID : Text) :
    Delivery → List PendingText → Prop
  | _, [] => True
  | delivery, text :: texts => allowed delivery messageID text ∧
      ∀ next, emitPending setup delivery messageID text = (next, none) →
        AllowsAll setup allowed messageID next texts

structure Allows (setup : Setup) (allowed : Delivery → Text → PendingText → Prop)
    (correlation : Correlation) (event : Received) : Prop where
  text : ∀ messageID text, textOf setup event = .ok (some (messageID, text)) →
    correlation.currentAssistants messageID = true →
    allowed correlation.delivery messageID text
  waiting : ∀ update, updateOf setup event = some update →
    (correlation.note (rowOf update)).currentAssistants update.1.id = true →
    AllowsAll setup allowed update.1.id (correlation.note (rowOf update)).delivery
      (correlation.queue.pendingOf update.1.id)

theorem emitAll_kept (h : Delivery → Prop)
    (emit : ∀ delivery text, ReadText mid text → al delivery mid text →
      h delivery → h (emitPending su delivery mid text).1) (read : ∀ text ∈ texts, ReadText mid text)
    (allows : AllowsAll su al mid delivery texts) (start : h delivery) :
    h (emitAll su mid delivery texts).1 := by
  induction texts generalizing delivery with
  | nil => exact start
  | cons text texts ih =>
    obtain ⟨here, k'⟩ := List.forall_mem_cons.mp read
    have next := emit delivery text here allows.1 start
    unfold emitAll
    rcases hem : emitPending su delivery mid text with ⟨s', _ | _⟩
    case none =>
      rw [hem] at next
      exact ih k' (allows.2 s' hem) next
    case some =>
      rw [hem] at next
      exact next

theorem delivery_note (c : Correlation) (row : MessageRow) : (c.note row).delivery = c.delivery ∨
      (c.note row).delivery = { c.delivery with assistantActivity := true } := by
  unfold note notePrompt noteAssistant
  repeat' split
  all_goals first
    | exact .inl rfl
    | exact .inr rfl

theorem delivery_noteIdle (c : Correlation) : c.noteIdle.delivery = c.delivery := by
  unfold noteIdle
  split <;> rfl

theorem delivery_tell (su : Setup) (c : Correlation) (st : Text) : (c.tell su st).1.delivery =
      (c.delivery.send su (.providerState st) none).1 := by
  unfold tell
  split
  · rename_i told
    rw [told]
  rename_i told
  rw [told]
  split
  · exact delivery_noteIdle _
  · rfl

theorem delivery_takeText (su : Setup) (c : Correlation) (mid : Text) (text : PendingText) :
    (c.takeText su mid text).1.delivery = if c.currentAssistants mid then
        (emitPending su c.delivery mid text).1 else c.delivery := by
  unfold takeText
  split
  · rfl
  split
  · rfl
  · obtain ⟨_, h⟩ | ⟨q, _, h⟩ := c.enqueue_cases mid text <;>
      rw [h]

theorem delivery_kept {hh : Delivery → Prop} (hcn : c.Consistent) (allows : Allows su al c ev)
    (emit : ∀ delivery mid text, ReadText mid text → al delivery mid text →
      hh delivery → hh (emitPending su delivery mid text).1)
    (told : ∀ delivery st, hh delivery → hh (delivery.send su (.providerState st) none).1)
    (hac : ∀ delivery, hh delivery → hh { delivery with assistantActivity := true })
    (start : hh c.delivery) : hh (c.handle su ev).1.delivery := by
  have step := handled su hcn.sound ev
  generalize c.handle su ev = result at step
  cases step with
  | ignored | refused => exact start
  | @text mid text read =>
    rw [delivery_takeText]
    split
    · rename_i cur
      exact emit _ _ _ (readText_of_textOf read).1 (allows.text mid text read cur) start
    · exact start
  | @updated up hrp _ _ =>
    have noted : hh (c.note (rowOf up)).delivery := by
      obtain h | h := c.delivery_note (rowOf up) <;> rw [h]
      · exact start
      · exact hac _ start
    unfold release
    split
    · rename_i cur
      split
      · exact noted
      have hwt : ∀ text ∈ c.queue.pendingOf up.1.id,
          ReadText up.1.id text := fun text hm =>
        hcn.counted.read _ (Queue.mem_pendingOf.mp hm)
      have hem := emitAll_kept hh (emit · up.1.id ·) hwt
        (allows.waiting up hrp cur) noted
      unfold replay
      simp only [queue_note]
      split <;> rename_i all <;> rw [all] at hem <;> exact hem
    · exact noted
  | told => exact (delivery_tell ..).symm ▸ told _ _ start
  | idle => exact (delivery_noteIdle _).symm ▸ start
  | worked => exact hac _ start

theorem pending_handle (hs : c.Sound) (ev : Received)
    {e : Text × PendingText} (hm : e ∈ (c.handle su ev).1.queue.pending) :
    e ∈ c.queue.pending ∨ textOf su ev = .ok (some e) := by
  have step := handled su hs ev
  generalize c.handle su ev = result at step hm
  cases step with
  | ignored | refused => exact .inl hm
  | @text mid text read =>
    unfold takeText at hm
    split at hm
    · exact .inl hm
    split at hm
    · exact .inl hm
    obtain ⟨_, h⟩ | ⟨q, added, h⟩ := c.enqueue_cases mid text
    · rw [h] at hm
      exact .inl hm
    rw [h] at hm
    unfold Queue.add at added
    split at added
    · cases added
      exact .inl hm
    split at added
    · cases added
    cases added
    obtain pre | here := List.mem_append.mp hm
    · exact .inl pre
    · rw [List.mem_singleton] at here
      exact .inr (here ▸ read)
  | updated =>
    unfold release at hm
    split at hm
    · split at hm
      · rw [queue_note] at hm
        exact .inl hm
      · unfold replay at hm
        split at hm
        · simp only [queue_note] at hm
          exact .inl hm
        · simp only [queue_note] at hm
          exact .inl (List.mem_of_mem_filter hm)
    · simp only [queue_note] at hm
      exact .inl (List.mem_of_mem_filter hm)
  | told =>
    rw [queue_tell] at hm
    exact .inl hm
  | idle =>
    rw [queue_noteIdle] at hm
    exact .inl hm
  | worked => exact .inl hm

theorem allowsAll_of_forall (texts : List PendingText) (each : ∀ text ∈ texts, guard mid text)
    (delivery : Delivery) : AllowsAll su (fun _ => guard) mid delivery texts := by
  induction texts generalizing delivery with
  | nil => trivial
  | cons text texts ih =>
    obtain ⟨here, k'⟩ := List.forall_mem_cons.mp each
    exact ⟨here, fun next _ => ih k' next⟩

theorem AllowsAll.and (a : AllowsAll su al mid delivery texts)
    (b : AllowsAll su o mid delivery texts) :
    AllowsAll su (fun delivery mid text => al delivery mid text ∧
      o delivery mid text) mid delivery texts := by
  induction texts generalizing delivery with
  | nil => trivial
  | cons text texts ih =>
    exact ⟨⟨a.1, b.1⟩, fun next emits => ih (a.2 next emits) (b.2 next emits)⟩

theorem Allows.and (a : Allows su al c ev) (b : Allows su o c ev) :
    Allows su (fun delivery mid text => al delivery mid text ∧ o delivery mid text) c ev :=
  ⟨fun mid text read cur => ⟨a.text mid text read cur, b.text mid text read cur⟩, fun up hrp cur =>
      (a.waiting up hrp cur).and (b.waiting up hrp cur)⟩

theorem allows_of_forall (text : ∀ mid text, textOf su ev = .ok (some (mid, text)) →
      guard mid text) (hwt : ∀ e ∈ c.queue.pending, guard e.1 e.2) :
    Allows su (fun _ => guard) c ev :=
  ⟨fun mid hf read _ => text mid hf read, fun _ _ _ =>
    allowsAll_of_forall _ (fun _ hm => hwt _ (Queue.mem_pendingOf.mp hm)) _⟩

end Kept

end Correlation

end AISummoner.Opencode
