import AISummoner.Opencode.Fragments
import AISummoner.Opencode.Order

/-! # The texts of parts

Without compatibility deltas, what was emitted for a part is what is stored of it,
at every moment; and the kind a part was opened with is the kind all of its
fragments are emitted as.
-/

namespace AISummoner.Opencode

open Encoding Relational Streams

def Call.fragment : Call → Text
  | .text delta => delta
  | .reasoning delta => delta
  | .providerState _ => []

def Emission.isOf (emission : Emission) (messageID partID : Text) : Bool :=
  emission.origin.any fun origin => origin.messageID = messageID && origin.partID = partID

def fragmentsOf (emitted : List Emission) (messageID partID : Text) : Text :=
  (emitted.filter fun emission => emission.isOf messageID partID).flatMap fun emission =>
    emission.call.fragment

variable {part : TextPart} {text : PendingText} {evs : List Received} {kind : Option PartKind}
  {su : Setup}

namespace Delivery

def storedText (delivery : Delivery) (messageID partID : Text) : Text :=
  ((delivery.parts.get (partKey messageID partID)).map TextPart.text).getD []

structure Plain (delivery : Delivery) : Prop where
  fallback : ∀ messageID, delivery.fallbackFamily messageID = none
  families : ∀ key, delivery.families key ≠ some .compatibility

theorem Plain.free {d : Delivery} (plain : d.Plain) (mid key : Text) : d.taken mid key = false := by
  simp [taken, plain.fallback, plain.families]

structure Faithful (delivery : Delivery) : Prop where
  plain : delivery.Plain
  text : ∀ messageID partID, validEventIdentity messageID = true →
    validEventIdentity partID = true →
    fragmentsOf delivery.emitted messageID partID = delivery.storedText messageID partID
  kind : ∀ emission ∈ delivery.emitted, ∀ origin, emission.origin = some origin →
    validEventIdentity origin.messageID = true ∧ origin.partID ≠ [] ∧
    ∃ part, delivery.parts.get (partKey origin.messageID origin.partID) = some part ∧
      emission.call = partCall part.kind emission.call.fragment

theorem faithful_new : ({} : Delivery).Faithful :=
  ⟨⟨fun _ => rfl, nofun⟩, fun _ _ _ _ => rfl, nofun⟩

theorem fragment_partCall (kind : PartKind) (dt : Text) : (partCall kind dt).fragment = dt := by
  cases kind <;> rfl

variable {su : Setup} {d : Delivery} {mid : Text}

variable {s' : Delivery} {pid : Text}

theorem GotPart.storedText (got : GotPart d s' (partKey mid pid) kind part) :
    d.storedText mid pid = part.text := by
  unfold Delivery.storedText
  obtain hf | ⟨hab, made⟩ := got.origin
  · simp [hf]
  · simp [hab, made]

theorem GotPart.get {key : Text} (got : GotPart d s' key kind part)
    {o : Text} {sr : TextPart} (hf : d.parts.get o = some sr) : s'.parts.get o = some sr := by
  by_cases h : o = key
  · subst h
    obtain h | ⟨hab, _⟩ := got.origin
    · rw [got.stored, ← h, hf]
    · rw [hab] at hf
      cases hf
  · rw [got.elsewhere o h, hf]

theorem Faithful.opened (hft : d.Faithful)
    (got : GotPart d s' (partKey mid pid) kind part) : s'.Faithful := by
  have hem : s'.emitted = d.emitted := by rw [got.same]
  refine ⟨⟨?_, ?_⟩, ?_, ?_⟩
  · rw [got.same]
    exact hft.plain.fallback
  · rw [got.same]
    exact hft.plain.families
  · intro om op' validMessage hvp
    rw [hem, hft.text om op' validMessage hvp]
    by_cases h : partKey om op' = partKey mid pid
    · have hs := got.storedText
      unfold Delivery.storedText at hs ⊢
      rw [h, hs, got.stored]
      rfl
    · unfold Delivery.storedText
      rw [got.elsewhere _ h]
  · intro em hm og hf
    rw [hem] at hm
    obtain ⟨hva, hn, hsr, has, call⟩ := hft.kind em hm og hf
    exact ⟨hva, hn, hsr, got.get has, call⟩

theorem fragmentsOf_append (em : List Emission) (emission : Emission) (mid pid : Text) :
    fragmentsOf (em ++ [emission]) mid pid = fragmentsOf em mid pid ++
        if emission.isOf mid pid then emission.call.fragment else [] := by
  unfold fragmentsOf
  rw [List.filter_append, List.flatMap_append]
  split <;> rename_i own <;> simp [own]

theorem Faithful.extended (hft : d.Faithful) {dt : Text}
    (hva : validEventIdentity mid) (hvp : validEventIdentity pid) (hky : part.key = partKey mid pid)
    (hsr : d.parts.get (partKey mid pid) = some part) :
    (d.extendPart su mid pid part (part.text ++ dt) dt).1.Faithful := by
  have hpts (key : Text) :
      (d.extendPart su mid pid part (part.text ++ dt) dt).1.parts.get key =
        if key = partKey mid pid then some { part with text := part.text ++ dt }
        else d.parts.get key := by
    rw [extendPart_eq, sendText_parts]
    simp only [setPart, setFamily, Table.get_put, hky]
  have hem : (d.extendPart su mid pid part (part.text ++ dt) dt).1.emitted = d.emitted ++
        [⟨partCall part.kind dt, some ⟨mid, pid, .messagePart⟩⟩] := by
    rw [extendPart_eq, sendText_emitted]
    rfl
  refine ⟨⟨?_, ?_⟩, ?_, ?_⟩
  · rw [extendPart_eq, sendText_fallbackFamily]
    exact hft.plain.fallback
  · intro key
    rw [extendPart_eq, sendText_families]
    by_cases h : key = part.key
    · simp [setFamily, setPart, h]
    · simpa [setFamily, setPart, Function.update_of_ne h] using hft.plain.families key
  · intro om op' hvo hvq
    rw [hem, fragmentsOf_append, hft.text _ _ hvo hvq]
    unfold Delivery.storedText
    rw [hpts]
    by_cases h : partKey om op' = partKey mid pid
    · obtain ⟨rfl, rfl⟩ := partKey_inj hvo hva (messageID_ne_nil hvq)
        (messageID_ne_nil hvp) h
      simp [Emission.isOf, fragment_partCall, hsr]
    rw [if_neg h]
    have hfo : Emission.isOf ⟨partCall part.kind dt,
        some ⟨mid, pid, .messagePart⟩⟩ om op' = false := by
      simp only [Emission.isOf, Option.any_some, Bool.and_eq_false_iff, decide_eq_false_iff_not]
      by_contra both
      simp only [not_or, not_not] at both
      exact h (by rw [both.1, both.2])
    simp [hfo]
  · intro em hm og hf
    rw [hem, List.mem_append, List.mem_singleton] at hm
    obtain pre | rfl := hm
    · obtain ⟨validOrigin, hn, row, has, call⟩ := hft.kind em pre og hf
      refine ⟨validOrigin, hn, ?_⟩
      rw [hpts]
      split
      · rename_i h
        rw [h, hsr] at has
        cases has
        exact ⟨_, rfl, call⟩
      · exact ⟨row, has, call⟩
    · cases hf
      refine ⟨hva, messageID_ne_nil hvp, ?_⟩
      rw [hpts, if_pos rfl]
      exact ⟨_, rfl, by rw [fragment_partCall]⟩

theorem Faithful.emit (hft : d.Faithful) (read : ReadText mid text)
    (hfam : text.family = .messagePart) : (Correlation.emitPending su d mid text).1.Faithful := by
  have step := emits su d mid text
  generalize Correlation.emitPending su d mid text = result at step
  cases step with
  | held | failed => exact hft
  | fellBack o =>
    rw [hfam] at o
    cases o
  | opened got => exact hft.opened got
  | extended _ _ got =>
    exact (hft.opened got).extended read.message (read.part (.inl hfam)) got.keyed got.stored
  | compatibility o =>
    rw [hfam] at o
    cases o

theorem Faithful.tell (hft : d.Faithful) (st : Text) :
    (d.send su (.providerState st) none).1.Faithful := by
  refine ⟨⟨hft.plain.fallback, hft.plain.families⟩, ?_, ?_⟩
  · intro mid pid hva hvp
    have ho : Emission.isOf ⟨.providerState st, none⟩ mid pid = false := rfl
    simp only [send, fragmentsOf_append, ho, Bool.false_eq_true, if_false, List.append_nil]
    exact hft.text mid pid hva hvp
  · intro em hm og hf
    simp only [send, List.mem_append, List.mem_singleton] at hm
    obtain pre | rfl := hm
    · exact hft.kind em pre og hf
    · cases hf

end Delivery

/-! ## Runs without compatibility deltas -/

theorem family_of_textOf {ev : Received} {mid : Text} (read : textOf su ev = .ok (some (mid, text)))
    (ho : ev.type ≠ .compatibilityDelta) : text.family = .messagePart := by
  unfold textOf at read
  split at read
  · repeat' split at read
    all_goals cases read
    rfl
  · repeat' split at read
    all_goals cases read
    rfl
  · rename_i type
    exact absurd type ho
  · cases read

namespace Correlation

structure OfParts (correlation : Correlation) : Prop where
  consistent : correlation.Consistent
  faithful : correlation.delivery.Faithful
  waiting : ∀ entry ∈ correlation.queue.pending, entry.2.family = .messagePart

theorem ofParts_new (pmid : Text) : (newTracker pmid).correlation.OfParts :=
  ⟨consistent_new pmid, Delivery.faithful_new, nofun⟩

variable {c : Correlation} {ev : Received}

theorem OfParts.handle (hop : c.OfParts) (ho : ev.type ≠ .compatibilityDelta) :
    (c.handle su ev).1.OfParts := by
  refine ⟨hop.consistent.handle ev, ?_, ?_⟩
  · have allows : Allows su (fun _ _ text => text.family = .messagePart) c ev :=
      allows_of_forall (fun _ _ read => family_of_textOf read ho) hop.waiting
    refine delivery_kept hop.consistent allows ?_ ?_ ?_ hop.faithful
    · exact fun d _ text read fam hft => hft.emit read fam
    · exact fun d st hft => hft.tell st
    · exact fun d hft => ⟨⟨hft.plain.fallback, hft.plain.families⟩, hft.text, hft.kind⟩
  · intro e hm
    obtain pre | read := pending_handle hop.consistent.sound ev hm
    · exact hop.waiting e pre
    · exact family_of_textOf read ho

theorem ofParts_feed {pmid : Text} (hnc : ∀ ev ∈ evs, ev.type ≠ .compatibilityDelta) :
    (feed (handle su) (newTracker pmid).correlation evs).1.OfParts := by
  refine feed_kept_along OfParts (ofParts_new pmid)
    fun p ev _ _ hsp _ hop => hop.handle (hnc ev ?_)
  rw [hsp]
  exact List.mem_append_right _ List.mem_cons_self

theorem OfParts.snapshot (hop : c.OfParts) {mid : Text} {ct : Text}
    (read : textOf su ev = .ok (some (mid, text))) (full : text.full = some ct)
    (cur : c.currentAssistants mid) (shrinks : ¬ c.delivery.storedText mid text.partID <+: ct ∨
      ct <+: c.delivery.storedText mid text.partID) :
    (c.handle su ev).1.delivery.emitted = c.delivery.emitted ∧
      (¬ ct <+: c.delivery.storedText mid text.partID →
        ∃ err, (c.handle su ev).2 = .error err) := by
  obtain ⟨readText, isText⟩ := readText_of_textOf read
  have hfam := readText.snapshot (by simp [full])
  have free := hop.faithful.plain.free mid (partKey mid text.partID)
  rw [handle_text hop.consistent.sound isText, read]
  simp only [takeText, cur, if_true, emitPending, hfam, full, Delivery.emitFull, free,
    Bool.false_eq_true, if_false]
  rcases hlk : c.delivery.getPart (partKey mid text.partID) (some text.kind) with err | ⟨s', part⟩
  case error => exact ⟨rfl, fun _ => ⟨err, rfl⟩⟩
  case ok =>
    have got := Delivery.gotPart hlk
    rw [got.storedText] at shrinks ⊢
    have hem : s'.emitted = c.delivery.emitted := by rw [got.same]
    simp only
    by_cases shorter : ct <+: part.text
    · rw [if_pos shorter]
      exact ⟨hem, fun o => absurd shorter o⟩
    rw [if_neg shorter]
    have ne : ¬ part.text <+: ct := shrinks.resolve_right shorter
    rw [if_neg ne]
    exact ⟨hem, fun _ => ⟨_, rfl⟩⟩

end Correlation

/-! ## Kinds -/

def Announced (setup : Setup) (events : List Received) (messageID partID : Text) : Prop :=
  ∃ event ∈ events, ∃ text, textOf setup event = .ok (some (messageID, text)) ∧
    text.partID = partID ∧ text.full ≠ none ∧ text.kind = .reasoning

/-- A part some event calls reasoning is opened by such an event. -/
def OpenedAsAnnounced (setup : Setup) (events : List Received) (delivery : Delivery)
    (messageID : Text) (text : PendingText) : Prop :=
  delivery.parts.get (partKey messageID text.partID) = none →
    Announced setup events messageID text.partID → text.full ≠ none ∧ text.kind = .reasoning

def Delivery.KindsKept (setup : Setup) (events : List Received) (delivery : Delivery) : Prop :=
  ∀ messageID partID, validEventIdentity messageID = true → validEventIdentity partID = true →
    Announced setup events messageID partID →
    ∀ part, delivery.parts.get (partKey messageID partID) = some part → part.kind = .reasoning

namespace Delivery

variable {su : Setup} {d : Delivery} {mid : Text}

theorem KindsKept.opened (kept : d.KindsKept su evs) {s' : Delivery}
    (hva : validEventIdentity mid) (hvp : validEventIdentity text.partID)
    (opens : OpenedAsAnnounced su evs d mid text)
    (got : GotPart d s' (partKey mid text.partID) (asked text) part) : s'.KindsKept su evs := by
  intro om op' hvo hvq hann hsr hf
  by_cases h : partKey om op' = partKey mid text.partID
  · obtain ⟨rfl, rfl⟩ := partKey_inj hvo hva (messageID_ne_nil hvq)
      (messageID_ne_nil hvp) h
    rw [got.stored] at hf
    cases hf
    obtain s | ⟨hab, made⟩ := got.origin
    · exact kept _ _ hvo hvq hann part s
    -- The text that makes the part calls it reasoning.
    obtain ⟨snap, rsn⟩ := opens hab hann
    obtain ⟨_, full⟩ := Option.ne_none_iff_exists'.mp snap
    simp [made, asked, full, rsn]
  · rw [got.elsewhere _ h] at hf
    exact kept _ _ hvo hvq hann hsr hf

theorem KindsKept.extended (kept : d.KindsKept su evs) {pid text dt : Text}
    (hky : part.key = partKey mid pid) (hsr : d.parts.get (partKey mid pid) = some part) :
    (d.extendPart su mid pid part text dt).1.KindsKept su evs := by
  intro _ _ hvo hvq hann row hf
  rw [extendPart_eq, sendText_parts] at hf
  simp only [setPart, setFamily, Table.get_put, hky] at hf
  split at hf
  · rename_i h
    cases hf
    exact kept _ _ hvo hvq hann part (h ▸ hsr)
  · exact kept _ _ hvo hvq hann row hf

theorem KindsKept.emit (kept : d.KindsKept su evs) (read : ReadText mid text)
    (hfam : text.family = .messagePart) (opens : OpenedAsAnnounced su evs d mid text) :
    (Correlation.emitPending su d mid text).1.KindsKept su evs := by
  have hvp := read.part (.inl hfam)
  have step := emits su d mid text
  generalize Correlation.emitPending su d mid text = result at step
  cases step with
  | held | failed | fellBack => exact kept
  | opened got => exact kept.opened read.message hvp opens got
  | extended _ _ got =>
    exact (kept.opened read.message hvp opens got).extended got.keyed got.stored
  | compatibility o =>
    rw [hfam] at o
    cases o

end Delivery

/-- Without compatibility deltas, after any events: what was emitted for a part is what is
    stored of it; a snapshot that is a beginning of the stored text emits nothing, and one that
    is another text is an error and emits nothing; and if every part that some event calls
    reasoning is opened by such an event, nothing of it is emitted as text. -/
theorem emitted_as_stored (setup : Setup) (promptMessageID : Text) (events : List Received)
    (noCompatibility : ∀ event ∈ events, event.type ≠ .compatibilityDelta)
    (correlation : Correlation) (answer : Except Failure Bool)
    (fed : feed (Correlation.handle setup) (newTracker promptMessageID).correlation events =
      (correlation, answer)) :
    (∀ messageID partID, validEventIdentity messageID = true →
      validEventIdentity partID = true →
      fragmentsOf correlation.delivery.emitted messageID partID =
        correlation.delivery.storedText messageID partID) ∧
    (∀ event messageID text content, textOf setup event = .ok (some (messageID, text)) →
      text.full = some content → correlation.currentAssistants messageID = true →
      (content <+: correlation.delivery.storedText messageID text.partID →
        (correlation.handle setup event).1.delivery.emitted = correlation.delivery.emitted) ∧
      (¬ content <+: correlation.delivery.storedText messageID text.partID →
        ¬ correlation.delivery.storedText messageID text.partID <+: content →
        (correlation.handle setup event).1.delivery.emitted = correlation.delivery.emitted ∧
          ∃ failure, (correlation.handle setup event).2 = .error failure)) ∧
    ((∀ past event rest state, events = past ++ event :: rest →
        feed (Correlation.handle setup) (newTracker promptMessageID).correlation past =
          (state, .ok false) →
        state.Allows setup (OpenedAsAnnounced setup events) event) →
      ∀ emission ∈ correlation.delivery.emitted, ∀ origin, emission.origin = some origin →
        Announced setup events origin.messageID origin.partID →
        ∃ delta, emission.call = .reasoning delta) := by
  have ofParts : correlation.OfParts := by
    have always : (feed (Correlation.handle setup) (newTracker promptMessageID).correlation
        events).1.OfParts := Correlation.ofParts_feed noCompatibility
    rwa [fed] at always
  refine ⟨ofParts.faithful.text, ?_, ?_⟩
  · intro event messageID text content read full current
    refine ⟨fun shorter => (ofParts.snapshot read full current (.inr shorter)).1,
      fun notShorter different => ?_⟩
    obtain ⟨emitted, fails⟩ := ofParts.snapshot read full current (.inl different)
    exact ⟨emitted, fails notShorter⟩
  · intro opens emission member origin found announced
    have kept : correlation.OfParts ∧ correlation.delivery.KindsKept setup events := by
      have always : (feed (Correlation.handle setup) (newTracker promptMessageID).correlation
            events).1.OfParts ∧
          (feed (Correlation.handle setup) (newTracker promptMessageID).correlation
            events).1.delivery.KindsKept setup events := by
        refine feed_kept_along
          (fun state : Correlation => state.OfParts ∧ state.delivery.KindsKept setup events)
          ⟨Correlation.ofParts_new promptMessageID, nofun⟩
          fun past event rest state split reached holds => ?_
        have other := noCompatibility event
          (split ▸ List.mem_append_right _ List.mem_cons_self)
        refine ⟨holds.1.handle other, ?_⟩
        have family : Correlation.Allows setup (fun _ _ text => text.family = .messagePart) state
            event :=
          Correlation.allows_of_forall (fun _ _ read => family_of_textOf read other)
            holds.1.waiting
        refine Correlation.delivery_kept holds.1.consistent
          (family.and (opens past event rest state split reached)) ?_ ?_ ?_ holds.2
        · exact fun delivery messageID text read allowed kept =>
            kept.emit read allowed.1 allowed.2
        · exact fun delivery state kept => kept
        · exact fun delivery kept => kept
      rwa [fed] at always
    obtain ⟨valid, named, part, stored, call⟩ := ofParts.faithful.kind emission member origin found
    have validPart : validEventIdentity origin.partID = true := by
      obtain ⟨_, _, text, read, same, snapshot, _⟩ := announced
      have readText := (readText_of_textOf read).1
      exact same ▸ readText.part (.inl (readText.snapshot snapshot))
    have reasoning := kept.2 _ _ valid validPart announced part stored
    rw [reasoning] at call
    exact ⟨_, call⟩

def snapshotEvent (messageID partID type text : String) : Received :=
  ownEvent .messagePartUpdated
    { part := some ⟨utf8 partID, [], utf8 messageID, utf8 type, utf8 text, []⟩ }

/-- A delta that comes before its part is called reasoning is taken for text. -/
theorem reasoning_emitted_as_text :
    Announced (openSetup fun _ => none)
        [answerUpdate "msg_2" "msg_1" "", deltaEvent "msg_2" "prt_1" "plan",
          snapshotEvent "msg_2" "prt_1" "reasoning" "plan"] (utf8 "msg_2") (utf8 "prt_1") ∧
      (feed (Correlation.handle (openSetup fun _ => none)) (newTracker (utf8 "msg_1")).correlation
        [answerUpdate "msg_2" "msg_1" "", deltaEvent "msg_2" "prt_1" "plan",
          snapshotEvent "msg_2" "prt_1" "reasoning" "plan"]).1.delivery.emitted =
        [⟨.text (utf8 "plan"), some ⟨utf8 "msg_2", utf8 "prt_1", .messagePart⟩⟩] := by
  refine ⟨⟨snapshotEvent "msg_2" "prt_1" "reasoning" "plan", by simp, ?_⟩, by decide +kernel⟩
  exact ⟨_, rfl, rfl, by simp, rfl⟩

/-- A snapshot that calls its part reasoning, and a delta of the part. -/
theorem emitted_as_stored_reasoning :
    fragmentsOf (feed (Correlation.handle (openSetup fun _ => none))
        (newTracker (utf8 "msg_1")).correlation
        [answerUpdate "msg_2" "msg_1" "", snapshotEvent "msg_2" "prt_1" "reasoning" "plan",
          deltaEvent "msg_2" "prt_1" "."]).1.delivery.emitted (utf8 "msg_2") (utf8 "prt_1") =
      utf8 "plan." ∧
    ∀ emission ∈ (feed (Correlation.handle (openSetup fun _ => none))
        (newTracker (utf8 "msg_1")).correlation
        [answerUpdate "msg_2" "msg_1" "", snapshotEvent "msg_2" "prt_1" "reasoning" "plan",
          deltaEvent "msg_2" "prt_1" "."]).1.delivery.emitted,
      ∀ origin, emission.origin = some origin →
        Announced (openSetup fun _ => none)
          [answerUpdate "msg_2" "msg_1" "", snapshotEvent "msg_2" "prt_1" "reasoning" "plan",
            deltaEvent "msg_2" "prt_1" "."] origin.messageID origin.partID →
        ∃ delta, emission.call = .reasoning delta := by
  obtain ⟨stored, _, kinds⟩ := emitted_as_stored (openSetup fun _ => none) (utf8 "msg_1")
    [answerUpdate "msg_2" "msg_1" "", snapshotEvent "msg_2" "prt_1" "reasoning" "plan",
      deltaEvent "msg_2" "prt_1" "."] (by decide) _ _ rfl
  constructor
  · exact (stored (utf8 "msg_2") (utf8 "prt_1") (by decide +kernel) (by decide +kernel)).trans
      (by decide +kernel)
  · refine kinds fun past event rest state split reached => ?_
    match past, split with
    | [], split =>
      cases split
      cases reached
      exact ⟨nofun, fun update reports _ => by cases reports; trivial⟩
    | [_], split =>
      cases split
      refine ⟨fun messageID text read _ _ _ => ?_, nofun⟩
      cases read
      exact ⟨nofun, rfl⟩
    | [_, _], split =>
      cases split
      cases reached
      refine ⟨fun messageID text read _ absent _ => ?_, nofun⟩
      cases read
      exact absurd absent (by decide +kernel)
    | _ :: _ :: _ :: _, split =>
      have lengths := congrArg List.length split
      simp at lengths

end AISummoner.Opencode
