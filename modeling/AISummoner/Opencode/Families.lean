import AISummoner.Opencode.Fragments
import AISummoner.Opencode.Order

/-! # Two families of one text

The provider may send a text twice, as message parts and as compatibility deltas.
The family of a part is fixed by its first fragment; the compatibility deltas
without a part have one family, and so have the parts named after them.
-/

namespace AISummoner.Opencode

open Encoding Relational Streams

namespace Delivery

/-- The family of a fragment that was emitted is the family of its part; a compatibility delta
    may also have been let through by the family of its message. -/
def Accounted (delivery : Delivery) (origin : Origin) : Prop :=
  origin.partID ≠ [] →
    validEventIdentity origin.messageID = true ∧
      match origin.family with
      | .messagePart =>
        delivery.families (partKey origin.messageID origin.partID) = some .messagePart
      | .compatibility =>
        delivery.families (partKey origin.messageID origin.partID) = some .compatibility ∨
          delivery.fallbackFamily origin.messageID = some .compatibility ∧
            delivery.families (partKey origin.messageID origin.partID) ≠ some .messagePart

def Exclusive (delivery : Delivery) : Prop :=
  ∀ emission ∈ delivery.emitted, ∀ origin, emission.origin = some origin →
    delivery.Accounted origin

/-- A compatibility delta that the family of its message lets through does not name a part of
    the other family. -/
def Clear (delivery : Delivery) (messageID : Text) (text : PendingText) : Prop :=
  text.family = .compatibility → text.partID ≠ [] →
    delivery.fallbackFamily messageID = some .compatibility →
    delivery.families (partKey messageID text.partID) ≠ some .messagePart

variable {su : Setup} {d : Delivery} {mid : Text}

variable {origin : Origin} {pid : Text} {chosen : Delivery} {text : PendingText}

theorem Accounted.congr {s s' : Delivery} (families : s'.families = s.families)
    (fallback : s'.fallbackFamily = s.fallbackFamily) :
    s'.Accounted origin ↔ s.Accounted origin := by
  unfold Accounted
  rw [families, fallback]

theorem Accounted.setFallback (accounted : d.Accounted origin)
    {fam : Family} (hde : d.decideFallback mid = fam) :
    (d.setFallback mid fam).Accounted origin := by
  intro hn
  obtain ⟨hva, kept⟩ := accounted hn
  refine ⟨hva, ?_⟩
  cases o : origin.family with
  | messagePart => simpa [o, Delivery.setFallback] using kept
  | compatibility =>
    simp only [o] at kept
    obtain h | ⟨fallback, free⟩ := kept
    · exact .inl h
    refine .inr ⟨?_, free⟩
    by_cases h : origin.messageID = mid
    · -- A decided family stays.
      rw [h] at fallback
      rw [h, ← hde]
      simp [Delivery.setFallback, decideFallback, fallback]
    · simpa [Delivery.setFallback, Function.update_of_ne h] using fallback

theorem Accounted.setMessagePart (accounted : d.Accounted origin) (hva : validEventIdentity mid) (hn : pid ≠ [])
    (free : d.taken mid (partKey mid pid) = false) :
    (d.setFamily (partKey mid pid) .messagePart).Accounted origin := by
  intro originNamed
  obtain ⟨originValid, kept⟩ := accounted originNamed
  refine ⟨originValid, ?_⟩
  simp only [taken, Bool.or_eq_false_iff, decide_eq_false_iff_not] at free
  by_cases h : partKey origin.messageID origin.partID = partKey mid pid
  · obtain ⟨sameMessage, samePart⟩ := partKey_inj originValid hva originNamed hn h
    cases fam : origin.family with
    | messagePart => simp [setFamily, h]
    | compatibility =>
      -- The part, and the message, would have been taken.
      simp only [fam, sameMessage, samePart] at kept
      obtain part | ⟨msg, _⟩ := kept
      · exact absurd part free.2
      · exact absurd msg free.1
  · simpa [setFamily, Function.update_of_ne h] using kept

theorem Accounted.setCompatibility (accounted : d.Accounted origin)
    {key : Text} (free : d.families key ≠ some .messagePart) :
    (d.setFamily key .compatibility).Accounted origin := by
  intro hn
  obtain ⟨hva, kept⟩ := accounted hn
  refine ⟨hva, ?_⟩
  by_cases h : partKey origin.messageID origin.partID = key
  · cases fam : origin.family with
    | messagePart =>
      simp only [fam, h] at kept
      exact absurd kept free
    | compatibility => simp [setFamily, h]
  · simpa [setFamily, Function.update_of_ne h] using kept

theorem Exclusive.sendText {call : Call}
    (hpre : ∀ em ∈ chosen.emitted, ∀ o, em.origin = some o → chosen.Accounted o)
    (here : chosen.Accounted origin) : (chosen.sendText su call origin).1.Exclusive := by
  intro em hm o hf
  rw [Accounted.congr (sendText_families ..) (sendText_fallbackFamily ..)]
  rw [sendText_emitted, List.mem_append, List.mem_singleton] at hm
  obtain s | rfl := hm
  · exact hpre em s o hf
  · cases hf
    exact here

theorem Exclusive.compatibility (hx : d.Exclusive)
    (read : ReadText mid text) (clear : d.Clear mid text)
    (hfam : text.family = .compatibility) (cho : Chosen d mid text.partID chosen) :
    (chosen.sendText su (.text text.delta) ⟨mid, text.partID, .compatibility⟩).1.Exclusive := by
  cases cho with
  | unnamed noPart hde =>
    refine Exclusive.sendText (fun em hm o hf => ?_) fun hn => ?_
    · exact (hx em hm o hf).setFallback hde
    · exact absurd noPart hn
  | fallback hn hde =>
    refine Exclusive.sendText hx fun _ => ⟨read.message, .inr ⟨hde, ?_⟩⟩
    exact clear hfam hn hde
  | part hn _ free =>
    refine Exclusive.sendText (fun em hm o hf => ?_) fun _ => ⟨read.message, .inl ?_⟩
    · exact (hx em hm o hf).setCompatibility free
    · simp [setFamily]

theorem Exclusive.emit (e : d.Exclusive) (read : ReadText mid text) (clear : d.Clear mid text) :
    (Correlation.emitPending su d mid text).1.Exclusive := by
  have step := emits su d mid text
  generalize Correlation.emitPending su d mid text = result at step
  cases step with
  | held | failed => exact e
  | fellBack _ hde =>
    exact fun em hm origin hf =>
      (e em hm origin hf).setFallback hde
  | opened got =>
    rw [got.same]
    exact e
  | @extended _ part _ fam free got =>
    rw [extendPart_eq, got.same, got.keyed]
    have hn : text.partID ≠ [] := messageID_ne_nil (read.part (.inl fam))
    refine Exclusive.sendText (fun em hm o hf => ?_) fun _ => ⟨read.message, ?_⟩
    · have accounted := e em hm o hf
      exact accounted.setMessagePart read.message hn free
    · simp [setFamily, setPart]
  | compatibility fam cho => exact e.compatibility read clear fam cho

theorem Exclusive.family_eq (e : d.Exclusive) {a b : Emission}
    (firstMember : a ∈ d.emitted) (secondMember : b ∈ d.emitted) (hn : pid ≠ []) {fam o : Family}
    (firstOrigin : a.origin = some ⟨mid, pid, fam⟩)
    (secondOrigin : b.origin = some ⟨mid, pid, o⟩) : fam = o := by
  obtain ⟨_, _⟩ := e a firstMember _ firstOrigin hn
  obtain ⟨_, _⟩ := e b secondMember _ secondOrigin hn
  cases fam <;> cases o <;> simp_all

end Delivery

/-- After any events: what was emitted for a part comes from one family, if no compatibility
    delta that the family of its message lets through names a part of the other family. -/
theorem one_family_per_part (setup : Setup) (promptMessageID : Text) (events : List Received)
    (clear : ∀ past event rest state, events = past ++ event :: rest →
      feed (Correlation.handle setup) (newTracker promptMessageID).correlation past =
        (state, .ok false) →
      state.Allows setup Delivery.Clear event) :
    ∀ first ∈ (feed (Correlation.handle setup) (newTracker promptMessageID).correlation
        events).1.delivery.emitted,
      ∀ second ∈ (feed (Correlation.handle setup) (newTracker promptMessageID).correlation
        events).1.delivery.emitted,
      ∀ messageID partID family other, partID ≠ [] →
        first.origin = some ⟨messageID, partID, family⟩ →
        second.origin = some ⟨messageID, partID, other⟩ → family = other := by
  have kept : (feed (Correlation.handle setup) (newTracker promptMessageID).correlation
        events).1.Consistent ∧
      (feed (Correlation.handle setup) (newTracker promptMessageID).correlation
        events).1.delivery.Exclusive := by
    refine feed_kept_along (fun state : Correlation => state.Consistent ∧ state.delivery.Exclusive)
      ⟨Correlation.consistent_new promptMessageID, nofun⟩
      fun past event rest state split reached holds => ?_
    refine ⟨holds.1.handle event, Correlation.delivery_kept holds.1
      (clear past event rest state split reached) ?_ ?_ ?_ holds.2⟩
    · exact fun delivery messageID text read clear exclusive => exclusive.emit read clear
    · intro delivery state exclusive emission member origin found
      simp only [Delivery.send, List.mem_append, List.mem_singleton] at member
      obtain earlier | rfl := member
      · exact exclusive emission earlier origin found
      · cases found
    · exact fun delivery exclusive => exclusive
  intro first firstMember second secondMember messageID partID family other named firstOrigin
    secondOrigin
  exact kept.2.family_eq firstMember secondMember named firstOrigin secondOrigin

def compatibilityEvent (messageID textID delta : String) : Received :=
  ownEvent .compatibilityDelta
    { assistantMessageID := utf8 messageID, textID := utf8 textID, delta := utf8 delta }

/-- The part that names no text decides for the family of the first part, and the second part
    is sent once more. -/
theorem part_emitted_in_both_families :
    (feed (Correlation.handle (openSetup fun _ => none)) (newTracker (utf8 "msg_1")).correlation
      [answerUpdate "msg_2" "msg_1" "", compatibilityEvent "msg_2" "prt_1" "x",
        deltaEvent "msg_2" "prt_2" "hi", compatibilityEvent "msg_2" "" "y",
        compatibilityEvent "msg_2" "prt_2" "hi"]).1.delivery.emitted =
    [⟨.text (utf8 "x"), some ⟨utf8 "msg_2", utf8 "prt_1", .compatibility⟩⟩,
      ⟨.text (utf8 "hi"), some ⟨utf8 "msg_2", utf8 "prt_2", .messagePart⟩⟩,
      ⟨.text (utf8 "y"), some ⟨utf8 "msg_2", [], .compatibility⟩⟩,
      ⟨.text (utf8 "hi"), some ⟨utf8 "msg_2", utf8 "prt_2", .compatibility⟩⟩] := by
  decide +kernel

/-- A part that is sent in both families is emitted in the first one. -/
theorem one_family_per_part_sent_twice :
    ⟨.text (utf8 "hi"), some ⟨utf8 "msg_2", utf8 "prt_2", .messagePart⟩⟩ ∈
        (feed (Correlation.handle (openSetup fun _ => none)) (newTracker (utf8 "msg_1")).correlation
          [answerUpdate "msg_2" "msg_1" "", deltaEvent "msg_2" "prt_2" "hi",
            compatibilityEvent "msg_2" "prt_2" "hi"]).1.delivery.emitted ∧
      ¬ ⟨.text (utf8 "hi"), some ⟨utf8 "msg_2", utf8 "prt_2", .compatibility⟩⟩ ∈
        (feed (Correlation.handle (openSetup fun _ => none)) (newTracker (utf8 "msg_1")).correlation
          [answerUpdate "msg_2" "msg_1" "", deltaEvent "msg_2" "prt_2" "hi",
            compatibilityEvent "msg_2" "prt_2" "hi"]).1.delivery.emitted := by
  refine ⟨by decide +kernel, fun twice => ?_⟩
  suffices same : Family.messagePart = .compatibility by cases same
  refine one_family_per_part (openSetup fun _ => none) (utf8 "msg_1")
    [answerUpdate "msg_2" "msg_1" "", deltaEvent "msg_2" "prt_2" "hi",
      compatibilityEvent "msg_2" "prt_2" "hi"] (fun past event rest state split reached => ?_)
    ⟨.text (utf8 "hi"), some ⟨utf8 "msg_2", utf8 "prt_2", .messagePart⟩⟩ (by decide +kernel) _ twice
    (utf8 "msg_2") (utf8 "prt_2") _ _ (by decide +kernel) rfl rfl
  match past, split with
  | [], split =>
    cases split
    cases reached
    exact ⟨nofun, fun update reports _ => by cases reports; trivial⟩
  | [_], split =>
    cases split
    refine ⟨fun messageID text read _ family => ?_, nofun⟩
    cases read
    cases family
  | [_, _], split =>
    cases split
    cases reached
    refine ⟨fun messageID text read _ _ _ fallback => ?_, nofun⟩
    cases read
    exact absurd fallback (by decide +kernel)
  | _ :: _ :: _ :: _, split =>
    have lengths := congrArg List.length split
    simp at lengths

end AISummoner.Opencode
