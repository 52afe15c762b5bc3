import AISummoner.Protocol.Writers

/-! # What is on the wire

A thread knows how much of its frame is written; whoever writes holds the lock.  So the
wire is the frames in the order of the lock, up to the part of the last one that is
still being written.
-/

namespace AISummoner.Protocol

open Concurrency

variable {json : Json}

inductive Phase (json : Json) where
  | between
  | writing (frame : Frame json) (left : Bytes)
  | written (frame : Frame json)
  /-- A write has failed or has taken nothing. -/
  | failed

namespace Phase

def after (phase : Phase json) (operation : Operation json) (response : operation.Response) :
    Phase json :=
  match phase, operation with
  | .between, .lock frame => .writing frame frame.bytes
  | .writing frame left, .write contents =>
    match response with
    | some (count + 1) => .writing frame (left.drop (min (count + 1) contents.length))
    | _ => .failed
  | .writing frame _, .unlock => .written frame
  | .written _, .returned _ => .between
  | _, _ => .failed

def may : Phase json → Operation json → Prop
  | .between, .lock _ => True
  | .writing _ left, .write contents => contents ≠ [] ∧ contents <+: left
  | .writing _ left, .unlock => left = []
  | .written frame, .returned other => other = frame
  | .failed, _ => True
  | _, _ => False

end Phase

def writing : Discipline (signature json) (List Outgoing) (Phase json) where
  start _ := some .between
  after := Phase.after
  afterFork phase _ := phase
  may := Phase.may
  mayFork _ _ := False

/-! ## The programs keep to their phases -/

abbrev Alone {α : Type} (program : Writes json α) : Prop :=
  program.performs (fun _ => True) fun _ => False

theorem alone_writeFullLoop (rds : Nat) (cts : Bytes) :
    Alone (writeFullLoop rds cts : Writes json (Except WriteError Unit)) := by
  induction rds generalizing cts with
  | zero => trivial
  | succ rds ih =>
    unfold writeFullLoop
    split
    · trivial
    refine ⟨trivial, fun r => ?_⟩
    match r with
    | none | some 0 => trivial
    | some (written + 1) => exact ih _

theorem alone_writeParts (en : Bytes) :
    Alone (writeParts en : Writes json (Except ProtocolError Unit)) := by
  refine Program.performs_bind (alone_writeFullLoop _ _) fun res => ?_
  cases res with
  | error _ => trivial
  | ok =>
    refine Program.performs_bind (alone_writeFullLoop _ _) fun res => ?_
    cases res <;> trivial

theorem alone_writeValue (outgoing : Outgoing) :
    Alone (writeValue outgoing : Writes json (Except ProtocolError Unit)) := by
  unfold writeValue
  cases prepare json outgoing with
  | error err => trivial
  | ok _ =>
    refine Program.performs_bind ?_ fun res => ?_
    · exact ⟨trivial, fun _ => Program.performs_bind (alone_writeParts _)
        fun res => ⟨trivial, fun _ => trivial⟩⟩
    · cases res with
      | error err => trivial
      | ok => exact ⟨trivial, fun _ => trivial⟩

theorem alone_writeAll (values : List Outgoing) : Alone (writeAll values : Writes json Unit) := by
  induction values with
  | nil => trivial
  | cons outgoing _ ih =>
    exact Program.performs_bind (alone_writeValue outgoing) fun _ => ih

theorem follows_failed {α : Type} {prog : Writes json α} (alone : Alone prog)
    {post : α → Phase json → Prop} (hh : ∀ v, post v .failed) : writing.Follows prog post .failed :=
  Discipline.Follows.of_free (fun op _ => by cases op <;> trivial)
    (fun op _ _ => by cases op <;> rfl) (fun _ hsw => hsw.elim)
    (fun _ hsw => hsw.elim) alone hh

theorem follows_writeFullLoop (frm : Frame json) {rds : Nat} {cts : Bytes}
    (enough : cts.length ≤ rds) (rest : Bytes) : writing.Follows (writeFullLoop rds cts) (fun
      | .ok _, phase => phase = .writing frm rest
      | .error _, phase => phase = .failed) (.writing frm (cts ++ rest)) := by
  induction rds generalizing cts with
  | zero =>
    obtain rfl := List.eq_nil_of_length_eq_zero (Nat.le_zero.mp enough)
    rfl
  | succ rds ih =>
    unfold writeFullLoop
    split
    · rename_i hem
      rw [hem]
      rfl
    rename_i hfi
    refine ⟨⟨hfi, List.prefix_append _ _⟩, fun r => ?_⟩
    match r with
    | none | some 0 => rfl
    | some (written + 1) =>
      have dropped : (cts ++ rest).drop (min (written + 1) cts.length) =
          cts.drop (written + 1) ++ rest := by
        rw [List.drop_append_of_le_length (Nat.min_le_right _ _), ← List.drop_eq_drop_min]
      show writing.Follows _ _ (Phase.writing frm _)
      rw [dropped]
      refine ih ?_
      rw [List.length_drop]
      omega

theorem follows_writeParts (frm : Frame json) : writing.Follows (writeParts frm.encoded) (fun
      | .ok _, phase => phase = .writing frm []
      | .error _, phase => phase = .failed) (.writing frm frm.bytes) := by
  refine .bind ((follows_writeFullLoop frm (Nat.le_refl _) frm.encoded).mono ?_)
  intro res phase hh
  cases res with
  | error _ => exact hh
  | ok =>
    have hb := follows_writeFullLoop frm (Nat.le_refl frm.encoded.length) []
    rw [List.append_nil] at hb
    rw [hh]
    refine .bind (hb.mono ?_)
    intro res phase hh
    cases res <;> exact hh

theorem follows_writeFrame (frm : Frame json) : writing.Follows (writeFrame frm) (fun
      | .ok _, phase => phase = .written frm
      | .error _, phase => phase = .failed) .between := by
  refine ⟨trivial, fun _ => .bind ((follows_writeParts frm).mono ?_)⟩
  intro res phase hh
  cases res with
  | error _ =>
    rw [hh]
    exact ⟨trivial, fun _ => rfl⟩
  | ok =>
    rw [hh]
    exact ⟨rfl, fun _ => rfl⟩

theorem follows_writeValue (outgoing : Outgoing) :
    writing.Follows (writeValue outgoing : Writes json (Except ProtocolError Unit))
      (fun _ phase => phase = .between ∨ phase = .failed) .between := by
  unfold writeValue
  cases prepare json outgoing with
  | error err => exact .inl rfl
  | ok frm =>
    refine .bind ((follows_writeFrame frm).mono ?_)
    intro res phase hh
    cases res with
    | error err => exact .inr hh
    | ok =>
      rw [hh]
      exact ⟨rfl, fun _ => .inl rfl⟩

theorem follows_writeAll (values : List Outgoing) :
    writing.Follows (writeAll values : Writes json Unit) (fun _ _ => True) .between := by
  induction values with
  | nil => trivial
  | cons outgoing rest ih =>
    refine .bind ((follows_writeValue outgoing).mono ?_)
    rintro _ _ (rfl | rfl)
    · exact ih
    · exact follows_failed (alone_writeAll rest) fun _ => trivial

variable {phase : Phase json} {t : Nat}
  {p : System.Traced (signature json) (List Outgoing) (Connection json)}

theorem bodies_follow {values : List Outgoing} (hst : writing.start values = some phase) :
    writing.Follows ((codecSystem json).body values) (fun _ _ => True) phase := by
  cases hst
  exact follows_writeAll values

/-! ## The state keeps what the phases mean -/

def framesOf (entries : List (Nat × Frame json)) : Bytes :=
  entries.flatMap fun entry => entry.2.bytes

def ofThread (thread : Nat) (entries : List (Nat × Frame json)) : List (Frame json) :=
  (entries.filter fun entry => entry.1 = thread).map Prod.snd

theorem framesOf_append (a b : List (Nat × Frame json)) :
    framesOf (a ++ b) = framesOf a ++ framesOf b :=
  List.flatMap_append

@[simp] theorem framesOf_singleton (e : Nat × Frame json) : framesOf [e] = e.2.bytes := by
  simp [framesOf]

theorem ofThread_self (t : Nat) (es : List (Nat × Frame json)) (frm : Frame json) :
    ofThread t (es ++ [(t, frm)]) = ofThread t es ++ [frm] := by
  simp [ofThread]

theorem ofThread_other {o : Nat} (ne : t ≠ o) (es : List (Nat × Frame json)) (frm : Frame json) :
    ofThread o (es ++ [(t, frm)]) = ofThread o es := by
  simp [ofThread, ne]

/-- A frame of which a part is on the wire, after those before it. -/
def Partly (state : Connection json) (thread : Nat) (frame : Frame json) (left : Bytes) : Prop :=
  ∃ before written, state.order = before ++ [(thread, frame)] ∧ frame.bytes = written ++ left ∧
    state.wire = framesOf before ++ written

structure Ordered (state : Connection json) : Prop where
  free : state.holder = none → state.wire = framesOf state.order
  held : ∀ thread, state.holder = some thread → ∃ frame left, Partly state thread frame left
  /-- Every call the lock was taken for has returned, but for one of each thread. -/
  counted : ∀ thread, ∃ current, current.length ≤ 1 ∧
    ofThread thread state.order = ofThread thread state.returned ++ current

def Phase.Means (state : Connection json) (thread : Nat) : Phase json → Prop
  | .between => state.holder ≠ some thread ∧
      ofThread thread state.order = ofThread thread state.returned
  | .writing frame left => state.holder = some thread ∧ Partly state thread frame left ∧
      ofThread thread state.order = ofThread thread state.returned ++ [frame]
  | .written frame => state.holder ≠ some thread ∧
      ofThread thread state.order = ofThread thread state.returned ++ [frame]
  | .failed => False

inductive Steps (state : Connection json) (thread : Nat) :
    Phase json → Phase json → Connection json → Prop
  | locks (frame : Frame json) (free : state.holder = none) :
      Steps state thread .between (.writing frame frame.bytes)
        { state with holder := some thread, order := state.order ++ [(thread, frame)] }
  | writes (frame : Frame json) (left : Bytes) (count : Nat) :
      Steps state thread (.writing frame left) (.writing frame (left.drop count))
        { state with wire := state.wire ++ left.take count }
  | unlocks (frame : Frame json) :
      Steps state thread (.writing frame []) (.written frame) { state with holder := none }
  | returns (frame : Frame json) :
      Steps state thread (.written frame) .between
        { state with returned := state.returned ++ [(thread, frame)] }

theorem steps_of_execute {st next : Connection json}
    {op : Operation json} {cho : Choice} {r : op.Response}
    (alive : phase ≠ .failed) (may : phase.may op) (hal : progressing (.perform t op cho) p)
    (ran : execute t op cho st = some (r, next)) : Steps st t phase (phase.after op r) next := by
  cases op with
  | lock frm =>
    cases phase with
    | between =>
      simp only [execute] at ran
      split at ran
      · rename_i free
        cases ran
        exact .locks frm free
      · cases ran
    | failed => exact absurd rfl alive
    | _ => cases may
  | write cts =>
    cases phase with
    | writing frm left =>
      obtain ⟨-, start⟩ := may
      cases cho with
      | fail => cases hal
      | accept cnt =>
        simp only [execute] at ran
        split at ran
        · rename_i hwi
          cases ran
          cases cnt with
          | zero => cases hal
          | succ cnt =>
            have hta : cts.take (cnt + 1) = left.take (cnt + 1) := by
              obtain ⟨_, rfl⟩ := start
              rw [List.take_append_of_le_length hwi]
            have phase : (Phase.writing frm left).after (.write cts) (some (cnt + 1)) =
                .writing frm (left.drop (cnt + 1)) := by
              simp only [Phase.after, Nat.min_eq_left hwi]
            rw [phase, hta]
            exact .writes frm left (cnt + 1)
        · cases ran
    | failed => exact absurd rfl alive
    | _ => cases may
  | unlock =>
    cases phase with
    | writing frm left =>
      obtain rfl : left = [] := may
      simp only [execute] at ran
      split at ran
      · cases ran
      · cases ran
        exact .unlocks frm
    | failed => exact absurd rfl alive
    | _ => cases may
  | returned o =>
    cases phase with
    | written frm =>
      obtain rfl : o = frm := may
      cases ran
      exact .returns o
    | failed => exact absurd rfl alive
    | _ => cases may

namespace Steps

variable {st next : Connection json} {t : Nat} {phase after : Phase json}

theorem ordered (sts : Steps st t phase after next) (hor : Ordered st)
    (me : phase.Means st t) : Ordered next := by
  cases sts with
  | locks frm free =>
    refine ⟨nofun, fun ow held => ?_, fun o => ?_⟩
    · cases held
      exact ⟨frm, frm.bytes, st.order, [], rfl, rfl, by
        rw [List.append_nil]; exact hor.free free⟩
    · by_cases h : t = o
      · subst h
        exact ⟨[frm], Nat.le_refl _, by rw [ofThread_self, me.2]⟩
      · obtain ⟨cur, hsg, hct⟩ := hor.counted o
        exact ⟨cur, hsg, by rw [ofThread_other h, hct]⟩
  | writes frm left cnt =>
    obtain ⟨hh, ⟨s, hw, last, hsp, wire⟩, -⟩ := me
    refine ⟨fun free => ?_, fun ow held => ?_, hor.counted⟩
    · cases hh.symm.trans free
    · cases hh.symm.trans held
      exact ⟨frm, left.drop cnt, s, hw ++ left.take cnt, last,
        by rw [List.append_assoc, List.take_append_drop, hsp],
        by rw [wire, List.append_assoc]⟩
  | unlocks frm =>
    obtain ⟨-, ⟨s, hw, last, hsp, wire⟩, -⟩ := me
    refine ⟨fun _ => ?_, nofun, hor.counted⟩
    rw [List.append_nil] at hsp
    show st.wire = framesOf st.order
    rw [wire, last, framesOf_append, framesOf_singleton, hsp]
  | returns frm =>
    refine ⟨hor.free, hor.held, fun o => ?_⟩
    by_cases h : t = o
    · subst h
      exact ⟨[], Nat.zero_le _, by rw [ofThread_self, List.append_nil, me.2]⟩
    · obtain ⟨cur, hsg, hct⟩ := hor.counted o
      exact ⟨cur, hsg, by rw [ofThread_other h, hct]⟩

theorem means (sts : Steps st t phase after next) (hor : Ordered st)
    (me : phase.Means st t) : after.Means next t := by
  cases sts with
  | locks frm free =>
    refine ⟨rfl, ⟨st.order, [], rfl, rfl, ?_⟩, by rw [ofThread_self, me.2]⟩
    rw [List.append_nil]
    exact hor.free free
  | writes frm left cnt =>
    obtain ⟨hh, ⟨s, hw, last, hsp, wire⟩, hct⟩ := me
    exact ⟨hh, ⟨s, hw ++ left.take cnt, last, by rw [List.append_assoc, List.take_append_drop, hsp],
      by rw [wire, List.append_assoc]⟩, hct⟩
  | unlocks frm => exact ⟨nofun, me.2.2⟩
  | returns frm => exact ⟨me.1, by rw [ofThread_self, me.2]⟩

theorem others (sts : Steps st t phase after next) (hme : phase.Means st t)
    {o : Nat} (ne : t ≠ o) {el : Phase json} (meaning : el.Means st o) : el.Means next o := by
  have notBoth (ha : st.holder = some t) (hb : st.holder = some o) : False :=
    ne (Option.some.inj (ha.symm.trans hb))
  cases sts with
  | locks frm free =>
    have hct : ofThread o (st.order ++ [(t, frm)]) = ofThread o st.order :=
      ofThread_other ne _ _
    cases el with
    | between => exact ⟨fun h => ne (Option.some.inj h), by rw [hct, meaning.2]⟩
    | written frm =>
      exact ⟨fun h => ne (Option.some.inj h), by rw [hct, meaning.2]⟩
    | writing frm left => cases free.symm.trans meaning.1
    | failed => exact meaning
  | writes frm left _ =>
    cases el with
    | writing => exact (notBoth hme.1 meaning.1).elim
    | _ => exact meaning
  | unlocks frm =>
    cases el with
    | between | written => exact ⟨nofun, meaning.2⟩
    | writing => exact (notBoth hme.1 meaning.1).elim
    | failed => exact meaning
  | returns frm =>
    have hct : ofThread o (st.returned ++ [(t, frm)]) =
        ofThread o st.returned := ofThread_other ne _ _
    cases el with
    | between | written => exact ⟨meaning.1, by rw [hct, meaning.2]⟩
    | writing => exact ⟨meaning.1, meaning.2.1, by rw [hct, meaning.2.2]⟩
    | failed => exact meaning

end Steps

theorem not_failed {st : Connection json} (hme : phase.Means st t) : phase ≠ .failed := by
  rintro rfl
  exact hme

theorem ordered_of_reached
    (hr : (codecSystem json).Reached progressing {} p) : Ordered p.state := by
  have total : ∀ values : List Outgoing, ∃ phase : Phase json, writing.start values = some phase :=
    fun _ => ⟨_, rfl⟩
  -- A thread that is not started yet is as one between two calls.
  refine (System.Reached.understood (D := writing) bodies_follow total
    (fun p => Ordered p.state ∧ ∀ t, p.threads ≤ t → Phase.between.Means p.state t)
    (fun p t phase => phase.Means p.state t) ?_ ?_ ?_ ?_ ?_ ?_ nofun hr).1.1
  · exact ⟨⟨fun _ => rfl, nofun, fun _ => ⟨[], Nat.zero_le _, rfl⟩⟩, fun _ _ => ⟨nofun, rfl⟩⟩
  · intro p t op cho r st phase s _ sou every hk may hal
      ran
    obtain ⟨hor, hfr⟩ := sou
    have hme := every t phase hk
    have hsts := steps_of_execute (not_failed hme) may hal ran
    refine ⟨⟨hsts.ordered hor hme, fun o beyond => ?_⟩, hsts.means hor hme⟩
    have hbl := s.knows_below hk
    exact hsts.others hme (Nat.ne_of_lt (Nat.lt_of_lt_of_le hbl beyond)) (hfr o beyond)
  · intro p w t phase s after next hel hk _ every
    have meaning := every t phase hk
    cases next with
    | @performed pf op cho r st hal ran =>
      have ne : pf ≠ t := by
        rintro rfl
        exact hel.2 _ _ _ rfl
      obtain ⟨acting, knew, may⟩ := after.performer (D := writing) bodies_follow total
      have hme := every pf acting knew
      exact (steps_of_execute (not_failed hme) may hal ran).others hme ne
        meaning
    | entered _ _ hst =>
      cases hst
      exact meaning
    | crashed _ hre => cases hre
  · intro p pa values st _ sou hst
    cases hst
    exact ⟨sou.1, fun t beyond => sou.2 t (Nat.le_of_succ_le beyond)⟩
  · intro p pa values st phase _ sou _ _ hst hb
    cases hst
    cases hb
    exact sou.2 p.threads (Nat.le_refl _)
  · intro p t phase _ st _ _ may
    exact may.elim

end AISummoner.Protocol
