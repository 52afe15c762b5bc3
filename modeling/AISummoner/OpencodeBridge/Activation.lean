import AISummoner.OpencodeBridge.Lifecycle

/-! # A closed activation is idle for ever

What `Close` guarantees when it has returned, that calls on one activation are
serialized, which invoker a callback can reach, and that closing an activation
leaves a newer one of the same external session alone.
-/

namespace AISummoner.OpencodeBridge

open Concurrency Concurrency.Discipline
open Agent (AgentError)

/-! ## What is seen of an activation -/

def invoking (thread position : Nat) : List Entry → Bool
  | [] => false
  | .performed other (.entry place .invoke) _ _ :: trace =>
    decide (other = thread ∧ place = position) || invoking thread position trace
  | .performed other (.entry place .invoked) _ _ :: trace =>
    !decide (other = thread ∧ place = position) && invoking thread position trace
  | _ :: trace => invoking thread position trace

def Invokes (position : Nat) (entry : Entry) : Prop :=
  ∃ thread response state, entry = .performed thread (.entry position .invoke) response state

/-- A `Close` that returns here covers the mapping: its own, or one of the bridge
    that returns `nil`. -/
def Closes (position : Nat) (entry : Entry) : Prop :=
  (∃ thread response state,
      entry = .performed thread (.entry position .awaitClosed) response state) ∨
    ∃ thread state, entry = .performed thread (.bridge .awaitDone) true state

def ActivatedBy (thread : Nat) (externalSessionID : String) (invoker position : Nat)
    (trace : List Entry) : Prop :=
  ∃ productSessionID state,
    (.performed thread (.bridge (.activate productSessionID externalSessionID invoker))
      (.ok position) state : Entry) ∈ trace

def BegunActive (thread position : Nat) (trace : List Entry) : Prop :=
  ∃ state, (.performed thread (.entry position .beginCall) true state : Entry) ∈ trace ∧
    state.On position fun entry => entry.active = true ∧ entry.canceled = false

variable {op : Operation} {r : op.Response} {nw older : List Entry}
  {trace : List Entry}

variable {k : Conduct} {state : Process} {hclg : Entry}

section Runs

variable {rule : Step → Past → Bool} {past w : Past} {t pos : Nat}

theorem Conduct.after_invoking (may : k.may op)
    (invokes : k.invoking) (hh : k.gate = some pos) (huf : ∀ pl, op ≠ .entry pl .invoked) :
    (k.after op r).invoking ∧ (k.after op r).gate = some pos := by
  cases op with
  | entry pl op =>
    cases op with
    | beginCall | enterClose | reportFatal err => cases r <;> exact ⟨invokes, hh⟩
    | acquireGate => cases may.2.1.symm.trans hh
    | releaseGate => cases may.2.1.symm.trans invokes
    | invoke => exact ⟨rfl, hh⟩
    | invoked => exact absurd rfl (huf pl)
    | _ => exact ⟨invokes, hh⟩
  | bridge op => cases op <;> exact ⟨invokes, hh⟩
  | adapter op => exact ⟨invokes, hh⟩

theorem invoking_performed_ne {o : Nat} (ne : o ≠ t) :
    invoking t pos (.performed o op r state :: trace) = invoking t pos trace := by
  cases op with
  | entry _ op => cases op <;> simp [invoking, ne]
  | bridge op | adapter op => rfl

theorem knows_of_performed {rcd : Process} {ths : Nat} (hr : callbacks.Reached rule .new
      ⟨state, .performed t op r rcd :: trace, ths⟩) :
    ∃ k, callDiscipline.knows t trace = some k ∧ k.may op :=
  hr.performer conducts fun _ => ⟨_, rfl⟩

theorem knows_invoking (hr : callbacks.Reached rule .new past) (seen : invoking t pos past.trace) :
    ∃ k, callDiscipline.knows t past.trace = some k ∧ k.invoking ∧ k.gate = some pos := by
  revert seen
  refine System.Reached.induction nofun ?_ hr
  intro past w s s' next ih seen
  cases next with
  | @performed pf op _ r state _ _ =>
    by_cases h : pf = t
    · subst h
      obtain ⟨k, hk, may⟩ := knows_of_performed s'
      have now : callDiscipline.knows pf
          (.performed pf op r state :: past.trace) =
          some (k.after op r) := by
        rw [knows_performed_self, hk]
        rfl
      -- what was seen before is known before
      have hpre (seen : invoking pf pos past.trace) :
          k.invoking ∧ k.gate = some pos := by
        obtain ⟨v, knew, hme⟩ := ih seen
        rw [hk] at knew
        cases knew
        exact hme
      have kept (seen : invoking pf pos past.trace)
          (huf : ∀ pl, op ≠ .entry pl .invoked) :
          (k.after op r).invoking ∧ (k.after op r).gate = some pos :=
        Conduct.after_invoking may (hpre seen).1 (hpre seen).2 huf
      refine ⟨_, now, ?_⟩
      cases op with
      | entry pl op =>
        cases op with
        | invoke =>
          simp only [invoking, true_and, Bool.or_eq_true, decide_eq_true_eq] at seen
          obtain rfl | seen := seen
          · exact ⟨rfl, may.1⟩
          · exact kept seen nofun
        | invoked =>
          simp only [invoking, true_and, Bool.and_eq_true, Bool.not_eq_true', decide_eq_false_iff_not]
            at seen
          have gate := (hpre seen.2).2
          rw [may.1] at gate
          exact absurd (Option.some.inj gate) seen.1
        | _ => exact kept seen nofun
      | bridge op | adapter op => exact kept seen nofun
    · rw [invoking_performed_ne h] at seen
      rw [knows_performed_ne h]
      exact ih seen
  | @entered pa g state _ _ _ =>
    obtain ⟨k, hk, hme⟩ := ih seen
    have ne : past.threads ≠ t := Nat.ne_of_gt (s.knows_below hk)
    refine ⟨k, ?_, hme⟩
    by_cases hcd : pa = some t
    · subst hcd
      rw [knows_entered_parent ne, hk]
      rfl
    · rw [knows_entered_ne ne hcd]
      exact hk
  | crashed _ hre => cases hre

/-! ## Closed -/

structure Process.Shut (process : Process) (position : Nat) : Prop where
  closeDone : ∀ {entry}, process.bridge.entries[position]? = some entry → entry.closeDone = true
  there : process.bridge.closed = true ∨ position < process.bridge.entries.length

theorem Process.Shut.later {s s' : Process} (shut : s.Shut pos)
    (k' : s.Later s') : s'.Shut pos := by
  refine ⟨?_, ?_⟩
  · intro e hl
    by_cases hi : pos < s.bridge.entries.length
    · have old := List.getElem?_eq_getElem hi
      obtain ⟨new, hf, hch⟩ := k'.entries old
      rw [hl] at hf
      cases hf
      exact hch.closeDone (shut.closeDone old)
    · -- a closed bridge has no new mappings
      have hcl := shut.there.resolve_right hi
      have hbd := (List.getElem?_eq_some_iff.mp hl).1
      rw [(k'.closed hcl).2] at hbd
      exact absurd hbd hi
  · obtain hcl | hi := shut.there
    · exact .inl (k'.closed hcl).1
    · right
      obtain ⟨new, hf, _⟩ := k'.entries (List.getElem?_eq_getElem hi)
      exact (List.getElem?_eq_some_iff.mp hf).1

theorem shut_of_closes (hr : callbacks.Reached rule .new past) (hrcd : past.trace = hclg :: older)
    (closes : Closes pos hclg) : past.state.Shut pos := by
  obtain ⟨_, s, next, _⟩ := hr.previous hrcd
  have hs := (sound_of_reached s).1
  cases next with
  | @performed _ _ _ r state _ ran =>
    have last := (List.cons.inj hrcd).1
    have ch := perform_change ran
    obtain ⟨t, _, s', he⟩ | ⟨t, s', he⟩ := closes
    · rw [he] at last
      cases last
      cases ch with
      | entry hl ch =>
        cases ch with
        | awaited done =>
          refine Process.Shut.later ⟨?_, .inr (List.getElem?_eq_some_iff.mp hl).1⟩
            (Process.later_setEntry hl (.refl _))
          intro e hf
          rw [hl] at hf
          cases hf
          exact done
    · rw [he] at last
      cases last
      cases ch with
      | awaited done =>
        obtain ⟨hcl, covered⟩ := hs.closeDone done
        refine ⟨fun hl => ?_, .inl hcl⟩
        exact (covered hl).resolve_left List.not_mem_nil
  | entered _ _ _ =>
    have last := (List.cons.inj hrcd).1
    obtain ⟨_, _, _, he⟩ | ⟨_, _, he⟩ := closes <;> rw [he] at last <;> cases last
  | crashed _ hre => cases hre

theorem not_calling_of_shut (hr : callbacks.Reached rule .new past) (shut : past.state.Shut pos)
    (hk : callDiscipline.knows t past.trace = some k) : k.calling ≠ some pos := by
  intro hcg
  have hme := (sound_of_reached hr).2 t k hk
  obtain ⟨_, _, e, hl, _⟩ := hme.found (hme.calling hcg)
  exact not_calling_of_closeDone hr ⟨e, hl, shut.closeDone hl⟩ hk hcg

theorem idle_of_shut (hr : callbacks.Reached rule .new past)
    (shut : past.state.Shut pos) : invoking t pos past.trace = false := by
  rw [Bool.eq_false_iff]
  intro seen
  obtain ⟨k, hk, _, hh⟩ := knows_invoking hr seen
  exact not_calling_of_shut hr shut hk
    (((sound_of_reached hr).2 t k hk).gate hh)

theorem shut_along (hr : callbacks.Reached rule .new past) (hsp : past.trace = nw ++ older)
    (shut : ∀ {hpre : Past}, callbacks.Reached rule .new hpre → hpre.trace = older →
      hpre.state.Shut pos) : past.state.Shut pos ∧ ∀ e ∈ nw, ¬Invokes pos e := by
  induction nw generalizing past with
  | nil => exact ⟨shut hr hsp, fun _ hm => by cases hm⟩
  | cons e nw ih =>
    obtain ⟨hpre, s, next, hrcd⟩ := hr.previous hsp
    obtain ⟨stays, none⟩ := ih s hrcd
    refine ⟨stays.later (later_of_next next), ?_⟩
    intro o hm invokes
    obtain rfl | hm := List.mem_cons.mp hm
    · obtain ⟨t, r, state, rfl⟩ := invokes
      obtain ⟨_, trace, _⟩ := past
      cases hsp
      obtain ⟨k, hk, may⟩ := knows_of_performed hr
      rw [← hrcd] at hk
      have hme := (sound_of_reached s).2 t k hk
      exact not_calling_of_shut s stays hk (hme.gate may.1)
    · exact none o hm invokes

/-! ## Callbacks -/

theorem activated_of_reached (hr : callbacks.Reached rule .new past) {e : Mapping}
    (l : past.state.bridge.entries[pos]? = some e) :
    ∃ av, ActivatedBy av e.externalSessionID e.invoker pos past.trace := by
  suffices every : ∀ pos e, past.state.bridge.entries[pos]? = some e →
      ∃ av, ActivatedBy av e.externalSessionID e.invoker pos past.trace from
    every pos e l
  refine System.Reached.induction ?_ ?_ hr
  · intro pos e l
    cases l
  intro past w s _ next ih pos e l
  -- a mapping that was there before has changed nothing of its binding
  have older (hi : pos < past.state.bridge.entries.length) :
      ∃ av, ActivatedBy av e.externalSessionID e.invoker pos
        w.trace := by
    have old := List.getElem?_eq_getElem hi
    obtain ⟨new, hf, hch⟩ := (later_of_next next).entries old
    rw [l] at hf
    cases hf
    obtain ⟨av, pid, state, hm⟩ := ih pos _ old
    obtain ⟨last, hrcd, _⟩ := next.trace
    rw [hch.externalSessionID, hch.invoker, hrcd]
    exact ⟨av, pid, state, List.mem_cons_of_mem _ hm⟩
  by_cases hi : pos < past.state.bridge.entries.length
  · exact older hi
  have hbd := (List.getElem?_eq_some_iff.mp l).1
  cases next with
  | @performed pf _ _ r state _ ran =>
    cases perform_change ran with
    | @activated pid xid inv _ _ =>
      simp only [Bridge.install, Bridge.setMapping, List.length_append, List.length_singleton] at hbd
      have last : pos = past.state.bridge.entries.length := by omega
      subst last
      have hin : (past.state.bridge.entries ++
          [Mapping.new pid xid inv])[past.state.bridge.entries.length]? = some e := l
      rw [List.getElem?_concat_length] at hin
      cases hin
      exact ⟨pf, pid, _, List.mem_cons_self⟩
    | entry l change | selectedFatal l hwt =>
      rw [show (past.state.setEntry _ _).bridge.entries.length = past.state.bridge.entries.length from
        List.length_set] at hbd
      exact absurd hbd hi
    | @removed hpl =>
      rw [show (past.state.bridge.remove hpl).entries = past.state.bridge.entries from
        (past.state.bridge.remove_entries hpl).1] at hbd
      exact absurd hbd hi
    | _ => exact absurd hbd hi
  | entered _ _ hst =>
    cases hst
    exact absurd hbd hi
  | crashed _ hre => cases hre

structure Conduct.Remembers (past : Past) (thread : Nat) (known : Conduct) : Prop where
  runs : ∀ {externalSessionID}, known.session = some externalSessionID →
    System.runs thread past.trace = some (.serveHTTP externalSessionID)
  begun : ∀ {position}, known.calling = some position → BegunActive thread position past.trace

theorem BegunActive.later (bg : BegunActive t pos trace) (e : Entry) :
    BegunActive t pos (e :: trace) := by
  obtain ⟨state, hm, hac⟩ := bg
  exact ⟨state, List.mem_cons_of_mem _ hm, hac⟩

theorem Conduct.after_session : (k.after op r).session = k.session := by
  cases op with
  | entry _ op =>
    cases op with
    | beginCall | enterClose | reportFatal err | acquireGate => cases r <;> rfl
    | _ => rfl
  | bridge op => cases op <;> rfl
  | adapter op => rfl

theorem Conduct.calling_after (t : Nat) (state : Process)
    (hcg : (k.after op r).calling = some pos) :
    k.calling = some pos ∨ (.performed t op r state : Entry) =
      .performed t (.entry pos .beginCall) true state := by
  cases op with
  | entry _ op =>
    cases op with
    | beginCall =>
      cases r with
      | true =>
        cases hcg
        exact .inr rfl
      | false => exact .inl hcg
    | enterClose | reportFatal error | acquireGate => cases r <;> exact .inl hcg
    | doneCall => cases hcg
    | _ => exact .inl hcg
  | bridge op => cases op <;> exact .inl hcg
  | adapter op => exact .inl hcg

theorem remembers_of_reached (hr : callbacks.Reached rule .new past)
    (hk : callDiscipline.knows t past.trace = some k) : k.Remembers past t := by
  -- entries of others, and of new goroutines, leave the past as it was
  have hoth {past w : Past} {t : Nat} {k : Conduct}
      (next : callbacks.Next rule past w) (hrm : k.Remembers past t)
      (s : callbacks.Reached rule .new past) : k.Remembers w t := by
    cases next with
    | performed _ _ =>
      exact ⟨hrm.runs, fun hcg => (hrm.begun hcg).later _⟩
    | entered _ _ _ =>
      refine ⟨fun ses => ?_, fun hcg => (hrm.begun hcg).later _⟩
      have runs := hrm.runs ses
      rw [System.runs_entered_ne (Nat.ne_of_gt (s.runs_below runs))]
      exact runs
    | crashed _ hre => cases hre
  refine System.Reached.knowing (D := callDiscipline) conducts ?_ ?_ ?_ ?_ hr hk
  · intro past _ g state k _ _ _ _ hb
    cases hb
    refine ⟨?_, ?_⟩
    · intro _ ses
      rw [System.runs_entered_self]
      cases g <;> cases ses
      rfl
    · intro pos hcg
      cases g <;> cases hcg
  · intro past w t k s _ next _ hrm
    exact hoth next hrm s
  · intro past t op _ r state k s _ _ _ ran hrm
    refine ⟨fun ses => ?_, fun {pos} hcg => ?_⟩
    · rw [show (callDiscipline.after k op r).session = k.session from Conduct.after_session] at ses
      exact hrm.runs ses
    · obtain hcg | he := Conduct.calling_after t state hcg
      · exact (hrm.begun hcg).later _
      · cases he
        refine ⟨state, List.mem_cons_self, ?_⟩
        have ch : past.state.Change (.entry pos .beginCall) true state := perform_change ran
        cases ch with
        | entry hl ch =>
          cases ch with
          | begun hac live =>
            exact ⟨_, List.getElem?_set_self (List.getElem?_eq_some_iff.mp hl).1, hac, live⟩
  · intro past w t k _ s _ next hrm
    exact hoth next hrm s

theorem mapped_of_next {xid : String} (next : callbacks.Next rule past w)
    (hmp : past.state.bridge.mappings xid = some pos) : w.state.bridge.mappings xid = some pos ∨
      ∃ t, w.trace = .performed t (.bridge (.remove pos)) () w.state :: past.trace := by
  cases next with
  | @performed pf _ _ r state _ ran =>
    cases perform_change ran with
    | @activated _ o _ _ free =>
      left
      have ne : xid ≠ o := by
        rintro rfl
        rw [free] at hmp
        cases hmp
      show (if xid = o then _ else past.state.bridge.mappings xid) = _
      rw [if_neg ne]
      exact hmp
    | @removed pl =>
      by_cases h : pl = pos
      · subst h
        exact .inr ⟨pf, rfl⟩
      left
      show (past.state.bridge.remove pl).mappings xid = _
      unfold Bridge.remove
      split
      · exact hmp
      split
      · rename_i e _ cur
        have ne : xid ≠ e.externalSessionID := by
          rintro rfl
          rw [hmp] at cur
          exact h (Option.some.inj cur).symm
        show (if xid = e.externalSessionID then _ else past.state.bridge.mappings xid) = _
        rw [if_neg ne]
        exact hmp
      · exact hmp
    | _ => exact .inl hmp
  | entered _ _ hst =>
    cases hst
    exact .inl hmp
  | crashed _ hre => cases hre

/-! ## The contract -/

theorem idle_after_close (hr : callbacks.Reached rule .new past)
    (hsp : past.trace = nw ++ hclg :: older) (closes : Closes pos hclg) :
    (∀ e ∈ nw, ¬Invokes pos e) ∧ ∀ t, invoking t pos past.trace = false := by
  obtain ⟨shut, none⟩ := shut_along hr hsp fun pre rcd =>
    shut_of_closes pre rcd closes
  exact ⟨none, fun _ => idle_of_shut hr shut⟩

theorem callback_bound {r : Unit} (hr : callbacks.Reached rule .new past) (hsp : past.trace =
      nw ++ .performed t (.entry pos .invoke) r state :: older) : ∃ xid inv av,
      System.runs t older = some (.serveHTTP xid) ∧ ActivatedBy av xid inv pos older ∧
      (state.On pos fun e => e.externalSessionID = xid ∧ e.invoker = inv) ∧
      BegunActive t pos older := by
  obtain ⟨⟨pr, trace, _⟩, s', rfl⟩ := hr.back hsp
  obtain ⟨pre, s, next, hrcd⟩ := s'.previous rfl
  obtain ⟨k, hk, may⟩ := knows_of_performed s'
  rw [← hrcd] at hk ⊢
  have hme := (sound_of_reached s).2 t k hk
  have hrm := remembers_of_reached s hk
  have hcg := hme.gate may.1
  obtain ⟨xid, ses, e, hl, hbd⟩ := hme.found (hme.calling hcg)
  obtain ⟨av, hav⟩ := activated_of_reached s hl
  rw [hbd] at hav
  refine ⟨xid, e.invoker, av, hrm.runs ses, hav, ?_, hrm.begun hcg⟩
  have ht : pre.state.On pos fun old =>
      old.externalSessionID = xid ∧ old.invoker = e.invoker :=
    ⟨e, hl, hbd, rfl⟩
  have h : state = pr := s'.entry_state rfl
  rw [h]
  refine ht.later (later_of_next next) ?_
  intro old new hch hh
  rw [hch.externalSessionID, hch.invoker]
  exact hh

/-- Over every interleaving of activations, callbacks and closes:

    * once an activation's `Close`, or a `Close` of the bridge that returned `nil`, has
      returned, no `Invoke` through the activation is running or begins;
    * at most one goroutine at a time is in an `Invoke` through one activation;
    * an `Invoke` is made by a callback authenticated for the external session the
      activation was made for, and the activation was active when that call began;
    * an activation leaves the map of external sessions only by its own removal. -/
theorem activations_isolated (reached : callbacks.Reached permitted .new past) :
    (∀ position newer closing older, past.trace = newer ++ closing :: older →
      Closes position closing →
      (∀ entry ∈ newer, ¬Invokes position entry) ∧
        ∀ thread, invoking thread position past.trace = false) ∧
    (∀ position thread other, invoking thread position past.trace = true →
      invoking other position past.trace = true → thread = other) ∧
    (∀ position thread response state newer older,
      past.trace = newer ++ .performed thread (.entry position .invoke) response state :: older →
      ∃ externalSessionID invoker activator,
        System.runs thread older = some (.serveHTTP externalSessionID) ∧
        ActivatedBy activator externalSessionID invoker position older ∧
        (state.On position fun entry =>
          entry.externalSessionID = externalSessionID ∧ entry.invoker = invoker) ∧
        BegunActive thread position older) ∧
    (∀ externalSessionID position changed, callbacks.Next permitted past changed →
      past.state.bridge.mappings externalSessionID = some position →
      changed.state.bridge.mappings externalSessionID = some position ∨
        ∃ thread, changed.trace =
          .performed thread (.bridge (.remove position)) () changed.state :: past.trace) := by
  refine ⟨fun position newer closing older split closes => idle_after_close reached split closes, ?_,
    fun position thread response state newer older split => callback_bound reached split,
    fun externalSessionID position changed next mapped => mapped_of_next next mapped⟩
  intro position thread other first second
  obtain ⟨known, knows, _, holds⟩ := knows_invoking reached first
  obtain ⟨value, otherKnows, _, otherHolds⟩ := knows_invoking reached second
  exact gate_exclusive reached knows holds otherKnows otherHolds

end Runs

/-- A callback is invoking while its activation is closed; the close returns when the
    callback has. -/
def closeDuringCall : List (Label Goroutine Choice) :=
  [.start (.activate "session" "ses_a" 7), .run 0 {}, .start (.serveHTTP "ses_a"),
    .run 1 {}, .run 1 {}, .run 1 {}, .run 1 {}, .run 1 { flag := true }, .run 1 {},
    .start (.closeActivation 0), .run 2 {}, .run 2 {}, .run 2 {}, .run 2 {}, .run 2 {},
    .run 1 {}, .run 1 { flag := true }, .run 1 {}, .run 1 {}, .run 3 {}, .run 3 {}, .run 2 {}]

def closesAfterInvoke (machine : Machine Calls Goroutine Past) : Bool :=
  match machine.state.trace with
  | .performed _ (.entry 0 .awaitClosed) _ _ :: older =>
    older.any fun
      | .performed _ (.entry 0 .invoke) _ _ => true
      | _ => false
  | _ => false

theorem activations_isolated_once :
    ∃ past closing older, callbacks.Reached (fun _ _ => true) .new past ∧
      past.trace = closing :: older ∧ Closes 0 closing ∧ (∃ entry ∈ older, Invokes 0 entry) ∧
      ∀ thread, invoking thread 0 past.trace = false := by
  have ran : (callbacks.ranBy (fun _ _ => true) .new closeDuringCall).any closesAfterInvoke = true := by
    decide +kernel
  obtain ⟨machine, ran, closes⟩ := (Option.any_eq_true _ _).mp ran
  have reached := System.reached_of_ranBy ran
  unfold closesAfterInvoke at closes
  split at closes
  · rename_i thread response state older recorded
    obtain ⟨entry, member, invokes⟩ := List.any_eq_true.mp closes
    refine ⟨machine.state, _, older, reached, recorded, .inl ⟨_, _, _, rfl⟩, ⟨entry, member, ?_⟩, ?_⟩
    · split at invokes
      · exact ⟨_, _, _, rfl⟩
      · cases invokes
    · exact ((activations_isolated reached).1 0 [] _ older recorded (.inl ⟨_, _, _, rfl⟩)).2
  · cases closes

end AISummoner.OpencodeBridge
