import AISummoner.OpencodeBridge.Reports
import AISummoner.OpencodeBridge.RunConduct

/-! # What holds when `Run` has returned

The one-slot channel between the callbacks and `Run` loses nothing: what was
sent is waiting in it or was received by the `Run` of that activation.  With the
token of the sink this gives the contract of both Adapters.
-/

namespace AISummoner.OpencodeBridge

open Concurrency Concurrency.Discipline
open Agent (AgentError)

/-! ## The channel of failures -/

def Takes (thread position : Nat) (error : AgentError) (entry : Entry) : Prop :=
  (∃ state, entry = .performed thread (.entry position .receiveFatal) (some error) state) ∨
    (∃ state, entry = .performed thread (.entry position .selectItem) (.fatal error) state) ∨
    ∃ stream state,
      entry = .performed thread (.adapter (.selectTurn stream position)) (.fatal error) state

def TakenBy (thread position : Nat) (error : AgentError) (trace : List Entry) : Prop :=
  ∃ entry ∈ trace, Takes thread position error entry

structure Delivered (past : Past) : Prop where
  slot : ∀ {position entry error}, past.state.bridge.entries[position]? = some entry →
    entry.fatal = some error → Sent position error past.trace
  delivered : ∀ {position error}, Sent position error past.trace →
    past.state.On position (·.fatal = some error) ∨ ∃ thread, TakenBy thread position error past.trace

variable {tr : List Entry} {st : Process} {res : Except AgentError Unit}

theorem Mapping.Change.received_eq {old new : Mapping} {ans : Option AgentError}
    (ch : old.Change .receiveFatal ans new) :
    ans = old.fatal ∧ new = { old with fatal := none } := by
  cases ch
  exact ⟨rfl, rfl⟩

section Channel

variable {op : Operation} {r : op.Response} {s s' : Process}
  {pos : Nat} {err : AgentError}

theorem Process.on_setEntry {prc : Process} {old new : Mapping} {prop : Mapping → Prop}
    (hl : prc.bridge.entries[pos]? = some old) (hh : prop new) :
    (prc.setEntry pos new).On pos prop :=
  ⟨new, by rw [Process.getElem?_setEntry hl, if_pos rfl], hh⟩

theorem Process.Change.fatal_cases {new : Mapping} (ch : s.Change op r s')
    (f : s'.bridge.entries[pos]? = some new) :
    (∃ old, s.bridge.entries[pos]? = some old ∧ new.fatal = old.fatal) ∨
      (∃ err old, op = .entry pos (.sendFatal err) ∧
        s.bridge.entries[pos]? = some old ∧ new.fatal = some (old.fatal.getD err)) ∨
      new.fatal = none := by
  have aside {pl : Nat} {old mp : Mapping}
      (hl : s.bridge.entries[pl]? = some old)
      (f : (s.setEntry pl mp).bridge.entries[pos]? = some new) :
      pl = pos ∧ new = mp ∨ s.bridge.entries[pos]? = some new := by
    rw [Process.getElem?_setEntry hl] at f
    split at f
    · exact .inl ⟨Eq.symm ‹_›, (Option.some.inj f).symm⟩
    · exact .inr f
  cases ch with
  | @entry pl old mp _ _ hl ch =>
    cases ch with
    | @sent err =>
      obtain ⟨rfl, rfl⟩ | f := aside hl f
      · exact .inr (.inl ⟨err, old, rfl, hl, rfl⟩)
      · exact .inl ⟨new, f, rfl⟩
    | received | selectedFatal =>
      exact (aside hl f).elim (fun ⟨_, h⟩ => .inr (.inr (h ▸ rfl))) fun f =>
        .inl ⟨new, f, rfl⟩
    | _ =>
      obtain ⟨rfl, rfl⟩ | f := aside hl f
      · exact .inl ⟨_, hl, rfl⟩
      · exact .inl ⟨new, f, rfl⟩
  | @selectedFatal _ pl mp err hl _ =>
    exact (aside hl f).elim (fun ⟨_, h⟩ => .inr (.inr (h ▸ rfl))) fun f =>
      .inl ⟨new, f, rfl⟩
  | @activated pid xid inv _ _ =>
    have hin : (s.bridge.entries ++ [Mapping.new pid xid inv])[pos]? = some new := f
    rw [List.getElem?_append] at hin
    split at hin
    · exact .inl ⟨new, hin, rfl⟩
    · have only := List.mem_singleton.mp (List.mem_of_getElem? hin)
      rw [only]
      exact .inr (.inr rfl)
  | @removed pl =>
    rw [show (s.bridge.remove pl).entries = s.bridge.entries from
      (s.bridge.remove_entries pl).1] at f
    exact .inl ⟨new, f, rfl⟩
  | _ => exact .inl ⟨new, f, rfl⟩

theorem Process.Change.fatal_kept (ch : s.Change op r s')
    (wa : s.On pos (·.fatal = some err)) (t : Nat) : s'.On pos (·.fatal = some err) ∨
      Takes t pos err (.performed t op r s') := by
  obtain ⟨e, hf, wa⟩ := wa
  have aside {pl : Nat} {old hmp : Mapping}
      (hl : s.bridge.entries[pl]? = some old)
      (kept : pl = pos → hmp.fatal = some err) :
      (s.setEntry pl hmp).On pos (·.fatal = some err) := by
    by_cases h : pos = pl
    · subst h
      exact Process.on_setEntry hl (kept rfl)
    · exact ⟨e, by rw [Process.getElem?_setEntry hl, if_neg h]; exact hf, wa⟩
  cases ch with
  | @entry pl old hmp _ _ hl ch =>
    have here (h : pl = pos) : old.fatal = some err := by
      subst h
      rw [hl] at hf
      cases hf
      exact wa
    cases ch with
    | @sent b =>
      refine .inl (aside hl fun h => ?_)
      show some (old.fatal.getD b) = some err
      rw [here h]
      rfl
    | received =>
      by_cases h : pl = pos
      · subst h
        right
        left
        refine ⟨s.setEntry pl { old with fatal := none }, ?_⟩
        rw [here rfl]
      · exact .inl (aside hl fun he => absurd he h)
    | @selectedFatal b hwt =>
      by_cases h : pl = pos
      · subst h
        cases hwt.symm.trans (here rfl)
        exact .inr (.inr (.inl ⟨_, rfl⟩))
      · exact .inl (aside hl fun he => absurd he h)
    | _ => exact .inl (aside hl here)
  | @selectedFatal stream pl hmp b hl hwt =>
    by_cases h : pl = pos
    · subst h
      rw [hl] at hf
      cases hf
      cases hwt.symm.trans wa
      exact .inr (.inr (.inr ⟨stream, _, rfl⟩))
    · exact .inl (aside hl fun he => absurd he h)
  | @activated _ _ _ _ _ =>
    left
    have hi := (List.getElem?_eq_some_iff.mp hf).1
    exact ⟨e, by rw [← hf]; exact List.getElem?_append_left hi, wa⟩
  | @removed pl =>
    left
    refine ⟨e, ?_, wa⟩
    show (s.bridge.remove pl).entries[pos]? = some e
    rw [(s.bridge.remove_entries pl).1]
    exact hf
  | _ => exact .inl ⟨e, hf, wa⟩

end Channel

/-! ## What `Run` knows -/

structure Running.Recalls (past : Past) (thread : Nat) (known : Running) : Prop where
  activated : ∀ {externalSessionID invoker position},
    ActivatedBy thread externalSessionID invoker position past.trace →
    known.activation = some position
  taken : ∀ {position error}, TakenBy thread position error past.trace →
    known.activation = some position ∧ known.took = some error
  sent : ∀ {position error}, known.activation = some position → known.took = some error →
    Sent position error past.trace
  closed : ∀ {position}, known.activation = some position → known.closed = true →
    past.state.On position (·.closeDone = true)
  polled : ∀ {position}, known.activation = some position → known.polled = true →
    past.state.On position fun entry => entry.fatal = none ∧ entry.closeDone = true
  joined : ∀ {stream}, known.stream = some stream → known.joined = true →
    (past.state.streams[stream]?).any Stream.done = true

variable {op : Operation} {r : op.Response} {k : Running}

section Steps

variable {rule : Step → Past → Bool} {past w : Past} {t pos : Nat}
  {e : Entry} {err : AgentError}

theorem TakenBy.cons (ta : TakenBy t pos err tr) (e : Entry) : TakenBy t pos err (e :: tr) := by
  obtain ⟨o, hm, htk⟩ := ta
  exact ⟨o, List.mem_cons_of_mem _ hm, htk⟩

theorem done_of_change {s s' : Process} {stream : Nat} (ch : s.Change op r s')
    (done : (s.streams[stream]?).any Stream.done) : (s'.streams[stream]?).any Stream.done := by
  have aside {pl : Nat} {hup : Stream → Stream}
      (kept : ∀ rd : Stream, rd.done → (hup rd).done) :
      ((s.setStream pl hup).streams[stream]?).any Stream.done := by
    obtain ⟨rd, hf, done⟩ := (Option.any_eq_true _ _).mp done
    show ((s.streams.modify pl hup)[stream]?).any Stream.done = true
    rw [List.getElem?_modify, hf]
    show Stream.done _ = true
    split
    · exact kept rd done
    · exact done
  cases ch with
  | newStream =>
    obtain ⟨rd, hf, done⟩ := (Option.any_eq_true _ _).mp done
    have hi := (List.getElem?_eq_some_iff.mp hf).1
    show ((s.streams ++ [({} : Stream)])[stream]?).any Stream.done = true
    rw [List.getElem?_append_left hi, hf]
    exact done
  | sent | selectedResult => exact aside fun _ => id
  | streamClosed => exact aside fun _ _ => rfl
  | _ => exact done

theorem done_of_next {stream : Nat} (next : callbacks.Next rule past w)
    (done : (past.state.streams[stream]?).any Stream.done) :
    (w.state.streams[stream]?).any Stream.done := by
  cases next with
  | performed _ ran => exact done_of_change (perform_change ran) done
  | entered _ _ hst => cases hst; exact done
  | crashed _ hre => cases hre

theorem polled_of_next (s : callbacks.Reached rule .new past)
    (s' : callbacks.Reached rule .new w) (next : callbacks.Next rule past w)
    (polled : past.state.On pos fun e => e.fatal = none ∧ e.closeDone) :
    w.state.On pos fun e => e.fatal = none ∧ e.closeDone := by
  obtain ⟨e, hf, hem, done⟩ := polled
  obtain ⟨new, hl, hch⟩ := (later_of_next next).entries hf
  refine ⟨new, hl, ?_, hch.closeDone done⟩
  cases next with
  | @performed pf _ _ r _ _ ran =>
    obtain ⟨old, ht, h⟩ | ⟨_, old, rfl, ht, _⟩ | none := (perform_change ran).fatal_cases hl
    · rw [hf] at ht
      cases ht
      rw [h]
      exact hem
    · obtain ⟨k, hk, may⟩ := knows_of_performed s'
      have hcg := ((sound_of_reached s).2 pf k hk).gate may.1
      exact absurd hcg (not_calling_of_closeDone s ⟨e, hf, done⟩ hk)
    · exact none
  | entered _ _ hst =>
    cases hst
    rw [hf] at hl
    cases hl
    exact hem
  | crashed _ hre => cases hre

structure Process.Lasts (before after : Process) : Prop where
  closed : ∀ {position : Nat}, before.On position (·.closeDone = true) →
    after.On position (·.closeDone = true)
  polled : ∀ {position : Nat},
    (before.On position fun entry => entry.fatal = none ∧ entry.closeDone = true) →
    after.On position fun entry => entry.fatal = none ∧ entry.closeDone = true
  joined : ∀ {stream : Nat}, (before.streams[stream]?).any Stream.done = true →
    (after.streams[stream]?).any Stream.done = true

theorem lasts_of_next (s : callbacks.Reached rule .new past)
    (s' : callbacks.Reached rule .new w) (next : callbacks.Next rule past w) :
    past.state.Lasts w.state where
  closed closed := closed.later (later_of_next next) fun _ _ hch => hch.closeDone
  polled := polled_of_next s s' next
  joined := done_of_next next

theorem Running.Recalls.unchanged {v : Running} (hrc : k.Recalls past t)
    (lasts : past.state.Lasts w.state) (hrcd : w.trace = e :: past.trace)
    (untaken : ∀ pos err, ¬Takes t pos err e) (unactivated : ∀ pid xid inv pos st,
      e ≠ .performed t (.bridge (.activate pid xid inv))
        (.ok pos) st) (h : v.activation = k.activation ∧ v.took = k.took ∧
      v.closed = k.closed ∧ v.polled = k.polled ∧ v.stream = k.stream ∧
      v.joined = k.joined) : v.Recalls w t := by
  obtain ⟨hactv, took, hcl, polled, stream, hjo⟩ := h
  refine ⟨?_, ?_, ?_, ?_, ?_, ?_⟩
  · intro xid inv pos ab
    rw [hrcd] at ab
    rw [hactv]
    obtain ⟨pid, st, hm⟩ := ab
    obtain he | hm := List.mem_cons.mp hm
    · exact absurd he.symm (unactivated _ _ _ _ _)
    · exact hrc.activated ⟨pid, st, hm⟩
  · intro pos err takenBy
    rw [hrcd] at takenBy
    rw [hactv, took]
    obtain ⟨o, hm, htk⟩ := takenBy
    obtain rfl | hm := List.mem_cons.mp hm
    · exact absurd htk (untaken pos err)
    · exact hrc.taken ⟨o, hm, htk⟩
  · intro pos err how hta
    rw [hrcd]
    exact (hrc.sent (hactv ▸ how) (took ▸ hta)).cons e
  · intro pos how isClosed
    exact lasts.closed (hrc.closed (hactv ▸ how) (hcl ▸ isClosed))
  · intro pos how isPolled
    exact lasts.polled (hrc.polled (hactv ▸ how) (polled ▸ isPolled))
  · intro n how isJoined
    exact lasts.joined (hrc.joined (stream ▸ how) (hjo ▸ isJoined))

theorem Delivered.performed {cho : Choice} (hdl : Delivered past)
    (s' : callbacks.Reached rule .new (past.perform t op r st))
    (ran : callbacks.execute t op cho past.state = some (r, st)) :
    Delivered (past.perform t op r st) := by
  have ch : past.state.Change op r st := perform_change ran
  have slot {pos : Nat} {mp : Mapping} {err : AgentError}
      (hf : st.bridge.entries[pos]? = some mp) (hwa : mp.fatal = some err) :
      Sent pos err (.performed t op r st :: past.trace) := by
    obtain ⟨old, ht, h⟩ | ⟨b, old, rfl, ht, set⟩ | none := ch.fatal_cases hf
    · exact (hdl.slot ht (h ▸ hwa)).cons _
    · cases full : old.fatal with
      | some a =>
        rw [set, full] at hwa
        cases hwa
        exact (hdl.slot ht full).cons _
      | none =>
        rw [set, full] at hwa
        cases hwa
        exact ⟨t, r, st, List.mem_cons_self⟩
    · cases none.symm.trans hwa
  refine ⟨slot, ?_⟩
  intro pos err sent
  obtain ⟨sender, ans, then_, hm⟩ := sent
  obtain he | hm := List.mem_cons.mp hm
  · -- the slot now holds this failure: there is no other
    cases he
    left
    cases ch with
    | @entry _ old new _ _ hl ch =>
      cases ch with
      | sent =>
        refine Process.on_setEntry hl ?_
        have full : Sent pos (old.fatal.getD err) _ :=
          slot (by rw [Process.getElem?_setEntry hl, if_pos rfl]) rfl
        exact congrArg some (sent_unique s' full ⟨_, _, _, List.mem_cons_self⟩)
  · obtain hwa | ⟨taker, hta⟩ := hdl.delivered ⟨sender, ans, then_, hm⟩
    · exact (ch.fatal_kept hwa t).imp id fun htk =>
        ⟨t, _, List.mem_cons_self, htk⟩
    · exact .inr ⟨taker, hta.cons _⟩

theorem sent_of_takes (hdl : Delivered past) (ch : past.state.Change op r st)
    (tk : Takes t pos err (.performed t op r st)) : Sent pos err past.trace := by
  obtain ⟨_, he⟩ | ⟨_, he⟩ | ⟨_, _, he⟩ := tk
  · cases he
    cases ch with
    | entry hl ch => exact hdl.slot hl ch.received_eq.1.symm
  · cases he
    cases ch with
    | entry hl ch =>
      cases ch with
      | selectedFatal hwt => exact hdl.slot hl hwt
  · cases he
    cases ch with
    | selectedFatal hl hwt => exact hdl.slot hl hwt

theorem Running.Recalls.take (hrc : k.Recalls past t)
    (s' : callbacks.Reached rule .new (past.perform t op r st))
    (lasts : past.state.Lasts st) (hdl : Delivered past) (ch : past.state.Change op r st)
    (tk : Takes t pos err (.performed t op r st)) (how : k.activation = some pos) {v : Running}
    (h : v.activation = k.activation ∧ v.took = some err ∧
      v.closed = k.closed ∧ v.stream = k.stream ∧ v.joined = k.joined)
    (polled : v.polled → k.polled ∨ st.On pos fun e => e.fatal = none ∧ e.closeDone) :
    v.Recalls (past.perform t op r st) t := by
  obtain ⟨hactv, took, hcl, stream, hjo⟩ := h
  have sent := (sent_of_takes hdl ch tk).cons (.performed t op r st)
  refine ⟨?_, ?_, ?_, ?_, ?_, ?_⟩
  · intro _ _ pl ab
    obtain ⟨pid, then_, hm⟩ := ab
    rw [hactv]
    obtain he | hm := List.mem_cons.mp hm
    · -- receiving is not activating
      cases he
      obtain ⟨_, he⟩ | ⟨_, he⟩ | ⟨_, _, he⟩ := tk <;> cases he
    · exact hrc.activated ⟨pid, then_, hm⟩
  · intro pl b takenBy
    obtain ⟨o, hm, again⟩ := takenBy
    rw [hactv, took]
    obtain rfl | hm := List.mem_cons.mp hm
    · obtain ⟨_, he⟩ | ⟨_, he⟩ | ⟨_, _, he⟩ := tk <;> cases he <;>
        obtain ⟨_, he⟩ | ⟨_, he⟩ | ⟨_, _, he⟩ := again <;> cases he <;>
        exact ⟨how, rfl⟩
    -- there is only one failure to receive
    have hpre := hrc.taken ⟨o, hm, again⟩
    refine ⟨hpre.1, ?_⟩
    cases how.symm.trans hpre.1
    have ha := (hrc.sent hpre.1 hpre.2).cons (.performed t op r st)
    exact congrArg some (sent_unique s' sent ha)
  · intro pl b hh hta
    cases how.symm.trans (hactv ▸ hh)
    cases took.symm.trans hta
    exact sent
  · intro pl hh isClosed
    exact lasts.closed (hrc.closed (hactv ▸ hh) (hcl ▸ isClosed))
  · intro pl hh isPolled
    obtain old | now := polled isPolled
    · exact lasts.polled (hrc.polled (hactv ▸ hh) old)
    · cases how.symm.trans (hactv ▸ hh)
      exact now
  · intro n hh isJoined
    exact lasts.joined (hrc.joined (stream ▸ hh) (hjo ▸ isJoined))

def teaches : Operation → Bool
  | .entry _ .awaitClosed => true
  | .entry _ .receiveFatal => true
  | .entry _ .selectItem => true
  | .bridge (.activate _ _ _) => true
  | .adapter (.selectTurn _ _) => true
  | .adapter .newStream => true
  | .adapter (.awaitStream _) => true
  | _ => false

theorem Running.after_untaught (untaught : teaches op = false) :
    (k.after op r).activation = k.activation ∧ (k.after op r).took = k.took ∧
      (k.after op r).closed = k.closed ∧ (k.after op r).polled = k.polled ∧
      (k.after op r).stream = k.stream ∧ (k.after op r).joined = k.joined := by
  cases op with
  | entry _ op =>
    cases op with
    | awaitClosed | receiveFatal | selectItem => cases untaught
    | _ => exact ⟨rfl, rfl, rfl, rfl, rfl, rfl⟩
  | bridge op =>
    cases op with
    | activate => cases untaught
    | _ => exact ⟨rfl, rfl, rfl, rfl, rfl, rfl⟩
  | adapter op =>
    cases op with
    | selectTurn | newStream | awaitStream => cases untaught
    | _ => exact ⟨rfl, rfl, rfl, rfl, rfl, rfl⟩

theorem not_takes_of_untaught (untaught : teaches op = false) :
    ¬Takes t pos err (.performed t op r st) := by
  intro tk
  obtain ⟨_, he⟩ | ⟨_, he⟩ | ⟨_, _, he⟩ := tk <;> cases he <;> cases untaught

theorem Running.Recalls.performed (hrc : k.Recalls past t)
    (s' : callbacks.Reached rule .new (past.perform t op r st))
    (lasts : past.state.Lasts st) (hdl : Delivered past)
    (ch : past.state.Change op r st) (may : k.may op) : (k.after op r).Recalls
      (past.perform t op r st) t := by
  by_cases taught : teaches op = false
  · refine hrc.unchanged lasts rfl (fun _ _ => not_takes_of_untaught taught) ?_
      (Running.after_untaught taught)
    intro _ _ _ _ _ he
    cases he
    cases taught
  -- what it knew before lasts, unless it receives a failure or activates
  have kept (untaken : ∀ pos err, ¬Takes t pos err (.performed t op r st))
      (unactivated : ∀ pid xid inv pos then_, (.performed t op r st : Entry) ≠
          .performed t (.bridge (.activate pid xid inv)) (.ok pos) then_) : k.Recalls
      (past.perform t op r st) t :=
    hrc.unchanged lasts rfl untaken unactivated ⟨rfl, rfl, rfl, rfl, rfl, rfl⟩
  cases ch with
  | @entry pl old new _ r hl ch =>
    cases ch with
    | awaited done =>
      have kept := kept (fun _ _ tk => by
        obtain ⟨_, he⟩ | ⟨_, he⟩ | ⟨_, _, he⟩ := tk <;> cases he) nofun
      refine { kept with closed := ?_ }
      intro pos how hcl
      have either : k.closed ∨ k.activation = some pl := by
        simpa [Running.after] using hcl
      obtain hcl | waited := either
      · exact kept.closed how hcl
      · cases waited.symm.trans how
        exact lasts.closed ⟨old, hl, done⟩
    | received =>
      have hem : (past.state.setEntry pl { old with fatal := none }).On pl
          (·.fatal = none) := Process.on_setEntry hl rfl
      have polled (hcl : k.closed) :
          (past.state.setEntry pl { old with fatal := none }).On pl fun e =>
            e.fatal = none ∧ e.closeDone := by
        obtain ⟨e, hf, none⟩ := hem
        obtain ⟨_, ht, done⟩ := lasts.closed (hrc.closed may hcl)
        rw [hf] at ht
        cases ht
        exact ⟨e, hf, none, done⟩
      cases hwt : old.fatal with
      | some err =>
        rw [hwt] at s'
        refine hrc.take s' lasts hdl ?_ (.inl ⟨_, rfl⟩) may
          ⟨rfl, rfl, rfl, rfl, rfl⟩ fun hcl => .inr (polled hcl)
        rw [← hwt]
        exact .entry hl .received
      | none =>
        rw [hwt] at kept
        have kept := kept (fun _ _ tk => by
          obtain ⟨_, he⟩ | ⟨_, he⟩ | ⟨_, _, he⟩ := tk <;> cases he) nofun
        refine { kept with polled := ?_ }
        intro pos how hcl
        cases Eq.symm may |>.trans how
        exact polled hcl
    | @selectedFatal err hwt =>
      exact hrc.take s' lasts hdl (.entry hl (.selectedFatal hwt))
        (.inr (.inl ⟨_, rfl⟩)) may ⟨rfl, rfl, rfl, rfl, rfl⟩ .inl
    | selectedEnd | selectedEvent =>
      refine hrc.unchanged lasts rfl ?_ nofun ⟨rfl, rfl, rfl, rfl, rfl, rfl⟩
      intro _ _ tk
      obtain ⟨_, he⟩ | ⟨_, he⟩ | ⟨_, _, he⟩ := tk <;> cases he
    | _ => exact absurd rfl taught
  | @selectedFatal stream pl mp err hl hwt =>
    exact hrc.take s' lasts hdl (.selectedFatal hl hwt)
      (.inr (.inr ⟨stream, _, rfl⟩)) may ⟨rfl, rfl, rfl, rfl, rfl⟩ .inl
  | selectedResult | selectedEnd | notActivated =>
    refine hrc.unchanged lasts rfl ?_ nofun ⟨rfl, rfl, rfl, rfl, rfl, rfl⟩
    intro _ _ tk
    obtain ⟨_, he⟩ | ⟨_, he⟩ | ⟨_, _, he⟩ := tk <;> cases he
  | @activated pid xid inv _ _ =>
    obtain ⟨hun, untaken, unclosed, unpolled⟩ := may
    refine ⟨?_, ?_, ?_, ?_, ?_, hrc.joined⟩
    · intro o b pos ab
      obtain ⟨product, then_, hm⟩ := ab
      obtain he | hm := List.mem_cons.mp hm
      · cases he
        rfl
      · cases hun.symm.trans (hrc.activated ⟨product, then_, hm⟩)
    · intro pos err takenBy
      obtain ⟨o, hm, tk⟩ := takenBy
      obtain rfl | hm := List.mem_cons.mp hm
      · obtain ⟨_, he⟩ | ⟨_, he⟩ | ⟨_, _, he⟩ := tk <;> cases he
      · cases hun.symm.trans (hrc.taken ⟨o, hm, tk⟩).1
    · intro pos err _ hta
      cases untaken.symm.trans hta
    · intro pos _ hcl
      cases unclosed.symm.trans hcl
    · intro pos _ polled
      cases unpolled.symm.trans polled
  | newStream =>
    have kept := kept (fun _ _ tk => by
      obtain ⟨_, he⟩ | ⟨_, he⟩ | ⟨_, _, he⟩ := tk <;> cases he) nofun
    refine { kept with joined := ?_ }
    intro n _ hjo
    cases may.2.2.2.symm.trans hjo
  | @streamAwaited stream done =>
    have kept := kept (fun _ _ tk => by
      obtain ⟨_, he⟩ | ⟨_, he⟩ | ⟨_, _, he⟩ := tk <;> cases he) nofun
    refine { kept with joined := ?_ }
    intro n how _
    cases Eq.symm may |>.trans how
    exact done
  | _ => exact absurd rfl taught

theorem delivered_of_reached (hr : callbacks.Reached rule .new past) :
    Delivered past ∧ ∀ t k, runDiscipline.knows t past.trace = some k → k.Recalls past t := by
  refine System.Reached.understood runs_conduct (fun _ => ⟨_, rfl⟩) Delivered
    (fun past t k => k.Recalls past t) ?_ ?_ ?_ ?_ ?_ ?_ nofun hr
  · refine ⟨fun hl => ?_, fun sent => ?_⟩
    · cases hl
    · obtain ⟨_, _, _, hm⟩ := sent
      cases hm
  · intro past t op _ r st k s s' hs hme hk may
      allowed ran
    exact ⟨hs.performed s' ran, (hme t k hk).performed s'
      (lasts_of_next s s' (.performed allowed ran)) hs (perform_change ran) may⟩
  · intro past w t k s s' next hel hk hs hrc
    obtain ⟨e, rcd, _⟩ := next.trace
    refine (hrc t k hk).unchanged (lasts_of_next s s' next) rcd ?_ ?_
      ⟨rfl, rfl, rfl, rfl, rfl, rfl⟩
    · intro pos err tk
      obtain ⟨_, he⟩ | ⟨_, he⟩ | ⟨_, _, he⟩ := tk <;> rw [he] at rcd <;>
        exact hel.2 _ _ _ rcd
    · intro _ _ _ _ _ he
      rw [he] at rcd
      exact hel.2 _ _ _ rcd
  · intro past pa g st _ hs hst
    cases hst
    refine ⟨fun hf hwa => (hs.slot hf hwa).cons _, ?_⟩
    intro pos err sent
    obtain ⟨sender, ans, then_, hm⟩ := sent
    obtain he | hm := List.mem_cons.mp hm
    · cases he
    · exact (hs.delivered ⟨sender, ans, then_, hm⟩).imp id
        fun ⟨taker, hta⟩ => ⟨taker, hta.cons _⟩
  · intro past pa g st k s _ _ _ hst hb
    cases hb
    -- a new goroutine has done nothing
    have none {op : Operation} {r : op.Response} {then_ : Process}
        (hm : .performed past.threads op r then_ ∈
          (.entered pa past.threads g st :: past.trace : List Entry)) : False := by
      obtain he | hm := List.mem_cons.mp hm
      · cases he
      · obtain ⟨k, hk⟩ := knows_of_member s hm
        exact absurd (s.knows_below hk) (Nat.lt_irrefl _)
    refine ⟨?_, ?_, nofun, nofun, nofun, nofun⟩
    · intro _ _ _ ab
      obtain ⟨_, _, hm⟩ := ab
      exact (none hm).elim
    · intro _ _ takenBy
      obtain ⟨_, hm, ⟨_, rfl⟩ | ⟨_, rfl⟩ | ⟨_, _, rfl⟩⟩ := takenBy <;> exact (none hm).elim
  · intro past t k _ st _ _ _ hst hrc
    cases hst
    refine hrc.unchanged ⟨id, id, id⟩ rfl ?_ nofun ⟨rfl, rfl, rfl, rfl, rfl, rfl⟩
    intro _ _ tk
    obtain ⟨_, he⟩ | ⟨_, he⟩ | ⟨_, _, he⟩ := tk <;> cases he

end Steps

/-! ## One owner each -/

def Running.ownsStream (stream : Nat) (known : Running) : Bool := known.stream = some stream

def Running.ownsActivation (position : Nat) (known : Running) : Bool := known.activation = some position

/-- The right to use the sink of a `Run` beside it. -/
def Running.hasToken (stream : Nat) (known : Running) : Bool :=
  (decide (known.stream = some stream) && !known.reader) ||
    (decide (known.reads = some stream) && !known.finished)

def Process.unread (process : Process) (stream : Nat) : Nat :=
  (process.streams[stream]?).elim 0 fun reader => (!reader.done).toNat

section Owners

variable {rule : Step → Past → Bool} {past : Past} {op : Operation}
  {r : op.Response} {s s' : Process} {k : Running} {stream pos : Nat}

theorem Process.Change.streams_length (ch : s.Change op r s')
    (ho : op ≠ .adapter .newStream) : s'.streams.length = s.streams.length := by
  cases ch with
  | newStream => exact absurd rfl ho
  | sent | selectedResult | streamClosed => exact List.length_modify _ _ _
  | _ => rfl

theorem Process.Change.entries_length (ch : s.Change op r s')
    (ho : ∀ pid xid inv, op ≠ .bridge (.activate pid xid inv)) :
    s'.bridge.entries.length = s.bridge.entries.length := by
  cases ch with
  | entry hl ch | selectedFatal hl hwt => exact List.length_set
  | activated _ _ => exact absurd rfl (ho _ _ _)
  | @removed pl => exact congrArg List.length (s.bridge.remove_entries pl).1
  | _ => rfl

theorem owner_of_reached (size : Process → Nat) (claim : Running → Option Nat) (pos : Nat)
    (hb : size .new = 0) (ps : ∀ {op : Operation} {r : op.Response} {s s' k},
      s.Change op r s' → k.may op → (size s' = size s ∧ claim (k.after op r) = claim k) ∨
        claim k = none ∧ size s' = size s + 1 ∧ claim (k.after op r) = some (size s))
    (starts : ∀ g, claim { reads := Running.streamOf g } = none)
    (forks : ∀ k cd, claim (Running.afterFork k cd) = claim k)
    (hr : callbacks.Reached rule .new past) :
    runDiscipline.tally (fun k => claim k = some pos) past =
      (decide (pos < size past.state)).toNat := by
  refine tally_eq_of_reached runs_conduct (fun _ => ⟨_, rfl⟩)
    (fun prc => (decide (pos < size prc)).toNat) ?_ ?_ ?_ ?_ ?_ nofun hr
  · simp [hb]
  · intro past t op _ r st k _ _ may _ ran
    show _ = _ + (decide (claim (k.after op r) = some pos)).toNat
    obtain ⟨h, kept⟩ | ⟨hun, grown, how⟩ := ps (perform_change ran) may
    · rw [h, kept]
    rw [hun, grown, how]
    by_cases last : size past.state = pos
    · simp [last]
    · have h : pos < size past.state + 1 ↔ pos < size past.state := by omega
      simp [h, last]
  · intro _ t g st w hst
    cases hst
    rfl
  · intro g st _
    simp [runDiscipline, starts]
  · intro k cd _
    simp [runDiscipline, starts, forks]

theorem streamOwner (hr : callbacks.Reached rule .new past) :
    runDiscipline.tally (Running.ownsStream stream) past =
      (decide (stream < past.state.streams.length)).toNat := by
  refine owner_of_reached (·.streams.length) (·.stream) stream rfl ?_ (fun _ => rfl)
    (fun _ _ => rfl) hr
  intro op r s _ k ch may
  by_cases new : op = .adapter .newStream
  · subst new
    cases ch with
    | newStream => exact .inr ⟨may.1, List.length_append, rfl⟩
  · exact .inl ⟨ch.streams_length new, (k.apart op r).stream new⟩

theorem activationOwner (hr : callbacks.Reached rule .new past) :
    runDiscipline.tally (Running.ownsActivation pos) past =
      (decide (pos < past.state.bridge.entries.length)).toNat := by
  refine owner_of_reached (·.bridge.entries.length) (·.activation) pos rfl ?_ (fun _ => rfl)
    (fun _ _ => rfl) hr
  intro op r s _ k ch may
  by_cases new : ∃ pid xid inv, op = .bridge (.activate pid xid inv)
  · obtain ⟨pid, xid, inv, rfl⟩ := new
    cases ch with
    | notActivated => exact .inl ⟨rfl, rfl⟩
    | activated _ _ => exact .inr ⟨may.1, List.length_append, rfl⟩
  · have ho : ∀ pid xid inv,
        op ≠ .bridge (.activate pid xid inv) :=
      fun _ _ _ he => new ⟨_, _, _, he⟩
    exact .inl ⟨ch.entries_length ho, (k.apart op r).activation ho⟩

theorem unread_setStream {up : Stream → Stream} {pl : Nat}
    (kept : stream = pl → ∀ rd : Stream, (up rd).done = rd.done) :
    (s.setStream pl up).unread stream = s.unread stream := by
  show ((s.streams.modify pl up)[stream]?).elim 0 _ = (s.streams[stream]?).elim 0 _
  rw [List.getElem?_modify]
  cases s.streams[stream]? with
  | none => rfl
  | some rd =>
    by_cases h : pl = stream
    · simp [h, kept h.symm rd]
    · simp [h]

theorem Running.hasToken_after (hop : op ≠ .adapter .newStream)
    (unclosed : ∀ stream, op ≠ .adapter (.closeStream stream)) :
    (k.after op r).hasToken stream = k.hasToken stream := by
  have hap := k.apart op r
  unfold hasToken
  rw [hap.stream hop, hap.reader, hap.reads, hap.finished unclosed]

theorem Process.Change.token (ch : s.Change op r s') (may : k.may op)
    (ct : k.hasToken stream → 0 < s.unread stream) : s'.unread stream + (k.hasToken stream).toNat =
      s.unread stream + ((k.after op r).hasToken stream).toNat := by
  have kept (hop : op ≠ .adapter .newStream)
      (unclosed : ∀ stream, op ≠ .adapter (.closeStream stream))
      (h : s'.unread stream = s.unread stream) :
      s'.unread stream + (k.hasToken stream).toNat =
        s.unread stream + ((k.after op r).hasToken stream).toNat := by
    rw [h, Running.hasToken_after hop unclosed]
  cases ch with
  | newStream =>
    obtain ⟨hun, hunr, unstarted, _⟩ := may
    have none : k.hasToken stream = false := by simp [Running.hasToken, hun, hunr]
    have hgi : (k.after (.adapter .newStream) s.streams.length).hasToken stream =
        decide (some s.streams.length = some stream) := by
      simp [Running.hasToken, Running.after, hunr, unstarted]
    rw [none, hgi]
    show ((s.streams ++ [({} : Stream)])[stream]?).elim 0 _ + 0 = _
    rw [List.getElem?_append, Process.unread]
    by_cases hi : stream < s.streams.length
    · rw [if_pos hi, decide_eq_false fun h => Nat.ne_of_gt hi (Option.some.inj h)]
      rfl
    rw [if_neg hi, List.getElem?_eq_none (Nat.le_of_not_lt hi)]
    by_cases last : s.streams.length = stream
    · subst last
      simp
    · have hou : stream - s.streams.length ≠ 0 := by omega
      obtain ⟨_, he⟩ := Nat.exists_eq_succ_of_ne_zero hou
      simp [he, last]
  | @streamClosed pl =>
    obtain ⟨reads, huf, hun⟩ := may
    have hov : (k.after (.adapter (.closeStream pl)) ()).hasToken stream = false := by
      simp [Running.hasToken, Running.after, hun]
    have hh : k.hasToken stream = decide (some pl = some stream) := by
      simp [Running.hasToken, reads, huf, hun]
    rw [hov]
    by_cases h : pl = stream
    · subst h
      have has : k.hasToken pl := by rw [hh]; simp
      have hpos := ct has
      rw [has]
      show ((s.streams.modify pl _)[pl]?).elim 0 _ + 1 = s.unread pl + 0
      unfold Process.unread at hpos ⊢
      rw [List.getElem?_modify]
      cases hl : s.streams[pl]? with
      | none => rw [hl] at hpos; cases hpos
      | some rd =>
        rw [hl] at hpos
        have hunr : rd.done = false := by
          cases done : rd.done with
          | false => rfl
          | true => simp [done] at hpos
        simp [hunr]
    · rw [hh, decide_eq_false fun he => h (Option.some.inj he),
        unread_setStream fun he => absurd he.symm h]
  | sent | selectedResult => exact kept nofun nofun (unread_setStream fun _ _ => rfl)
  | _ => exact kept nofun nofun rfl

theorem tokens (hr : callbacks.Reached rule .new past) :
    runDiscipline.tally (Running.hasToken stream) past = past.state.unread stream := by
  refine tally_eq_of_reached runs_conduct (fun _ => ⟨_, rfl⟩) (Process.unread · stream) rfl
    ?_ ?_ ?_ ?_ nofun hr
  · intro past t _ _ r st k _ _ may hct ran
    exact (perform_change ran).token may hct
  · intro _ t g st w hst
    cases hst
    rfl
  · intro g st ad
    have hou : admits g := ad
    cases g <;> first | rfl | cases hou
  · intro k cd may
    show (({ k with reader := k.reader || (Running.streamOf cd).isSome } :
      Running).hasToken stream).toNat +
        (Running.hasToken stream { reads := Running.streamOf cd }).toNat = _
    cases reads : Running.streamOf cd with
    | none => simp [Running.hasToken]
    | some n =>
      obtain ⟨how, unstarted, unr, _⟩ := may n reads
      simp [Running.hasToken, how, unstarted, unr]

end Owners

/-! ## After the return -/

def Sinks (stream : Nat) (entry : Entry) : Prop :=
  ∃ thread response state, entry = .performed thread (.adapter (.sink stream)) response state

/-- `Run` has returned, and its reader has ended or was never started. -/
def Over (past : Past) (run stream : Nat) : Prop :=
  ∃ known : Running, runDiscipline.knows run past.trace = some known ∧
    known.stream = some stream ∧ known.reads = none ∧ known.returned = true ∧
    (known.reader = true → (past.state.streams[stream]?).any Stream.done = true)

section Returned

variable {rule : Step → Past → Bool} {past w : Past} {run stream pos : Nat}

theorem runKnows_of_performed {rcd : Process} {ths : Nat} (hr : callbacks.Reached rule .new
      ⟨st, .performed run op r rcd :: tr, ths⟩) :
    ∃ k, runDiscipline.knows run tr = some k ∧ k.may op :=
  hr.performer runs_conduct fun _ => ⟨_, rfl⟩

theorem Over.next (ov : Over past run stream) (s : callbacks.Reached rule .new past)
    (s' : callbacks.Reached rule .new w) (next : callbacks.Next rule past w) :
    Over w run stream := by
  obtain ⟨k, hk, how, unr, hrt, hed⟩ := ov
  have endedLater (hst : k.reader) := done_of_next next (hed hst)
  cases next with
  | @performed pf op _ r st _ _ =>
    by_cases h : pf = run
    · subst h
      obtain ⟨v, knew, may⟩ := runKnows_of_performed s'
      rw [hk] at knew
      cases knew
      have hop : op ≠ .adapter .newStream := by
        rintro rfl
        cases may.1.symm.trans how
      have hap := k.apart op r
      refine ⟨k.after op r, ?_, ?_, ?_, hap.returned hrt, ?_⟩
      · rw [knows_performed_self, hk]
        rfl
      · rw [hap.stream hop]
        exact how
      · rw [hap.reads]
        exact unr
      · rw [hap.reader]
        exact endedLater
    · exact ⟨k, by rw [knows_performed_ne h]; exact hk, how, unr, hrt, endedLater⟩
  | @entered pa g st _ _ _ =>
    have ne : past.threads ≠ run := Nat.ne_of_gt (s.knows_below hk)
    by_cases hcd : pa = some run
    · subst hcd
      -- a `Run` that has returned starts no reader
      have aside : Running.streamOf g = none := by
        cases reads : Running.streamOf g with
        | none => rfl
        | some n =>
          have may := (s'.kept runs_conduct).1 run k rfl hk
          cases hrt.symm.trans (may n reads).2.2.2
      refine ⟨k.afterFork g, ?_, how, unr, hrt, ?_⟩
      · rw [knows_entered_parent ne, hk]
        rfl
      · simpa [Running.afterFork, aside] using endedLater
    · exact ⟨k, by rw [knows_entered_ne ne hcd]; exact hk, how, unr, hrt, endedLater⟩
  | crashed _ hre => cases hre

theorem Over.not_sinks {e : Entry} (ov : Over past run stream)
    (s : callbacks.Reached rule .new past) (s' : callbacks.Reached rule .new w)
    (hrcd : w.trace = e :: past.trace) : ¬Sinks stream e := by
  rintro ⟨t, r, _, rfl⟩
  obtain ⟨k, hk, how, unr, hrt, hed⟩ := ov
  obtain ⟨_, _, _⟩ := w
  cases hrcd
  obtain ⟨v, hok, may⟩ := runKnows_of_performed s'
  obtain ⟨otherOwns, unreturned⟩ | ⟨reads, huf⟩ := may
  · -- there is one `Run` with this sink, and it has returned
    have hsg : runDiscipline.tally (Running.ownsStream stream) past ≤ 1 := by
      rw [streamOwner s]
      exact Bool.toNat_le _
    have h := eq_of_tally_le_one hsg (s.knows_below hk) hk
      (decide_eq_true how) (s.knows_below hok) hok (decide_eq_true otherOwns)
    subst h
    rw [hk] at hok
    cases hok
    cases hrt.symm.trans unreturned
  have htok : v.hasToken stream := by simp [Running.hasToken, reads, huf]
  have hpos := tally_pos (s.knows_below hok) hok htok
  have hct : runDiscipline.tally (Running.hasToken stream) past = past.state.unread stream :=
    tokens s
  cases hst : k.reader with
  | true =>
    -- its reader has ended, so nobody has the token
    obtain ⟨rd, hl, done⟩ := (Option.any_eq_true _ _).mp (hed hst)
    rw [hct, Process.unread, hl] at hpos
    simp [done] at hpos
  | false =>
    -- it still has the token itself
    have own : k.hasToken stream := by simp [Running.hasToken, how, hst]
    have hsg : runDiscipline.tally (Running.hasToken stream) past ≤ 1 := by
      rw [hct, Process.unread]
      cases past.state.streams[stream]? with
      | none => exact Nat.zero_le 1
      | some rd => exact Bool.toNat_le _
    have h := eq_of_tally_le_one hsg (s.knows_below hk) hk own
      (s.knows_below hok) hok htok
    subst h
    rw [hk] at hok
    cases hok
    cases unr.symm.trans reads

theorem Over.along {nw ol : List Entry} (hr : callbacks.Reached rule .new past)
    (hsp : past.trace = nw ++ ol)
    (hov : ∀ {hpre : Past}, callbacks.Reached rule .new hpre → hpre.trace = ol →
      Over hpre run stream) : Over past run stream ∧ ∀ e ∈ nw, ¬Sinks stream e := by
  induction nw generalizing past with
  | nil => exact ⟨hov hr hsp, fun _ hm => by cases hm⟩
  | cons e nw ih =>
    obtain ⟨hpre, s, next, hrcd⟩ := hr.previous hsp
    obtain ⟨stays, none⟩ := ih s hrcd
    refine ⟨stays.next s hr next, ?_⟩
    intro o hm
    obtain rfl | hm := List.mem_cons.mp hm
    · have hext : past.trace = o :: hpre.trace := by rw [hrcd]; exact hsp
      exact stays.not_sinks s hr hext
    · exact none o hm

theorem result_of_reported {err : AgentError} {t : Nat} (hr : callbacks.Reached rule .new past)
    (hk : runDiscipline.knows run past.trace = some k) (ready : k.Ready stream res)
    (how : k.activation = some pos) (hrb : ReportedBy t pos err past.trace) : res = .error err := by
  obtain ⟨hdl, rc⟩ := delivered_of_reached hr
  have hrcl := rc run k hk
  obtain ⟨hcl, polled⟩ := ready.closed (by rw [how]; rfl)
  have sent := sent_of_reported hr hrb (hrcl.closed how hcl)
  obtain ⟨e, hl, hwa⟩ | ⟨taker, e, hm, tk⟩ := hdl.delivered sent
  · -- nothing waits after the last look
    obtain ⟨_, hf, hem, _⟩ := hrcl.polled how polled
    rw [hl] at hf
    cases hf
    cases hem.symm.trans hwa
  -- only this `Run` receives from its activation
  obtain ⟨g, runs⟩ : ∃ g, System.runs taker past.trace = some g := by
    obtain ⟨_, rfl⟩ | ⟨_, rfl⟩ | ⟨_, _, rfl⟩ := tk <;>
      obtain ⟨v, hok⟩ := knows_of_member hr hm <;>
      obtain ⟨g, _, runs, _⟩ := runs_of_knows hok <;>
      exact ⟨g, runs⟩
  obtain ⟨v, hok⟩ := knows_of_runs (D := runDiscipline) runs rfl
  obtain ⟨otherOwns, took⟩ := (rc taker v hok).taken ⟨e, hm, tk⟩
  have hsg : runDiscipline.tally (Running.ownsActivation pos) past ≤ 1 := by
    rw [activationOwner hr]
    exact Bool.toNat_le _
  have h := eq_of_tally_le_one hsg (hr.knows_below hk) hk
    (decide_eq_true how) (hr.knows_below hok) hok (decide_eq_true otherOwns)
  subst h
  rw [hk] at hok
  cases hok
  exact ready.agrees err took

theorem settled_at_return {ol : List Entry} {r : Unit}
    (hr : callbacks.Reached rule .new past) (hrcd : past.trace =
      .performed run (.adapter (.returned stream res)) r st :: ol) : (∀ xid inv pos,
      ActivatedBy run xid inv pos ol → past.state.Shut pos ∧
        ∀ t err, ReportedBy t pos err ol → res = .error err) ∧ Over past run stream := by
  obtain ⟨pre, s, next, rfl⟩ := hr.previous hrcd
  obtain ⟨_, _, _⟩ := past
  cases hrcd
  obtain ⟨k, hk, ready⟩ := runKnows_of_performed hr
  have hrcl := (delivered_of_reached s).2 run k hk
  refine ⟨?_, ?_⟩
  · intro xid inv pos hab
    have how := hrcl.activated hab
    obtain ⟨e, hl, done⟩ := hrcl.closed how (ready.closed (by rw [how]; rfl)).1
    have shut : pre.state.Shut pos := by
      refine ⟨fun {again} hf => ?_, .inr (List.getElem?_eq_some_iff.mp hl).1⟩
      rw [hl] at hf
      cases hf
      exact done
    exact ⟨shut.later (later_of_next next), fun t err hrb => result_of_reported s hk ready how hrb⟩
  · refine ⟨k.after (.adapter (.returned stream res)) r, ?_, ready.stream, ready.reads,
      rfl, fun hst => ?_⟩
    · rw [knows_performed_self, hk]
      rfl
    · exact done_of_next next (hrcl.joined ready.stream (ready.joined hst))

/-- When `Run` of the OpenCode or the DSH Adapter has returned, no `Invoke` through its
    activation is running or begins, its sink is not called any more, and a fatal error
    reported to its activation is its result. -/
theorem run_settled {newer older : List Entry} {result : Except AgentError Unit} {response : Unit}
    {state : Process} (reached : callbacks.Reached permitted .new past) (split : past.trace =
      newer ++ .performed run (.adapter (.returned stream result)) response state :: older) :
    (∀ externalSessionID invoker position,
      ActivatedBy run externalSessionID invoker position older →
      (∀ entry ∈ newer, ¬Invokes position entry) ∧
        (∀ thread, invoking thread position past.trace = false) ∧
        ∀ thread error, ReportedBy thread position error older → result = .error error) ∧
    ∀ entry ∈ newer, ¬Sinks stream entry := by
  refine ⟨?_, ?_⟩
  · intro externalSessionID invoker position activatedBy
    obtain ⟨shut, none⟩ := shut_along reached split fun then_ recorded =>
      ((settled_at_return then_ recorded).1 externalSessionID invoker position activatedBy).1
    obtain ⟨moment, then_, recorded⟩ := reached.back split
    exact ⟨none, fun _ => idle_of_shut reached shut,
      ((settled_at_return then_ recorded).1 externalSessionID invoker position activatedBy).2⟩
  · have along := Over.along reached split fun then_ recorded => (settled_at_return then_ recorded).2
    exact along.2

end Returned

/-- A callback fails while the provider's stream ends without an error; `Run` sees the
    end of the stream first. -/
def failureDuringTurn : List (Label Goroutine Choice) :=
  [.start (.openCodeRun ⟨"session", "ses_a", "hello", some 7⟩ 1)] ++ List.replicate 7 (.run 0 {}) ++
    [.start (.serveHTTP "ses_a"), .run 2 {}, .run 2 {}, .run 2 {}, .run 2 {}, .run 2 { flag := true },
      .run 2 {}, .run 2 { answer := .error .deviceOffline }] ++ List.replicate 10 (.run 2 {}) ++
    [.run 1 { event := .ended (.ok ()) }, .run 1 {}, .run 1 {}, .run 3 {}, .run 3 {},
      .run 0 { branch := 1 }] ++ List.replicate 7 (.run 0 {})

def returnsAfterReport (machine : Machine Calls Goroutine Past) : Bool :=
  match machine.state.trace with
  | .performed 0 (.adapter (.returned 0 _)) _ _ :: older =>
    (older.any fun
      | .performed 2 (.entry 0 (.reportFatal error)) _ _ => error = .deviceOffline
      | _ => false) &&
    older.any fun
      | .performed 0 (.bridge (.activate _ externalSessionID invoker)) (.ok 0) _ =>
        externalSessionID = "ses_a" && invoker = 7
      | _ => false
  | _ => false

theorem run_settled_failure :
    ∃ past older result response state, callbacks.Reached (fun _ _ => true) .new past ∧
      past.trace = .performed 0 (.adapter (.returned 0 result)) response state :: older ∧
      ActivatedBy 0 "ses_a" 7 0 older ∧ ReportedBy 2 0 .deviceOffline older ∧
      result = .error .deviceOffline := by
  have ran : (callbacks.ranBy (fun _ _ => true) .new failureDuringTurn).any returnsAfterReport =
      true := by
    decide +kernel
  obtain ⟨machine, ran, returns⟩ := (Option.any_eq_true _ _).mp ran
  have reached := System.reached_of_ranBy ran
  unfold returnsAfterReport at returns
  split at returns
  · rename_i result response state older recorded
    obtain ⟨reports, activates⟩ := Bool.and_eq_true_iff.mp returns
    obtain ⟨report, member, isReport⟩ := List.any_eq_true.mp reports
    obtain ⟨activation, listed, isActivation⟩ := List.any_eq_true.mp activates
    have reportedBy : ReportedBy 2 0 .deviceOffline older := by
      split at isReport
      · cases of_decide_eq_true isReport
        exact ⟨_, _, member⟩
      · cases isReport
    have activatedBy : ActivatedBy 0 "ses_a" 7 0 older := by
      split at isActivation
      · simp only [Bool.and_eq_true, decide_eq_true_eq] at isActivation
        obtain ⟨rfl, rfl⟩ := isActivation
        exact ⟨_, _, listed⟩
      · cases isActivation
    have split : machine.state.trace =
        [] ++ .performed 0 (.adapter (.returned 0 result)) response state :: older := recorded
    have settled := (run_settled reached split).1 "ses_a" 7 0 activatedBy
    exact ⟨machine.state, older, result, response, state, reached, recorded, activatedBy, reportedBy,
      settled.2.2 2 .deviceOffline reportedBy⟩
  · cases returns

end AISummoner.OpencodeBridge
