import AISummoner.OpencodeBridge.Activation

/-! # Fatal reports

A callback reports a fatal error while it holds the gate, and closes the
activation before it gives the gate back.  Whoever takes the gate after that
finds its context ended, so an activation has at most one report.
-/

namespace AISummoner.OpencodeBridge

open Concurrency Concurrency.Discipline
open Agent (AgentError)

def ReportedBy (thread position : Nat) (error : AgentError) (trace : List Entry) : Prop :=
  ∃ response state,
    (.performed thread (.entry position (.reportFatal error)) response state : Entry) ∈ trace

/-- The error was put into the activation's channel, unless that was full. -/
def Sent (position : Nat) (error : AgentError) (trace : List Entry) : Prop :=
  ∃ thread response state,
    (.performed thread (.entry position (.sendFatal error)) response state : Entry) ∈ trace

structure Conduct.Reporting (past : Past) (thread : Nat) (known : Conduct) : Prop where
  /-- It holds the gate until the activation's context has ended. -/
  canceled : ∀ {position error}, ReportedBy thread position error past.trace →
    (known.gate = some position ∧ known.reported = some error) ∨
      past.state.On position (·.canceled = true)
  sent : ∀ {position error}, ReportedBy thread position error past.trace →
    (known.gate = some position ∧ known.reported = some error ∧ known.sent = false) ∨
      Sent position error past.trace
  own : ∀ {position error}, known.gate = some position → known.reported = some error →
    ReportedBy thread position error past.trace
  /-- With the gate held and the context alive there is no report yet. -/
  clear : ∀ {position}, known.gate = some position → known.clear = true → known.reported = none →
    ∀ other error, ¬ReportedBy other position error past.trace

structure Reported (past : Past) : Prop where
  once : ∀ {position entry}, past.state.bridge.entries[position]? = some entry →
    entry.fatalOnce ≠ .fresh → ∃ thread error, ReportedBy thread position error past.trace
  unique : ∀ {thread other position error second}, ReportedBy thread position error past.trace →
    ReportedBy other position second past.trace → thread = other ∧ error = second

variable {op : Operation} {r : op.Response} {st : Process}
  {error : AgentError}

variable {k : Conduct} {old new mp : Mapping}

section Steps

variable {p w : Past} {t pos : Nat} {tr : List Entry}
  {e : Entry} {error : AgentError}

theorem ReportedBy.cons (rd : ReportedBy t pos error tr) (e : Entry) :
    ReportedBy t pos error (e :: tr) := by
  obtain ⟨r, st, hm⟩ := rd
  exact ⟨r, st, List.mem_cons_of_mem _ hm⟩

theorem Sent.cons (sent : Sent pos error tr) (e : Entry) : Sent pos error (e :: tr) := by
  obtain ⟨t, r, st, hm⟩ := sent
  exact ⟨t, r, st, List.mem_cons_of_mem _ hm⟩

theorem ReportedBy.of_cons (rd : ReportedBy t pos error (e :: tr))
    (ho : ∀ r st, e ≠ .performed t (.entry pos (.reportFatal error)) r st) :
    ReportedBy t pos error tr := by
  obtain ⟨r, st, hm⟩ := rd
  obtain h | hm := List.mem_cons.mp hm
  · exact absurd h.symm (ho r st)
  · exact ⟨r, st, hm⟩

def Unreported (entry : Entry) : Prop :=
  ∀ thread position error response state,
    entry ≠ .performed thread (.entry position (.reportFatal error)) response state

theorem Conduct.Reporting.unchanged {v : Conduct} (hrt : k.Reporting p t)
    (k' : p.state.Later w.state) (hrcd : w.trace = e :: p.trace)
    (hfo : ∀ pos error r st, e ≠ .performed t (.entry pos (.reportFatal error)) r st)
    (hx : ∀ pos, k.gate = some pos → ∀ o error r st,
      e ≠ .performed o (.entry pos (.reportFatal error)) r st)
    (h : v.gate = k.gate ∧ v.clear = k.clear ∧ v.reported = k.reported ∧
      v.sent = k.sent) : v.Reporting w t := by
  obtain ⟨gate, clear, hrd, sent⟩ := h
  refine ⟨?_, ?_, ?_, ?_⟩
  · intro pos error hrb
    rw [hrcd] at hrb
    rw [gate, hrd]
    refine (hrt.canceled (hrb.of_cons (hfo _ _))).imp id ?_
    exact fun hca => hca.later k' fun _ _ hch => hch.canceled
  · intro pos error hrb
    rw [hrcd] at hrb ⊢
    rw [gate, hrd, sent]
    exact (hrt.sent (hrb.of_cons (hfo _ _))).imp id (·.cons e)
  · intro pos error hh hrp
    rw [hrcd]
    exact (hrt.own (gate ▸ hh) (hrd ▸ hrp)).cons e
  · intro pos hh isClear none o error hrb
    rw [hrcd] at hrb
    rw [gate] at hh
    exact hrt.clear hh (clear ▸ isClear) (hrd ▸ none) o error
      (hrb.of_cons (hx pos hh o error))

theorem Reported.unchanged (hs : Reported p) (hrcd : w.trace = e :: p.trace) (hur : Unreported e)
    (once : ∀ {pos mp}, w.state.bridge.entries[pos]? = some mp →
      mp.fatalOnce ≠ .fresh → ∃ t error, ReportedBy t pos error p.trace) : Reported w := by
  refine ⟨?_, ?_⟩
  · intro pos mp hl hbg
    obtain ⟨t, error, hrb⟩ := once hl hbg
    rw [hrcd]
    exact ⟨t, error, hrb.cons e⟩
  · intro t o pos error b a last
    rw [hrcd] at a last
    exact hs.unique (a.of_cons (hur _ _ _)) (last.of_cons (hur _ _ _))

theorem Process.once_setEntry {prc : Process} {pl : Nat}
    (hl : prc.bridge.entries[pos]? = some old) (h : new.fatalOnce = old.fatalOnce)
    (hf : (prc.setEntry pos new).bridge.entries[pl]? = some mp) (hbg : mp.fatalOnce ≠ .fresh) :
    ∃ pre, prc.bridge.entries[pl]? = some pre ∧ pre.fatalOnce ≠ .fresh := by
  rw [Process.getElem?_setEntry hl] at hf
  split at hf
  · rename_i he
    cases hf
    exact ⟨old, by rw [he]; exact hl, by rw [← h]; exact hbg⟩
  · exact ⟨mp, hf, hbg⟩

def reportOperation : EntryOperation → Bool
  | .reportFatal _ => true
  | .sendFatal _ => true
  | .leaveFatal => true
  | .acquireGate => true
  | .releaseGate => true
  | .callErr => true
  | _ => false

theorem Conduct.after_unreported
    (o : ∀ {pos act}, op = .entry pos act → reportOperation act = false) :
    (k.after op r).gate = k.gate ∧ (k.after op r).clear = k.clear ∧
      (k.after op r).reported = k.reported ∧ (k.after op r).sent = k.sent := by
  cases op with
  | entry _ act =>
    have aside := o rfl
    cases act with
    | beginCall | enterClose => cases r <;> exact ⟨rfl, rfl, rfl, rfl⟩
    | reportFatal | sendFatal | leaveFatal | acquireGate | releaseGate | callErr => cases aside
    | _ => exact ⟨rfl, rfl, rfl, rfl⟩
  | bridge op => cases op <;> exact ⟨rfl, rfl, rfl, rfl⟩
  | adapter op => exact ⟨rfl, rfl, rfl, rfl⟩

theorem Process.Change.once_unreported {s s' : Process} {pl : Nat} (ch : s.Change op r s')
    (o : ∀ {pos act}, op = .entry pos act → reportOperation act = false)
    (f : s'.bridge.entries[pl]? = some mp) (hbg : mp.fatalOnce ≠ .fresh) :
    ∃ pre, s.bridge.entries[pl]? = some pre ∧ pre.fatalOnce ≠ .fresh := by
  cases ch with
  | @entry pos old new act r hl ch =>
    have aside := o rfl
    have h : new.fatalOnce = old.fatalOnce := by
      cases ch with
      | reporting | reported | fatalLeft => cases aside
      | _ => rfl
    exact Process.once_setEntry hl h f hbg
  | @selectedFatal _ pos e _ hl _ =>
    have h : { e with fatal := none }.fatalOnce = e.fatalOnce := rfl
    exact Process.once_setEntry hl h f hbg
  | @activated pid xid inv _ _ =>
    have hin : (s.bridge.entries ++ [Mapping.new pid xid inv])[pl]? = some mp := f
    rw [List.getElem?_append] at hin
    split at hin
    · exact ⟨mp, hin, hbg⟩
    -- a new mapping has never been reported to
    have only := List.mem_singleton.mp (List.mem_of_getElem? hin)
    rw [only] at hbg
    exact absurd rfl hbg
  | @removed pos =>
    rw [show (s.bridge.remove pos).entries = s.bridge.entries from
      (s.bridge.remove_entries pos).1] at f
    exact ⟨mp, f, hbg⟩
  | _ => exact ⟨mp, f, hbg⟩

end Steps

section Runs

variable {rule : Step → Past → Bool} {p : Past} {t pos : Nat}

def Past.performed (past : Past) (thread : Nat) (operation : Operation)
    (response : operation.Response) (state : Process) : Past :=
  (past.perform thread operation response state)

theorem reported_report {r : Bool} (hs : Reported p) (hrt : k.Reporting p t)
    (hl : p.state.bridge.entries[pos]? = some old)
    (ch : old.Change (.reportFatal error) r new) (set : p.state.setEntry pos new = st)
    (may : k.mayEntry pos (.reportFatal error)) :
    Reported (p.performed t (.entry pos (.reportFatal error)) r st) ∧
      (k.afterEntry pos (.reportFatal error) r).Reporting
        (p.performed t (.entry pos (.reportFatal error)) r st) t := by
  obtain ⟨gate, clear, hur, unsent, _⟩ := may
  have none := hrt.clear gate clear hur
  have hk' := (Process.Change.entry hl ch).later
  rw [set] at hk'
  -- hence `fatalOnce` is fresh
  have ha : r := by
    cases ch with
    | reporting _ => rfl
    | reported done =>
      obtain ⟨o, b, rb⟩ := hs.once hl (by rw [done]; nofun)
      exact absurd rb (none o b)
  subst ha
  have here : ReportedBy t pos error
      (p.performed t (.entry pos (.reportFatal error)) true st).trace :=
    ⟨true, st, List.mem_cons_self⟩
  -- a report to this activation is the new one
  have only {o : Nat} {b : AgentError} (rb : ReportedBy o pos b
      (p.performed t (.entry pos (.reportFatal error)) true st).trace) :
      t = o ∧ error = b := by
    obtain ⟨ans, s', hm⟩ := rb
    obtain h | hm := List.mem_cons.mp hm
    · cases h
      exact ⟨rfl, rfl⟩
    · exact absurd ⟨ans, s', hm⟩ (none o b)
  have hel {o pl : Nat} {b : AgentError} (ne : pl ≠ pos)
      (rb : ReportedBy o pl b (p.performed t (.entry pos (.reportFatal error)) true st).trace) :
      ReportedBy o pl b p.trace := by
    refine rb.of_cons ?_
    intro ans s' he
    cases he
    exact ne rfl
  refine ⟨⟨?_, ?_⟩, ⟨?_, ?_, ?_, nofun⟩⟩
  · intro pl mp f hbg
    by_cases h : pl = pos
    · subst h
      exact ⟨t, error, here⟩
    have ht : st.bridge.entries[pl]? = some mp := f
    rw [← set, Process.getElem?_setEntry hl, if_neg h] at ht
    obtain ⟨o, b, rb⟩ := hs.once ht hbg
    exact ⟨o, b, rb.cons _⟩
  · intro _ o pl ha b rb again
    by_cases h : pl = pos
    · subst h
      obtain ⟨rfl, rfl⟩ := only rb
      exact only again
    · exact hs.unique (hel h rb) (hel h again)
  · intro pl b rb
    by_cases h : pl = pos
    · subst h
      obtain ⟨_, rfl⟩ := only rb
      exact .inl ⟨gate, rfl⟩
    · right
      obtain ⟨_, hrp⟩ | hca := hrt.canceled (hel h rb)
      · cases hur.symm.trans hrp
      · exact hca.later hk' fun _ _ hch => hch.canceled
  · intro pl b rb
    by_cases h : pl = pos
    · subst h
      obtain ⟨_, rfl⟩ := only rb
      exact .inl ⟨gate, rfl, unsent⟩
    · right
      obtain ⟨_, hrp, _⟩ | sent := hrt.sent (hel h rb)
      · cases hur.symm.trans hrp
      · exact sent.cons _
  · intro pl b hh hrp
    cases gate.symm.trans hh
    cases hrp
    exact here

theorem knows_of_member (hr : callbacks.Reached rule .new p) (hm : .performed t op r st ∈ p.trace) :
    ∃ k, callDiscipline.knows t p.trace = some k := by
  suffices running : ∃ g, System.runs t p.trace = some g by
    obtain ⟨g, runs⟩ := running
    exact knows_of_runs runs rfl
  revert hm
  refine System.Reached.induction ?_ ?_ hr
  · intro hm
    cases hm
  intro p w s s' next ih hm
  cases next with
  | performed _ _ =>
    obtain h | hm := List.mem_cons.mp hm
    · cases h
      exact s'.attributed.1
    · exact ih hm
  | entered _ _ _ =>
    obtain h | hm := List.mem_cons.mp hm
    · cases h
    · obtain ⟨g, runs⟩ := ih hm
      rw [System.runs_entered_ne (Nat.ne_of_gt (s.runs_below runs))]
      exact ⟨g, runs⟩
  | crashed _ hre => cases hre

theorem unreported_performed (ho : ∀ {pos error}, op ≠ .entry pos (.reportFatal error)) :
    Unreported (.performed t op r st) := by
  intro _ pos error _ _ he
  cases he
  exact ho rfl

theorem reporting_gate {act : EntryOperation} {r : act.Response} (s : callbacks.Reached rule .new p)
    (me : ∀ o v, callDiscipline.knows o p.trace = some v →
      v.Reporting p o) (hk : callDiscipline.knows t p.trace = some k)
    (hl : p.state.bridge.entries[pos]? = some old)
    (ch : old.Change act r new) (set : p.state.setEntry pos new = st)
    (may : k.mayEntry pos act) (concerns : reportOperation act)
    (hur : ∀ {error}, act ≠ .reportFatal error) : (k.afterEntry pos act r).Reporting
      (p.performed t (.entry pos act) r st) t := by
  have hrt := me t k hk
  have hk' := (Process.Change.entry hl ch).later
  rw [set] at hk'
  have hsl : Unreported (.performed t (.entry pos act) r st) :=
    unreported_performed fun he => by cases he; exact hur rfl
  have pre {o pl : Nat} {error : AgentError} (hrb : ReportedBy o pl error
      (p.performed t (.entry pos act) r st).trace) :
      ReportedBy o pl error p.trace := hrb.of_cons (hsl _ _ _)
  have canceledLater {pl : Nat} (hca : p.state.On pl (·.canceled = true)) :
      st.On pl (·.canceled = true) :=
    hca.later hk' fun _ _ hch => hch.canceled
  cases ch with
  | reporting hfr | reported done => exact absurd rfl hur
  | gateMissed | fatalLeft =>
    exact hrt.unchanged hk' rfl (hsl t) (fun pl _ o => hsl o pl)
      ⟨rfl, rfl, rfl, rfl⟩
  | @sent error =>
    obtain ⟨gate, hrd, unsent⟩ := may
    refine ⟨?_, ?_, ?_, ?_⟩
    · intro pl b hrb
      exact (hrt.canceled (pre hrb)).imp id canceledLater
    · intro pl b hrb
      right
      obtain ⟨hh, hrp, _⟩ | sent := hrt.sent (pre hrb)
      · cases gate.symm.trans hh
        cases hrd.symm.trans hrp
        exact ⟨t, (), st, List.mem_cons_self⟩
      · exact sent.cons _
    · intro pl b hh hrp
      exact (hrt.own hh hrp).cons _
    · intro pl _ _ none
      cases hrd.symm.trans none
  | gateTaken _ =>
    obtain ⟨_, hou, unclear, hur⟩ := may
    refine ⟨?_, ?_, ?_, ?_⟩
    · intro pl b hrb
      right
      obtain ⟨hh, _⟩ | hca := hrt.canceled (pre hrb)
      · cases hou.symm.trans hh
      · exact canceledLater hca
    · intro pl b hrb
      right
      obtain ⟨hh, _⟩ | sent := hrt.sent (pre hrb)
      · cases hou.symm.trans hh
      · exact sent.cons _
    · intro pl b _ hrp
      cases hur.symm.trans hrp
    · intro pl _ clear
      cases unclear.symm.trans clear
  | gateReleased _ =>
    obtain ⟨gate, _, hse⟩ := may
    refine ⟨?_, ?_, nofun, nofun⟩
    · intro pl b hrb
      right
      obtain ⟨hh, hrp⟩ | hca := hrt.canceled (pre hrb)
      · -- the reporter has closed the activation
        cases gate.symm.trans hh
        have hcl := (hse (by rw [hrp]; rfl)).2
        obtain ⟨mp, hf, hia⟩ := ((sound_of_reached s).2 t k hk).settled hcl
        exact canceledLater
          ⟨mp, hf, ((sound_of_reached s).1.entries hf).inactive hia⟩
      · exact canceledLater hca
    · intro pl b hrb
      right
      obtain ⟨hh, hrp, unsent⟩ | sent := hrt.sent (pre hrb)
      · cases unsent.symm.trans (hse (by rw [hrp]; rfl)).1
      · exact sent.cons _
  | ended =>
    refine ⟨?_, ?_, ?_, nofun⟩
    · intro pl b hrb
      exact (hrt.canceled (pre hrb)).imp id canceledLater
    · intro pl b hrb
      exact (hrt.sent (pre hrb)).imp id (·.cons _)
    · intro pl b hh hrp
      exact (hrt.own hh hrp).cons _
  | clear live =>
    obtain ⟨gate, none⟩ := may
    refine ⟨?_, ?_, ?_, ?_⟩
    · intro pl b hrb
      exact (hrt.canceled (pre hrb)).imp id canceledLater
    · intro pl b hrb
      exact (hrt.sent (pre hrb)).imp id (·.cons _)
    · intro pl b hh hrp
      exact (hrt.own hh hrp).cons _
    · -- a reporter would hold the gate, or the context would have ended
      intro pl hh _ _ o error hrb
      cases gate.symm.trans hh
      obtain ⟨r, s', hm⟩ := pre hrb
      obtain ⟨v, hok⟩ := knows_of_member s hm
      obtain ⟨hta, hrp⟩ | ⟨mp, hf, hca⟩ := (me o v hok).canceled ⟨r, s', hm⟩
      · cases gate_exclusive s hk gate hok hta
        cases hk.symm.trans hok
        cases none.symm.trans hrp
      · cases hl.symm.trans hf
        cases live.symm.trans hca
  | _ => cases concerns

/-- In every history an activation has at most one report, and the goroutines know of
    their own. -/
theorem reported_of_reached (hr : callbacks.Reached rule .new p) :
    Reported p ∧ ∀ t k, callDiscipline.knows t p.trace = some k → k.Reporting p t := by
  refine System.Reached.understood conducts (fun _ => ⟨_, rfl⟩) Reported
    (fun p t k => k.Reporting p t) ?_ ?_ ?_ ?_ ?_ ?_ nofun hr
  · refine ⟨fun hl => ?_, fun rb => ?_⟩
    · cases hl
    · obtain ⟨_, _, hm⟩ := rb
      cases hm
  · intro p t op _ r st k s _ hs me hk may _ ran
    have ch : p.state.Change op r st := perform_change ran
    have hrt := me t k hk
    by_cases concerns : ∃ pos act, op = .entry pos act ∧ reportOperation act = true
    · obtain ⟨pos, act, rfl, concerns⟩ := concerns
      cases ch with
      | @entry _ old new _ _ hl ch =>
        by_cases report : ∃ error, act = .reportFatal error
        · obtain ⟨error, rfl⟩ := report
          exact reported_report hs hrt hl ch rfl may
        have ho {error : AgentError} : act ≠ .reportFatal error :=
          fun he => report ⟨error, he⟩
        refine ⟨?_, reporting_gate s me hk hl ch rfl may concerns ho⟩
        refine hs.unchanged rfl (unreported_performed ?_) ?_
        · intro pl error he
          cases he
          exact ho rfl
        · intro pl mp f hbg
          by_cases left : act = .leaveFatal
          · subst left
            obtain ⟨gate, _, hrd⟩ := may
            obtain ⟨error, hrp⟩ := Option.isSome_iff_exists.mp hrd
            by_cases h : pl = pos
            · subst h
              exact ⟨t, error, hrt.own gate hrp⟩
            have ht : (p.state.setEntry pos new).bridge.entries[pl]? =
                some mp := f
            rw [Process.getElem?_setEntry hl, if_neg h] at ht
            exact hs.once ht hbg
          · have h : new.fatalOnce = old.fatalOnce := by
              cases ch with
              | reporting | reported => exact absurd rfl ho
              | fatalLeft => exact absurd rfl left
              | _ => rfl
            obtain ⟨pre, ht, hbg⟩ := Process.once_setEntry hl h f hbg
            exact hs.once ht hbg
    · have ho {pos : Nat} {act : EntryOperation} (he : op = .entry pos act) :
          reportOperation act = false :=
        Bool.eq_false_iff.mpr fun concerned => concerns ⟨pos, act, he, concerned⟩
      have hsl : Unreported (.performed t op r st) :=
        unreported_performed fun he => by cases ho he
      refine ⟨hs.unchanged rfl hsl fun f hbg => ?_, ?_⟩
      · obtain ⟨pre, ht, hbg⟩ := ch.once_unreported ho f hbg
        exact hs.once ht hbg
      · exact hrt.unchanged ch.later rfl (hsl t)
          (fun pl _ ho => hsl ho pl) (Conduct.after_unreported ho)
  · intro p w t k s s' next hel hk hs hrt
    obtain ⟨e, rcd, _⟩ := next.trace
    refine (hrt t k hk).unchanged (later_of_next next) rcd ?_ ?_ ⟨rfl, rfl, rfl, rfl⟩
    · intro pos error r st he
      rw [he] at rcd
      exact hel.2 _ _ _ rcd
    · intro pos gate ho error r st he
      rw [he] at rcd
      obtain ⟨_, _, ths⟩ := w
      cases rcd
      obtain ⟨v, hok, may⟩ := knows_of_performed s'
      cases gate_exclusive s hk gate hok may.1
      exact hel.2 _ _ _ rfl
  · intro p pa g st _ hs hst
    cases hst
    exact hs.unchanged rfl nofun hs.once
  · intro p pa g st k s _ _ _ hst hb
    cases hb
    -- a new goroutine has done nothing
    have none {pos : Nat} {error : AgentError} : ¬ReportedBy p.threads pos error
        (.entered pa p.threads g st :: p.trace) := by
      rintro ⟨r, s', hm⟩
      obtain h | hm := List.mem_cons.mp hm
      · cases h
      · obtain ⟨k, hk⟩ := knows_of_member s hm
        exact absurd (s.knows_below hk) (Nat.lt_irrefl _)
    have hou {pos : Nat} : (Conduct.start g).gate ≠ some pos := by
      cases g <;> nofun
    exact ⟨fun rb => absurd rb none, fun rb => absurd rb none,
      fun gate => absurd gate hou, fun gate => absurd gate hou⟩
  · intro p t k _ st _ _ _ hst hrt
    cases hst
    exact hrt.unchanged (Process.later_of_bridge rfl id) rfl nofun nofun ⟨rfl, rfl, rfl, rfl⟩

theorem reported_of_sent (hr : callbacks.Reached rule .new p)
    (sent : Sent pos error p.trace) : ∃ t, ReportedBy t pos error p.trace := by
  obtain ⟨t, r, _, hm⟩ := sent
  obtain ⟨⟨_, _, _⟩, _, s', rfl, _, hsp⟩ := hr.at_entry hm
  obtain ⟨_, s, _, hrcd⟩ := s'.previous rfl
  obtain ⟨k, hk, gate, hrd, _⟩ := knows_of_performed s'
  rw [← hrcd] at hk
  obtain ⟨ans, then_, hrb⟩ := ((reported_of_reached s).2 t k hk).own gate hrd
  refine ⟨t, ans, then_, ?_⟩
  rw [hrcd] at hrb
  rw [← hsp]
  exact List.mem_append_right _ (List.mem_cons_of_mem _ hrb)

theorem sent_unique {b : AgentError} (hr : callbacks.Reached rule .new p)
    (sent : Sent pos error p.trace) (again : Sent pos b p.trace) : error = b := by
  obtain ⟨_, a⟩ := reported_of_sent hr sent
  obtain ⟨_, last⟩ := reported_of_sent hr again
  exact ((reported_of_reached hr).1.unique a last).2

theorem sent_of_reported (hr : callbacks.Reached rule .new p) (rb : ReportedBy t pos error p.trace)
    (hcl : p.state.On pos (·.closeDone = true)) : Sent pos error p.trace := by
  obtain ⟨r, st, hm⟩ := rb
  obtain ⟨k, hk⟩ := knows_of_member hr hm
  obtain ⟨gate, _⟩ | sent := ((reported_of_reached hr).2 t k hk).sent ⟨r, st, hm⟩
  · have hcg := ((sound_of_reached hr).2 t k hk).gate gate
    exact absurd hcg (not_calling_of_closeDone hr hcl hk)
  · exact sent

end Runs

end AISummoner.OpencodeBridge
