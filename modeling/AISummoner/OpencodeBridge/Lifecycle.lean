import AISummoner.OpencodeBridge.Changes
import AISummoner.OpencodeBridge.Conduct

/-! # The life of an activation

What the state of the bridge and the knowledge of the goroutines mean together,
and how many goroutines are in flight on a mapping.
-/

namespace AISummoner.OpencodeBridge

open Concurrency Concurrency.Discipline
open Agent (AgentError)

/-! ## What the state and the goroutines' knowledge mean -/

structure Mapping.Sound (entry : Mapping) : Prop where
  inactive : entry.active = false → entry.canceled = true
  closeOnce : entry.closeOnce = .done → entry.active = false
  fatalOnce : entry.fatalOnce = .done → entry.active = false
  closeDone : entry.closeDone = true → entry.active = false ∧ entry.inflight = 0

def Process.Covered (process : Process) (entries : List Nat) : Prop :=
  ∀ ⦃position : Nat⦄ ⦃entry : Mapping⦄, process.bridge.entries[position]? = some entry →
    position ∈ entries ∨ entry.closeDone = true

structure Process.Sound (process : Process) : Prop where
  entries : ∀ {position : Nat} {entry : Mapping},
    process.bridge.entries[position]? = some entry → entry.Sound
  mapped : ∀ {externalSessionID position},
    process.bridge.mappings externalSessionID = some position →
    process.On position (·.externalSessionID = externalSessionID)
  all : process.Covered process.bridge.all
  closeDone : process.bridge.closeDone = true → process.bridge.closed = true ∧ process.Covered []

def Process.ClosingOnly (process : Process) (entries : List Nat) : Prop :=
  process.bridge.closed = true ∧ process.Covered entries

structure Conduct.Means (process : Process) (known : Conduct) : Prop where
  found : ∀ {position}, known.found = some position →
    ∃ session, known.session = some session ∧ process.On position (·.externalSessionID = session)
  calling : ∀ {position}, known.calling = some position → known.found = some position
  gate : ∀ {position}, known.gate = some position → known.calling = some position
  invoking : known.invoking = true → known.gate.isSome = true
  deactivated : ∀ {position}, known.closing = some position → known.deactivated = true →
    process.On position (·.active = false)
  settled : ∀ {position}, known.settled = some position → process.On position (·.active = false)
  waiter : ∀ {position}, known.waiter = some position → process.On position fun entry =>
    entry.active = false ∧ (known.quiet = true → entry.inflight = 0) ∧
      (known.announced = true → entry.closeDone = true)
  snapshot : ∀ {entries}, known.snapshot = some entries → process.ClosingOnly entries
  pending : ∀ {entries}, known.pending = some entries → process.ClosingOnly entries

variable {k : Conduct} {pos : Nat} {op : EntryOperation}
  {r : op.Response} {prc : Process} {g : Goroutine}

variable {s : Process} {e : Mapping} {es : List Nat}

theorem Process.Later.earlier {s' : Process} (k' : s.Later s')
    (hlen : s'.bridge.entries.length = s.bridge.entries.length)
    (hl : s'.bridge.entries[pos]? = some e) :
    ∃ old, s.bridge.entries[pos]? = some old ∧ old.Later e := by
  have hi : pos < s.bridge.entries.length := by
    rw [← hlen]
    exact (List.getElem?_eq_some_iff.mp hl).1
  have old := List.getElem?_eq_getElem hi
  obtain ⟨_, hf, hch⟩ := k'.entries old
  rw [hl] at hf
  cases hf
  exact ⟨_, old, hch⟩

theorem Process.Covered.later {s' : Process} (covered : s.Covered es) (k' : s.Later s')
    (hlen : s'.bridge.entries.length = s.bridge.entries.length) : s'.Covered es := by
  intro _ e hl
  obtain ⟨_, hf, hch⟩ := k'.earlier hlen hl
  exact (covered hf).imp id hch.closeDone

theorem Process.ClosingOnly.later {s' : Process} (clg : s.ClosingOnly es) (k' : s.Later s') :
    s'.ClosingOnly es := by
  obtain ⟨hcl, covered⟩ := clg
  obtain ⟨stillClosed, len⟩ := k'.closed hcl
  exact ⟨stillClosed, covered.later k' len⟩

theorem Conduct.Means.later {s' : Process} (hme : k.Means s) (k' : s.Later s') : k.Means s' where
  found := by
    intro _ hf
    obtain ⟨ses, hbg, hh⟩ := hme.found hf
    refine ⟨ses, hbg, hh.later k' ?_⟩
    intro _ _ hch h
    rw [hch.externalSessionID]
    exact h
  calling := hme.calling
  gate := hme.gate
  invoking := hme.invoking
  deactivated closing done := (hme.deactivated closing done).later k' fun _ _ hch =>
    hch.inactive
  settled settled := (hme.settled settled).later k' fun _ _ hch => hch.inactive
  waiter waiting := (hme.waiter waiting).later k' fun _ _ hch hh =>
    ⟨hch.inactive hh.1, fun hq => hch.idle hh.1 (hh.2.1 hq),
      fun hann => hch.closeDone (hh.2.2 hann)⟩
  snapshot taken := (hme.snapshot taken).later k'
  pending waiting := (hme.pending waiting).later k'

theorem Mapping.sound_new (pid xid : String) (inv : Nat) : (Mapping.new pid xid inv).Sound :=
  ⟨nofun, nofun, nofun, nofun⟩

theorem Mapping.Change.sound {s s' : Mapping} (ch : s.Change op r s') (hs : s.Sound)
    (left : op = .leaveClose ∨ op = .leaveFatal → s.active = false)
    (hann : op = .closeDone → s.active = false ∧ s.inflight = 0) : s'.Sound := by
  cases ch with
  | begun hac _ =>
    refine { hs with closeDone := fun done => ?_ }
    have hia := (hs.closeDone done).1
    rw [hac] at hia
    cases hia
  | deactivated =>
    exact ⟨fun _ => rfl, fun _ => rfl, fun _ => rfl, fun done => ⟨rfl, (hs.closeDone done).2⟩⟩
  | closing hfr => exact { hs with closeOnce := nofun }
  | closed done => exact { hs with closeOnce := fun _ => hs.closeOnce done }
  | closeLeft => exact { hs with closeOnce := fun _ => left (.inl rfl) }
  | reporting hfr => exact { hs with fatalOnce := nofun }
  | reported done => exact { hs with fatalOnce := fun _ => hs.fatalOnce done }
  | fatalLeft => exact { hs with fatalOnce := fun _ => left (.inr rfl) }
  | callDone =>
    refine { hs with closeDone := fun done => ⟨(hs.closeDone done).1, ?_⟩ }
    have idle := (hs.closeDone done).2
    show s.inflight - 1 = 0
    omega
  | announced => exact { hs with closeDone := fun _ => hann rfl }
  | turnEnded => exact { hs with inactive := fun _ => rfl }
  | _ => exact { hs with }

theorem Process.Sound.setEntry {s s' : Mapping} (hs : prc.Sound)
    (hl : prc.bridge.entries[pos]? = some s) (hch : s.Later s')
    (kept : s'.Sound) : (prc.setEntry pos s').Sound := by
  have hk' := Process.later_setEntry hl hch
  have hlen : (prc.setEntry pos s').bridge.entries.length =
      prc.bridge.entries.length := List.length_set
  refine ⟨?_, ?_, hs.all.later hk' hlen, ?_⟩
  · intro o e hf
    by_cases h : pos = o
    · subst h
      have hi := (List.getElem?_eq_some_iff.mp hl).1
      rw [show (prc.setEntry pos s').bridge.entries[pos]? = some s' from
        List.getElem?_set_self hi] at hf
      cases hf
      exact kept
    · rw [show (prc.setEntry pos s').bridge.entries[o]? =
        prc.bridge.entries[o]? from List.getElem?_set_ne h] at hf
      exact hs.entries hf
  · intro _ o hmp
    refine (hs.mapped hmp).later hk' ?_
    intro _ _ hch h
    rw [hch.externalSessionID]
    exact h
  · intro done
    obtain ⟨hcl, covered⟩ := hs.closeDone done
    exact ⟨hcl, covered.later hk' hlen⟩

theorem Process.Sound.of_bridge {s' : Process} (hs : s.Sound)
    (es : s'.bridge.entries = s.bridge.entries) (mappings : ∀ {xid pos},
      s'.bridge.mappings xid = some pos →
      s.bridge.mappings xid = some pos) (all : s'.bridge.all = s.bridge.all)
    (hcl : s.bridge.closed → s'.bridge.closed)
    (closeDone : s'.bridge.closeDone = s.bridge.closeDone) : s'.Sound := by
  have hk' := Process.later_of_bridge es hcl
  have hlen : s'.bridge.entries.length = s.bridge.entries.length := by rw [es]
  refine ⟨?_, ?_, ?_, ?_⟩
  · intro pos e hl
    rw [es] at hl
    exact hs.entries hl
  · intro xid pos hmp
    obtain ⟨e, hl, h⟩ := hs.mapped (mappings hmp)
    exact ⟨e, by rw [es]; exact hl, h⟩
  · rw [all]
    exact hs.all.later hk' hlen
  · intro done
    rw [closeDone] at done
    obtain ⟨isClosed, covered⟩ := hs.closeDone done
    exact ⟨hcl isClosed, covered.later hk' hlen⟩

theorem Process.sound_new : Process.new.Sound := by
  refine ⟨fun hl => ?_, nofun, fun _ e hl => ?_, nofun⟩
  · cases hl
  · cases hl

theorem Process.Change.sound {op : Operation} {r : op.Response}
    {s' : Process} (ch : s.Change op r s')
    (hs : s.Sound) (hme : k.Means s) (may : k.may op) : s'.Sound := by
  have hk' := ch.later
  cases ch with
  | @entry pos old new op r hl ch =>
    have here {property : Mapping → Prop} (hol : s.On pos property) : property old := by
      obtain ⟨e, hf, has⟩ := hol
      rw [hl] at hf
      cases hf
      exact has
    refine hs.setEntry hl ch.later (ch.sound (hs.entries hl) ?_ ?_)
    · rintro (rfl | rfl)
      · exact here (hme.deactivated may.1 may.2)
      · exact here (hme.settled may.2.1)
    · rintro rfl
      obtain ⟨hia, idle, _⟩ := here (hme.waiter may.1)
      exact ⟨hia, idle may.2⟩
  | @selectedFatal _ pos e _ hl _ =>
    exact hs.setEntry hl ⟨rfl, rfl, rfl, id, id, fun _ => id, id⟩
      { hs.entries hl with }
  | @activated pid xid inv live _ =>
    refine ⟨?_, ?_, ?_, ?_⟩
    · intro pos e hl
      rcases List.mem_append.mp (List.mem_of_getElem? hl) with hm | hm
      · obtain ⟨_, hf⟩ := List.mem_iff_getElem?.mp hm
        exact hs.entries hf
      · rw [List.mem_singleton.mp hm]
        exact Mapping.sound_new _ _ _
    · intro o pos hmp
      by_cases h : o = xid
      · -- the new mapping is the last one
        subst h
        simp only [Bridge.install, Bridge.setMapping, Mapping.new, if_true] at hmp
        cases hmp
        exact ⟨Mapping.new pid o inv, List.getElem?_concat_length, rfl⟩
      · simp only [Bridge.install, Bridge.setMapping, Mapping.new, h, if_false] at hmp
        refine (hs.mapped hmp).later hk' ?_
        intro old new hch he
        rw [hch.externalSessionID]
        exact he
    · intro pos e hl
      by_cases hi : pos < s.bridge.entries.length
      · have old : s.bridge.entries[pos]? = some e := by
          rw [← hl]
          exact (List.getElem?_append_left hi).symm
        exact (hs.all old).imp (List.mem_cons_of_mem _) id
      · have hbd := (List.getElem?_eq_some_iff.mp hl).1
        simp only [Bridge.install, Bridge.setMapping, List.length_append,
          List.length_singleton] at hbd
        left
        have last : pos = s.bridge.entries.length := by omega
        rw [last]
        exact List.mem_cons_self
    · intro done
      have hcl := (hs.closeDone done).1
      rw [live] at hcl
      cases hcl
  | @removed pos =>
    obtain ⟨es, all, hcl, closeDone⟩ := s.bridge.remove_entries pos
    refine hs.of_bridge es ?_ all hcl.trans closeDone
    intro xid o hmp
    simp only [Bridge.remove] at hmp
    split at hmp
    · exact hmp
    split at hmp
    · simp only [Bridge.setMapping] at hmp
      split at hmp
      · cases hmp
      · exact hmp
    · exact hmp
  | @finished pos =>
    refine ⟨hs.entries, hs.mapped, ?_, hs.closeDone⟩
    intro o e hl
    by_cases h : o = pos
    · -- only a mapping whose end was announced is taken off the list
      subst h
      right
      obtain ⟨hf, here, _, _, hann⟩ := hme.waiter may.1
      rw [show s.bridge.entries[o]? = some e from hl] at here
      cases here
      exact hann may.2
    · exact (hs.all hl).imp
        (fun hm => List.mem_filter.mpr ⟨hm, decide_eq_true h⟩) id
  | closeDone =>
    refine ⟨hs.entries, hs.mapped, hs.all, fun _ => ?_⟩
    exact hme.pending may
  | closing live => exact hs.of_bridge rfl id rfl (fun _ => rfl) rfl
  | _ => exact hs.of_bridge rfl id rfl id rfl

theorem Conduct.Means.afterEntry {old new : Mapping}
    (hme : k.Means (prc.setEntry pos new)) (ch : old.Change op r new)
    (hl : prc.bridge.entries[pos]? = some old) (hs : old.Sound) (may : k.mayEntry pos op) :
    (k.afterEntry pos op r).Means (prc.setEntry pos new) := by
  have here {property : Mapping → Prop} (hol : property new) :
      (prc.setEntry pos new).On pos property :=
    ⟨new, List.getElem?_set_self (List.getElem?_eq_some_iff.mp hl).1, hol⟩
  have ht {property : Mapping → Prop} (hol : (prc.setEntry pos new).On pos property) :
      property new := by
    obtain ⟨e, hf, has⟩ := hol
    rw [show (prc.setEntry pos new).bridge.entries[pos]? = some new from
      List.getElem?_set_self (List.getElem?_eq_some_iff.mp hl).1] at hf
    cases hf
    exact has
  cases ch with
  | begun _ _ =>
    refine { hme with calling := ?_, gate := ?_ }
    · intro o hbg
      cases hbg
      exact may.1
    · intro o hho
      cases may.2.2.symm.trans hho
  | closing hfr =>
    refine { hme with deactivated := ?_ }
    intro o _ done
    cases may.2.symm.trans done
  | closed done =>
    refine { hme with settled := ?_ }
    intro o hse
    cases hse
    exact here (hs.closeOnce done)
  | deactivated =>
    refine { hme with deactivated := ?_ }
    intro o hclg _
    cases Eq.symm may |>.trans hclg
    exact here rfl
  | closeLeft =>
    refine { hme with deactivated := nofun, settled := ?_ }
    intro o hse
    cases hse
    exact hme.deactivated may.1 may.2
  | reporting hfr => exact { hme with }
  | reported done =>
    refine { hme with settled := ?_ }
    intro o hse
    cases hse
    exact here (hs.fatalOnce done)
  | gateTaken _ =>
    refine { hme with gate := ?_, invoking := fun _ => rfl }
    intro o hta
    cases hta
    exact may.1
  | gateReleased _ =>
    refine { hme with gate := nofun, invoking := ?_ }
    intro invoking
    cases may.2.1.symm.trans invoking
  | callDone =>
    refine { hme with calling := nofun, gate := ?_ }
    intro o hho
    cases may.2.symm.trans hho
  | invoke => exact { hme with invoking := fun _ => Option.isSome_of_mem may.1 }
  | invoked => exact { hme with invoking := nofun }
  | callsOver idle =>
    refine { hme with waiter := ?_ }
    intro o hwt
    cases Eq.symm may |>.trans hwt
    obtain ⟨hia, _, hann⟩ := ht (hme.waiter may)
    exact here ⟨hia, fun _ => idle, hann⟩
  | announced =>
    refine { hme with waiter := ?_ }
    intro o hwt
    cases may.1.symm.trans hwt
    obtain ⟨hia, idle, _⟩ := ht (hme.waiter may.1)
    exact here ⟨hia, idle, fun _ => rfl⟩
  | awaited done =>
    refine { hme with pending := ?_ }
    intro _ hwt
    obtain ⟨_, hwa, rfl⟩ := Option.map_eq_some_iff.mp hwt
    obtain ⟨hcl, covered⟩ := hme.pending hwa
    refine ⟨hcl, fun o e hf => ?_⟩
    by_cases h : o = pos
    · subst h
      right
      have last : (prc.setEntry o old).On o (fun e => e = old) := here rfl
      obtain ⟨_, again, rfl⟩ := last
      rw [hf] at again
      cases again
      exact done
    · exact (covered hf).imp (fun hm => List.mem_filter.mpr ⟨hm, decide_eq_true h⟩) id
  | _ => exact { hme with }

theorem Conduct.Means.after {op : Operation} {r : op.Response}
    {s' : Process} (ch : s.Change op r s') (hs : s.Sound) (hme : k.Means s) (may : k.may op) :
    (k.after op r).Means s' := by
  have hk' := ch.later
  have kept := hme.later hk'
  cases ch with
  | entry hl ch => exact kept.afterEntry ch hl (hs.entries hl) may
  | @lookedUp xid =>
    refine { kept with found := ?_, calling := ?_ }
    · intro pos f
      refine ⟨xid, may.1, hs.mapped ?_⟩
      -- a closed bridge finds nothing
      have hans : s.bridge.lookup xid = some pos := f
      simp only [Bridge.lookup] at hans
      split at hans
      · cases hans
      · exact hans
    · intro pos hbg
      cases may.2.symm.trans hbg
  | closing _ =>
    refine { kept with snapshot := ?_ }
    intro _ hta
    cases hta
    exact ⟨rfl, hs.all⟩
  | closed _ => exact { kept with snapshot := nofun }
  | _ => exact { kept with }

section Runs

variable {rule : Step → Past → Bool} {p w : Past}

theorem Conduct.means_start (hou : admits g) : (Conduct.start g).Means prc := by
  cases g with
  | awaitCalls e | finishClose es => cases hou
  | _ => exact ⟨nofun, nofun, nofun, nofun, nofun, nofun, nofun, nofun, nofun⟩

theorem Conduct.Means.fork (hme : k.Means prc) (may : k.mayFork g) :
    (Conduct.start g).Means prc := by
  cases g with
  | awaitCalls e =>
    refine ⟨nofun, nofun, nofun, nofun, nofun, nofun, ?_, nofun, nofun⟩
    intro _ hwt
    cases hwt
    obtain ⟨mp, hl, hia⟩ := hme.deactivated may.1 may.2
    exact ⟨mp, hl, hia, nofun, nofun⟩
  | finishClose _ =>
    refine ⟨nofun, nofun, nofun, nofun, nofun, nofun, nofun, nofun, ?_⟩
    intro _ hwt
    cases hwt
    exact hme.snapshot may
  | serveHTTP _ => cases may
  | _ => exact ⟨nofun, nofun, nofun, nofun, nofun, nofun, nofun, nofun, nofun⟩

theorem later_of_next (next : callbacks.Next rule p w) : p.state.Later w.state := by
  cases next with
  | performed _ ran => exact (perform_change ran).later
  | entered _ _ hst => cases hst; exact Process.later_of_bridge rfl id
  | crashed _ hre => cases hre

theorem sound_of_reached (hr : callbacks.Reached rule .new p) :
    p.state.Sound ∧ ∀ t k, callDiscipline.knows t p.trace = some k → k.Means p.state := by
  refine System.Reached.understood conducts (fun _ => ⟨_, rfl⟩) (fun p => p.state.Sound)
    (fun p _ k => k.Means p.state) Process.sound_new ?_ ?_ ?_ ?_ ?_ ?_ hr
  · intro p t _ _ r st k _ _ hs me hk may _ ran
    have hch := perform_change ran
    have own := me t k hk
    exact ⟨hch.sound hs own may, own.after hch hs may⟩
  · intro p w t k _ _ next _ hk _ me
    exact (me t k hk).later (later_of_next next)
  · intro p pa e st _ hs hst
    cases hst
    exact hs
  · intro p pa g st k _ hs had spawned hst hb
    cases hst
    cases hb
    cases pa with
    | none => exact Conduct.means_start (had rfl)
    | some t =>
      obtain ⟨v, me, may⟩ := spawned t rfl
      exact me.fork may
  · intro p t k _ st _ _ _ hst me
    cases hst
    exact me
  · intro p st _ _ hre
    cases hre

/-! ### In flight -/

def Process.inflight (process : Process) (position : Nat) : Nat :=
  (process.bridge.entries[position]?).elim 0 Mapping.inflight

def Process.gateHeld (process : Process) (position : Nat) : Nat :=
  (process.bridge.entries[position]?).elim 0 fun entry => entry.gate.toNat

def Conduct.callsOn (position : Nat) (known : Conduct) : Bool := known.calling = some position

def Conduct.holdsGate (position : Nat) (known : Conduct) : Bool := known.gate = some position

theorem Process.getElem?_setEntry {o : Nat} {s s' : Mapping}
    (hl : prc.bridge.entries[pos]? = some s) : (prc.setEntry pos s').bridge.entries[o]? =
      if o = pos then some s' else prc.bridge.entries[o]? := by
  by_cases h : o = pos
  · subst h
    rw [if_pos rfl]
    exact List.getElem?_set_self (List.getElem?_eq_some_iff.mp hl).1
  · rw [if_neg h]
    exact List.getElem?_set_ne (Ne.symm h)

theorem Mapping.Change.balance {s s' : Mapping} (ch : s.Change op r s') (may : k.mayEntry pos op)
    (ct : k.callsOn pos → 0 < s.inflight) : s'.inflight + (k.callsOn pos).toNat =
        s.inflight + ((k.afterEntry pos op r).callsOn pos).toNat ∧
      s'.gate.toNat + (k.holdsGate pos).toNat =
        s.gate.toNat + ((k.afterEntry pos op r).holdsGate pos).toNat := by
  cases ch with
  | begun _ _ =>
    refine ⟨?_, rfl⟩
    have idle : k.callsOn pos = false := by simp [Conduct.callsOn, may.2.1]
    have hbg : (k.afterEntry pos .beginCall true).callsOn pos := by
      simp [Conduct.callsOn, Conduct.afterEntry]
    rw [idle, hbg]
    rfl
  | callDone =>
    refine ⟨?_, rfl⟩
    have hcg : k.callsOn pos := by simp [Conduct.callsOn, may.1]
    have hov : (k.afterEntry pos .doneCall ()).callsOn pos = false := rfl
    have hpos := ct hcg
    rw [hcg, hov]
    show s.inflight - 1 + 1 = s.inflight + 0
    omega
  | gateTaken free =>
    refine ⟨rfl, ?_⟩
    have hou : k.holdsGate pos = false := by simp [Conduct.holdsGate, may.2.1]
    have hi : (k.afterEntry pos .acquireGate true).holdsGate pos := by
      simp [Conduct.holdsGate, Conduct.afterEntry]
    rw [hou, hi, free]
    rfl
  | gateReleased held =>
    refine ⟨rfl, ?_⟩
    have hi : k.holdsGate pos := by simp [Conduct.holdsGate, may.1]
    have hou : (k.afterEntry pos .releaseGate ()).holdsGate pos = false := rfl
    rw [hi, hou, held]
    rfl
  | _ => exact ⟨rfl, rfl⟩

theorem Mapping.Change.share_elsewhere {s s' : Mapping} {o : Nat}
    (ne : o ≠ pos) (ch : s.Change op r s') (may : k.mayEntry pos op) :
    (k.afterEntry pos op r).callsOn o = k.callsOn o ∧
      (k.afterEntry pos op r).holdsGate o = k.holdsGate o := by
  have hfo : some pos ≠ some o := fun h => ne (Option.some.inj h).symm
  cases ch with
  | begun _ _ =>
    refine ⟨?_, rfl⟩
    simp [Conduct.callsOn, Conduct.afterEntry, may.2.1, Ne.symm ne]
  | callDone =>
    refine ⟨?_, rfl⟩
    simp [Conduct.callsOn, Conduct.afterEntry, may.1, Ne.symm ne]
  | gateTaken _ =>
    refine ⟨rfl, ?_⟩
    simp [Conduct.holdsGate, Conduct.afterEntry, may.2.1, Ne.symm ne]
  | gateReleased _ =>
    refine ⟨rfl, ?_⟩
    simp [Conduct.holdsGate, Conduct.afterEntry, may.1, Ne.symm ne]
  | _ => exact ⟨rfl, rfl⟩

theorem elim_getElem?_concat {es : List Mapping} {cnt : Mapping → Nat} (hem : cnt e = 0) :
    ((es ++ [e])[pos]?).elim 0 cnt = (es[pos]?).elim 0 cnt := by
  rw [List.getElem?_append]
  split
  · rfl
  rename_i hou
  rw [List.getElem?_eq_none (Nat.le_of_not_lt hou)]
  cases pos - es.length with
  | zero => exact hem
  | succ _ => rfl

theorem Process.Change.balance {op : Operation} {r : op.Response}
    {s' : Process} (ch : s.Change op r s') (may : k.may op)
    (hct : k.callsOn pos → 0 < s.inflight pos) : s'.inflight pos + (k.callsOn pos).toNat =
        s.inflight pos + ((k.after op r).callsOn pos).toNat ∧
      s'.gateHeld pos + (k.holdsGate pos).toNat =
        s.gateHeld pos + ((k.after op r).holdsGate pos).toNat := by
  cases ch with
  | @entry pl _ _ op r hl ch =>
    unfold inflight gateHeld at *
    rw [Process.getElem?_setEntry hl]
    by_cases h : pos = pl
    · subst h
      rw [if_pos rfl, hl]
      rw [hl] at hct
      exact ch.balance may hct
    · rw [if_neg h]
      have shares := ch.share_elsewhere h may
      show _ + _ = _ + ((k.afterEntry pl op r).callsOn pos).toNat ∧
        _ + _ = _ + ((k.afterEntry pl op r).holdsGate pos).toNat
      rw [shares.1, shares.2]
      exact ⟨rfl, rfl⟩
  | @selectedFatal _ pl e _ hl _ =>
    unfold inflight gateHeld
    rw [Process.getElem?_setEntry hl]
    by_cases h : pos = pl
    · subst h
      rw [if_pos rfl, hl]
      exact ⟨rfl, rfl⟩
    · rw [if_neg h]
      exact ⟨rfl, rfl⟩
  | @activated _ _ _ _ _ =>
    exact ⟨congrArg (· + _) (elim_getElem?_concat rfl), congrArg (· + _) (elim_getElem?_concat rfl)⟩
  | @removed pl =>
    have es := (s.bridge.remove_entries pl).1
    show ((s.bridge.remove pl).entries[pos]?).elim 0 _ + _ = _ ∧
      ((s.bridge.remove pl).entries[pos]?).elim 0 _ + _ = _
    rw [es]
    exact ⟨rfl, rfl⟩
  | _ => exact ⟨rfl, rfl⟩

theorem Conduct.start_idle : (callDiscipline.start g).any (callsOn pos) = false ∧
      (callDiscipline.start g).any (holdsGate pos) = false := by
  cases g <;> exact ⟨rfl, rfl⟩

theorem inflight_of_reached (pos : Nat) (hr : callbacks.Reached rule .new p) :
    callDiscipline.tally (Conduct.callsOn pos) p = p.state.inflight pos := by
  refine tally_eq_of_reached conducts (fun _ => ⟨_, rfl⟩) (Process.inflight · pos) rfl
    ?_ ?_ (fun _ => Conduct.start_idle.1) ?_ nofun hr
  · intro p t _ _ r st k _ _ may hct ran
    exact ((perform_change ran).balance may hct).1
  · intro _ t g st w hst
    cases hst
    rfl
  · intro k _ _
    rw [Conduct.start_idle.1]
    rfl

theorem gateHeld_of_reached (pos : Nat) (hr : callbacks.Reached rule .new p) :
    callDiscipline.tally (Conduct.holdsGate pos) p = p.state.gateHeld pos := by
  refine tally_eq_of_reached conducts (fun _ => ⟨_, rfl⟩) (Process.gateHeld · pos) rfl
    ?_ ?_ (fun _ => Conduct.start_idle.2) ?_ nofun hr
  · intro p t _ _ r st k s hk may _ ran
    refine ((perform_change ran).balance may fun hcg => ?_).2
    rw [← inflight_of_reached pos s]
    exact tally_pos (s.knows_below hk) hk hcg
  · intro _ t g st w hst
    cases hst
    rfl
  · intro k _ _
    rw [Conduct.start_idle.2]
    rfl

theorem gate_exclusive (hr : callbacks.Reached rule .new p) {t o : Nat}
    {v : Conduct} (hk : callDiscipline.knows t p.trace = some k) (hh : k.gate = some pos)
    (hok : callDiscipline.knows o p.trace = some v) (otherHolds : v.gate = some pos) : t = o := by
  have hsg : callDiscipline.tally (Conduct.holdsGate pos) p ≤ 1 := by
    rw [gateHeld_of_reached pos hr, Process.gateHeld]
    cases p.state.bridge.entries[pos]? with
    | none => exact Nat.zero_le 1
    | some e => exact Bool.toNat_le e.gate
  exact eq_of_tally_le_one hsg (hr.knows_below hk) hk (decide_eq_true hh)
    (hr.knows_below hok) hok (decide_eq_true otherHolds)

theorem not_calling_of_closeDone (hr : callbacks.Reached rule .new p)
    (cl : p.state.On pos (·.closeDone = true)) {t : Nat}
    (hk : callDiscipline.knows t p.trace = some k) : k.calling ≠ some pos := by
  intro hcg
  obtain ⟨e, hl, done⟩ := cl
  have hpos : 0 < callDiscipline.tally (Conduct.callsOn pos) p :=
    tally_pos (hr.knows_below hk) hk (decide_eq_true hcg)
  have idle := (((sound_of_reached hr).1.entries hl).closeDone done).2
  rw [inflight_of_reached pos hr, Process.inflight, hl] at hpos
  exact absurd idle (Nat.ne_of_gt hpos)

end Runs

end AISummoner.OpencodeBridge
