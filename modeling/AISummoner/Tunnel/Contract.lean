import AISummoner.Tunnel.Registrations

/-! # The registry over whole runs

What the manager promises its callers, over every interleaving of registrations,
removals, detachments, cleanups and shutdowns.
-/

namespace AISummoner.Tunnel.Registrations

open Concurrency

/-! ## What is seen of a connection -/

def Accepted (connection : Nat) (trace : List Entry) : Prop :=
  ∃ thread response state,
    (.performed thread (.register connection) response state : Entry) ∈ trace ∧
      response.accepted = true

/-- The registration of the connection for the Device is over: a newer one was
    accepted, or it was removed, detached or closed. -/
def Ends (deviceID : String) (connection : Nat) : Entry → Prop
  | .performed _ (.register other) response state =>
    response.accepted = true ∧ state.manager.On other (·.deviceID = deviceID) ∨
      response.closing = some connection
  | .performed _ (.remove other) _ _ => other = connection
  | .performed _ (.detachDevice device) _ _ => device = deviceID
  | .performed _ (.beginClose other) _ _ => other = connection
  | .performed _ (.reap other) _ _ => other = connection
  | .performed _ .closeAll _ _ => True
  | _ => False

/-- The latest accepted registration for the Device is the connection's, and it has
    not been removed, detached or closed. -/
def InForce (deviceID : String) (connection : Nat) (trace : List Entry) : Prop :=
  ∃ newer older thread response state,
    trace = newer ++ .performed thread (.register connection) response state :: older ∧
      response.accepted = true ∧ state.manager.On connection (·.deviceID = deviceID) ∧
      ∀ entry ∈ newer, ¬Ends deviceID connection entry

def Displaces (connection : Nat) (entry : Entry) : Prop :=
  (∃ thread other response state, entry = .performed thread (.register other) response state ∧
      response.replaced = some connection ∧ connection ≠ other) ∨
    ∃ thread deviceID first state,
      entry = .performed thread (.detachDevice deviceID) (some (connection, first)) state

def Drops (connection : Nat) (entry : Entry) : Prop :=
  ∃ thread operation response state, entry = .performed thread operation response state ∧
    (operation = .remove connection ∨ operation = .beginClose connection ∨
      operation = .finishCleanup connection ∨ operation = .reap connection)

def Returns (entry : Entry) : Prop :=
  ∃ thread state, entry = .performed thread .waitCleanups () state

/-! ## Goroutines and connections that are looked after -/

/-- The member of `owned` the goroutine stands for. -/
def Duty.owned : Duty → Option Nat
  | .owes connection => some connection
  | .awaits connection => some connection
  | .awaited connection => some connection
  | _ => none

/-- The goroutine stands for one in `cleanupWG`. -/
def Duty.counted : Duty → Bool
  | .free => false
  | .closing => false
  | _ => true

variable {op : Operation} {r : op.Response} {cn : Nat}
  {s after : Tunnels} {entry : Entry} {did : String} {tr : List Entry}

theorem Duty.counted_of_owned {duty : Duty} (how : duty.owned = some cn) : duty.counted := by
  cases duty with
  | free | closing => cases how
  | _ => rfl

def Keeper.holds (connection : Nat) (known : Keeper) : Bool := known.duty.owned = some connection

def Keeper.counts (known : Keeper) : Bool := known.duty.counted

structure Idle (operation : Operation) : Prop where
  register : ∀ connection, operation ≠ .register connection
  reap : ∀ connection, operation ≠ .reap connection
  doneCleanup : operation ≠ .doneCleanup

theorem idle_or (op : Operation) : (∃ cn, op = .register cn) ∨ (∃ cn, op = .reap cn) ∨
      op = .doneCleanup ∨ Idle op := by
  cases op with
  | register cn => exact .inl ⟨cn, rfl⟩
  | reap cn => exact .inr (.inl ⟨cn, rfl⟩)
  | doneCleanup => exact .inr (.inr (.inl rfl))
  | _ => exact .inr (.inr (.inr ⟨nofun, nofun, nofun⟩))

variable {k : Keeper}

section Runs

variable {rule : Step → Past → Bool} {past w : Past}

theorem sound_of_reached (hr : registrations.Reached rule .new past) :
    past.state.manager.Sound := by
  refine System.Reached.induction Manager.sound_empty ?_ hr
  intro past w _ _ next hs
  cases next with
  | performed hal ran =>
    cases performs_of_perform hs ran with
    | newConnection => exact hs.newConnection
    | register hrg _ _ _ => exact hrg.sound hs
    | remove => exact hs.remove
    | detachDevice _ => exact hs.detachDevice
    | beginClose => exact hs.close
    | finishCleanup => exact hs.update Connection.later_cleaned
    | awaitCleanup cleaned | doneCleanup | waitCleanups zero | get | online => exact hs
    | reap => exact hs.reap
    | closeAll => exact hs.closeAll
  | entered hal _ hst => cases hst; exact hs
  | crashed hal hre => cases hre

theorem Performs.later (ps : Performs s op r after) : s.manager.Later after.manager := by
  cases ps with
  | newConnection => exact Manager.later_newConnection
  | register hrg _ _ _ => exact hrg.later
  | remove => exact Manager.later_remove
  | detachDevice _ => exact Manager.later_detachDevice
  | beginClose => exact Manager.later_close
  | finishCleanup => exact Manager.later_update Connection.later_cleaned
  | awaitCleanup cleaned | doneCleanup | waitCleanups zero | get | online => exact .refl _
  | reap => exact Manager.later_reap
  | closeAll => exact Manager.later_closeAll

theorem Performs.of_idle (ps : Performs s op r after) (idle : Idle op) :
    after.manager.owned = s.manager.owned ∧ after.cleanupWG = s.cleanupWG := by
  cases ps with
  | @register cn => exact absurd rfl (idle.register cn)
  | @reap cn => exact absurd rfl (idle.reap cn)
  | doneCleanup => exact absurd rfl idle.doneCleanup
  | remove => exact ⟨Manager.owned_remove, rfl⟩
  | detachDevice => exact ⟨Manager.owned_detachDevice, rfl⟩
  | closeAll => exact ⟨Manager.owned_closeAll, rfl⟩
  | _ => exact ⟨rfl, rfl⟩

namespace Keeper

variable {k : Keeper} {cn : Nat}

theorem start_free {g : Goroutine} (hou : admits g) : (Keeper.start g).duty = .free := by
  cases g <;> first | rfl | cases hou

theorem after_idle (may : k.may op) (idle : Idle op) : (k.after op r).duty.owned = k.duty.owned ∧
      (k.after op r).duty.counted = k.duty.counted := by
  cases op with
  | closeAll =>
    rw [show k.duty = .free from may]
    exact ⟨rfl, rfl⟩
  | awaitCleanup cn =>
    simp only [after]
    rcases may with free | awaits
    · rw [free]
      exact ⟨rfl, rfl⟩
    · rw [awaits]
      exact ⟨rfl, rfl⟩
  | detachDevice _ =>
    match r with
    | none => exact ⟨rfl, rfl⟩
    | some (_, true) => exact ⟨rfl, rfl⟩
    | some (_, false) => exact ⟨rfl, rfl⟩
  | beginClose cn =>
    cases r with
    | true | false => exact ⟨rfl, rfl⟩
  | register cn => exact absurd rfl (idle.register cn)
  | reap cn => exact absurd rfl (idle.reap cn)
  | doneCleanup => exact absurd rfl idle.doneCleanup
  | _ => exact ⟨rfl, rfl⟩

theorem fork_duty {cd : Goroutine} (may : k.mayFork cd) :
    k.duty.owned = (Keeper.start cd).duty.owned ∧ k.duty.counted = (Keeper.start cd).duty.counted ∧
        (k.afterFork cd).duty = .free ∨
      (Keeper.start cd).duty = .free ∧ (k.afterFork cd).duty = k.duty := by
  cases cd with
  | own cn =>
    rw [show k.duty = .owes cn from may]
    exact .inl ⟨rfl, rfl, rfl⟩
  | cleanup cn => exact .inr ⟨rfl, rfl⟩
  | _ => cases may

end Keeper

theorem held_of_reached (cn : Nat) (hr : registrations.Reached rule .new past) :
    keeping.tally (Keeper.holds cn) past = (decide (cn ∈ past.state.manager.owned)).toNat := by
  refine Discipline.tally_eq_of_reached keeps (fun _ => ⟨_, rfl⟩)
    (fun tns => (decide (cn ∈ tns.manager.owned)).toNat) rfl ?_ ?_ ?_ ?_ nofun hr
  · intro past t op _ r st k s _ may pos ran
    have hps := performs_of_perform (sound_of_reached s) ran
    unfold Keeper.holds at pos ⊢
    obtain ⟨o, rfl⟩ | ⟨o, rfl⟩ | rfl | idle := idle_or op
    · have free : k.duty = .free := may
      cases hps with
      | register hrg _ _ hows =>
        have hm : cn ∈ _ ↔ _ := hrg.owned
        have moved : (keeping.after k (.register o) r).duty.owned =
            if r.owns then some o else none := by
          show (if r.owns then Duty.owes o else k.duty).owned = _
          rw [free]
          cases r.owns <;> rfl
        rw [moved, hows, free]
        simp only [hm]
        by_cases here : cn ∈ past.state.manager.owned
        · by_cases h : o = cn
          · simp [here, h, Duty.owned]
          · simp [here, h, Duty.owned]
        · by_cases h : o = cn
          · cases r.accepted <;> simp [here, h, Duty.owned]
          · simp [here, h, Ne.symm h, Duty.owned]
    · have awaited : k.duty = .awaited o := may
      cases hps
      show (decide (cn ∈ (past.state.manager.reap o).owned)).toNat + _ =
        _ + (decide ((none : Option Nat) = _)).toNat
      rw [awaited] at pos ⊢
      by_cases h : o = cn
      · have here : cn ∈ past.state.manager.owned := by
          by_contra absent
          have nonzero := pos (by simp [Duty.owned, h])
          simp [absent] at nonzero
        simp [Duty.owned, Manager.reap, Manager.owned_remove, h, here]
      · simp [Duty.owned, Manager.reap, Manager.owned_remove, h, Ne.symm h]
    · obtain ⟨o, reaped⟩ := may
      cases hps
      rw [reaped]
      rfl
    · have h : (keeping.after k op r).duty.owned = k.duty.owned :=
        (Keeper.after_idle may idle).1
      simp only [h, (hps.of_idle idle).1]
  · intro _ t _ st w hent
    cases hent
    rfl
  · intro g st had
    show Keeper.holds cn (Keeper.start g) = false
    rw [Keeper.holds, Keeper.start_free had]
    rfl
  · intro k cd may
    show (Keeper.holds cn (k.afterFork cd)).toNat + (Keeper.holds cn (Keeper.start cd)).toNat = _
    unfold Keeper.holds
    obtain ⟨how, _, hed⟩ | ⟨hfr, h⟩ := Keeper.fork_duty may
    · rw [how, hed]
      exact Nat.zero_add _
    · rw [h, hfr]
      exact Nat.add_zero _

/-- The counter of `cleanupWG` is the number of goroutines that still look after a connection. -/
theorem counted_of_reached (hr : registrations.Reached rule .new past) :
    keeping.tally Keeper.counts past = past.state.cleanupWG := by
  refine Discipline.tally_eq_of_reached keeps (fun _ => ⟨_, rfl⟩) Tunnels.cleanupWG rfl ?_ ?_ ?_ ?_
    nofun hr
  · intro past t op _ r st k s _ may pos ran
    have hps := performs_of_perform (sound_of_reached s) ran
    unfold Keeper.counts at pos ⊢
    obtain ⟨o, rfl⟩ | ⟨o, rfl⟩ | rfl | idle := idle_or op
    · have free : k.duty = .free := may
      have moved : (keeping.after k (.register o) r).duty.counted = r.owns := by
        show (if r.owns then Duty.owes o else k.duty).counted = _
        rw [free]
        cases r.owns <;> rfl
      cases hps with
      | register _ _ _ _ =>
        rw [moved, free]
        exact Nat.add_zero _
    · have awaited : k.duty = .awaited o := may
      cases hps
      rw [awaited]
      rfl
    · obtain ⟨o, reaped⟩ := may
      rw [reaped] at pos ⊢
      have nonzero := pos rfl
      cases hps
      show past.state.cleanupWG - 1 + 1 = past.state.cleanupWG + 0
      omega
    · have h : (keeping.after k op r).duty.counted = k.duty.counted :=
        (Keeper.after_idle may idle).2
      rw [h, (hps.of_idle idle).2]
  · intro _ t _ st w hent
    cases hent
    rfl
  · intro g st had
    show Keeper.counts (Keeper.start g) = false
    rw [Keeper.counts, Keeper.start_free had]
    rfl
  · intro k cd may
    show (Keeper.counts (k.afterFork cd)).toNat + (Keeper.counts (Keeper.start cd)).toNat = _
    unfold Keeper.counts
    obtain ⟨_, hct, hed⟩ | ⟨hfr, h⟩ := Keeper.fork_duty may
    · rw [hct, hed]
      exact Nat.zero_add _
    · rw [h, hfr]
      exact Nat.add_zero _

theorem owned_of_idle (hr : registrations.Reached rule .new past)
    (zero : past.state.cleanupWG = 0) (cn : Nat) : cn ∉ past.state.manager.owned := by
  intro how
  have held := held_of_reached cn hr
  have hct := counted_of_reached hr
  have fewer : keeping.tally (Keeper.holds cn) past ≤ keeping.tally Keeper.counts past :=
    Discipline.tally_mono fun k has => Duty.counted_of_owned (of_decide_eq_true has)
  rw [held, hct, zero] at fewer
  simp [how] at fewer

theorem Performs.selectLive (ps : Performs s op r after)
    (hs : s.manager.Sound) (on : after.manager.selectLive did = some cn) (t : Nat) :
    (∃ ans : Registered, (.performed t op r after : Entry) =
        .performed t (.register cn) ans after ∧ ans.accepted ∧
        after.manager.On cn (·.deviceID = did)) ∨ s.manager.selectLive did = some cn ∧
        ¬Ends did cn (.performed t op r after) := by
  cases ps with
  | newConnection =>
    exact .inr ⟨Manager.selectLive_of_later Manager.later_newConnection hs id on, id⟩
  | @register o ans m hrg _ closes _ =>
    rcases hrg.selectLive hs on with ⟨ha, rfl, placed⟩ | ⟨pre, el, _⟩
    · exact .inl ⟨ans, rfl, ha, placed⟩
    refine .inr ⟨pre, ?_⟩
    rintro (⟨ha, v, hl, h⟩ | hst)
    · obtain ⟨_, hf, ne⟩ := el ha
      cases Option.some.inj (hf.symm.trans hl)
      exact ne h
    · have hcl := Manager.isClosed_of_on (closes cn hst)
      rw [(Manager.selectLive_eq_some.mp on).2] at hcl
      cases hcl
  | remove =>
    obtain ⟨pre, ne⟩ := hs.selectLive_remove on
    exact .inr ⟨pre, Ne.symm ne⟩
  | @detachDevice _ r _ =>
    have entry := (Manager.selectLive_eq_some.mp on).1
    obtain ⟨ne, _⟩ := Manager.current_of_detachDevice entry
    refine .inr ⟨?_, Ne.symm ne⟩
    exact Manager.selectLive_of_later Manager.later_detachDevice hs
      (fun hf => (Manager.current_of_detachDevice hf).2) on
  | beginClose =>
    obtain ⟨pre, ne⟩ := hs.selectLive_close on
    exact .inr ⟨pre, Ne.symm ne⟩
  | finishCleanup =>
    exact .inr ⟨Manager.selectLive_of_later (Manager.later_update Connection.later_cleaned) hs id
      on, id⟩
  | awaitCleanup cleaned | doneCleanup | waitCleanups zero | get | online => exact .inr ⟨on, id⟩
  | @reap o =>
    have removed : (s.manager.remove o).selectLive did = some cn := on
    obtain ⟨pre, ne⟩ := hs.selectLive_remove removed
    exact .inr ⟨pre, Ne.symm ne⟩
  | closeAll =>
    have entry := (Manager.selectLive_eq_some.mp on).1
    rw [hs.current_closeAll] at entry
    cases entry

theorem InForce.cons (inForce : InForce did cn tr) (lasts : ¬Ends did cn entry) :
    InForce did cn (entry :: tr) := by
  obtain ⟨nw, ol, t, r, st, rfl, ha, placed, hue⟩ := inForce
  refine ⟨entry :: nw, ol, t, r, st, rfl, ha, placed, ?_⟩
  intro o hm
  rcases List.mem_cons.mp hm with rfl | hm
  · exact lasts
  · exact hue o hm

theorem inForce_of_selectLive (hr : registrations.Reached rule .new past)
    (hon : past.state.manager.selectLive did = some cn) : InForce did cn past.trace := by
  refine System.Reached.induction (motive := fun past =>
    past.state.manager.selectLive did = some cn → InForce did cn past.trace) ?_ ?_ hr hon
  · intro hon
    cases hon
  intro past w s _ next ih hon
  cases next with
  | @performed t _ _ r st hal ran =>
    have hs := sound_of_reached s
    have hps := performs_of_perform hs ran
    rcases hps.selectLive hs hon t with ⟨ans, h, ha, placed⟩ | ⟨pre, lasts⟩
    · refine ⟨[], past.trace, t, ans, st, ?_, ha, placed, nofun⟩
      rw [h]
      rfl
    · exact (ih pre).cons lasts
  | @entered _ g st hal _ hst =>
    cases hst
    exact (ih hon).cons id
  | crashed hal hre => cases hre

/-! ## Closing and cleaning up -/

structure Keeper.Means (manager : Manager) (known : Keeper) : Prop where
  closed : ∀ {connection}, known.closed = some connection → manager.On connection (·.closed = true)
  awaited : ∀ {connection}, known.duty = .awaited connection →
    manager.On connection (·.cleaned = true)
  closing : known.duty = .closing → manager.closing = true

theorem Keeper.Means.later {s after : Manager} (hme : k.Means s)
    (k' : s.Later after) : k.Means after where
  closed found := (hme.closed found).later k' fun hch => hch.closed
  awaited found := (hme.awaited found).later k' fun hch => hch.cleaned
  closing found := k'.closing (hme.closing found)

theorem Performs.means (ps : Performs s op r after)
    (hs : s.manager.Sound) (hme : k.Means s.manager) (may : k.may op) :
    (k.after op r).Means after.manager := by
  have kept := hme.later ps.later
  cases ps with
  | @register cn r m _ _ closes _ =>
    have free : k.duty = .free := may
    have moved : (k.after (.register cn) r).duty = .free ∨
        (k.after (.register cn) r).duty = .owes cn := by
      show (if r.owns then Duty.owes cn else k.duty) = _ ∨ _
      rw [free]
      cases how : r.owns with
      | false => exact .inl rfl
      | true => exact .inr (by simp [Keeper.after, how])
    refine ⟨fun hf => closes _ hf, fun awaited => ?_, fun hclg => ?_⟩
    · rw [awaited] at moved
      rcases moved with him | him <;> cases him
    · rw [hclg] at moved
      rcases moved with him | him <;> cases him
  | @detachDevice _ r detaches =>
    match r with
    | none => exact kept
    | some (_, false) => exact kept
    | some (cn, true) =>
      refine { kept with closed := fun hf => ?_ }
      cases hf
      exact hs.on_detachDevice (detaches cn true rfl)
  | @beginClose cn =>
    cases shut : s.manager.isClosed cn with
    | true => exact kept
    | false =>
      refine { kept with closed := fun hf => ?_ }
      cases hf
      exact Manager.on_close ((Manager.isClosed_eq_false.mp shut).mono fun _ => trivial)
  | closeAll =>
    exact ⟨kept.closed, nofun, fun _ => Manager.closing_closeAll⟩
  | @awaitCleanup cn hcn =>
    rcases may with free | awaits
    · refine ⟨kept.closed, fun hf => ?_, fun hf => ?_⟩
      · simp [Keeper.after, free] at hf
      · simp [Keeper.after, free] at hf
    · refine ⟨kept.closed, fun hf => ?_, fun hf => ?_⟩
      · simp only [Keeper.after, awaits, reduceCtorEq, if_false, Duty.awaited.injEq] at hf
        exact hf ▸ hcn
      · simp [Keeper.after, awaits] at hf
  | reap | doneCleanup => exact ⟨kept.closed, nofun, nofun⟩
  | _ => exact kept

theorem Performs.tidy (ps : Performs s op r after)
    (tidy : s.manager.Tidy) (hme : k.Means s.manager) (may : k.may op) : after.manager.Tidy := by
  cases ps with
  | newConnection => exact tidy.newConnection
  | register hrg _ _ _ => exact hrg.tidy tidy
  | remove | reap => exact tidy.of_connections Manager.connections_remove
  | detachDevice _ => exact tidy.detachDevice
  | beginClose => exact tidy.close
  | finishCleanup =>
    refine tidy.update fun hl _ _ => ?_
    obtain ⟨v, hf, hcl⟩ := hme.closed may
    cases Option.some.inj (hf.symm.trans hl)
    exact hcl
  | awaitCleanup cleaned | doneCleanup | waitCleanups zero | get | online => exact tidy
  | closeAll => exact tidy.closeAll

structure Settled (past : Past) : Prop where
  tidy : past.state.manager.Tidy
  accepted : ∀ {connection}, Accepted connection past.trace →
    connection ∈ past.state.manager.owned ∨ past.state.manager.On connection (·.cleaned = true)
  displaced : ∀ {connection entry}, entry ∈ past.trace → Displaces connection entry →
    past.state.manager.On connection (·.closed = true)
  returned : ∀ {entry}, entry ∈ past.trace → Returns entry → past.state.manager.closing = true ∧
    ∀ connection, Accepted connection past.trace →
      past.state.manager.On connection (·.cleaned = true)

theorem Accepted.of_cons (a : Accepted cn (entry :: tr)) : Accepted cn tr ∨ ∃ t r st,
      entry = .performed t (.register cn) r st ∧ r.accepted := by
  obtain ⟨t, r, st, hm, isAccepted⟩ := a
  rcases List.mem_cons.mp hm with rfl | hm
  · exact .inr ⟨t, r, st, rfl, isAccepted⟩
  · exact .inl ⟨t, r, st, hm, isAccepted⟩

theorem Performs.released (ps : Performs s op r after) (hme : k.Means s.manager) (may : k.may op)
    (how : cn ∈ s.manager.owned) :
    cn ∈ after.manager.owned ∨ after.manager.On cn (·.cleaned = true) := by
  obtain ⟨o, rfl⟩ | ⟨o, rfl⟩ | rfl | idle := idle_or op
  · cases ps with
    | register hrg _ _ _ => exact .inl (hrg.owned.mpr (.inr how))
  · have hk' := ps.later
    cases ps
    by_cases h : cn = o
    · subst h
      exact .inr ((hme.awaited may).later hk' fun hch => hch.cleaned)
    · refine .inl ?_
      show cn ∈ (s.manager.remove o).owned.filter _
      simp [Manager.owned_remove, how, h]
  · cases ps
    exact .inl how
  · rw [(ps.of_idle idle).1]
    exact .inl how

theorem settled_performed {t : Nat} {st : Tunnels}
    (hr : registrations.Reached rule .new past) (se : Settled past)
    (hme : k.Means past.state.manager) (may : k.may op) (ps : Performs past.state op r st) :
    Settled (past.perform t op r st) := by
  have hk' := ps.later
  have hs := sound_of_reached hr
  have hcn {cn : Nat} (on : past.state.manager.On cn (·.cleaned = true)) :
      st.manager.On cn (·.cleaned = true) := on.later hk' fun hch => hch.cleaned
  refine ⟨ps.tidy se.tidy hme may, ?_, ?_, ?_⟩
  · intro cn ha
    rcases ha.of_cons with pre | ⟨_, ans, _, h, isAccepted⟩
    · rcases se.accepted pre with how | done
      · exact ps.released hme may how
      · exact .inr (hcn done)
    · cases h
      cases ps with
      | register hrg hdi closes hows =>
        exact .inl (hrg.owned.mpr (.inl ⟨isAccepted, rfl⟩))
  · intro cn entry hm hdi
    rcases List.mem_cons.mp hm with rfl | hm
    · rcases hdi with ⟨_, o, ans, _, h, hrp, ne⟩ | ⟨_, _, a, _, h⟩
      · cases h
        cases ps with
        | register hrg hdi closes hows => exact hdi cn hrp ne
      · cases h
        cases ps with
        | detachDevice detaches => exact hs.on_detachDevice (detaches cn a rfl)
    · exact (se.displaced hm hdi).later hk' fun hch => hch.closed
  · intro entry hm returns
    rcases List.mem_cons.mp hm with rfl | hm
    · obtain ⟨_, _, h⟩ := returns
      cases h
      cases ps with
      | waitCleanups zero =>
        refine ⟨hme.closing may, fun cn ha => ?_⟩
        rcases ha.of_cons with pre | ⟨_, _, _, h, _⟩
        · rcases se.accepted pre with how | done
          · exact absurd how (owned_of_idle hr zero cn)
          · exact done
        · cases h
    · obtain ⟨hclg, every⟩ := se.returned hm returns
      refine ⟨hk'.closing hclg, fun cn ha => ?_⟩
      rcases ha.of_cons with pre | ⟨_, ans, _, h, isAccepted⟩
      · exact hcn (every cn pre)
      -- nothing is accepted any more
      cases h
      cases ps with
      | register hrg hdi closes hows =>
        rw [isAccepted] at hrg
        exact nomatch hrg.accepting.symm.trans hclg

theorem settled_entered {pa : Option Nat} {g : Goroutine} (se : Settled past) :
    Settled (past.enter pa g past.state) := by
  have hpre {cn : Nat}
      (ha : Accepted cn (.entered pa past.threads g past.state :: past.trace)) :
      Accepted cn past.trace := by
    rcases ha.of_cons with hpre | ⟨_, _, _, h, _⟩
    · exact hpre
    · cases h
  refine ⟨se.tidy, fun ha => se.accepted (hpre ha), ?_, ?_⟩
  · intro cn entry hm hdi
    rcases List.mem_cons.mp hm with rfl | hm
    · rcases hdi with ⟨_, _, _, _, h, _⟩ | ⟨_, _, _, _, h⟩ <;> cases h
    · exact se.displaced hm hdi
  · intro entry hm returns
    rcases List.mem_cons.mp hm with rfl | hm
    · obtain ⟨_, _, h⟩ := returns
      cases h
    · obtain ⟨hclg, every⟩ := se.returned hm returns
      exact ⟨hclg, fun cn ha => every cn (hpre ha)⟩

theorem settled_of_reached (hr : registrations.Reached rule .new past) : Settled past := by
  refine (System.Reached.understood keeps (fun _ => ⟨_, rfl⟩) Settled
    (fun past _ k => k.Means past.state.manager) ?_ ?_ ?_ ?_ ?_ ?_ nofun hr).1
  · refine ⟨fun _ _ hl => ?_, ?_, nofun, nofun⟩
    · cases hl
    · rintro _ ⟨_, _, _, hm, _⟩
      cases hm
  · intro past t _ _ r st k s _ hse every hk may _ ran
    have hs := sound_of_reached s
    have hps := performs_of_perform hs ran
    have hme := every t k hk
    exact ⟨settled_performed s hse hme may hps, hps.means hs hme may⟩
  · intro past w t k s _ next _ hk _ every
    have hme := every t k hk
    cases next with
    | performed hal ran =>
      exact hme.later (performs_of_perform (sound_of_reached s) ran).later
    | entered hal had hst => cases hst; exact hme
    | crashed hal hre => cases hre
  · intro past pa g st _ hse hst
    cases hst
    exact settled_entered hse
  · intro past pa g st k _ _ had forked hst hb
    cases hst
    cases Option.some.inj hb
    cases g with
    | cleanup cn =>
      -- only a goroutine that has just closed the connection starts its cleanup
      cases pa with
      | none => cases had rfl
      | some spawner =>
        obtain ⟨v, hme, may⟩ := forked spawner rfl
        refine ⟨fun hf => ?_, nofun, nofun⟩
        cases hf
        exact hme.closed may
    | _ => exact ⟨nofun, nofun, nofun⟩
  · intro past t k cd st _ _ may hst hme
    cases hst
    cases cd with
    | own cn => exact ⟨hme.closed, nofun, nofun⟩
    | cleanup cn => exact hme
    | _ => cases may

theorem later_of_entry (hr : registrations.Reached rule .new past)
    (hm : entry ∈ past.trace) : entry.state.manager.Later past.state.manager := by
  refine System.Reached.induction (motive := fun past =>
    entry ∈ past.trace → entry.state.manager.Later past.state.manager) nofun ?_ hr hm
  intro past w s _ next ih hm
  have hsp : past.state.manager.Later w.state.manager := by
    cases next with
    | performed hal ran =>
      exact (performs_of_perform (sound_of_reached s) ran).later
    | entered hal _ hst => cases hst; exact .refl _
    | crashed hal hre => cases hre
  obtain ⟨_, hrcd, h⟩ := next.trace
  rw [hrcd] at hm
  rcases List.mem_cons.mp hm with rfl | hm
  · rw [h]
    exact .refl _
  · exact (ih hm).trans hsp

theorem selectLive_of_answered {newest mid' ol : List Entry} {t : Nat}
    {read an : Tunnels} (hr : registrations.Reached rule .new past)
    (hsp : past.trace = newest ++ .performed t (.online cn) true an ::
      (mid' ++ .performed t (.get did) (some cn) read :: ol)) :
    read.manager.selectLive did = some cn := by
  obtain ⟨_, reachedAsked, traceAsked⟩ := hr.back hsp
  obtain ⟨s, _, reachedBefore, traceBefore, asks⟩ := reachedAsked.executed traceAsked
  obtain ⟨hlk, reachedLooked, traceLooked⟩ := reachedBefore.back traceBefore
  obtain ⟨pre, _, _, _, looks⟩ := reachedLooked.executed traceLooked
  have hs := sound_of_reached reachedLooked
  have h : read = hlk.state := reachedLooked.entry_state traceLooked
  -- the first read found the connection, the second found it open
  have hf : read.manager.current did = some cn := by
    have hans : (pre.state.manager.current did, pre.state) = (some cn, read) :=
      Option.some.inj looks
    rw [← (Prod.mk.inj hans).2]
    exact (Prod.mk.inj hans).1
  have live : s.state.manager.isClosed cn = false := by
    have hans : (!s.state.manager.isClosed cn) := congrArg Prod.fst (Option.some.inj asks)
    simpa using hans
  have hm : (.performed t (.get did) (some cn) read : Entry) ∈ s.trace := by
    rw [traceBefore]
    exact List.mem_append_right mid' List.mem_cons_self
  have hk' : read.manager.Later s.state.manager := later_of_entry reachedBefore hm
  have ht : read.manager.On cn fun _ => True := by
    rw [h] at hf ⊢
    exact (hs.current hf).mono fun _ => trivial
  exact Manager.selectLive_eq_some.mpr ⟨hf, hk'.live ht live⟩

theorem selectLive_of_drops {o : Nat} (next : registrations.Next rule past w)
    (hrcd : w.trace = entry :: past.trace) (drops : Drops cn entry)
    (ne : o ≠ cn) (hon : past.state.manager.selectLive did = some o) :
    w.state.manager.selectLive did = some o := by
  obtain ⟨t, _, r, _, rfl, kind⟩ := drops
  cases next with
  | performed hal ran =>
    cases (List.cons.inj hrcd).1
    rcases kind with rfl | rfl | rfl | rfl
    · cases Option.some.inj ran
      exact Manager.selectLive_remove_ne ne hon
    · cases Option.some.inj ran
      exact Manager.selectLive_update_ne ne hon
    · cases Option.some.inj ran
      exact Manager.selectLive_update_ne ne hon
    · cases Option.some.inj ran
      exact Manager.selectLive_remove_ne ne hon
  | entered hal admitted started | crashed hal hre => cases (List.cons.inj hrcd).1

/-- The contract of the registry, in every history:

    * a Device is online only through its latest accepted registration, while that has
      not been removed, detached or closed, and `IsOnline` answers no more than that;
    * removing, closing or cleaning up a connection leaves every other one online;
    * a connection that was replaced or detached is closed, and is not online;
    * once a `CloseAll` has returned no Device is online, and every connection that was
      ever accepted is closed and cleaned up. -/
theorem newest_registration_wins (reached : registrations.Reached permitted .new past) :
    (∀ deviceID, past.state.manager.isOnline deviceID = true →
      ∃ connection, past.state.manager.selectLive deviceID = some connection ∧
        InForce deviceID connection past.trace) ∧
    (∀ newest middle older thread deviceID connection read answered,
      past.trace = newest ++ .performed thread (.online connection) true answered ::
        (middle ++ .performed thread (.get deviceID) (some connection) read :: older) →
      read.manager.selectLive deviceID = some connection) ∧
    (∀ changed entry connection, registrations.Next permitted past changed →
      changed.trace = entry :: past.trace → Drops connection entry →
      ∀ deviceID other, other ≠ connection →
        past.state.manager.selectLive deviceID = some other →
        changed.state.manager.selectLive deviceID = some other) ∧
    (∀ entry ∈ past.trace, ∀ connection, Displaces connection entry →
      past.state.manager.On connection (·.closed = true) ∧
        ∀ deviceID, past.state.manager.selectLive deviceID ≠ some connection) ∧
    ∀ entry ∈ past.trace, Returns entry →
      (∀ deviceID, past.state.manager.isOnline deviceID = false) ∧
        ∀ connection, Accepted connection past.trace →
          past.state.manager.On connection fun value => value.closed = true ∧ value.cleaned = true := by
  have settled := settled_of_reached reached
  have sound := sound_of_reached reached
  refine ⟨?_, ?_, ?_, ?_, ?_⟩
  · intro deviceID online
    rw [Manager.isOnline_eq] at online
    obtain ⟨connection, selected⟩ := Option.isSome_iff_exists.mp online
    exact ⟨connection, selected, inForce_of_selectLive reached selected⟩
  · intro _ _ _ _ _ _ _ _ split
    exact selectLive_of_answered reached split
  · intro _ _ _ next recorded drops _ _ different online
    exact selectLive_of_drops next recorded drops different online
  · intro entry member connection displaces
    have closed := settled.displaced member displaces
    refine ⟨closed, fun deviceID online => ?_⟩
    have live := (Manager.selectLive_eq_some.mp online).2
    rw [Manager.isClosed_of_on closed] at live
    cases live
  · intro entry member returns
    obtain ⟨closing, every⟩ := settled.returned member returns
    refine ⟨fun deviceID => ?_, fun connection accepted => ?_⟩
    · rw [Manager.isOnline_eq, Manager.selectLive, sound.closing closing deviceID]
      rfl
    · obtain ⟨value, located, cleaned⟩ := every connection accepted
      exact ⟨value, located, settled.tidy located cleaned, cleaned⟩

end Runs

/-! ## A reconnection and a shutdown -/

def anyStep : Step → Past → Bool := fun _ _ => true

/-- A Device connects twice; the second connection replaces the first. -/
def reconnection : List (Label Goroutine Unit) :=
  [.start (.newConnection "conn_1" "dev_1"), .run 0 (), .start (.newConnection "conn_2" "dev_1"),
    .run 1 (), .start (.register 0), .run 2 (), .run 2 (), .start (.register 1), .run 4 (), .run 4 (),
    .run 4 ()]

/-- Both are cleaned up before `CloseAll` returns. -/
def shutdown : List (Label Goroutine Unit) :=
  [.run 6 (), .run 3 (), .run 3 (), .run 3 (), .start .closeAll, .run 7 (), .run 7 (), .run 7 (),
    .run 8 (), .run 5 (), .run 5 (), .run 5 (), .run 7 ()]

def replaces (connection : Nat) : Entry → Bool
  | .performed _ (.register other) response _ => response.replaced = some connection && connection != other
  | _ => false

def accepts (connection : Nat) : Entry → Bool
  | .performed _ (.register other) response _ => other = connection && response.accepted
  | _ => false

def returns : Entry → Bool
  | .performed _ .waitCleanups _ _ => true
  | _ => false

theorem displaces_of_replaces (hh : replaces cn entry) : Displaces cn entry := by
  unfold replaces at hh
  split at hh
  · rename_i t o r st
    simp only [Bool.and_eq_true, decide_eq_true_eq, bne_iff_ne] at hh
    exact .inl ⟨t, o, r, st, rfl, hh.1, hh.2⟩
  · cases hh

theorem accepted_of_accepts (hm : entry ∈ tr) (h : accepts cn entry) : Accepted cn tr := by
  unfold accepts at h
  split at h
  · rename_i t o r st
    simp only [Bool.and_eq_true, decide_eq_true_eq] at h
    obtain ⟨rfl, ha⟩ := h
    exact ⟨t, r, st, hm, ha⟩
  · cases h

theorem returns_of_returns (hh : returns entry) : Returns entry := by
  unfold returns at hh
  split at hh
  · exact ⟨_, _, rfl⟩
  · cases hh

theorem newest_registration_wins_reconnection :
    (∃ past connection, registrations.Reached anyStep .new past ∧
      past.state.manager.isOnline "dev_1" = true ∧ InForce "dev_1" connection past.trace ∧
      past.state.manager.On 0 (·.closed = true)) ∧
    ∃ past, registrations.Reached anyStep .new past ∧ Accepted 1 past.trace ∧
      past.state.manager.isOnline "dev_1" = false ∧
      past.state.manager.On 1 fun value => value.closed = true ∧ value.cleaned = true := by
  have online : (registrations.ranBy anyStep .new reconnection).any (fun machine =>
      machine.state.state.manager.isOnline "dev_1" && machine.state.trace.any (replaces 0)) = true := by
    decide +kernel
  have isOver : (registrations.ranBy anyStep .new (reconnection ++ shutdown)).any (fun machine =>
      machine.state.trace.any (accepts 1) && machine.state.trace.any returns) = true := by
    decide +kernel
  constructor
  · obtain ⟨machine, ran, holds⟩ := (Option.any_eq_true _ _).mp online
    obtain ⟨isOnline, replaced⟩ := Bool.and_eq_true_iff.mp holds
    obtain ⟨entry, member, replaces⟩ := List.any_eq_true.mp replaced
    have reached := System.reached_of_ranBy ran
    obtain ⟨inForce, _, _, displaced, _⟩ := newest_registration_wins reached
    obtain ⟨connection, _, latest⟩ := inForce "dev_1" isOnline
    exact ⟨machine.state, connection, reached, isOnline, latest,
      (displaced entry member 0 (displaces_of_replaces replaces)).1⟩
  · obtain ⟨machine, ran, holds⟩ := (Option.any_eq_true _ _).mp isOver
    obtain ⟨accepted, returned⟩ := Bool.and_eq_true_iff.mp holds
    obtain ⟨first, isThere, accepts⟩ := List.any_eq_true.mp accepted
    obtain ⟨entry, member, returns⟩ := List.any_eq_true.mp returned
    have reached := System.reached_of_ranBy ran
    obtain ⟨_, _, _, _, closed⟩ := newest_registration_wins reached
    obtain ⟨offline, finished⟩ := closed entry member (returns_of_returns returns)
    have accepted := accepted_of_accepts isThere accepts
    exact ⟨machine.state, reached, accepted, offline "dev_1", finished 1 accepted⟩

end AISummoner.Tunnel.Registrations
