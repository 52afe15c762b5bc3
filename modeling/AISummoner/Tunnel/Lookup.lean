import AISummoner.Tunnel.Contract

/-! # `IsOnline` beside a reconnection

`IsOnline` reads the map and then the connection it found, under two locks.  A
registration in between closes the connection that was found, so the call denies
a Device that was online all the time.
-/

namespace AISummoner.Tunnel.Registrations

open Concurrency

/-- A call of `IsOnline` that has returned: its answer, and what happened from its
    first read until its second, newest first. -/
inductive Asked (deviceID : String) (trace : List Entry) : Bool → List Entry → Prop
  | missing {newest older : List Entry} {thread : Nat} {read : Tunnels}
      (split : trace = newest ++ .performed thread (.get deviceID) none read :: older) :
      Asked deviceID trace false [.performed thread (.get deviceID) none read]
  | found {newest middle older : List Entry} {thread connection : Nat} {answer : Bool}
      {read answered : Tunnels}
      (split : trace = newest ++ .performed thread (.online connection) answer answered ::
        (middle ++ .performed thread (.get deviceID) (some connection) read :: older)) :
      Asked deviceID trace answer
        (middle ++ [.performed thread (.get deviceID) (some connection) read])

/-- A registration for the Device takes the place of another connection. -/
def Replaces (deviceID : String) : Entry → Prop
  | .performed _ (.register other) response state =>
    (∃ old, response.replaced = some old ∧ old ≠ other) ∧
      state.manager.On other (·.deviceID = deviceID)
  | _ => False

section Runs

variable {rule : Step → Past → Bool} {past w : Past} {deviceID : String}
  {cn : Nat} {entry : Entry}

theorem selectLive_of_next (hr : registrations.Reached rule .new past)
    (next : registrations.Next rule past w)
    (hrcd : w.trace = entry :: past.trace) (kept : ¬Replaces deviceID entry)
    (hs : past.state.manager.selectLive deviceID = some cn)
    (hon : w.state.manager.isOnline deviceID) : w.state.manager.selectLive deviceID = some cn := by
  rw [Manager.isOnline_eq] at hon
  obtain ⟨o, hs'⟩ := Option.isSome_iff_exists.mp hon
  rw [hs']
  cases next with
  | @performed t _ _ r _ hal ran =>
    have sound := sound_of_reached hr
    have hps := performs_of_perform sound ran
    rcases hps.selectLive sound hs' t with ⟨ans, h, ha, placed⟩ | ⟨pre, _⟩
    · cases h
      cases (List.cons.inj hrcd).1
      by_contra ne
      refine kept ⟨⟨cn, ?_, fun h => ne (by rw [h])⟩, placed⟩
      -- the answer names the connection that was in the map
      have answered : past.state.registered o = ans := congrArg Prod.fst (Option.some.inj ran)
      have han : past.state.Answers o ans := answered ▸ Tunnels.answers_registered
      cases han with
      | absent hmi | refused hl hclg => cases ha
      | accepted hl _ =>
        obtain ⟨v, hf, hdev⟩ := placed
        obtain ⟨_, ht, hch⟩ := hps.later.connections hl
        cases Option.some.inj (hf.symm.trans ht)
        rw [← hch.deviceID, hdev]
        exact (Manager.selectLive_eq_some.mp hs).1
    · exact pre.symm.trans hs
  | entered hal _ hst => cases hst; exact hs'.symm.trans hs
  | crashed hal hre => cases hre

theorem selectLive_since {mid' ol : List Entry} {t : Nat} {read : Tunnels}
    (hr : registrations.Reached rule .new past)
    (hsp : past.trace = mid' ++ .performed t (.get deviceID) (some cn) read :: ol)
    (kept : ∀ entry ∈ mid', ¬Replaces deviceID entry) (a : read.manager.isOnline deviceID)
    (hon : ∀ entry ∈ mid', entry.state.manager.isOnline deviceID) :
    past.state.manager.selectLive deviceID = some cn := by
  induction mid' generalizing past with
  | nil =>
    obtain ⟨pre, _, _, _, looks⟩ := hr.executed hsp
    obtain ⟨hf, h⟩ := Prod.mk.inj (Option.some.inj looks)
    rw [← hr.entry_state hsp]
    show read.manager.selectLive deviceID = some cn
    rw [Manager.isOnline_eq] at a
    obtain ⟨o, live⟩ := Option.isSome_iff_exists.mp a
    have hcur := (Manager.selectLive_eq_some.mp live).1
    rw [← h] at hcur live ⊢
    rw [live, ← hf]
    exact hcur.symm
  | cons entry mid' ih =>
    obtain ⟨pre, s, next, hrcd⟩ := hr.previous hsp
    have live := ih s hrcd (fun entry hm => kept entry (List.mem_cons_of_mem _ hm))
      fun entry hm => hon entry (List.mem_cons_of_mem _ hm)
    refine selectLive_of_next s next ?_ (kept entry List.mem_cons_self) live ?_
    · rw [hsp, hrcd]
      rfl
    · rw [← hr.entry_state hsp]
      exact hon entry List.mem_cons_self

/-- A Device that is online all along is found online, unless one of its connections
    takes the place of another during the call. -/
theorem isOnline_unless_replaced {answer : Bool} {during : List Entry}
    (reached : registrations.Reached permitted .new past)
    (asked : Asked deviceID past.trace answer during)
    (online : ∀ entry ∈ during, entry.state.manager.isOnline deviceID = true)
    (kept : ∀ entry ∈ during, ¬Replaces deviceID entry) : answer = true := by
  cases asked with
  | missing split =>
    obtain ⟨looked, reachedLooked, recorded⟩ := reached.back split
    obtain ⟨earlier, _, _, _, looks⟩ := reachedLooked.executed recorded
    obtain ⟨found, same⟩ := Prod.mk.inj (Option.some.inj looks)
    have live := online _ List.mem_cons_self
    rw [Manager.isOnline_eq, Manager.selectLive] at live
    simp [System.Entry.state, ← same, found] at live
  | found split =>
    obtain ⟨returned, reachedReturned, recorded⟩ := reached.back split
    obtain ⟨earlier, _, before, trace, asks⟩ := reachedReturned.executed recorded
    have live := selectLive_since before trace
      (fun entry member => kept entry (List.mem_append_left _ member))
      (online _ (List.mem_append_right _ List.mem_cons_self))
      fun entry member => online entry (List.mem_append_left _ member)
    have answered : (!earlier.state.manager.isClosed _) = answer :=
      congrArg Prod.fst (Option.some.inj asks)
    rw [← answered, (Manager.selectLive_eq_some.mp live).2]
    rfl

end Runs

def undisturbed : List (Label Goroutine Unit) :=
  [.start (.newConnection "conn_1" "dev_1"), .run 0 (), .start (.register 0), .run 1 (),
    .start (.isOnline "dev_1"), .run 2 (), .run 2 ()]

/-- The last two steps are those of the call, which found its Device online. -/
def readOnline : List Entry → Bool
  | .performed 2 (.online 0) _ _ :: .performed 2 (.get "dev_1") (some 0) read :: _ =>
    read.manager.isOnline "dev_1"
  | _ => false

theorem isOnline_unless_replaced_undisturbed : ∃ past during answer,
    registrations.Reached anyStep .new past ∧ Asked "dev_1" past.trace answer during ∧
      answer = true := by
  have online : (registrations.ranBy anyStep .new undisturbed).any (fun machine =>
      readOnline machine.state.trace) = true := by decide +kernel
  obtain ⟨machine, ran, holds⟩ := (Option.any_eq_true _ _).mp online
  unfold readOnline at holds
  split at holds
  · rename_i answer answered read older recorded
    have reached := System.reached_of_ranBy ran
    have asked : Asked "dev_1" machine.state.trace answer
        ([] ++ [.performed 2 (.get "dev_1") (some 0) read]) :=
      .found (recorded.trans (List.nil_append _).symm)
    refine ⟨_, _, answer, reached, asked, isOnline_unless_replaced reached asked ?_ ?_⟩
    · intro entry member
      cases List.mem_singleton.mp member
      exact holds
    · intro entry member
      cases List.mem_singleton.mp member
      exact id
  · cases holds

def replacedMeanwhile : List (Label Goroutine Unit) :=
  [.start (.newConnection "conn_1" "dev_1"), .run 0 (), .start (.newConnection "conn_2" "dev_1"),
    .run 1 (), .start (.register 0), .run 2 (), .start (.isOnline "dev_1"), .run 3 (),
    .start (.register 1), .run 4 (), .run 3 ()]

/-- The call was denied, with its Device online all the time. -/
def deniedOnline : List Entry → Bool
  | .performed 3 (.online 0) false _ :: second :: first ::
      .performed 3 (.get "dev_1") (some 0) read :: _ =>
    [second, first, .performed 3 (.get "dev_1") (some 0) read].all fun entry =>
      entry.state.manager.isOnline "dev_1"
  | _ => false

/-- A Device that is online at every moment of the call is denied. -/
theorem isOnline_denies_reconnecting : ∃ past during, registrations.Reached anyStep .new past ∧
    Asked "dev_1" past.trace false during ∧
    ∀ entry ∈ during, entry.state.manager.isOnline "dev_1" = true := by
  have online : (registrations.ranBy anyStep .new replacedMeanwhile).any (fun machine =>
      deniedOnline machine.state.trace) = true := by decide +kernel
  obtain ⟨machine, ran, holds⟩ := (Option.any_eq_true _ _).mp online
  unfold deniedOnline at holds
  split at holds
  · rename_i answered second first read older recorded
    have asked : Asked "dev_1" machine.state.trace false
        ([second, first] ++ [.performed 3 (.get "dev_1") (some 0) read]) :=
      .found (recorded.trans (List.nil_append _).symm)
    exact ⟨_, _, System.reached_of_ranBy ran, asked, List.all_eq_true.mp holds⟩
  · cases holds

end AISummoner.Tunnel.Registrations
