import AISummoner.OpencodeBridge.Bridge

/-! # What one operation of the bridge changes

Every operation, inverted once: the mapping before and after, with the condition
under which it happened.  `Later` is what all of them have in common, so that it
holds along every run.
-/

namespace AISummoner.OpencodeBridge

open Agent (AgentError)

inductive Mapping.Change (entry : Mapping) :
    (operation : EntryOperation) → operation.Response → Mapping → Prop
  | refused : Change entry .beginCall false entry
  | begun (active : entry.active = true) (live : entry.canceled = false) :
      Change entry .beginCall true { entry with inflight := entry.inflight + 1 }
  | deactivated : Change entry .deactivate () { entry with active := false, canceled := true }
  | closing (fresh : entry.closeOnce = .fresh) :
      Change entry .enterClose true { entry with closeOnce := .running }
  | closed (done : entry.closeOnce = .done) :
      Change entry .enterClose false { entry with closeOnce := .done }
  | closeLeft : Change entry .leaveClose () { entry with closeOnce := .done }
  | reporting {error : AgentError} (fresh : entry.fatalOnce = .fresh) :
      Change entry (.reportFatal error) true { entry with fatalOnce := .running }
  | reported {error : AgentError} (done : entry.fatalOnce = .done) :
      Change entry (.reportFatal error) false { entry with fatalOnce := .done }
  | sent {error : AgentError} :
      Change entry (.sendFatal error) () { entry with fatal := some (entry.fatal.getD error) }
  | fatalLeft : Change entry .leaveFatal () { entry with fatalOnce := .done }
  | received : Change entry .receiveFatal entry.fatal { entry with fatal := none }
  | selectedFatal {error : AgentError} (waiting : entry.fatal = some error) :
      Change entry .selectItem (.fatal error) { entry with fatal := none }
  | selectedEnd {cause : AgentError} : Change entry .selectItem (.ended cause) entry
  | selectedEvent {event : StreamEvent} : Change entry .selectItem (.received event) entry
  | gateMissed : Change entry .acquireGate false entry
  | gateTaken (free : entry.gate = false) : Change entry .acquireGate true { entry with gate := true }
  | ended : Change entry .callErr true entry
  | clear (live : entry.canceled = false) : Change entry .callErr false entry
  | marshalled {answer : Bool} : Change entry .marshalArguments answer entry
  | invoke : Change entry .invoke () entry
  | invoked {result : Except AgentError Unit} : Change entry .invoked result entry
  | responded {answer : Bool} : Change entry .respond answer entry
  | gateReleased (held : entry.gate = true) :
      Change entry .releaseGate () { entry with gate := false }
  | callDone : Change entry .doneCall () { entry with inflight := entry.inflight - 1 }
  | callsOver (idle : entry.inflight = 0) : Change entry .waitCalls () entry
  | announced : Change entry .closeDone () { entry with closeDone := true }
  | awaited (done : entry.closeDone = true) : Change entry .awaitClosed () entry
  | turnEnded : Change entry .cancelTurn () { entry with canceled := true }

variable {op : EntryOperation} {cho : Choice} {s s' prc : Process}
  {pos : Nat}

theorem EntryOperation.change {s s' : Mapping} {r : op.Response}
    (hp : op.perform cho s = some (r, s')) : s.Change op r s' := by
  cases op with
  | beginCall =>
    simp only [perform] at hp
    split at hp
    · cases hp
      exact .refused
    rename_i open_
    simp only [Bool.or_eq_true, Bool.not_eq_true', not_or, Bool.not_eq_false,
      Bool.not_eq_true] at open_
    cases hp
    exact .begun open_.1 open_.2
  | enterClose =>
    simp only [perform] at hp
    cases once : s.closeOnce with
    | fresh => rw [once] at hp; cases hp; exact .closing once
    | running => rw [once] at hp; cases hp
    | done => rw [once] at hp; cases hp; exact .closed once
  | reportFatal err =>
    simp only [perform] at hp
    cases once : s.fatalOnce with
    | fresh => rw [once] at hp; cases hp; exact .reporting once
    | running => rw [once] at hp; cases hp
    | done => rw [once] at hp; cases hp; exact .reported once
  | selectItem =>
    simp only [perform] at hp
    split at hp
    · obtain ⟨err, hwt, he⟩ := Option.map_eq_some_iff.mp hp
      cases he
      exact .selectedFatal hwt
    · cases hp
      exact .selectedEnd
    · cases hp
      exact .selectedEvent
  | acquireGate =>
    simp only [perform] at hp
    split at hp
    · cases hp
      exact .gateMissed
    split at hp
    · cases hp
    · rename_i free
      cases hp
      exact .gateTaken (Bool.eq_false_iff.mpr free)
  | callErr =>
    cases live : s.canceled with
    | true =>
      simp only [perform, live, Bool.true_or] at hp
      cases hp
      exact .ended
    | false =>
      simp only [perform, live, Bool.false_or] at hp
      cases flag : cho.flag with
      | true => rw [flag] at hp; cases hp; exact .ended
      | false => rw [flag] at hp; cases hp; exact .clear live
  | releaseGate =>
    obtain ⟨held, he⟩ := Option.ite_none_right_eq_some.mp hp
    cases he
    exact .gateReleased held
  | waitCalls =>
    obtain ⟨idle, he⟩ := Option.ite_none_right_eq_some.mp hp
    cases he
    exact .callsOver idle
  | awaitClosed =>
    obtain ⟨done, he⟩ := Option.ite_none_right_eq_some.mp hp
    cases he
    exact .awaited done
  | _ => cases hp; constructor

structure Mapping.Later (before after : Mapping) : Prop where
  productSessionID : after.productSessionID = before.productSessionID
  externalSessionID : after.externalSessionID = before.externalSessionID
  invoker : after.invoker = before.invoker
  inactive : before.active = false → after.active = false
  canceled : before.canceled = true → after.canceled = true
  idle : before.active = false → before.inflight = 0 → after.inflight = 0
  closeDone : before.closeDone = true → after.closeDone = true

theorem Mapping.Later.refl (e : Mapping) : e.Later e := ⟨rfl, rfl, rfl, id, id, fun _ => id, id⟩

theorem Mapping.Change.later {r : op.Response}
    {s s' : Mapping} (ch : s.Change op r s') : s.Later s' := by
  cases ch with
  | begun hac _ =>
    refine ⟨rfl, rfl, rfl, id, id, fun hia => ?_, id⟩
    rw [hac] at hia
    cases hia
  | callDone =>
    refine ⟨rfl, rfl, rfl, id, id, fun _ _ => ?_, id⟩
    show s.inflight - 1 = 0
    omega
  | deactivated => exact ⟨rfl, rfl, rfl, fun _ => rfl, fun _ => rfl, fun _ => id, id⟩
  | announced => exact ⟨rfl, rfl, rfl, id, id, fun _ => id, fun _ => rfl⟩
  | turnEnded => exact ⟨rfl, rfl, rfl, id, fun _ => rfl, fun _ => id, id⟩
  | _ => exact ⟨rfl, rfl, rfl, id, id, fun _ => id, id⟩

inductive Process.Change (process : Process) :
    (operation : Operation) → operation.Response → Process → Prop
  | entry {position : Nat} {before after : Mapping} {operation : EntryOperation}
      {response : operation.Response} (located : process.bridge.entries[position]? = some before)
      (change : before.Change operation response after) :
      Change process (.entry position operation) response (process.setEntry position after)
  | notActivated {productSessionID externalSessionID : String} {invoker : Nat} {error : ActivateError} :
      Change process (.bridge (.activate productSessionID externalSessionID invoker)) (.error error)
        process
  | activated {productSessionID externalSessionID : String} {invoker : Nat}
      (live : process.bridge.closed = false)
      (free : process.bridge.mappings externalSessionID = none) :
      Change process (.bridge (.activate productSessionID externalSessionID invoker))
        (.ok process.bridge.entries.length)
        { process with
          bridge := process.bridge.install (.new productSessionID externalSessionID invoker) }
  | lookedUp {externalSessionID : String} :
      Change process (.bridge (.lookup externalSessionID))
        (process.bridge.lookup externalSessionID) process
  | removed {position : Nat} :
      Change process (.bridge (.remove position)) ()
        { process with bridge := process.bridge.remove position }
  | finished {position : Nat} :
      Change process (.bridge (.finished position)) ()
        { process with bridge := process.bridge.finished position }
  | closing (live : process.bridge.closed = false) :
      Change process (.bridge .close) (some process.bridge.all)
        { process with bridge := { process.bridge with closed := true } }
  | closed (closed : process.bridge.closed = true) : Change process (.bridge .close) none process
  | closeDone :
      Change process (.bridge .closeDone) ()
        { process with bridge := { process.bridge with closeDone := true } }
  | awaited (done : process.bridge.closeDone = true) :
      Change process (.bridge .awaitDone) true process
  | gaveUp : Change process (.bridge .awaitDone) false process
  | selectedFatal {stream position : Nat} {entry : Mapping} {error : AgentError}
      (located : process.bridge.entries[position]? = some entry) (waiting : entry.fatal = some error) :
      Change process (.adapter (.selectTurn stream position)) (.fatal error)
        (process.setEntry position { entry with fatal := none })
  | selectedResult {stream position : Nat} {result : Except AgentError Unit} :
      Change process (.adapter (.selectTurn stream position)) (.received result)
        (process.setStream stream fun reader => { reader with parserResults := none })
  | selectedEnd {stream position : Nat} {cause : AgentError} :
      Change process (.adapter (.selectTurn stream position)) (.ended cause) process
  | newStream :
      Change process (.adapter .newStream) process.streams.length
        { process with streams := process.streams ++ [{}] }
  | sent {stream : Nat} {result : Except AgentError Unit} :
      Change process (.adapter (.sendResult stream result)) ()
        (process.setStream stream fun reader => { reader with parserResults := some result })
  | streamClosed {stream : Nat} :
      Change process (.adapter (.closeStream stream)) ()
        (process.setStream stream fun reader => { reader with done := true })
  | streamAwaited {stream : Nat} (done : (process.streams[stream]?).any Stream.done = true) :
      Change process (.adapter (.awaitStream stream)) () process
  | answered {call : ProviderCall} {answer : Except AgentError String} :
      Change process (.adapter (.provider call)) answer process
  | sank {stream : Nat} {answer : Except AgentError Unit} :
      Change process (.adapter (.sink stream)) answer process
  | read {stream : Nat} {event : StreamEvent} :
      Change process (.adapter (.nextEvent stream)) event process
  | returned {stream : Nat} {result : Except AgentError Unit} :
      Change process (.adapter (.returned stream result)) () process

theorem perform_change {op : Operation} {w : Process} {r : op.Response}
    (hp : perform op cho prc = some (r, w)) : prc.Change op r w := by
  cases op with
  | entry pos op =>
    obtain ⟨s, hl, rest⟩ := Option.bind_eq_some_iff.mp hp
    obtain ⟨⟨_, _⟩, done, he⟩ := Option.map_eq_some_iff.mp rest
    cases he
    exact .entry hl (EntryOperation.change done)
  | bridge op =>
    obtain ⟨⟨_, bridge⟩, done, he⟩ := Option.map_eq_some_iff.mp hp
    cases he
    cases op with
    | activate _ xid _ =>
      simp only [BridgeOperation.perform, Bridge.activate, Option.some.injEq] at done
      split at done
      · cases done
        exact .notActivated
      split at done
      · cases done
        exact .notActivated
      split at done
      · cases done
        exact .notActivated
      rename_i live free
      cases done
      exact .activated (Bool.eq_false_iff.mpr live)
        (Option.not_isSome_iff_eq_none.mp free)
    | close =>
      simp only [BridgeOperation.perform, Bridge.close, Option.some.injEq] at done
      split at done
      · rename_i hcl
        cases done
        exact .closed hcl
      · rename_i live
        cases done
        exact .closing (Bool.eq_false_iff.mpr live)
    | awaitDone =>
      simp only [BridgeOperation.perform] at done
      split at done
      · cases done
        exact .gaveUp
      · obtain ⟨hfin, he⟩ := Option.ite_none_right_eq_some.mp done
        cases he
        exact .awaited hfin
    | lookup xid => cases done; exact .lookedUp
    | remove pos => cases done; exact .removed
    | finished pos => cases done; exact .finished
    | closeDone => cases done; exact .closeDone
  | adapter op =>
    cases op with
    | awaitStream sm =>
      obtain ⟨done, he⟩ := Option.ite_none_right_eq_some.mp hp
      cases he
      exact .streamAwaited done
    | selectTurn sm pos =>
      simp only [perform, AdapterOperation.perform, Process.selectTurn] at hp
      split at hp
      · obtain ⟨e, hl, rest⟩ := Option.bind_eq_some_iff.mp hp
        obtain ⟨_, hwt, he⟩ := Option.bind_eq_some_iff.mp rest
        cases he
        exact .selectedFatal hl hwt
      · obtain ⟨_, hl, rest⟩ := Option.bind_eq_some_iff.mp hp
        obtain ⟨_, hwt, he⟩ := Option.bind_eq_some_iff.mp rest
        cases he
        exact .selectedResult
      · cases hp
        exact .selectedEnd
    | never => cases hp
    | _ => cases hp; constructor

def Process.On (process : Process) (position : Nat) (property : Mapping → Prop) : Prop :=
  ∃ entry, process.bridge.entries[position]? = some entry ∧ property entry

structure Process.Later (before after : Process) : Prop where
  entries : ∀ {position entry}, before.bridge.entries[position]? = some entry →
    after.On position entry.Later
  closed : before.bridge.closed = true → after.bridge.closed = true ∧
    after.bridge.entries.length = before.bridge.entries.length

theorem Process.On.later {ha hb : Mapping → Prop} (h : s.On pos ha) (k' : s.Later s')
    (keeps : ∀ old new : Mapping, old.Later new → ha old → hb new) : s'.On pos hb := by
  obtain ⟨old, hl, has⟩ := h
  obtain ⟨new, hf, hch⟩ := k'.entries hl
  exact ⟨new, hf, keeps old new hch has⟩

theorem Process.later_of_bridge (hes : s'.bridge.entries = s.bridge.entries)
    (hcl : s.bridge.closed → s'.bridge.closed) : s.Later s' where
  entries := by
    intro _ e hl
    exact ⟨e, by rw [hes]; exact hl, .refl e⟩
  closed isClosed := ⟨hcl isClosed, by rw [hes]⟩

theorem Bridge.remove_entries (bridge : Bridge) (pos : Nat) :
    (bridge.remove pos).entries = bridge.entries ∧ (bridge.remove pos).all = bridge.all ∧
      (bridge.remove pos).closed = bridge.closed ∧
      (bridge.remove pos).closeDone = bridge.closeDone := by
  unfold remove
  split
  · exact ⟨rfl, rfl, rfl, rfl⟩
  · split <;> exact ⟨rfl, rfl, rfl, rfl⟩

theorem Process.later_setEntry {s s' : Mapping}
    (hl : prc.bridge.entries[pos]? = some s) (hch : s.Later s') :
    prc.Later (prc.setEntry pos s') where
  entries := by
    intro o e hf
    by_cases h : pos = o
    · subst h
      rw [hl] at hf
      cases hf
      have hi := (List.getElem?_eq_some_iff.mp hl).1
      exact ⟨s', List.getElem?_set_self hi, hch⟩
    · exact ⟨e, by rw [← hf]; exact List.getElem?_set_ne h, .refl e⟩
  closed closed := ⟨closed, List.length_set⟩

theorem Process.Change.later {op : Operation} {r : op.Response} (ch : s.Change op r s') :
    s.Later s' := by
  cases ch with
  | entry hl ch => exact Process.later_setEntry hl ch.later
  | selectedFatal hl _ =>
    exact Process.later_setEntry hl ⟨rfl, rfl, rfl, id, id, fun _ => id, id⟩
  | activated live _ =>
    refine ⟨?_, fun hcl => ?_⟩
    · intro pos e hl
      have hi := (List.getElem?_eq_some_iff.mp hl).1
      exact ⟨e, by rw [← hl]; exact List.getElem?_append_left hi, .refl e⟩
    · rw [live] at hcl
      cases hcl
  | @removed pos =>
    obtain ⟨es, _, hcl, _⟩ := s.bridge.remove_entries pos
    exact Process.later_of_bridge es hcl.trans
  | closing live => exact Process.later_of_bridge rfl fun _ => rfl
  | _ => exact Process.later_of_bridge rfl id

end AISummoner.OpencodeBridge
