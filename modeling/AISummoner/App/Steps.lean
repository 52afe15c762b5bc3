import AISummoner.App.Bodies

/-! # What one step changes

For each part of the state, the operations that change it and how.  Everything
proved about runs starts from these lemmas; none of them looks at a program.
-/

namespace AISummoner.App

open Concurrency Store Agent AISummoner.Runtime

/-! ## The parts of the server -/

section Parts

variable {t : Nat} {cho : Choice} {wd w : World}

theorem perform_agent {op : AgentOperation} {r : op.Response}
    (ran : perform t (.agent op) cho wd = some (r, w)) :
    stepAgent t op cho wd.contexts wd.agent = some (r, w.agent) ∧ w = { wd with
      agent := w.agent
      contexts := World.cancelAll wd.contexts (canceledScopes op wd.agent) } := by
  obtain ⟨⟨h, _⟩, hst, he⟩ := Option.map_eq_some_iff.mp ran
  cases he
  exact ⟨hst, rfl⟩

theorem perform_store {ctx : Context} {site : Site} {stm : Statement}
    {r : Except StoreError stm.Result}
    (ran : perform t (.store ctx site stm) cho wd = some (r, w)) :
    stm.body.run (wd.storeFault ctx cho) wd.db = (r, w.db) ∧ w = { wd with db := w.db } := by
  cases ran
  exact ⟨rfl, rfl⟩

theorem perform_newID {kind : String} {r : Option String}
    (ran : perform t (.newID kind) cho wd = some (r, w)) : (r = none ∧ w = wd) ∨
      ∃ id, r = some id ∧ id ≠ "" ∧ id ∉ wd.issued ∧ w = { wd with issued := id :: wd.issued } := by
  simp only [perform] at ran
  split at ran
  · cases ran
    exact .inl ⟨rfl, rfl⟩
  rename_i id _
  split at ran
  · cases ran
  rename_i hfr
  cases ran
  obtain ⟨hne, unissued⟩ := not_or.mp hfr
  exact .inr ⟨id, rfl, hne, unissued, rfl⟩

theorem perform_gate {op : GateOperation} {r : op.Response}
    (ran : perform t (.gate op) cho wd = some (r, w)) : w = { wd with gate := w.gate } := by
  cases op with
  | addReference | returnToken | dropReference =>
    cases ran
    rfl
  | takeToken _ _ =>
    simp only [perform, performGate, ready] at ran
    split at ran
    · obtain ⟨_, _, he⟩ := Option.map_eq_some_iff.mp ran
      cases he
      rfl
    · obtain ⟨gate, _, he⟩ := Option.map_eq_some_iff.mp ran
      cases he
      rfl

theorem perform_tunnel {op : TunnelOperation} {r : op.Response}
    (ran : perform t (.tunnel op) cho wd = some (r, w)) : w = { wd with tunnel := w.tunnel } := by
  cases op with
  | acquireSetup cn ctx =>
    simp only [perform, performTunnel, ready] at ran
    split at ran
    · obtain ⟨cause, _, he⟩ := Option.map_eq_some_iff.mp ran
      cases he
      rfl
    · repeat' split at ran
      all_goals cases ran
      all_goals rfl
  | returnStream cn ctx =>
    simp only [perform, performTunnel, ready] at ran
    split at ran
    · obtain ⟨cause, _, he⟩ := Option.map_eq_some_iff.mp ran
      cases he
      rfl
    · split at ran
      all_goals cases ran
      all_goals rfl
  | finishCleanup | awaitCleanup =>
    simp only [perform, performTunnel] at ran
    split at ran
    · cases ran
      rfl
    · cases ran
  | newConnection | register | remove | detachDevice | isOnline | selectLive | releaseSetup | close
  | reap | closeAll =>
    cases ran
    rfl

theorem perform_terminal {op : TerminalOperation} {r : op.Response}
    (ran : perform t (.terminal op) cho wd = some (r, w)) :
    w = { wd with terminal := w.terminal, contexts := w.contexts } ∧
      w.contexts.cause = wd.contexts.cause := by
  cases op with
  | admitSession _ _ _ _ =>
    simp only [perform, performTerminal] at ran
    split at ran
    all_goals cases ran
    all_goals exact ⟨rfl, rfl⟩
  | awaitSession _ =>
    simp only [perform, performTerminal] at ran
    split at ran
    · cases ran
      exact ⟨rfl, rfl⟩
    · cases ran
  | deviceGeneration | release | cancelDevice | closeAll =>
    cases ran
    exact ⟨rfl, rfl⟩

theorem perform_context {op : ContextOperation} {r : op.Response}
    (ran : perform t (.context op) cho wd = some (r, w)) :
    w = { wd with contexts := w.contexts } := by
  cases op with
  | withCancel | withTimeout | cancel | err =>
    cases ran
    rfl

end Parts

section Frames

variable {t : Nat} {op : Operation} {cho : Choice} {wd w : World}
  {r : op.Response}

theorem perform_parts (ran : perform t op cho wd = some (r, w)) :
    (w.db = wd.db ∨ ∃ ctx site stm, op = .store ctx site stm ∧
        w.db = (stm.body.run (wd.storeFault ctx cho) wd.db).2) ∧
      (w.agent = wd.agent ∨ ∃ inn, op = .agent inn) ∧
      (w.issued = wd.issued ∨ ∃ kind id, op = .newID kind ∧
        HEq r (some id) ∧ id ≠ "" ∧ id ∉ wd.issued ∧ w.issued = id :: wd.issued) := by
  cases op with
  | store ctx site stm =>
    obtain ⟨hst, he⟩ := perform_store ran
    rw [he]
    exact ⟨.inr ⟨ctx, site, stm, rfl, by rw [hst]⟩, .inl rfl, .inl rfl⟩
  | agent op =>
    rw [(perform_agent ran).2]
    exact ⟨.inl rfl, .inr ⟨op, rfl⟩, .inl rfl⟩
  | gate op =>
    rw [perform_gate ran]
    exact ⟨.inl rfl, .inl rfl, .inl rfl⟩
  | tunnel op =>
    rw [perform_tunnel ran]
    exact ⟨.inl rfl, .inl rfl, .inl rfl⟩
  | terminal op =>
    rw [(perform_terminal ran).1]
    exact ⟨.inl rfl, .inl rfl, .inl rfl⟩
  | context op =>
    rw [perform_context ran]
    exact ⟨.inl rfl, .inl rfl, .inl rfl⟩
  | newID kind =>
    rcases perform_newID ran with ⟨_, rfl⟩ | ⟨id, rfl, hne, hfr, he⟩
    · exact ⟨.inl rfl, .inl rfl, .inl rfl⟩
    · rw [he]
      exact ⟨.inl rfl, .inl rfl, .inr ⟨kind, id, rfl, .rfl, hne, hfr, rfl⟩⟩
  | clock | external | remoteCommand | observe =>
    cases ran
    exact ⟨.inl rfl, .inl rfl, .inl rfl⟩

theorem perform_writes (ran : perform t op cho wd = some (r, w)) :
    w.db = wd.db ∨ ∃ ctx site stm v, op = .store ctx site stm ∧ stm.body wd.db = .ok (v, w.db) := by
  rcases (perform_parts ran).1 with h | ⟨ctx, site, stm, he, hw⟩
  · exact .inl h
  have hoc : (stm.body.run (wd.storeFault ctx cho) wd.db).2 = wd.db ∨
      ∃ v, stm.body wd.db = .ok (v, (stm.body.run (wd.storeFault ctx cho) wd.db).2) :=
    Transaction.run_changed
  rw [← hw] at hoc
  exact hoc.imp_right fun ⟨v, ha⟩ => ⟨ctx, site, stm, v, he, ha⟩

theorem perform_memory (ran : perform t op cho wd = some (r, w))
    (hfo : ∀ inn, op ≠ .agent inn) : w.agent = wd.agent :=
  (perform_parts ran).2.1.resolve_right fun ⟨inn, he⟩ => hfo inn he

end Frames

/-! ## The memory of the Agent service -/

inductive MemoryPart where
  | running
  | turns
  | configuring
  | decisions
  | revoked
  | archived
  | mutations
  | activeTurns
  | closed
  | closeDone
  deriving DecidableEq

/-- The parts an operation can change.  Adapters, subscribers and the `pending` map
    are not looked at. -/
def touches : AgentOperation → List MemoryPart
  | .beginMutation | .endMutation => [.mutations]
  | .reserveSessionConfiguration _ | .releaseSessionConfiguration _ => [.configuring]
  | .reserveTurn .. | .releaseTurn _ => [.running, .turns, .activeTurns]
  | .installPending .. | .sendDecision .. | .awaitDecision .. | .deliverDecision .. => [.decisions]
  | .setArchived .. => [.archived]
  | .setDeleted .. => [.revoked, .archived]
  | .markDeviceRevoked .. => [.revoked]
  | .close => [.closed]
  | .finishClose => [.closeDone]
  | .beginRun .. | .endRun _ | .appendReasoning .. | .appendText .. | .acquireGate ..
  | .releaseGate _ | .upgradeApprovalMode _ | .endInvoke _ | .endSink _ => [.turns]
  | _ => []

def MemoryPart.Same (before after : Memory) : MemoryPart → Prop
  | .running => after.running = before.running
  | .turns => after.turns = before.turns
  | .configuring => after.configuring = before.configuring
  | .decisions => after.decisions = before.decisions
  | .revoked => after.revoked = before.revoked
  | .archived => after.archived = before.archived
  | .mutations => after.mutations = before.mutations
  | .activeTurns => after.activeTurns = before.activeTurns
  | .closed => after.closed = before.closed
  | .closeDone => after.closeDone = before.closeDone

def Unmoved (touched : List MemoryPart) (before after : Memory) : Prop :=
  ∀ part, part ∉ touched → part.Same before after

theorem unmoved_refl (touched : List MemoryPart) (mem : Memory) : Unmoved touched mem mem := by
  intro part _
  cases part <;> rfl

theorem unmoved_updateTurn {mem : Memory} {turn : Nat} {ch : Turn → Turn} :
    Unmoved [.turns] mem (mem.updateTurn turn ch) := by
  intro part hou
  cases part <;> first | rfl | simp at hou

theorem unmoved_decisions {mem : Memory} {decisions : String → Option PendingDecision}
    {pnd : String → Bool} :
    Unmoved [.decisions] mem { mem with decisions := decisions, pending := pnd } := by
  intro part hou
  cases part <;> first | rfl | simp at hou

theorem markDeviceRevoked_frame (mem : Memory) (did : String) (sids : List String) :
    (mem.markDeviceRevoked did sids).2 = { mem with
      revoked := (mem.markDeviceRevoked did sids).2.revoked } := by
  induction sids generalizing mem with
  | nil => rfl
  | cons _ sids ih =>
    simp only [Memory.markDeviceRevoked]
    split
    · exact ih mem
    · exact ih _

section Memory

variable {t : Nat} {op : AgentOperation} {cho : Choice} {contexts : Contexts}
  {mem w : Memory} {r : op.Response}

theorem stepAgent_unmoved (ran : stepAgent t op cho contexts mem = some (r, w)) :
    Unmoved (touches op) mem w := by
  have h (touched : List MemoryPart) : Unmoved touched mem mem := unmoved_refl touched mem
  cases op with
  | setAdapter | beginMutation | subscribe | publish | close =>
    simp only [stepAgent, Memory.setAdapter, Memory.beginMutation, Memory.subscribe, Memory.publish,
      Memory.close] at ran
    repeat' split at ran
    all_goals cases ran
    all_goals intro part hou
    all_goals cases part <;> first | rfl | simp [touches] at hou
  | awaitTurn turn ctx =>
    simp only [stepAgent, ready] at ran
    repeat' split at ran
    · cases ran
      exact h _
    · cases ran
    · obtain ⟨cause, _, he⟩ := Option.map_eq_some_iff.mp ran
      cases he
      exact h _
  | awaitMutations | awaitTurns | awaitClosed =>
    simp only [stepAgent] at ran
    split at ran
    · cases ran
      exact h _
    · cases ran
  | invoker turn =>
    obtain ⟨_, _, he⟩ := Option.map_eq_some_iff.mp ran
    cases he
    exact h _
  | currentProvider | adapterForProvider | isRevoked | deviceScopes | revokedTurns | transcript
  | endMutation | removePending | unsubscribe | closeSession | setArchived | setDeleted | closeHub
  | finishClose | releaseSessionConfiguration | releaseTurn =>
    cases ran
    intro part hou
    cases part <;> first | rfl | simp [touches] at hou
  | reserveSessionConfiguration | reserveTurn =>
    simp only [stepAgent, Memory.reserveSessionConfiguration, Memory.reserveTurn] at ran
    split at ran
    · cases ran
      exact h _
    · cases ran
      intro part hou
      cases part <;> first | rfl | simp [touches] at hou
  | installPending cid _ =>
    simp only [stepAgent, Memory.installPending] at ran
    repeat' split at ran
    · cases ran
      exact h _
    · cases ran
      exact h _
    · cases ran
      exact unmoved_decisions
  | sendDecision cid dec =>
    obtain ⟨_, sent, he⟩ := Option.map_eq_some_iff.mp ran
    cases he
    simp only [Memory.sendDecision, Memory.fill] at sent
    repeat' split at sent
    · cases sent
    · cases sent
      exact unmoved_decisions
    · cases sent
  | awaitDecision cid ctx =>
    simp only [stepAgent, ready] at ran
    repeat' split at ran
    · obtain ⟨cause, _, he⟩ := Option.map_eq_some_iff.mp ran
      cases he
      exact h _
    · cases ran
      exact h _
    · obtain ⟨⟨dec, _⟩, hrv, he⟩ := Option.map_eq_some_iff.mp ran
      cases he
      simp only [Memory.receiveDecision] at hrv
      split at hrv
      · obtain ⟨_, _, he⟩ := Option.map_eq_some_iff.mp hrv
        cases he
        exact unmoved_decisions
      · cases hrv
  | deliverDecision cid _ _ dec =>
    simp only [stepAgent, Memory.deliverDecision, Memory.fill] at ran
    repeat' split at ran
    all_goals cases ran
    · exact h _
    · exact unmoved_decisions
    · exact h _
    · exact h _
    · exact h _
  | markDeviceRevoked did sids =>
    have he : w = (mem.markDeviceRevoked did sids).2 :=
      (congrArg Prod.snd (Option.some.inj ran)).symm
    rw [he, markDeviceRevoked_frame]
    intro part hou
    cases part <;> first | rfl | simp [touches] at hou
  | appendReasoning | appendText =>
    obtain ⟨v, _, he⟩ := Option.map_eq_some_iff.mp ran
    split at he
    · cases he
      exact h _
    · cases he
      exact unmoved_updateTurn
  | acquireGate turn ctx =>
    simp only [stepAgent, ready] at ran
    repeat' split at ran
    · obtain ⟨cause, _, he⟩ := Option.map_eq_some_iff.mp ran
      cases he
      exact h _
    · cases ran
    · cases ran
      exact unmoved_updateTurn
  | beginRun | endRun | releaseGate | upgradeApprovalMode | endInvoke | endSink =>
    cases ran
    exact unmoved_updateTurn

end Memory

end AISummoner.App
