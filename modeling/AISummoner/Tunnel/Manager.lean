import Mathlib

/-! # The registry of Device tunnels

`tunnel.Manager`.  A `*Connection` is a position in `connections`.  The logical close
is immediate, the network cleanup of a closed connection happens later in a
goroutine of its own.
-/

namespace AISummoner.Tunnel

structure Connection where
  id : String
  deviceID : String
  /-- `done` is closed. -/
  closed : Bool := false
  /-- The network cleanup has finished. -/
  cleaned : Bool := false
  /-- SSH set-ups in progress; the channel holds 16. -/
  setups : Nat := 0
  deriving DecidableEq, Repr

def maxSetups : Nat := 16

structure Manager where
  connections : List Connection
  current : String → Option Nat
  owned : List Nat
  closing : Bool

namespace Manager

def empty : Manager := ⟨[], fun _ => none, [], false⟩

def update (manager : Manager) (connection : Nat) (change : Connection → Connection) : Manager :=
  { manager with connections := manager.connections.modify connection change }

def setCurrent (manager : Manager) (deviceID : String) (connection : Option Nat) : Manager :=
  { manager with
    current := fun other => if other = deviceID then connection else manager.current other }

def newConnection (manager : Manager) (id deviceID : String) : Nat × Manager :=
  (manager.connections.length,
    { manager with connections := manager.connections ++ [{ id, deviceID }] })

/-- `beginClose`. -/
def close (manager : Manager) (connection : Nat) : Manager :=
  manager.update connection fun value => { value with closed := true }

def isClosed (manager : Manager) (connection : Nat) : Bool :=
  (manager.connections[connection]?).all Connection.closed

/-- The goroutine that awaits the cleanup is started once. -/
def ownLocked (manager : Manager) (connection : Nat) : Manager :=
  if connection ∈ manager.owned then manager
  else { manager with owned := connection :: manager.owned }

/-- `Register`: newest wins. -/
def register (manager : Manager) (connection : Nat) : Bool × Manager :=
  match manager.connections[connection]? with
  | none => (false, manager)
  | some value =>
    if manager.closing then (false, manager.close connection)
    else
      let replaced := manager.current value.deviceID
      let installed := (manager.ownLocked connection).setCurrent value.deviceID (some connection)
      (true, match replaced with
        | some old => if old = connection then installed else installed.close old
        | none => installed)

/-- Drop the map entry if it is still this connection. -/
def remove (manager : Manager) (connection : Nat) : Manager :=
  match manager.connections[connection]? with
  | none => manager
  | some value =>
    if manager.current value.deviceID = some connection then
      manager.setCurrent value.deviceID none
    else manager

/-- `DetachDevice`: the connection that was current, now closed. -/
def detachDevice (manager : Manager) (deviceID : String) : Option Nat × Manager :=
  match manager.current deviceID with
  | none => (none, manager)
  | some connection => (some connection, (manager.setCurrent deviceID none).close connection)

def isOnline (manager : Manager) (deviceID : String) : Bool :=
  (manager.current deviceID).any fun connection => !manager.isClosed connection

/-- The selection of `OpenSSH`. -/
def selectLive (manager : Manager) (deviceID : String) : Option Nat :=
  (manager.current deviceID).filter fun connection => !manager.isClosed connection

/-- The end of the goroutine `ownLocked` starts. -/
def reap (manager : Manager) (connection : Nat) : Manager :=
  let removed := manager.remove connection
  { removed with owned := removed.owned.filter (· ≠ connection) }

/-- The critical section of `CloseAll`. -/
def closeAll (manager : Manager) : List Nat × Manager :=
  if manager.closing then ([], manager)
  else (manager.owned, { manager with closing := true, current := fun _ => none })

/-! ## What only grows -/

/-- The connection is there and satisfies the condition. -/
def On (manager : Manager) (connection : Nat) (holds : Connection → Prop) : Prop :=
  ∃ value, manager.connections[connection]? = some value ∧ holds value

end Manager

/-- The same connection at a later time. -/
structure Connection.Later (old new : Connection) : Prop where
  deviceID : new.deviceID = old.deviceID
  closed : old.closed = true → new.closed = true
  cleaned : old.cleaned = true → new.cleaned = true

theorem Connection.Later.refl (v : Connection) : v.Later v := ⟨rfl, fun hcl => hcl, fun hcn => hcn⟩

theorem Connection.later_cleaned (v : Connection) : v.Later { v with cleaned := true } :=
  ⟨rfl, fun hcl => hcl, fun _ => rfl⟩

theorem Connection.Later.trans {ha hb third : Connection} (pre : ha.Later hb)
    (k' : hb.Later third) : ha.Later third where
  deviceID := k'.deviceID.trans pre.deviceID
  closed closed := k'.closed (pre.closed closed)
  cleaned cleaned := k'.cleaned (pre.cleaned cleaned)

namespace Manager

variable {m s s' : Manager} {cn : Nat} {did : String}

structure Later (before after : Manager) : Prop where
  connections : ∀ {connection value}, before.connections[connection]? = some value →
    after.On connection value.Later
  closing : before.closing = true → after.closing = true

theorem Later.refl (m : Manager) : m.Later m := ⟨fun {_ v} hl => ⟨v, hl, .refl v⟩, id⟩

theorem Later.trans {ha hb third : Manager} (pre : ha.Later hb)
    (k' : hb.Later third) : ha.Later third where
  connections located := by
    obtain ⟨_, hf, hch⟩ := pre.connections located
    obtain ⟨last, ht, more⟩ := k'.connections hf
    exact ⟨last, ht, hch.trans more⟩
  closing closing := k'.closing (pre.closing closing)

variable {ch : Connection → Connection}

theorem On.later {h : Connection → Prop} (on : s.On cn h) (k' : s.Later s')
    (stays : ∀ {old new : Connection}, old.Later new → h old → h new) : s'.On cn h := by
  obtain ⟨old, hl, has⟩ := on
  obtain ⟨new, hf, hch⟩ := k'.connections hl
  exact ⟨new, hf, stays hch has⟩

theorem On.mono {h wider : Connection → Prop} (on : m.On cn h)
    (implies : ∀ {value}, h value → wider value) : m.On cn wider := by
  obtain ⟨value, hl, has⟩ := on
  exact ⟨value, hl, implies has⟩

theorem later_of_connections (h : s'.connections = s.connections)
    (hclg : s.closing → s'.closing) : s.Later s' :=
  ⟨fun {_ v} hl => ⟨v, by rw [h]; exact hl, .refl v⟩, hclg⟩

theorem connections_update {o : Nat} : (m.update cn ch).connections[o]? =
      (m.connections[o]?).map fun v => if cn = o then ch v else v :=
  List.getElem?_modify _ _ _ _

theorem later_update (hch : ∀ v : Connection, v.Later (ch v)) : m.Later (m.update cn ch) := by
  refine ⟨fun {o v} hl => ?_, id⟩
  refine ⟨if cn = o then ch v else v, ?_, ?_⟩
  · rw [connections_update, hl]
    rfl
  · split
    · exact hch v
    · exact .refl v

theorem later_close : m.Later (m.close cn) :=
  later_update fun _ => ⟨rfl, fun _ => rfl, fun hcn => hcn⟩

theorem on_close (ht : m.On cn fun _ => True) : (m.close cn).On cn (·.closed = true) := by
  obtain ⟨v, hl, _⟩ := ht
  refine ⟨{ v with closed := true }, ?_, rfl⟩
  rw [close, connections_update, hl, Option.map_some, if_pos rfl]

theorem connections_ownLocked : (m.ownLocked cn).connections = m.connections := by
  unfold ownLocked
  split <;> rfl

theorem current_ownLocked : (m.ownLocked cn).current = m.current := by
  unfold ownLocked
  split <;> rfl

theorem mem_ownLocked {o : Nat} : o ∈ (m.ownLocked cn).owned ↔ o = cn ∨ o ∈ m.owned := by
  unfold ownLocked
  split
  · rename_i how
    exact ⟨.inr, fun either => either.elim (fun h => h ▸ how) id⟩
  · exact List.mem_cons

theorem closing_ownLocked : (m.ownLocked cn).closing = m.closing := by
  unfold ownLocked
  split <;> rfl

theorem later_newConnection {id : String} : m.Later (m.newConnection id did).2 := by
  refine ⟨fun {o v} hl => ⟨v, ?_, .refl v⟩, fun hclg => hclg⟩
  have hi := (List.getElem?_eq_some_iff.mp hl).1
  show (m.connections ++ _)[o]? = some v
  rw [List.getElem?_append_left hi]
  exact hl

theorem connections_remove : (m.remove cn).connections = m.connections := by
  unfold remove
  split
  · rfl
  · split <;> rfl

theorem closing_remove : (m.remove cn).closing = m.closing := by
  unfold remove
  split
  · rfl
  · split <;> rfl

theorem owned_detachDevice : (m.detachDevice did).2.owned = m.owned := by
  unfold detachDevice
  split <;> rfl

theorem owned_closeAll : m.closeAll.2.owned = m.owned := by
  unfold closeAll
  split <;> rfl

theorem owned_remove : (m.remove cn).owned = m.owned := by
  unfold remove
  split
  · rfl
  · split <;> rfl

end Manager

end AISummoner.Tunnel
