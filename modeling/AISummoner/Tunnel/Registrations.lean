import AISummoner.Concurrency.History
import AISummoner.Tunnel.Newest

/-! # The manager and its background cleanups

`tunnel.Manager` with the goroutines it leaves behind: the network cleanup of a
connection, and the one `ownLocked` starts to await it and forget the connection.
A critical section is one operation; what it starts with `go` is started by the
steps after it.
-/

namespace AISummoner.Tunnel.Registrations

open Concurrency

/-! ## State and operations -/

structure Tunnels where
  manager : Manager
  /-- The counter of `cleanupWG`. -/
  cleanupWG : Nat

def Tunnels.new : Tunnels := ⟨.empty, 0⟩

/-- What `Register` returns, and what it has to start. -/
structure Registered where
  accepted : Bool
  replaced : Option Nat
  /-- `ownLocked` starts a goroutine. -/
  owns : Bool
  /-- The connection whose cleanup starts here. -/
  closing : Option Nat
  deriving DecidableEq, Repr

inductive Operation where
  | newConnection (id deviceID : String)
  | register (connection : Nat)
  | remove (connection : Nat)
  | detachDevice (deviceID : String)
  | beginClose (connection : Nat)
  /-- The network cleanup of a connection is over. -/
  | finishCleanup (connection : Nat)
  | awaitCleanup (connection : Nat)
  | reap (connection : Nat)
  | doneCleanup
  /-- The critical section of `CloseAll`. -/
  | closeAll
  | waitCleanups
  /-- The two reads of `IsOnline`. -/
  | get (deviceID : String)
  | online (connection : Nat)
  deriving DecidableEq, Repr

@[reducible] def Operation.Response : Operation → Type
  | .newConnection _ _ => Nat
  | .register _ => Registered
  | .detachDevice _ => Option (Nat × Bool)
  | .beginClose _ => Bool
  | .closeAll => Option (List Nat)
  | .get _ => Option Nat
  | .online _ => Bool
  | _ => Unit

@[reducible] def Calls : Signature := ⟨Operation, Operation.Response⟩

namespace Tunnels

/-- `closeOnce` lets the first caller start the cleanup. -/
def beginClose (tunnels : Tunnels) (connection : Nat) : Bool × Tunnels :=
  (!tunnels.manager.isClosed connection,
    { tunnels with manager := tunnels.manager.close connection })

/-- The connection, unless its cleanup has started. -/
def unclosed (tunnels : Tunnels) (connection : Nat) : Option Nat :=
  if tunnels.manager.isClosed connection then none else some connection

def registered (tunnels : Tunnels) (connection : Nat) : Registered :=
  match tunnels.manager.connections[connection]? with
  | none => ⟨false, none, false, none⟩
  | some value =>
    if tunnels.manager.closing then ⟨false, none, false, tunnels.unclosed connection⟩
    else ⟨true, tunnels.manager.current value.deviceID, !tunnels.manager.owned.contains connection,
      ((tunnels.manager.current value.deviceID).filter (· ≠ connection)).bind tunnels.unclosed⟩

def register (tunnels : Tunnels) (connection : Nat) : Registered × Tunnels :=
  (tunnels.registered connection, {
      manager := (tunnels.manager.register connection).2
      cleanupWG := tunnels.cleanupWG + (tunnels.registered connection).owns.toNat })

def detachDevice (tunnels : Tunnels) (deviceID : String) : Option (Nat × Bool) × Tunnels :=
  ((tunnels.manager.detachDevice deviceID).1.map fun connection =>
      (connection, !tunnels.manager.isClosed connection),
    { tunnels with manager := (tunnels.manager.detachDevice deviceID).2 })

def closeAll (tunnels : Tunnels) : Option (List Nat) × Tunnels :=
  (if tunnels.manager.closing then none else some tunnels.manager.owned,
    { tunnels with manager := tunnels.manager.closeAll.2 })

def isCleaned (tunnels : Tunnels) (connection : Nat) : Bool :=
  (tunnels.manager.connections[connection]?).any Connection.cleaned

end Tunnels

def perform (operation : Operation) (tunnels : Tunnels) : Option (operation.Response × Tunnels) :=
  match operation with
  | .newConnection id deviceID =>
    some ((tunnels.manager.newConnection id deviceID).1,
      { tunnels with manager := (tunnels.manager.newConnection id deviceID).2 })
  | .register connection => some (tunnels.register connection)
  | .remove connection => some ((), { tunnels with manager := tunnels.manager.remove connection })
  | .detachDevice deviceID => some (tunnels.detachDevice deviceID)
  | .beginClose connection => some (tunnels.beginClose connection)
  | .finishCleanup connection =>
    some ((), { tunnels with manager := tunnels.manager.update connection fun value =>
      { value with cleaned := true } })
  | .awaitCleanup connection => if tunnels.isCleaned connection then some ((), tunnels) else none
  | .reap connection => some ((), { tunnels with manager := tunnels.manager.reap connection })
  | .doneCleanup => some ((), { tunnels with cleanupWG := tunnels.cleanupWG - 1 })
  | .closeAll => some tunnels.closeAll
  | .waitCleanups => if tunnels.cleanupWG = 0 then some ((), tunnels) else none
  | .get deviceID => some (tunnels.manager.current deviceID, tunnels)
  | .online connection => some (!tunnels.manager.isClosed connection, tunnels)

/-! ## Goroutines -/

inductive Goroutine where
  | newConnection (id deviceID : String)
  | register (connection : Nat)
  | remove (connection : Nat)
  /-- `DetachDevice` and the join it returns. -/
  | detachDevice (deviceID : String)
  /-- `Connection.Close`. -/
  | close (connection : Nat)
  | closeAll
  | isOnline (deviceID : String)
  -- started by the others
  | cleanup (connection : Nat)
  | own (connection : Nat)
  deriving DecidableEq, Repr

abbrev Code (α : Type) := Program Calls Goroutine α

def operate (operation : Operation) : Code operation.Response := .perform operation .done

def startCleanup : Option Nat → Code Unit
  | some connection => .fork (.cleanup connection) (.done ())
  | none => .done ()

def beginClose (connection : Nat) : Code Unit :=
  (operate (.beginClose connection)).bind fun first =>
  startCleanup (if first then some connection else none)

def register (connection : Nat) : Code Unit :=
  (operate (.register connection)).bind fun registered =>
  if registered.owns then .fork (.own connection) (startCleanup registered.closing)
  else startCleanup registered.closing

def detachDevice (deviceID : String) : Code Unit :=
  (operate (.detachDevice deviceID)).bind fun
  | none => .done ()
  | some (connection, first) =>
    (startCleanup (if first then some connection else none)).bind fun _ =>
    operate (.awaitCleanup connection)

def close (connection : Nat) : Code Unit :=
  (beginClose connection).bind fun _ => operate (.awaitCleanup connection)

def beginCloseEach : List Nat → Code Unit
  | [] => .done ()
  | connection :: connections =>
    (beginClose connection).bind fun _ => beginCloseEach connections

def closeAll : Code Unit :=
  (operate .closeAll).bind fun
  | none => operate .waitCleanups
  | some connections => (beginCloseEach connections).bind fun _ => operate .waitCleanups

def isOnline (deviceID : String) : Code Unit :=
  (operate (.get deviceID)).bind fun
  | none => .done ()
  | some connection => (operate (.online connection)).bind fun _ => .done ()

/-- The goroutine of `ownLocked`. -/
def own (connection : Nat) : Code Unit :=
  (operate (.awaitCleanup connection)).bind fun _ =>
  (operate (.reap connection)).bind fun _ =>
  operate .doneCleanup

def body : Goroutine → Code Unit
  | .newConnection id deviceID => (operate (.newConnection id deviceID)).bind fun _ => .done ()
  | .register connection => register connection
  | .remove connection => operate (.remove connection)
  | .detachDevice deviceID => detachDevice deviceID
  | .close connection => close connection
  | .closeAll => closeAll
  | .isOnline deviceID => isOnline deviceID
  | .cleanup connection => operate (.finishCleanup connection)
  | .own connection => own connection

def admits : Goroutine → Bool
  | .cleanup _ => false
  | .own _ => false
  | _ => true

def registrations : System Calls Goroutine Tunnels Unit where
  execute _ operation _ := perform operation
  body := body
  enter _ _ _ tunnels := some tunnels
  admits goroutine _ := admits goroutine
  restart _ := none

abbrev Past := System.Traced Calls Goroutine Tunnels

abbrev Entry := System.Entry Calls Goroutine Tunnels

abbrev Step := System.Action Calls Goroutine Unit

/-! ## What an operation does -/

inductive Performs (before : Tunnels) : (operation : Operation) → operation.Response → Tunnels → Prop
  | newConnection {id deviceID : String} : Performs before (.newConnection id deviceID)
      before.manager.connections.length
      { before with manager := (before.manager.newConnection id deviceID).2 }
  | register {connection : Nat} {response : Registered} {manager : Manager}
      (registers : before.manager.Registers connection response.accepted manager)
      (displaces : ∀ old, response.replaced = some old → old ≠ connection →
        manager.On old (·.closed = true))
      (closes : ∀ old, response.closing = some old → manager.On old (·.closed = true))
      (owns : response.owns = (response.accepted && !before.manager.owned.contains connection)) :
      Performs before (.register connection) response
        ⟨manager, before.cleanupWG + response.owns.toNat⟩
  | remove {connection : Nat} : Performs before (.remove connection) ()
      { before with manager := before.manager.remove connection }
  | detachDevice {deviceID : String} {response : Option (Nat × Bool)}
      (detaches : ∀ connection first, response = some (connection, first) →
        before.manager.current deviceID = some connection) :
      Performs before (.detachDevice deviceID) response
        { before with manager := (before.manager.detachDevice deviceID).2 }
  | beginClose {connection : Nat} : Performs before (.beginClose connection)
      (!before.manager.isClosed connection)
      { before with manager := before.manager.close connection }
  | finishCleanup {connection : Nat} : Performs before (.finishCleanup connection) ()
      { before with manager := before.manager.update connection fun value =>
        { value with cleaned := true } }
  | awaitCleanup {connection : Nat} (cleaned : before.manager.On connection (·.cleaned = true)) :
      Performs before (.awaitCleanup connection) () before
  | reap {connection : Nat} : Performs before (.reap connection) ()
      { before with manager := before.manager.reap connection }
  | doneCleanup : Performs before .doneCleanup () { before with cleanupWG := before.cleanupWG - 1 }
  | closeAll {response : Option (List Nat)} :
      Performs before .closeAll response { before with manager := before.manager.closeAll.2 }
  | waitCleanups (zero : before.cleanupWG = 0) : Performs before .waitCleanups () before
  | get {deviceID : String} : Performs before (.get deviceID) (before.manager.current deviceID) before
  | online {connection : Nat} : Performs before (.online connection)
      (!before.manager.isClosed connection) before

namespace Tunnels

variable {tunnels : Tunnels} {cn old : Nat}

/-- How the answer of a registration fits what it does. -/
inductive Answers (tunnels : Tunnels) (connection : Nat) : Registered → Prop
  | absent (missing : tunnels.manager.connections[connection]? = none) :
    Answers tunnels connection ⟨false, none, false, none⟩
  | refused {value : Connection} (located : tunnels.manager.connections[connection]? = some value)
    (closing : tunnels.manager.closing = true) :
    Answers tunnels connection ⟨false, none, false, tunnels.unclosed connection⟩
  | accepted {value : Connection} (located : tunnels.manager.connections[connection]? = some value)
    (accepting : tunnels.manager.closing = false) :
    Answers tunnels connection
      ⟨true, tunnels.manager.current value.deviceID, !tunnels.manager.owned.contains connection,
        ((tunnels.manager.current value.deviceID).filter (· ≠ connection)).bind tunnels.unclosed⟩

theorem answers_registered : tunnels.Answers cn (tunnels.registered cn) := by
  unfold registered
  split
  · exact .absent ‹_›
  · split
    · exact .refused ‹_› ‹_›
    · exact .accepted ‹_› (Bool.eq_false_iff.mpr ‹_›)

theorem registered_accepted :
    (tunnels.registered cn).accepted = (tunnels.manager.register cn).1 := by
  unfold registered Manager.register
  cases tunnels.manager.connections[cn]? with
  | none => rfl
  | some v => cases tunnels.manager.closing <;> rfl

theorem unclosed_eq_some (hf : tunnels.unclosed cn = some old) : old = cn := by
  unfold unclosed at hf
  split at hf
  · cases hf
  · exact (Option.some.inj hf).symm

variable {r : Registered}

theorem Answers.owns (han : tunnels.Answers cn r) :
    r.owns = (r.accepted && !tunnels.manager.owned.contains cn) := by
  cases han <;> rfl

theorem Answers.displaces {a : Bool} {m : Manager} (an : tunnels.Answers cn r)
    (rg : tunnels.manager.Registers cn a m)
    (hs : tunnels.manager.Sound) (hrp : r.replaced = some old)
    (ne : old ≠ cn) : m.On old (·.closed = true) := by
  cases an with
  | absent hmi | refused hl hclg => cases hrp
  | @accepted v hl hac =>
    change tunnels.manager.current v.deviceID = some old at hrp
    have ht := (hs.current hrp).mono fun _ => trivial
    cases rg with
    | absent hmi => exact nomatch hl.symm.trans hmi
    | refused again hclg => exact nomatch hac.symm.trans hclg
    | installed again hac alone =>
      cases Option.some.inj (again.symm.trans hl)
      exact absurd (alone old hrp) ne
    | replaced again hac hf ne =>
      cases Option.some.inj (again.symm.trans hl)
      cases Option.some.inj (hf.symm.trans hrp)
      exact Manager.on_close (ht.later Manager.later_install fun _ _ => trivial)

theorem Answers.closes {m : Manager} (an : tunnels.Answers cn r)
    (rg : tunnels.manager.Registers cn r.accepted m)
    (hs : tunnels.manager.Sound) (hst : r.closing = some old) : m.On old (·.closed = true) := by
  have hdi (hrp : r.replaced = some old) (ne : old ≠ cn) := an.displaces rg hs hrp ne
  cases an with
  | absent hmi => cases hst
  | @refused v hl hclg =>
    cases unclosed_eq_some hst
    cases rg with
    | absent hmi => exact nomatch hl.symm.trans hmi
    | refused _ hclg => exact Manager.on_close ⟨_, hl, trivial⟩
  | @accepted v hl _ =>
    obtain ⟨hrp, kept, hst⟩ := Option.bind_eq_some_iff.mp hst
    cases unclosed_eq_some hst
    obtain ⟨hf, ne⟩ := Option.filter_eq_some_iff.mp kept
    exact hdi hf (of_decide_eq_true ne)

end Tunnels

theorem performs_of_perform {op : Operation} {r : op.Response}
    {s s' : Tunnels} (hs : s.manager.Sound)
    (hp : perform op s = some (r, s')) : Performs s op r s' := by
  cases op with
  | register cn =>
    cases Option.some.inj hp
    have han : s.Answers cn (s.registered cn) := Tunnels.answers_registered
    have hrg : s.manager.Registers cn (s.manager.register cn).1
      (s.manager.register cn).2 := Manager.registers_register
    rw [← Tunnels.registered_accepted] at hrg
    exact .register hrg (fun _ => han.displaces hrg hs)
      (fun _ => han.closes hrg hs) han.owns
  | detachDevice did =>
    cases Option.some.inj hp
    refine .detachDevice fun cn a detached => ?_
    obtain ⟨_, detached, h⟩ := Option.map_eq_some_iff.mp detached
    cases h
    unfold Manager.detachDevice at detached
    split at detached
    · cases detached
    · cases detached
      assumption
  | awaitCleanup cn =>
    obtain ⟨hcn, h⟩ := Option.ite_none_right_eq_some.mp hp
    cases h
    obtain ⟨v, hl, hcn⟩ := (Option.any_eq_true _ _).mp hcn
    exact .awaitCleanup ⟨v, hl, hcn⟩
  | waitCleanups =>
    obtain ⟨zero, h⟩ := Option.ite_none_right_eq_some.mp hp
    cases h
    exact .waitCleanups zero
  | newConnection _ did => cases Option.some.inj hp; exact .newConnection
  | remove cn => cases Option.some.inj hp; exact .remove
  | beginClose cn => cases Option.some.inj hp; exact .beginClose
  | finishCleanup cn => cases Option.some.inj hp; exact .finishCleanup
  | reap cn => cases Option.some.inj hp; exact .reap
  | doneCleanup => cases Option.some.inj hp; exact .doneCleanup
  | closeAll => cases Option.some.inj hp; exact .closeAll
  | get did => cases Option.some.inj hp; exact .get
  | online cn => cases Option.some.inj hp; exact .online

/-! ## What a goroutine owes -/

/-- The place of a goroutine in the life of the connection it looks after. -/
inductive Duty where
  | free
  /-- It has begun `CloseAll`. -/
  | closing
  /-- `ownLocked` has counted a goroutine it has yet to start. -/
  | owes (connection : Nat)
  | awaits (connection : Nat)
  | awaited (connection : Nat)
  | reaped (connection : Nat)
  deriving DecidableEq, Repr

structure Keeper where
  duty : Duty
  /-- A closed connection whose cleanup this goroutine starts, or is. -/
  closed : Option Nat
  deriving DecidableEq, Repr

namespace Keeper

def start : Goroutine → Keeper
  | .own connection => ⟨.awaits connection, none⟩
  | .cleanup connection => ⟨.free, some connection⟩
  | _ => ⟨.free, none⟩

def after (known : Keeper) : (operation : Operation) → operation.Response → Keeper
  | .register connection, response =>
    ⟨if response.owns then .owes connection else known.duty, response.closing⟩
  | .detachDevice _, some (connection, true) => { known with closed := some connection }
  | .beginClose connection, true => { known with closed := some connection }
  | .closeAll, _ => { known with duty := .closing }
  | .awaitCleanup connection, _ =>
    { known with duty := if known.duty = .free then .free else .awaited connection }
  | .reap connection, _ => { known with duty := .reaped connection }
  | .doneCleanup, _ => { known with duty := .free }
  | _, _ => known

def afterFork (known : Keeper) : Goroutine → Keeper
  | .own _ => { known with duty := .free }
  | _ => known

def may (known : Keeper) : Operation → Prop
  | .register _ => known.duty = .free
  | .closeAll => known.duty = .free
  | .finishCleanup connection => known.closed = some connection
  | .awaitCleanup connection => known.duty = .free ∨ known.duty = .awaits connection
  | .reap connection => known.duty = .awaited connection
  | .doneCleanup => ∃ connection, known.duty = .reaped connection
  | .waitCleanups => known.duty = .closing
  | _ => True

def mayFork (known : Keeper) : Goroutine → Prop
  | .own connection => known.duty = .owes connection
  | .cleanup connection => known.closed = some connection
  | _ => False

end Keeper

def keeping : Discipline Calls Goroutine Keeper where
  start goroutine := some (.start goroutine)
  after := Keeper.after
  afterFork := Keeper.afterFork
  may := Keeper.may
  mayFork := Keeper.mayFork

/-! ## Every program keeps to it -/

variable {k : Keeper} {post : Unit → Keeper → Prop} {cn : Nat}

theorem follows_startCleanup {cleanup : Option Nat} (hcl : cleanup.isSome → k.closed = cleanup)
    (hh : post () k) : keeping.Follows (startCleanup cleanup) post k := by
  cases cleanup with
  | none => exact hh
  | some _ => exact ⟨hcl rfl, hh⟩

theorem follows_beginClose (hh : ∀ closed, post () { k with closed }) :
    keeping.Follows (beginClose cn) post k := by
  refine ⟨trivial, fun a => ?_⟩
  cases a with
  | false => exact hh k.closed
  | true => exact follows_startCleanup (fun _ => rfl) (hh (some cn))

theorem follows_beginCloseEach {cns : List Nat} {cl : Option Nat} :
    keeping.Follows (beginCloseEach cns) (fun _ k => k.duty = .closing) ⟨.closing, cl⟩ := by
  induction cns generalizing cl with
  | nil => exact rfl
  | cons _ cns ih =>
    apply Discipline.Follows.bind
    exact follows_beginClose fun _ => ih

theorem follows_register : keeping.Follows (register cn) (fun _ _ => True) ⟨.free, none⟩ := by
  refine ⟨rfl, fun r => ?_⟩
  show keeping.Follows (if r.owns then _ else _) _ _
  apply Discipline.Follows.ite
  · intro hows
    refine ⟨?_, follows_startCleanup (fun _ => rfl) trivial⟩
    show (if r.owns then Duty.owes cn else .free) = .owes cn
    rw [if_pos hows]
  · intro _
    exact follows_startCleanup (fun _ => rfl) trivial

theorem follows_detachDevice {did : String} :
    keeping.Follows (detachDevice did) (fun _ _ => True) ⟨.free, none⟩ := by
  refine ⟨trivial, fun r => ?_⟩
  match r with
  | none => exact trivial
  | some (cn, false) => exact ⟨.inl rfl, fun _ => trivial⟩
  | some (cn, true) => exact ⟨rfl, .inl rfl, fun _ => trivial⟩

theorem follows_closeAll : keeping.Follows closeAll (fun _ _ => True) ⟨.free, none⟩ := by
  refine ⟨rfl, fun r => ?_⟩
  cases r with
  | none => exact ⟨rfl, fun _ => trivial⟩
  | some cns =>
    show keeping.Follows ((beginCloseEach cns).bind fun _ => operate .waitCleanups) _ _
    apply Discipline.Follows.bind
    exact follows_beginCloseEach.mono fun _ _ hclg => ⟨hclg, fun _ => trivial⟩

theorem keeps {g : Goroutine} (hst : keeping.start g = some k) :
    keeping.Follows (registrations.body g) (fun _ _ => True) k := by
  cases Option.some.inj hst
  cases g with
  | newConnection _ did => exact ⟨trivial, fun _ => trivial⟩
  | register cn => exact follows_register
  | remove cn => exact ⟨trivial, fun _ => trivial⟩
  | detachDevice did => exact follows_detachDevice
  | close cn =>
    show keeping.Follows ((beginClose cn).bind _) _ _
    apply Discipline.Follows.bind
    exact follows_beginClose fun _ => ⟨.inl rfl, fun _ => trivial⟩
  | closeAll => exact follows_closeAll
  | isOnline did =>
    refine ⟨trivial, fun r => ?_⟩
    cases r with
    | none => exact trivial
    | some cn => exact ⟨trivial, fun _ => trivial⟩
  | cleanup cn => exact ⟨rfl, fun _ => trivial⟩
  | own cn =>
    exact ⟨.inr rfl, fun _ => ⟨rfl, fun _ => ⟨⟨cn, rfl⟩, fun _ => trivial⟩⟩⟩

end AISummoner.Tunnel.Registrations
