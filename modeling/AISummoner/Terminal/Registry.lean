import AISummoner.Runtime.Context

/-! # The registry of browser terminals

The mutex-protected state of `terminal.Handler`.  An `activeSession` is a position
in `sessions`; the registered sessions are those not done.  The source counts
generations in 64 bits.
-/

namespace AISummoner.Terminal

open AISummoner.Runtime (Scope)

def maxTerminalsPerUser : Nat := 4

inductive TerminalError where
  | handlerClosed
  | deviceInvalidated
  | canceled
  | limit
  deriving DecidableEq, Repr

structure ActiveSession where
  userID : String
  deviceID : String
  generation : Nat
  scope : Scope
  done : Bool := false
  deriving DecidableEq, Repr

structure Registry where
  closed : Bool
  generations : String → Nat
  userCounts : String → Nat
  sessions : List ActiveSession

namespace Registry

def empty : Registry := ⟨false, fun _ => 0, fun _ => 0, []⟩

def setCount (registry : Registry) (userID : String) (count : Nat) : String → Nat :=
  fun other => if other = userID then count else registry.userCounts other

/-- `admit`; `canceled` is whether the parent context has ended. -/
def admitSession (registry : Registry) (canceled : Bool) (userID deviceID : String) (generation : Nat)
    (scope : Scope) : Except TerminalError Nat × Registry :=
  if registry.closed then (.error .handlerClosed, registry)
  else if registry.generations deviceID ≠ generation then (.error .deviceInvalidated, registry)
  else if canceled then (.error .canceled, registry)
  else if registry.userCounts userID ≥ maxTerminalsPerUser then (.error .limit, registry)
  else (.ok registry.sessions.length, { registry with
    userCounts := registry.setCount userID (registry.userCounts userID + 1)
    sessions := registry.sessions ++ [{ userID, deviceID, generation, scope }] })

def release (registry : Registry) (session : Nat) : Registry :=
  match registry.sessions[session]? with
  | none => registry
  | some value =>
    if value.done then registry
    else { registry with
      userCounts := registry.setCount value.userID (registry.userCounts value.userID - 1)
      sessions := registry.sessions.modify session fun value => { value with done := true } }

def byDevice (registry : Registry) (deviceID : String) : List (Nat × ActiveSession) :=
  (registry.sessions.zipIdx.map fun (session, index) => (index, session)).filter
    fun (_, session) => session.deviceID = deviceID && !session.done

/-- The critical section of `CancelDevice`. -/
def cancelDevice (registry : Registry) (deviceID : String) :
    List (Nat × ActiveSession) × Registry :=
  (registry.byDevice deviceID, { registry with
    generations := fun other =>
      if other = deviceID then registry.generations deviceID + 1 else registry.generations other })

/-- The critical section of `closeAll`. -/
def closeAll (registry : Registry) : List (Nat × ActiveSession) × Registry :=
  ((registry.sessions.zipIdx.map fun (session, index) => (index, session)).filter
    fun (_, session) => !session.done, { registry with closed := true })

end Registry

end AISummoner.Terminal
