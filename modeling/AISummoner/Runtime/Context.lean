import Mathlib

/-! # Cancellation contexts

A context is the list of the scopes it was derived from, innermost first.  It is
canceled as soon as one of them is, so "every context derived from this one" is
membership in a list.
-/

namespace AISummoner.Runtime

/-- What can be canceled.  A request's scope and a scope with a timer can end at
    any time; the others only when the program cancels them. -/
inductive Scope where
  /-- The service's own root context. -/
  | root
  /-- The context of an incoming request. -/
  | request (number : Nat)
  /-- A context a caller made of its own. -/
  | caller (number : Nat)
  /-- `context.WithCancel`. -/
  | derived (number : Nat)
  /-- `context.WithTimeout`. -/
  | timed (number : Nat)
  deriving DecidableEq, Repr

abbrev Context := List Scope

inductive Cause where
  | canceled
  | deadlineExceeded
  | deviceInvalidated
  | handlerClosed
  deriving DecidableEq, Repr

structure Contexts where
  cause : Scope → Option Cause
  next : Nat

namespace Contexts

def empty : Contexts := ⟨fun _ => none, 0⟩

/-- `ctx.Err()`: the cause of one canceled scope, if there is one. -/
def err (contexts : Contexts) (ctx : Context) : Option Cause := ctx.findSome? contexts.cause

def isDone (contexts : Contexts) (ctx : Context) : Bool := (contexts.err ctx).isSome

def cancel (contexts : Contexts) (scope : Scope) (cause : Cause) : Contexts :=
  { contexts with
    cause := fun other =>
      if other = scope then some ((contexts.cause scope).getD cause) else contexts.cause other }

def withCancel (contexts : Contexts) : Scope × Contexts :=
  (.derived contexts.next, { contexts with next := contexts.next + 1 })

def withTimeout (contexts : Contexts) : Scope × Contexts :=
  (.timed contexts.next, { contexts with next := contexts.next + 1 })

/-- The environment can end the scope by itself. -/
def expires : Scope → Bool
  | .request _ | .caller _ | .timed _ => true
  | .root | .derived _ => false

variable {contexts : Contexts} {scp o : Scope} {cause : Cause} {ctx : Context}

end Contexts

end AISummoner.Runtime
