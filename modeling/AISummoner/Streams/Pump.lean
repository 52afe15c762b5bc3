import Mathlib

/-! # A loop that copies

A goroutine reads from a source into a buffer and writes the buffer out, until the
source has ended.  Whatever the portions are, nothing is lost or reordered.
-/

namespace AISummoner.Streams

structure Pump (α : Type) where
  unread : List α
  held : List α := []
  written : List α := []
  ended : Bool := false
  deriving DecidableEq, Repr

inductive Copying where
  | read (count : Nat)
  | write
  | finish
  deriving DecidableEq, Repr

namespace Pump

variable {α : Type} {pump s' : Pump α} {everything : List α} {act : Copying}

def copy (pump : Pump α) : Copying → Option (Pump α)
  | .read count =>
    if pump.ended || !pump.held.isEmpty || count = 0 || pump.unread.length < count then none
    else some { pump with held := pump.unread.take count, unread := pump.unread.drop count }
  | .write =>
    if pump.held.isEmpty then none
    else some { pump with held := [], written := pump.written ++ pump.held }
  | .finish =>
    if pump.ended || !pump.held.isEmpty || !pump.unread.isEmpty then none
    else some { pump with ended := true }

/-- What the source has yielded, or will yield, is where it belongs. -/
structure Copies (pump : Pump α) (everything : List α) : Prop where
  total : pump.written ++ pump.held ++ pump.unread = everything
  drained : pump.ended = true → pump.written = everything

theorem Copies.copy (copies : pump.Copies everything) (copied : pump.copy act = some s') :
    s'.Copies everything := by
  obtain ⟨total, drained⟩ := copies
  cases act with
  | read _ =>
    simp only [Pump.copy, Option.ite_none_left_eq_some, Option.some.injEq] at copied
    obtain ⟨enabled, rfl⟩ := copied
    simp at enabled
    refine ⟨by simpa [enabled] using total, fun hed => ?_⟩
    cases enabled.1.1.1.symm.trans hed
  | write =>
    simp only [Pump.copy, Option.ite_none_left_eq_some, Option.some.injEq] at copied
    obtain ⟨hh, rfl⟩ := copied
    refine ⟨by simpa using total, fun hed => ?_⟩
    -- a loop that has ended holds nothing
    have hem : pump.held ++ pump.unread = [] := by simpa [drained hed] using total
    simp [(List.append_eq_nil_iff.mp hem).1] at hh
  | finish =>
    simp only [Pump.copy, Option.ite_none_left_eq_some, Option.some.injEq] at copied
    obtain ⟨enabled, rfl⟩ := copied
    simp at enabled
    exact ⟨total, fun _ => by simpa [enabled] using total⟩

theorem ended_copy (hed : pump.ended) (copied : pump.copy act = some s') : s'.ended := by
  cases act <;> simp only [copy, Option.ite_none_left_eq_some, Option.some.injEq] at copied
  · rw [← copied.2]
    exact hed
  · rw [← copied.2]
    exact hed
  · rw [← copied.2]

end Pump

end AISummoner.Streams
