import Mathlib

/-! # Readers that deliver in chunks

A reader delivers a stream in chunks of its own choice, and reports its ending by a
read of its own or together with the last elements.  What a program makes of a
stream should not depend on either choice.
-/

namespace AISummoner.Streams

variable {α : Type}

inductive Ending where
  | endOfFile
  | failure
  deriving DecidableEq, Repr

structure Source (α : Type) where
  /-- What the reads to come deliver. -/
  chunks : List (List α)
  ending : Ending
  /-- The ending is reported together with the last elements. -/
  joined : Bool
  filled : ∀ chunk ∈ chunks, chunk ≠ []

namespace Source

def unread (source : Source α) : List α :=
  source.chunks.flatten

structure Reading (α : Type) where
  data : List α
  ending : Option Ending
  rest : Source α

/-- Read into a buffer with `room` free places. -/
def read (source : Source α) (room : Nat) : Reading α :=
  match source with
  | ⟨[], ending, joined, filled⟩ => ⟨[], some ending, ⟨[], ending, joined, filled⟩⟩
  | ⟨chunk :: chunks, ending, joined, filled⟩ =>
    if fits : chunk.length ≤ room then
      ⟨chunk, if joined ∧ chunks = [] then some ending else none,
        ⟨chunks, ending, joined, fun _ member => filled _ (.tail _ member)⟩⟩
    else
      ⟨chunk.take room, none, ⟨chunk.drop room :: chunks, ending, joined, by
        intro left member
        cases member with
        | head => simpa using fits
        | tail _ member => exact filled _ (.tail _ member)⟩⟩

structure Reads (source : Source α) (room : Nat) (reading : Reading α) : Prop where
  delivered : reading.data ++ reading.rest.unread = source.unread
  bounded : reading.data.length ≤ room
  /-- Without an ending there was something to read. -/
  progress : reading.ending = none → 0 < room → reading.data ≠ []
  ended : ∀ ending, reading.ending = some ending →
    ending = source.ending ∧ reading.rest.unread = []
  alone : source.joined = false → reading.ending ≠ none → reading.data = []
  ending : reading.rest.ending = source.ending
  joined : reading.rest.joined = source.joined

theorem reads (src : Source α) (room : Nat) : Reads src room (src.read room) := by
  obtain ⟨chs, edg, jo, fi⟩ := src
  cases chs with
  | nil =>
    exact
      { delivered := rfl
        bounded := Nat.zero_le _
        progress := nofun
        ended := fun _ h => ⟨(Option.some.inj h).symm, rfl⟩
        alone := fun _ _ => rfl
        ending := rfl
        joined := rfl }
  | cons chk chs =>
    have hne : chk ≠ [] := fi chk (.head _)
    by_cases fits : chk.length ≤ room
    · simp only [read, dif_pos fits]
      refine
        { delivered := by simp [unread]
          bounded := fits
          progress := fun _ _ => hne
          ended := ?_
          alone := ?_
          ending := rfl
          joined := rfl }
      · intro hrd h
        -- The ending comes with the elements only after the last chunk.
        split at h
        · rename_i last
          exact ⟨(Option.some.inj h).symm, by simp [unread, last.2]⟩
        · cases h
      · intro hsp hrd
        simp only [show jo = false from hsp, Bool.false_eq_true, false_and, if_false,
          ne_eq, not_true_eq_false] at hrd
    · simp only [read, dif_neg fits]
      exact
        { delivered := by simp [unread, ← List.append_assoc]
          bounded := List.length_take_le _ _
          progress := fun _ _ hem => by
            rcases List.take_eq_nil_iff.mp hem with none | none
            · omega
            · exact hne none
          ended := nofun
          alone := fun _ hrd => absurd rfl hrd
          ending := rfl
          joined := rfl }

end Source

end AISummoner.Streams
