import AISummoner.Relational.Table
import AISummoner.Store.Schema

/-! # The limiter of failed attempts

`failureLimiter` of `internal/httpapi`: a bounded map from a source to its window
of failures.  Each method is one critical section.  `lastObserved` orders the
windows for eviction; the source counts observations in 64 bits.
-/

namespace AISummoner.HttpApi

open Relational
open Store (Time)

structure FailureWindow where
  key : String
  started : Time
  lastSeen : Time
  lastObserved : Nat
  count : Nat
  deriving DecidableEq, Repr

structure FailureLimiter where
  entries : Table FailureWindow.key
  maximum : Nat
  duration : Time
  capacity : Nat
  observations : Nat

def failureLimiterCapacity : Nat := 4096

def newFailureLimiter (maximum : Nat) (duration : Time) : FailureLimiter where
  entries := .empty
  maximum := maximum
  duration := duration
  capacity := failureLimiterCapacity
  observations := 0

namespace FailureLimiter

def expired (limiter : FailureLimiter) (now : Time) (entry : FailureWindow) : Bool :=
  decide (now - entry.started ≥ limiter.duration) || decide (now - entry.lastSeen ≥ limiter.duration)

def removeExpired (limiter : FailureLimiter) (now : Time) : FailureLimiter :=
  { limiter with entries := limiter.entries.delete (limiter.expired now) }

/-- `observe`, and the entry goes back into the map. -/
def observe (limiter : FailureLimiter) (entry : FailureWindow) (now : Time) : FailureLimiter :=
  let observations := limiter.observations + 1
  { limiter with
    observations
    entries := limiter.entries.put { entry with lastSeen := now, lastObserved := observations } }

def allow (limiter : FailureLimiter) (key : String) (now : Time) : Bool × FailureLimiter :=
  let limiter := limiter.removeExpired now
  match limiter.entries.get key with
  | none => (true, limiter)
  | some entry => (decide (entry.count < limiter.maximum), limiter.observe entry now)

def leastRecentlyObserved : List FailureWindow → Option FailureWindow
  | [] => none
  | entry :: entries =>
    match leastRecentlyObserved entries with
    | none => some entry
    | some oldest => if oldest.lastObserved < entry.lastObserved then some oldest else some entry

def evictLeastRecentlyObserved (limiter : FailureLimiter) : FailureLimiter :=
  match leastRecentlyObserved limiter.entries.rows with
  | none => limiter
  | some oldest => { limiter with entries := limiter.entries.delete fun entry => entry.key = oldest.key }

def makeRoom (limiter : FailureLimiter) : FailureLimiter :=
  if limiter.entries.rows.length ≥ limiter.capacity then limiter.evictLeastRecentlyObserved
  else limiter

def failed (limiter : FailureLimiter) (key : String) (now : Time) : FailureLimiter :=
  let limiter := limiter.removeExpired now
  match limiter.entries.get key with
  | none => limiter.makeRoom.observe ⟨key, now, now, 0, 1⟩ now
  | some entry => limiter.observe { entry with count := entry.count + 1 } now

def succeeded (limiter : FailureLimiter) (key : String) : FailureLimiter :=
  { limiter with entries := limiter.entries.delete fun entry => entry.key = key }

/-! ## What the methods do to a window -/

def counted (limiter : FailureLimiter) (key : String) : Nat :=
  (limiter.entries.get key).elim 0 FailureWindow.count

/-- The window of a source is there and not over at `now`. -/
def isOpen (limiter : FailureLimiter) (key : String) (now : Time) : Bool :=
  ((limiter.removeExpired now).entries.get key).isSome

variable {lim : FailureLimiter} {key o : String} {now : Time}

theorem get_removeExpired : (lim.removeExpired now).entries.get key =
    (lim.entries.get key).filter fun e => !lim.expired now e :=
  Table.get_delete ..

theorem counted_removeExpired_le : (lim.removeExpired now).counted key ≤ lim.counted key := by
  unfold counted
  rw [get_removeExpired]
  cases lim.entries.get key with
  | none => exact Nat.le_refl _
  | some e =>
    rw [Option.filter_some]
    split
    · exact Nat.le_refl _
    · exact Nat.zero_le _

theorem get_removeExpired_of_isOpen (isOpen : lim.isOpen key now) :
    (lim.removeExpired now).entries.get key = lim.entries.get key := by
  unfold FailureLimiter.isOpen at isOpen
  rw [get_removeExpired] at isOpen ⊢
  cases hf : lim.entries.get key with
  | none => rfl
  | some e =>
    rw [hf, Option.filter_some] at isOpen
    rw [Option.filter_some]
    split
    · rfl
    · rename_i hov
      rw [if_neg hov] at isOpen
      cases isOpen

theorem counted_observe {e : FailureWindow} : (lim.observe e now).counted key =
    if key = e.key then e.count else lim.counted key := by
  unfold counted observe
  rw [Table.get_put]
  split <;> rfl

theorem counted_allow : (lim.allow o now).2.counted key = (lim.removeExpired now).counted key := by
  unfold allow
  cases hf : (lim.removeExpired now).entries.get o with
  | none => simp [hf]
  | some e =>
    have hn : e.key = o := Table.key_of_get hf
    simp only [hf, counted_observe]
    by_cases h : key = e.key
    · rw [if_pos h, counted, h, hn, hf]
      rfl
    · rw [if_neg h]

theorem get_makeRoom : lim.makeRoom.entries.get key = none ∨
    lim.makeRoom.entries.get key = lim.entries.get key := by
  unfold makeRoom evictLeastRecentlyObserved
  split
  · split
    · exact .inr rfl
    · rw [Table.get_delete]
      cases lim.entries.get key with
      | none => exact .inl rfl
      | some e =>
        rw [Option.filter_some]
        split
        · exact .inr rfl
        · exact .inl rfl
  · exact .inr rfl

theorem counted_makeRoom_le : lim.makeRoom.counted key ≤ lim.counted key := by
  unfold counted
  rcases get_makeRoom with gone | h
  · rw [gone]
    exact Nat.zero_le _
  · exact Nat.le_of_eq (by rw [h])

theorem maximum_allow : (lim.allow key now).2.maximum = lim.maximum := by
  unfold allow
  cases hf : (lim.removeExpired now).entries.get key with
  | none | some e => simp only [hf]; rfl

theorem maximum_makeRoom : lim.makeRoom.maximum = lim.maximum := by
  unfold makeRoom evictLeastRecentlyObserved
  split
  · split <;> rfl
  · rfl

theorem maximum_failed : (lim.failed key now).maximum = lim.maximum := by
  unfold failed
  cases hf : (lim.removeExpired now).entries.get key with
  | none =>
    simp only [hf]
    exact maximum_makeRoom
  | some e => simp only [hf]; rfl

theorem counted_failed_le : (lim.failed o now).counted key ≤
    lim.counted key + (decide (key = o)).toNat := by
  have expiry : (lim.removeExpired now).counted key ≤ lim.counted key := counted_removeExpired_le
  unfold failed
  cases hf : (lim.removeExpired now).entries.get o with
  | none =>
    have room : (lim.removeExpired now).makeRoom.counted key ≤
        (lim.removeExpired now).counted key := counted_makeRoom_le
    simp only [hf, counted_observe]
    by_cases h : key = o
    · simp [h]
    · simp only [h, if_false, decide_false, Bool.toNat_false]
      omega
  | some e =>
    have hn : e.key = o := Table.key_of_get hf
    simp only [hf, counted_observe, hn]
    by_cases h : key = o
    · have hs : (lim.removeExpired now).counted key = e.count := by
        rw [counted, h, hf]
        rfl
      simp only [h, if_true, decide_true, Bool.toNat_true]
      rw [← h]
      omega
    · simp only [h, if_false, decide_false, Bool.toNat_false]
      omega

theorem counted_failed_of_isOpen (isOpen : lim.isOpen key now) :
    (lim.failed key now).counted key = lim.counted key + 1 := by
  have kept := get_removeExpired_of_isOpen isOpen
  unfold failed counted
  cases hf : (lim.removeExpired now).entries.get key with
  | none =>
    rw [FailureLimiter.isOpen, hf] at isOpen
    cases isOpen
  | some e =>
    have hn : e.key = key := Table.key_of_get hf
    simp only [hf, observe, Table.get_put, hn, if_true]
    rw [← kept, hf]
    rfl

theorem counted_failed_of_ne (isOpen : lim.isOpen key now) (ne : key ≠ o)
    (ht : ((lim.failed o now).entries.get key).isSome) :
    (lim.failed o now).counted key = lim.counted key := by
  have kept := get_removeExpired_of_isOpen isOpen
  unfold failed at ht ⊢
  cases hf : (lim.removeExpired now).entries.get o with
  | none =>
    simp only [hf, observe, Table.get_put, ne, if_false] at ht
    simp only [hf, counted_observe, ne, if_false]
    have room : (lim.removeExpired now).makeRoom.entries.get key = none ∨
        (lim.removeExpired now).makeRoom.entries.get key =
          (lim.removeExpired now).entries.get key := get_makeRoom
    rcases room with gone | h
    · rw [gone] at ht
      cases ht
    · rw [counted, h, kept]
      rfl
  | some e =>
    have hn : e.key = o := Table.key_of_get hf
    simp only [hf, counted_observe, hn, ne, if_false]
    rw [counted, kept]
    rfl

theorem counted_failed_pos : 0 < (lim.failed key now).counted key := by
  unfold failed
  cases hf : (lim.removeExpired now).entries.get key with
  | none => simp [hf, counted_observe]
  | some e =>
    have hn : e.key = key := Table.key_of_get hf
    simp [hf, counted_observe, hn]

theorem get_succeeded : (lim.succeeded key).entries.get key = none := by
  unfold succeeded
  rw [Table.get_delete]
  cases hf : lim.entries.get key with
  | none => rfl
  | some e => simp [Option.filter_some, Table.key_of_get hf]

theorem counted_succeeded : (lim.succeeded o).counted key =
    if key = o then 0 else lim.counted key := by
  unfold succeeded counted
  rw [Table.get_delete]
  cases hf : lim.entries.get key with
  | none => simp
  | some e =>
    have hn : e.key = key := Table.key_of_get hf
    by_cases h : key = o
    · simp [Option.filter_some, hn, h]
    · simp [Option.filter_some, hn, h]

end FailureLimiter

end AISummoner.HttpApi
