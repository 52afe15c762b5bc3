import Mathlib

/-! # The Device lifecycle gate

`internal/devicegate`: a keyed mutex whose entries exist only while someone
holds or waits for them.  The token of an entry is a channel of capacity one;
the model names the goroutine that has received it.
-/

namespace AISummoner.Device

structure GateEntry where
  /-- Who received the token; `none` while it lies in the channel. -/
  holder : Option Nat
  refs : Nat
  deriving DecidableEq, Repr

structure Gate where
  entries : String → Option GateEntry

namespace Gate

def empty : Gate := ⟨fun _ => none⟩

def set (gate : Gate) (deviceID : String) (entry : Option GateEntry) : Gate :=
  ⟨fun other => if other = deviceID then entry else gate.entries other⟩

/-- The critical section that finds or makes the entry. -/
def addReference (gate : Gate) (deviceID : String) : Gate :=
  let entry := (gate.entries deviceID).getD ⟨none, 0⟩
  gate.set deviceID (some { entry with refs := entry.refs + 1 })

/-- `<-value.token`; `none` while another goroutine has it. -/
def takeToken (gate : Gate) (thread : Nat) (deviceID : String) : Option Gate :=
  match gate.entries deviceID with
  | some entry =>
    if entry.holder.isSome then none
    else some (gate.set deviceID (some { entry with holder := some thread }))
  | none => none

/-- `value.token <- struct{}{}`. -/
def returnToken (gate : Gate) (deviceID : String) : Gate :=
  gate.set deviceID ((gate.entries deviceID).map fun entry => { entry with holder := none })

/-- The last reference removes the entry. -/
def dropReference (gate : Gate) (deviceID : String) : Gate :=
  match gate.entries deviceID with
  | some entry =>
    if entry.refs ≤ 1 then gate.set deviceID none
    else gate.set deviceID (some { entry with refs := entry.refs - 1 })
  | none => gate

end Gate

end AISummoner.Device
