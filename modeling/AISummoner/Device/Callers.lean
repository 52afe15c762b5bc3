import AISummoner.Concurrency.Schedule

/-! # The device gate

`Gate.LockDevice` over any interleaving of calls: entries are made, shared, deleted
and made anew while callers wait, give up and unlock.  An entry is a place in the
heap; a caller keeps the place it got, as the source keeps the pointer.
-/

namespace AISummoner.DeviceGate

structure Entry where
  /-- The channel of one slot is full. -/
  token : Bool := true
  refs : Nat := 0
  deriving DecidableEq, Repr

/-- Where a call of `LockDevice`, or the unlock it returned, has got to. -/
inductive Stage where
  | waiting | checking | holding | returning | leaving | gone
  deriving DecidableEq, Repr

structure Caller where
  deviceID : String
  value : Nat
  stage : Stage := .waiting
  deriving DecidableEq, Repr

structure Gate where
  entries : String → Option Nat := fun _ => none
  /-- The places from `made` on are free. -/
  heap : Nat → Entry := fun _ => {}
  made : Nat := 0
  callers : List Caller := []

inductive Move where
  | cancel | receive | refuse | confirm | unlock | send
  deriving DecidableEq, Repr

inductive Event where
  | locks (deviceID : String)
  | moves (caller : Nat) (move : Move)
  | drops (caller : Nat)
  deriving DecidableEq, Repr

/-- The stage and the channel after a statement, unless it blocks. -/
def Move.next (token : Bool) : Move → Stage → Option (Stage × Bool)
  | .cancel, .waiting => some (.leaving, token)
  | .receive, .waiting => if token then some (.checking, false) else none
  | .refuse, .checking => some (.returning, token)
  | .confirm, .checking => some (.holding, token)
  | .unlock, .holding => some (.returning, token)
  -- `once` lets the first call through only
  | .unlock, .returning => some (.returning, token)
  | .unlock, .leaving => some (.leaving, token)
  | .unlock, .gone => some (.gone, token)
  | .send, .returning => if token then none else some (.leaving, true)
  | _, _ => none

def Stage.hasToken : Stage → Bool
  | .checking | .holding | .returning => true
  | _ => false

def Stage.active (stage : Stage) : Bool := stage ≠ .gone

namespace Gate

def put (gate : Gate) (position : Nat) (caller : Caller) (entry : Entry) : Gate :=
  { gate with
    heap := Function.update gate.heap caller.value entry
    callers := gate.callers.set position caller }

/-- `LockDevice` up to its wait. -/
def lock (gate : Gate) (deviceID : String) : Gate :=
  let value := (gate.entries deviceID).getD gate.made
  { entries := Function.update gate.entries deviceID (some value)
    heap := Function.update gate.heap value
      { gate.heap value with refs := (gate.heap value).refs + 1 }
    made := if (gate.entries deviceID).isSome then gate.made else gate.made + 1
    callers := gate.callers ++ [{ deviceID, value }] }

def dropReference (gate : Gate) (position : Nat) (caller : Caller) : Gate :=
  let refs := (gate.heap caller.value).refs - 1
  { gate.put position { caller with stage := .gone } { gate.heap caller.value with refs } with
    entries :=
      if refs = 0 ∧ gate.entries caller.deviceID = some caller.value then
        Function.update gate.entries caller.deviceID none
      else gate.entries }

def step (gate : Gate) : Event → Option Gate
  | .locks deviceID => if deviceID = "" then none else some (gate.lock deviceID)
  | .moves position move =>
    gate.callers[position]?.bind fun caller =>
      (move.next (gate.heap caller.value).token caller.stage).map fun (stage, token) =>
        gate.put position { caller with stage } { gate.heap caller.value with token }
  | .drops position =>
    gate.callers[position]?.bind fun caller =>
      if caller.stage = .leaving then some (gate.dropReference position caller) else none

def tally (gate : Gate) (property : Stage → Bool) (value : Nat) : Nat :=
  gate.callers.countP fun caller => caller.value = value && property caller.stage

def users (gate : Gate) (value : Nat) : Nat := gate.tally Stage.active value

structure Sound (gate : Gate) : Prop where
  refs : ∀ value, (gate.heap value).refs = gate.users value
  token : ∀ value, (gate.heap value).token.toNat + gate.tally Stage.hasToken value = 1
  bounded : ∀ caller ∈ gate.callers, caller.value < gate.made
  placed : ∀ caller ∈ gate.callers, caller.stage ≠ .gone →
    gate.entries caller.deviceID = some caller.value
  used : ∀ {deviceID value}, gate.entries deviceID = some value → 0 < gate.users value
  apart : ∀ {first second value}, gate.entries first = some value →
    gate.entries second = some value → first = second

variable {gate : Gate} {pos value : Nat} {clr : Caller} {e : Entry} {stage : Stage}

theorem tally_put (hf : gate.callers[pos]? = some clr) (prop : Stage → Bool) :
    (gate.put pos { clr with stage } e).tally prop value +
        (decide (clr.value = value) && prop clr.stage).toNat =
      gate.tally prop value + (decide (clr.value = value) && prop stage).toNat := by
  obtain ⟨hi, here⟩ := List.getElem?_eq_some_iff.mp hf
  have least := List.boole_getElem_le_countP (p := fun clr : Caller =>
    decide (clr.value = value) && prop clr.stage) hi
  simp only [tally, put, List.countP_set hi, here] at least ⊢
  generalize List.countP _ gate.callers = total at least ⊢
  generalize (decide (clr.value = value) && prop clr.stage) = before at least ⊢
  cases before <;> cases decide (clr.value = value) && prop stage <;> simp at least ⊢
  all_goals omega

theorem next_accounts {move : Move} {s s' : Stage} {tok left : Bool}
    (moved : move.next tok s = some (s', left)) : (s' = .gone ↔ s = .gone) ∧
      left.toNat + s'.hasToken.toNat = tok.toNat + s.hasToken.toNat := by
  cases move <;> cases s <;> cases tok <;> simp [Move.next] at moved <;>
    (obtain ⟨rfl, rfl⟩ := moved; decide)

theorem Sound.put (hs : gate.Sound) (hf : gate.callers[pos]? = some clr)
    {entries : String → Option Nat} (stays : stage ≠ .gone → clr.stage ≠ .gone)
    (refs : e.refs + (decide (clr.stage ≠ .gone)).toNat =
      (gate.heap clr.value).refs + (decide (stage ≠ .gone)).toNat)
    (htok : e.token.toNat + stage.hasToken.toNat =
      (gate.heap clr.value).token.toNat + clr.stage.hasToken.toNat)
    (fewer : ∀ {deviceID value}, entries deviceID = some value → gate.entries deviceID = some value)
    (kept : ∀ {deviceID value}, gate.entries deviceID = some value →
      entries deviceID = some value ∨ value = clr.value ∧ e.refs = 0)
    (used : ∀ {deviceID}, entries deviceID = some clr.value → 0 < e.refs) :
    Sound { gate.put pos { clr with stage } e with entries } := by
  have hct (value : Nat) : (Function.update gate.heap clr.value e value).refs =
      (gate.put pos { clr with stage } e).users value := by
    have moved := @tally_put gate pos value clr e stage hf Stage.active
    have old := hs.refs value
    unfold users at old ⊢
    by_cases h : clr.value = value
    · subst h
      simp_all [Stage.active]
      omega
    · simp_all [Function.update_of_ne (Ne.symm h)]
  refine ⟨hct, fun value => ?_, fun o hm => ?_, fun o hm hac => ?_,
    fun {deviceID value} hn => ?_, fun a b => hs.apart (fewer a) (fewer b)⟩
  · have moved := @tally_put gate pos value clr e stage hf Stage.hasToken
    have old := hs.token value
    show (Function.update gate.heap clr.value e value).token.toNat +
      (gate.put pos { clr with stage } e).tally Stage.hasToken value = 1
    by_cases h : clr.value = value
    · subst h
      simp_all
      omega
    · simp_all [Function.update_of_ne (Ne.symm h)]
  · rcases List.mem_or_eq_of_mem_set hm with s | rfl
    · exact hs.bounded o s
    · exact hs.bounded clr (List.mem_of_getElem? hf)
  · have hn : gate.entries o.deviceID = some o.value := by
      rcases List.mem_or_eq_of_mem_set hm with s | rfl
      · exact hs.placed o s hac
      · exact hs.placed clr (List.mem_of_getElem? hf) (stays hac)
    refine (kept hn).resolve_right fun ⟨h, hem⟩ => ?_
    -- an entry without references has no callers
    have none := hct clr.value
    rw [Function.update_self, hem] at none
    have unused := List.countP_eq_zero.mp none.symm o hm
    simp [Stage.active, h, hac] at unused
  · show 0 < (gate.put pos { clr with stage } e).users value
    rw [← hct]
    by_cases h : clr.value = value
    · subst h
      simpa using used hn
    · rw [Function.update_of_ne (Ne.symm h), hs.refs]
      exact hs.used (fewer hn)

theorem Sound.lock (s : gate.Sound) (did : String) : (gate.lock did).Sound := by
  obtain ⟨_, _, hbd, _, used, _⟩ := s
  -- nobody has a place that is free
  have free : gate.users gate.made = 0 := by
    simp only [users, tally, List.countP_eq_zero]
    grind
  have hjo (hprop : Stage → Bool) (o : Nat) : (gate.lock did).tally hprop o =
      gate.tally hprop o + (decide ((gate.entries did).getD gate.made = o) &&
        hprop .waiting).toNat := by
    simp only [tally, Gate.lock, List.countP_append, List.countP_singleton]
    split <;> simp_all
  have hi {value : Nat} (hn : gate.entries did = some value) : value < gate.made := by
    obtain ⟨clr, hm, uses⟩ := List.countP_pos_iff.mp (used hn)
    simp only [Bool.and_eq_true, decide_eq_true_eq] at uses
    exact uses.1 ▸ hbd clr hm
  refine ⟨fun value => ?_, fun value => ?_, ?_, ?_, fun {deviceID' value} ht => ?_,
    fun {a b value} => ?_⟩
  · rw [users, hjo]
    simp only [Gate.lock, Function.update_apply]
    grind [Bool.toNat, Stage.active, users]
  · rw [hjo]
    simp only [Gate.lock, Function.update_apply]
    grind [Stage.hasToken]
  · simp only [Gate.lock, List.mem_append, List.mem_singleton]
    cases hn : gate.entries did <;> grind
  · simp only [Gate.lock, Function.update_apply, List.mem_append, List.mem_singleton]
    grind
  · rw [users, hjo]
    simp only [Gate.lock, Function.update_apply] at ht
    grind [Bool.toNat, Stage.active, users]
  · simp only [Gate.lock, Function.update_apply]
    cases hn : gate.entries did <;> grind

theorem Sound.step (hs : gate.Sound) {ev : Event} {s' : Gate}
    (st : gate.step ev = some s') : s'.Sound := by
  cases ev with
  | locks did =>
    simp only [Gate.step, Option.ite_none_left_eq_some, Option.some.injEq] at st
    rw [← st.2]
    exact hs.lock did
  | moves pos _ =>
    simp only [Gate.step, Option.bind_eq_some_iff, Option.map_eq_some_iff] at st
    obtain ⟨clr, hf, ⟨_, _⟩, moved, rfl⟩ := st
    obtain ⟨stays, accounts⟩ := next_accounts moved
    refine hs.put hf (fun hac gone => hac (stays.mpr gone)) ?_ accounts id .inl ?_
    · simp [stays]
    · intro did ht
      exact hs.refs _ ▸ hs.used ht
  | drops pos =>
    simp only [Gate.step, Option.bind_eq_some_iff, Option.ite_none_right_eq_some,
      Option.some.injEq] at st
    obtain ⟨clr, hf, leaving, rfl⟩ := st
    have hn := hs.placed clr (List.mem_of_getElem? hf) (by simp [leaving])
    have hpos : 0 < (gate.heap clr.value).refs := hs.refs _ ▸ hs.used hn
    refine hs.put hf nofun ?_ (by simp [leaving]; rfl) ?_ ?_ ?_
    · simp [leaving]
      omega
    · intro did value ht
      grind [Function.update_apply]
    · intro did value ht
      grind [Function.update_apply]
    · intro did ht
      show 0 < (gate.heap clr.value).refs - 1
      by_contra last
      rw [if_pos ⟨by omega, hn⟩] at ht
      by_cases h : did = clr.deviceID
      · simp [h] at ht
      · rw [Function.update_of_ne h] at ht
        exact h (hs.apart ht hn)

/-- The gate of a Device over any interleaving of calls, cancellations and unlocks. -/
theorem gate_sound {events : List Event} (ran : events.foldlM step {} = some gate) :
    (∀ deviceID, (gate.callers.countP fun caller =>
      caller.deviceID = deviceID && caller.stage.hasToken) ≤ 1) ∧
    (∀ caller ∈ gate.callers, caller.stage = .returning → (gate.heap caller.value).token = false) ∧
    (∀ value, (gate.heap value).refs = gate.users value) ∧
    (∀ deviceID, (gate.entries deviceID).isSome ↔
      ∃ caller ∈ gate.callers, caller.deviceID = deviceID ∧ caller.stage ≠ .gone) ∧
    ∀ first ∈ gate.callers, ∀ second ∈ gate.callers, first.stage ≠ .gone → second.stage ≠ .gone →
      first.deviceID = second.deviceID → first.value = second.value := by
  have begins : Sound {} := ⟨fun _ => rfl, fun _ => rfl, nofun, nofun, nofun, nofun⟩
  have sound : gate.Sound := Concurrency.invariant_of_run begins
    (fun sound stepped => sound.step stepped) ran
  have shared : ∀ first ∈ gate.callers, ∀ second ∈ gate.callers, first.stage ≠ .gone →
      second.stage ≠ .gone → first.deviceID = second.deviceID → first.value = second.value := by
    intro first member second other active alive same
    have named := sound.placed first member active
    rw [same, sound.placed second other alive] at named
    exact (Option.some.inj named).symm
  refine ⟨fun deviceID => ?_, fun caller member returning => ?_, sound.refs,
    fun deviceID => ⟨fun present => ?_, fun ⟨caller, member, same, active⟩ => ?_⟩, shared⟩
  · by_contra many
    have positive := Nat.zero_lt_of_lt (Nat.lt_of_not_le many)
    obtain ⟨caller, member, holds⟩ := List.countP_pos_iff.mp positive
    simp only [Bool.and_eq_true, decide_eq_true_eq] at holds
    have active {stage : Stage} (has : stage.hasToken = true) : stage ≠ .gone := by
      rintro rfl
      cases has
    -- whoever holds the gate has the one token of its entry
    have one := sound.token caller.value
    have fewer : (gate.callers.countP fun caller =>
        caller.deviceID = deviceID && caller.stage.hasToken) ≤
          gate.tally Stage.hasToken caller.value := by
      refine List.countP_mono_left fun other there again => ?_
      simp only [Bool.and_eq_true, decide_eq_true_eq] at again
      have same := shared other there caller member (active again.2) (active holds.2)
        (again.1.trans holds.1.symm)
      simp [same, again]
    omega
  · have one := sound.token caller.value
    have positive : 0 < gate.tally Stage.hasToken caller.value := List.countP_pos_iff.mpr
      ⟨caller, member, by simp [returning, Stage.hasToken]⟩
    cases full : (gate.heap caller.value).token with
    | false => rfl
    | true =>
      rw [full, Bool.toNat_true] at one
      omega
  · obtain ⟨value, named⟩ := Option.isSome_iff_exists.mp present
    obtain ⟨caller, member, uses⟩ := List.countP_pos_iff.mp (sound.used named)
    simp only [Stage.active, Bool.and_eq_true, decide_eq_true_eq] at uses
    have placed := sound.placed caller member uses.2
    exact ⟨caller, member, sound.apart (uses.1 ▸ placed) named, uses.2⟩
  · rw [← same, sound.placed caller member active]
    rfl

def oneGivesUp : List Event :=
  [.locks "dev_1", .locks "dev_1", .moves 0 .receive, .moves 0 .confirm, .moves 1 .cancel]

theorem gate_sound_one_gives_up : ∃ gate, oneGivesUp.foldlM step {} = some gate ∧
    gate.heap 0 = ⟨false, 2⟩ ∧ gate.users 0 = 2 := by
  refine ⟨_, rfl, rfl, ?_⟩
  have sound := @gate_sound _ oneGivesUp rfl
  exact (sound.2.2.1 0).symm

end Gate

end AISummoner.DeviceGate
