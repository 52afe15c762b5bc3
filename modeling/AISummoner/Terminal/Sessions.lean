import AISummoner.Concurrency.Schedule
import AISummoner.Terminal.Registry

/-! # Terminals of a user

The maps of `terminal.Handler` under any interleaving of its critical sections;
`byDevice` is one list here.  `closeAll` waits session by session and then closes
`closeDone`, which is what every `Close` returns after.
-/

namespace AISummoner.Terminal

namespace Handler

/-- An `activeSession`; `address` tells it from any other. -/
structure Admission where
  address : Nat
  userID : String
  deviceID : String
  generation : Nat
  deriving DecidableEq, Repr

inductive Event where
  | asks (canceled : Bool) (userID deviceID : String) (generation : Nat)
  | releases (session : Admission)
  | cancelsDevice (deviceID : String)
  | beginsClose
  | joins
  | endsClose
  deriving DecidableEq, Repr

end Handler

open Handler (Admission Event)

structure Handler where
  closed : Bool := false
  generations : String → Nat := fun _ => 0
  userCounts : String → Option Int := fun _ => none
  byDevice : List Admission := []
  /-- Every session there has been. -/
  admitted : List Admission := []
  /-- The sessions whose channel `done` is closed. -/
  finished : List Admission := []
  /-- The sessions `closeAll` has yet to wait for. -/
  waiting : Option (List Admission) := none
  closeDone : Bool := false

namespace Handler

def count (handler : Handler) (userID : String) : Int := (handler.userCounts userID).getD 0

/-- `admit`; `canceled` is whether the parent context has ended. -/
def admitSession (handler : Handler) (canceled : Bool) (userID deviceID : String)
    (generation : Nat) : Except TerminalError Admission × Handler :=
  if handler.closed then (.error .handlerClosed, handler)
  else if handler.generations deviceID ≠ generation then (.error .deviceInvalidated, handler)
  else if canceled then (.error .canceled, handler)
  else if handler.count userID ≥ maxTerminalsPerUser then (.error .limit, handler)
  else
    let session := { address := handler.admitted.length, userID, deviceID, generation }
    (.ok session, { handler with
      userCounts := Function.update handler.userCounts userID (some (handler.count userID + 1))
      byDevice := session :: handler.byDevice
      admitted := session :: handler.admitted })

/-- `finish` comes first; the rest is for a session that is still registered. -/
def release (handler : Handler) (session : Admission) : Handler :=
  let finished := session :: handler.finished
  if session ∈ handler.byDevice then
    let count := handler.count session.userID - 1
    { handler with
      finished
      byDevice := handler.byDevice.erase session
      userCounts := Function.update handler.userCounts session.userID
        (if count = 0 then none else some count) }
  else { handler with finished }

def cancelDevice (handler : Handler) (deviceID : String) : Handler :=
  { handler with
    generations := Function.update handler.generations deviceID (handler.generations deviceID + 1) }

def step (handler : Handler) : Event → Option Handler
  | .asks canceled userID deviceID generation =>
    some (handler.admitSession canceled userID deviceID generation).2
  | .releases session => if session ∈ handler.admitted then some (handler.release session) else none
  | .cancelsDevice deviceID => some (handler.cancelDevice deviceID)
  | .beginsClose =>
    -- `closeOnce`
    if handler.waiting.isSome then none
    else some { handler with closed := true, waiting := some handler.byDevice }
  | .joins =>
    match handler.waiting with
    | some (session :: waiting) =>
      if session ∈ handler.finished then some { handler with waiting := some waiting } else none
    | _ => none
  | .endsClose => if handler.waiting = some [] then some { handler with closeDone := true } else none

def tally (sessions : List Admission) (userID : String) : Nat :=
  sessions.countP fun session => session.userID = userID

structure Tallied (userCounts : String → Option Int) (sessions : List Admission) : Prop where
  counted : ∀ userID, (userCounts userID).getD 0 = tally sessions userID
  limited : ∀ userID, tally sessions userID ≤ maxTerminalsPerUser
  nonzero : ∀ userID, userCounts userID ≠ some 0

structure Sound (handler : Handler) : Prop where
  tallied : Tallied handler.userCounts handler.byDevice
  distinct : handler.byDevice.Nodup
  addressed : ∀ session ∈ handler.admitted, session.address < handler.admitted.length
  known : ∀ session, session ∈ handler.byDevice ∨ session ∈ handler.finished ↔
    session ∈ handler.admitted
  running : ∀ session ∈ handler.byDevice, session ∉ handler.finished
  joined : ∀ {waiting}, handler.waiting = some waiting →
    handler.closed = true ∧ handler.byDevice ⊆ waiting
  emptied : handler.closeDone = true → handler.waiting = some []

variable {handler s' : Handler}

theorem Tallied.update {userCounts : String → Option Int} {sess w : List Admission}
    (tallied : Tallied userCounts sess) {uid : String} {cnt : Option Int}
    (hoth : ∀ user, user ≠ uid → tally w user = tally sess user) (hct : cnt.getD 0 = tally w uid)
    (limited : tally w uid ≤ maxTerminalsPerUser) (nonzero : cnt ≠ some 0) :
    Tallied (Function.update userCounts uid cnt) w := by
  refine ⟨fun user => ?_, fun user => ?_, fun user => ?_⟩
  all_goals by_cases h : user = uid
  · simpa [h] using hct
  · simpa [h, hoth user h] using tallied.counted user
  · exact h ▸ limited
  · exact hoth user h ▸ tallied.limited user
  · simpa [h] using nonzero
  · simpa [h] using tallied.nonzero user

theorem Sound.admitSession (s : handler.Sound) (ca : Bool) (uid did : String)
    (generation : Nat) : (handler.admitSession ca uid did generation).2.Sound := by
  unfold Handler.admitSession
  split_ifs with hcl _ _ full
  any_goals exact s
  obtain ⟨tallied, hdt, addressed, hk, hrn, hjo, emptied⟩ := s
  have unknown : (⟨handler.admitted.length, uid, did, generation⟩ : Admission) ∉
      handler.admitted := fun hm => Nat.lt_irrefl _ (addressed _ hm)
  rw [← hk, not_or] at unknown
  have hct := tallied.counted uid
  simp only [Handler.count, hct, ge_iff_le, Int.not_le] at full ⊢
  refine ⟨tallied.update ?_ ?_ ?_ ?_, hdt.cons unknown.1, ?_, ?_, ?_, ?_, emptied⟩
  · intro _ o
    simp [tally, Ne.symm o]
  · simp [tally]
  · simp only [tally, List.countP_cons_of_pos, decide_true] at full ⊢
    omega
  · simp only [ne_eq, Option.some.injEq]
    omega
  · simp only [List.forall_mem_cons, List.length_cons]
    exact ⟨Nat.lt_succ_self _, fun ses hm => Nat.lt_succ_of_lt (addressed ses hm)⟩
  · intro ses
    simp [or_assoc, hk]
  · exact List.forall_mem_cons.mpr ⟨unknown.2, hrn⟩
  · intro _ hbg
    exact absurd (hjo hbg).1 hcl

theorem Sound.release (s : handler.Sound) {ses : Admission}
    (had : ses ∈ handler.admitted) : (handler.release ses).Sound := by
  obtain ⟨tallied, hdt, addressed, hk, _, hjo, emptied⟩ := s
  unfold Handler.release
  split_ifs with hm
  · have hsp (user : String) : tally handler.byDevice user =
        tally (handler.byDevice.erase ses) user + if ses.userID = user then 1 else 0 := by
      simp [tally, (List.perm_cons_erase hm).countP_eq, List.countP_cons]
    have hct := tallied.counted ses.userID
    have limited := tallied.limited ses.userID
    simp only [Handler.count, hct, hsp, if_true] at limited ⊢
    refine ⟨tallied.update ?_ ?_ ?_ ?_, hdt.erase _, addressed, ?_, ?_, ?_, emptied⟩
    · intro user o
      simp [hsp, Ne.symm o]
    · grind
    · exact Nat.le_of_succ_le limited
    · grind
    · intro o
      rw [hdt.mem_erase_iff, ← hk]
      grind
    · intro o
      rw [hdt.mem_erase_iff]
      grind
    · exact fun hbg => ⟨(hjo hbg).1, fun o rest => (hjo hbg).2 (List.mem_of_mem_erase rest)⟩
  · refine ⟨tallied, hdt, addressed, ?_, ?_, hjo, emptied⟩
    · grind
    · grind

theorem Sound.step (hs : handler.Sound) {ev : Event}
    (hst : handler.step ev = some s') : s'.Sound := by
  cases ev with
  | asks hca uid did generation =>
    cases hst
    exact hs.admitSession hca uid did generation
  | releases ses =>
    obtain ⟨had, ⟨⟩⟩ := Option.ite_none_right_eq_some.mp hst
    exact hs.release had
  | cancelsDevice did =>
    cases hst
    exact { hs with }
  | beginsClose =>
    obtain ⟨a, ⟨⟩⟩ := Option.ite_none_left_eq_some.mp hst
    exact { hs with
      joined := fun hbg => by cases hbg; exact ⟨rfl, List.Subset.refl _⟩
      emptied := fun hed => by simp [hs.emptied hed] at a }
  | joins =>
    simp only [Handler.step] at hst
    split at hst
    · rename_i ses hwt hbg
      obtain ⟨hfin, ⟨⟩⟩ := Option.ite_none_right_eq_some.mp hst
      obtain ⟨hcl, covers⟩ := hs.joined hbg
      refine { hs with
        joined := fun h => ?_
        emptied := fun hed => by simp [hs.emptied hed] at hbg }
      cases h
      refine ⟨hcl, fun o hm => ?_⟩
      -- a registered session is not finished
      refine (List.mem_cons.mp (covers hm)).resolve_left fun h => ?_
      exact hs.running o hm (h ▸ hfin)
    · cases hst
  | endsClose =>
    obtain ⟨hjo, ⟨⟩⟩ := Option.ite_none_right_eq_some.mp hst
    exact { hs with emptied := fun _ => hjo }

/-- The counters are exact, and nothing is left when `Close` has returned. -/
theorem terminals_counted {events : List Event} (ran : events.foldlM step {} = some handler) :
    (∀ userID, handler.count userID = tally handler.byDevice userID ∧
      handler.count userID ≤ maxTerminalsPerUser ∧ handler.userCounts userID ≠ some 0) ∧
    (∀ session ∈ handler.admitted, session ∉ handler.byDevice → session ∈ handler.finished) ∧
    (handler.closeDone → handler.byDevice = [] ∧ ∀ canceled userID deviceID generation,
      handler.admitSession canceled userID deviceID generation = (.error .handlerClosed, handler)) := by
  have begins : Sound {} := by
    refine ⟨⟨fun _ => rfl, fun _ => Nat.zero_le _, nofun⟩, List.nodup_nil, ?_, ?_, ?_, nofun, nofun⟩
    all_goals simp
  have sound : handler.Sound := Concurrency.invariant_of_run begins
    (fun sound stepped => sound.step stepped) ran
  refine ⟨fun userID => ?_, ?_, fun ended => ?_⟩
  · obtain ⟨counted, limited, nonzero⟩ := sound.tallied
    refine ⟨counted userID, ?_, nonzero userID⟩
    rw [Handler.count, counted userID]
    exact Int.ofNat_le.mpr (limited userID)
  · intro session admitted gone
    exact ((sound.known session).mpr admitted).resolve_left gone
  · obtain ⟨closed, covers⟩ := sound.joined (sound.emptied ended)
    refine ⟨List.subset_nil.mp covers, fun canceled userID deviceID generation => ?_⟩
    simp [Handler.admitSession, closed]

def closedRun : List Event :=
  [.asks false "u" "d" 0, .cancelsDevice "d", .asks false "u" "d" 0, .beginsClose,
    .releases ⟨0, "u", "d", 0⟩, .releases ⟨0, "u", "d", 0⟩, .joins, .endsClose]

theorem terminals_counted_closed : ∃ handler, closedRun.foldlM step {} = some handler ∧
    handler.admitted.length = 1 ∧ handler.byDevice = [] :=
  ⟨_, rfl, rfl, ((@terminals_counted _ closedRun rfl).2.2 rfl).1⟩

end Handler

end AISummoner.Terminal
