import AISummoner.Concurrency.History
import AISummoner.HttpApi.Limiter

/-! # Login and pairing-claim requests

`handleLogin` and `handlePairingClaim` of `internal/httpapi`: a request is let
through in one critical section, and its outcome is recorded in another.  What the
check between them reports is the `Choice` of the step.
-/

namespace AISummoner.HttpApi

open Concurrency Concurrency.Discipline
open Store (Time)

/-! ## The handlers -/

inductive LimiterName where
  | login
  | claim
  deriving DecidableEq, Repr

structure API where
  loginLimiter : FailureLimiter
  claimLimiter : FailureLimiter

inductive LoginError where
  | invalidCredentials
  | verificationBusy
  | failed
  deriving DecidableEq, Repr

inductive ClaimError where
  | invalidCode
  | pairingExpired
  | conflict
  | failed
  deriving DecidableEq, Repr

inductive Operation where
  | now
  | allow (limiter : LimiterName) (address : String) (now : Time)
  | failed (limiter : LimiterName) (address : String) (now : Time)
  | succeeded (limiter : LimiterName) (address : String)
  | login (username password : String) (now : Time)
  /-- The user of the session cookie. -/
  | authenticate
  | claim (userID code : String) (now : Time)
  deriving DecidableEq, Repr

@[reducible] def Operation.Response : Operation → Type
  | .now => Time
  | .allow _ _ _ => Bool
  | .failed _ _ _ => Unit
  | .succeeded _ _ => Unit
  | .login _ _ _ => Except LoginError Unit
  | .authenticate => Option String
  | .claim _ _ _ => Except ClaimError Unit

@[reducible] def Http : Signature := ⟨Operation, Operation.Response⟩

structure Choice where
  time : Time := 0
  login : Except LoginError Unit := .error .invalidCredentials
  user : Option String := none
  claim : Except ClaimError Unit := .error .invalidCode

structure LoginRequest where
  username : String
  password : String
  deriving DecidableEq, Repr

/-- A request; `address` is what the source resolver makes of it, `body` what its JSON decodes to. -/
inductive Request where
  | login (address : Option String) (body : Option LoginRequest)
  | claim (address : Option String) (body : Option String)
  deriving DecidableEq, Repr

abbrev Code (α : Type) := Program Http Request α

def operate (operation : Operation) : Code operation.Response := .perform operation .done

def handleLogin (address : Option String) (body : Option LoginRequest) : Code Unit :=
  match address with
  | none => .done ()
  | some address =>
    (operate .now).bind fun now =>
    (operate (.allow .login address now)).bind fun allowed =>
    if !allowed then .done ()
    else
      match body with
      | none => operate (.failed .login address now)
      | some body =>
        (operate (.login body.username body.password now)).bind fun
        | .error .invalidCredentials => operate (.failed .login address now)
        | .error .verificationBusy => .done ()
        | .error .failed => .done ()
        | .ok _ => operate (.succeeded .login address)

def handlePairingClaim (address body : Option String) : Code Unit :=
  (operate .authenticate).bind fun
  | none => .done ()
  | some userID =>
    match address with
    | none => .done ()
    | some address =>
      (operate .now).bind fun now =>
      (operate (.allow .claim address now)).bind fun allowed =>
      if !allowed then .done ()
      else
        match body with
        | none => operate (.failed .claim address now)
        | some code =>
          (operate (.claim userID code now)).bind fun
          | .error .invalidCode => operate (.failed .claim address now)
          | .error .pairingExpired => operate (.failed .claim address now)
          | .error .conflict => operate (.failed .claim address now)
          | .error .failed => .done ()
          | .ok _ => operate (.succeeded .claim address)

def handle : Request → Code Unit
  | .login address body => handleLogin address body
  | .claim address body => handlePairingClaim address body

namespace API

def limiter (api : API) : LimiterName → FailureLimiter
  | .login => api.loginLimiter
  | .claim => api.claimLimiter

def setLimiter (api : API) (name : LimiterName) (limiter : FailureLimiter) : API :=
  match name with
  | .login => { api with loginLimiter := limiter }
  | .claim => { api with claimLimiter := limiter }

def configured (maximum : Nat) (duration : Time) : API :=
  ⟨newFailureLimiter maximum duration, newFailureLimiter maximum duration⟩

/-- Five failures in a minute, for logins and for claims. -/
def new : API := configured 5 60000000000

end API

def perform (operation : Operation) (choice : Choice) (api : API) : operation.Response × API :=
  match operation with
  | .now => (choice.time, api)
  | .allow name address now =>
    let (allowed, limiter) := (api.limiter name).allow address now
    (allowed, api.setLimiter name limiter)
  | .failed name address now => ((), api.setLimiter name ((api.limiter name).failed address now))
  | .succeeded name address => ((), api.setLimiter name ((api.limiter name).succeeded address))
  | .login _ _ _ => (choice.login, api)
  | .authenticate => (choice.user, api)
  | .claim _ _ _ => (choice.claim, api)

def requests : System Http Request API Choice where
  execute _ operation choice api := some (perform operation choice api)
  body := handle
  enter _ _ _ api := some api
  admits _ _ := true
  restart _ := none

/-! ## Attempts -/

abbrev Past := System.Traced Http Request API

abbrev Step := System.Action Http Request Choice

inductive Attempt where
  | arrived
  /-- It was let through. -/
  | checking (limiter : LimiterName) (address : String)
  /-- Its check has failed, and the limiter does not know yet. -/
  | rejected (limiter : LimiterName) (address : String)
  | concluded
  deriving DecidableEq, Repr

namespace Attempt

def inFlight (name : LimiterName) (address : String) (attempt : Attempt) : Bool :=
  attempt = .checking name address || attempt = .rejected name address

def after (attempt : Attempt) (operation : Operation) (response : operation.Response) : Attempt :=
  match operation, attempt with
  | .allow name address _, _ => if response then .checking name address else .concluded
  | .login _ _ _, .checking name address =>
    match response with
    | .error .invalidCredentials => .rejected name address
    | .error _ => .concluded
    | .ok _ => .checking name address
  | .claim _ _ _, .checking name address =>
    match response with
    | .error .failed => .concluded
    | .error _ => .rejected name address
    | .ok _ => .checking name address
  | .failed _ _ _, _ => .concluded
  | .succeeded _ _, _ => .concluded
  | _, attempt => attempt

def may (attempt : Attempt) : Operation → Prop
  | .now => attempt = .arrived
  | .authenticate => attempt = .arrived
  | .allow _ _ _ => attempt = .arrived
  | .login _ _ _ => ∃ address, attempt = .checking .login address
  | .claim _ _ _ => ∃ address, attempt = .checking .claim address
  | .failed name address _ => attempt.inFlight name address = true
  | .succeeded name address => attempt = .checking name address

end Attempt

def attemptDiscipline : Discipline Http Request Attempt where
  start _ := some .arrived
  after := Attempt.after
  afterFork attempt _ := attempt
  may := Attempt.may
  mayFork _ _ := False

theorem Attempt.inFlight_checking {name : LimiterName} {address : String} :
    (Attempt.checking name address).inFlight name address := by
  simp [inFlight]

theorem Attempt.inFlight_rejected {name : LimiterName} {address : String} :
    (Attempt.rejected name address).inFlight name address := by
  simp [inFlight]

theorem follows_failed {attempt : Attempt} {name : LimiterName} {address : String} {now : Time}
    (inFlight : attempt.inFlight name address) :
    attemptDiscipline.Follows (operate (.failed name address now)) (fun _ _ => True) attempt :=
  ⟨inFlight, fun _ => trivial⟩

theorem follows_handle (rq : Request) :
    attemptDiscipline.Follows (handle rq) (fun _ _ => True) .arrived := by
  cases rq with
  | login address body =>
    cases address with
    | none => trivial
    | some address =>
      refine ⟨rfl, fun now => ⟨rfl, fun al => ?_⟩⟩
      cases al with
      | false => trivial
      | true =>
        cases body with
        | none => exact follows_failed Attempt.inFlight_checking
        | some body =>
          refine ⟨⟨address, rfl⟩, ?_⟩
          rintro (err | _)
          · cases err with
            | invalidCredentials => exact follows_failed Attempt.inFlight_rejected
            | verificationBusy | failed => trivial
          · exact ⟨rfl, fun _ => trivial⟩
  | claim address body =>
    refine ⟨rfl, fun user => ?_⟩
    cases user with
    | none => trivial
    | some _ =>
      cases address with
      | none => trivial
      | some address =>
        refine ⟨rfl, fun now => ⟨rfl, fun al => ?_⟩⟩
        cases al with
        | false => trivial
        | true =>
          cases body with
          | none => exact follows_failed Attempt.inFlight_checking
          | some _ =>
            refine ⟨⟨address, rfl⟩, ?_⟩
            rintro (err | _)
            · cases err with
              | invalidCode | pairingExpired | conflict =>
                exact follows_failed Attempt.inFlight_rejected
              | failed => trivial
            · exact ⟨rfl, fun _ => trivial⟩

/-! ## Windows -/

def inFlight (name : LimiterName) (address : String) (past : Past) : Nat :=
  attemptDiscipline.tally (Attempt.inFlight name address) past

/-- The failed checks of a source that the limiter has not been told of. -/
def unrecorded (name : LimiterName) (address : String) (past : Past) : Nat :=
  attemptDiscipline.tally (fun attempt => decide (attempt = .rejected name address)) past

/-- A request is let through only while the failures counted for its source and the
    requests of that source in flight are together fewer than the maximum. -/
def roomLeft (step : Step) (past : Past) : Bool :=
  match step with
  | .perform _ (.allow name address now) _ =>
    let limiter := past.state.limiter name
    !(limiter.allow address now).1 ||
      decide ((limiter.removeExpired now).counted address + inFlight name address past <
        limiter.maximum)
  | _ => true

abbrev Entry := System.Entry Http Request API

/-- The time at which a method of the limiter looks for windows that are over. -/
def expiryTime (name : LimiterName) : Entry → Option Time
  | .performed _ (.allow other _ now) _ _ => if other = name then some now else none
  | .performed _ (.failed other _ now) _ _ => if other = name then some now else none
  | _ => none

def records (name : LimiterName) (address : String) : Entry → Bool
  | .performed _ (.failed other source _) _ _ => other = name && source = address
  | _ => false

/-- A stretch of history, latest entry first, that lies in one window of the source:
    the window is there all the time, and no step finds it over. -/
def oneWindow (name : LimiterName) (address : String) : List Entry → Bool
  | [] => true
  | [entry] => ((entry.state.limiter name).entries.get address).isSome
  | entry :: earlier :: older =>
    ((entry.state.limiter name).entries.get address).isSome &&
      (expiryTime name entry).all ((earlier.state.limiter name).isOpen address) &&
      oneWindow name address (earlier :: older)

/-! ## One step -/

section Steps

variable {api : API} {name other : LimiterName} {address : String} {op : Operation}
  {choice : Choice} {attempt : Attempt} {w : API}

theorem API.limiter_setLimiter {lim : FailureLimiter} :
    (api.setLimiter other lim).limiter name = if name = other then lim else api.limiter name := by
  cases other <;> cases name <;> rfl

theorem perform_maximum :
    ((perform op choice api).2.limiter name).maximum = (api.limiter name).maximum := by
  cases op with
  | allow other src now =>
    simp only [perform, API.limiter_setLimiter]
    split
    · rename_i h
      rw [h, FailureLimiter.maximum_allow]
    · rfl
  | failed other src now =>
    simp only [perform, API.limiter_setLimiter]
    split
    · rename_i h
      rw [h, FailureLimiter.maximum_failed]
    · rfl
  | succeeded other src =>
    simp only [perform, API.limiter_setLimiter]
    split
    · rename_i h
      rw [h]
      rfl
    · rfl
  | _ => rfl

theorem counted_perform_le (may : attempt.may op)
    (unasked : ∀ now, op ≠ .allow name address now) (choice : Choice) (api : API) :
    ((perform op choice api).2.limiter name).counted address +
        ((attempt.after op (perform op choice api).1).inFlight name address).toNat ≤
      (api.limiter name).counted address + (attempt.inFlight name address).toNat := by
  cases op with
  | now | authenticate => exact Nat.le_refl _
  | login username password now =>
    obtain ⟨src, rfl⟩ := may
    -- a request stays in flight while its check is not recorded
    have kept : ((Attempt.checking .login src).after (.login username password now)
        choice.login).inFlight name address →
        (Attempt.checking .login src).inFlight name address := by
      rcases choice.login with err | _
      · cases err <;> simp [Attempt.after, Attempt.inFlight]
      · exact id
    exact Nat.add_le_add_left (Bool.toNat_le_toNat (Bool.le_iff_imp.mpr kept)) _
  | claim uid code now =>
    obtain ⟨src, rfl⟩ := may
    have kept : ((Attempt.checking .claim src).after (.claim uid code now)
        choice.claim).inFlight name address →
        (Attempt.checking .claim src).inFlight name address := by
      rcases choice.claim with err | _
      · cases err <;> simp [Attempt.after, Attempt.inFlight]
      · exact id
    exact Nat.add_le_add_left (Bool.toNat_le_toNat (Bool.le_iff_imp.mpr kept)) _
  | allow other src now =>
    cases may
    have expiry : ((api.limiter other).removeExpired now).counted address ≤
        (api.limiter other).counted address := FailureLimiter.counted_removeExpired_le
    have hfo : ∀ hal, (Attempt.arrived.after (.allow other src now) hal).inFlight
        name address = false := by
      intro hal
      have ne : ¬(other = name ∧ src = address) := by
        rintro ⟨rfl, rfl⟩
        exact unasked now rfl
      cases hal <;> simp [Attempt.after, Attempt.inFlight, ne]
    rw [hfo]
    simp only [perform, API.limiter_setLimiter]
    split
    · rename_i h
      subst h
      rw [FailureLimiter.counted_allow]
      exact Nat.le_add_right_of_le expiry
    · exact Nat.le_add_right _ _
  | failed other src now =>
    have gone : (attempt.after (.failed other src now) ()).inFlight name address = false := rfl
    rw [gone]
    simp only [perform, API.limiter_setLimiter]
    split
    · rename_i h
      subst h
      have grows : ((api.limiter name).failed src now).counted address ≤
          (api.limiter name).counted address + (decide (address = src)).toNat :=
        FailureLimiter.counted_failed_le
      by_cases own : address = src
      · subst own
        have here : attempt.inFlight name address := may
        rw [here]
        simpa using grows
      · simp only [own, decide_false, Bool.toNat_false] at grows
        simp only [Bool.toNat_false]
        omega
    · exact Nat.le_add_right _ _
  | succeeded other src =>
    have gone : (attempt.after (.succeeded other src) ()).inFlight name address = false := rfl
    rw [gone]
    simp only [perform, API.limiter_setLimiter]
    split
    · rename_i h
      subst h
      rw [FailureLimiter.counted_succeeded]
      split
      · exact Nat.zero_le _
      · exact Nat.le_add_right _ _
    · exact Nat.le_add_right _ _

theorem counted_ge_perform (t : Nat)
    (ht : (((perform op choice api).2.limiter name).entries.get address).isSome)
    (hux : (expiryTime name (.performed t op (perform op choice api).1
      (perform op choice api).2)).all ((api.limiter name).isOpen address)) :
    (api.limiter name).counted address + (records name address (.performed t op
        (perform op choice api).1 (perform op choice api).2)).toNat ≤
      ((perform op choice api).2.limiter name).counted address := by
  cases op with
  | allow other src now =>
    simp only [perform, API.limiter_setLimiter, records, expiryTime, Bool.toNat_false] at hux ⊢
    by_cases h : other = name
    · subst h
      simp only [if_true, Option.all_some] at hux
      rw [if_pos rfl, FailureLimiter.counted_allow, FailureLimiter.counted,
        FailureLimiter.counted, FailureLimiter.get_removeExpired_of_isOpen hux]
      exact Nat.le_refl _
    · rw [if_neg (Ne.symm h)]
      exact Nat.le_refl _
  | failed other src now =>
    simp only [perform, API.limiter_setLimiter, records, expiryTime] at hux ht ⊢
    by_cases h : other = name
    · subst h
      simp only [if_true, Option.all_some] at hux ht ⊢
      by_cases own : src = address
      · subst own
        rw [FailureLimiter.counted_failed_of_isOpen hux]
        simp
      · rw [FailureLimiter.counted_failed_of_ne hux (Ne.symm own) ht]
        simp [own]
    · rw [if_neg (Ne.symm h)]
      simp [h]
  | succeeded other src =>
    simp only [perform, API.limiter_setLimiter, records, Bool.toNat_false] at ht ⊢
    by_cases h : name = other
    · subst h
      rw [if_pos rfl] at ht ⊢
      rw [FailureLimiter.counted_succeeded]
      split
      · rename_i own
        rw [own, FailureLimiter.get_succeeded] at ht
        cases ht
      · exact Nat.le_refl _
    · rw [if_neg h]
      exact Nat.le_refl _
  | _ => exact Nat.le_refl _

end Steps

variable {trace : List Entry}

section Runs

variable {rule : Step → Past → Bool} {a : API} {p w : Past} {name : LimiterName}
  {address : String}

theorem Reached.knows {t : Nat} {op : Operation} {r : op.Response}
    {rcd st : API} {ths : Nat} (hr : requests.Reached rule a
      ⟨st, .performed t op r rcd :: trace, ths⟩) :
    ∃ attempt, attemptDiscipline.knows t trace = some attempt ∧ attempt.may op := by
  refine hr.performer ?_ fun _ => ⟨_, rfl⟩
  intro rq k hb
  cases hb
  exact follows_handle rq

theorem inFlight_performed {t : Nat} {attempt : Attempt} (hr : requests.Reached rule a p)
    (hk : attemptDiscipline.knows t p.trace = some attempt) (name : LimiterName)
    (address : String) (op : Operation) (r : op.Response) (st : API) :
    inFlight name address (p.perform t op r st) + (attempt.inFlight name address).toNat =
      inFlight name address p + ((attempt.after op r).inFlight name address).toNat :=
  tally_performed (hr.knows_below hk) hk

theorem inFlight_entered {pa : Option Nat} {rq : Request} {st : API} :
    inFlight name address (p.enter pa rq st) = inFlight name address p :=
  tally_entered fun _ _ => rfl

theorem bounded_of_reached {mx : Nat} {duration : Time}
    (ro : ∀ step p, rule step p → roomLeft step p)
    (hr : requests.Reached rule (.configured mx duration) p) : (p.state.limiter name).maximum = mx ∧
      (p.state.limiter name).counted address + inFlight name address p ≤ mx := by
  refine System.Reached.induction ?_ ?_ hr
  · cases name <;> exact ⟨rfl, Nat.zero_le _⟩
  intro p w s s' next ih
  cases next with
  | @performed t op choice r st hal ran =>
    obtain ⟨_, hk, may⟩ := Reached.knows s'
    have hp : perform op choice p.state = (r, st) := Option.some.inj ran
    obtain rfl : (perform op choice p.state).1 = r := congrArg Prod.fst hp
    obtain rfl : (perform op choice p.state).2 = st := congrArg Prod.snd hp
    have moved := inFlight_performed s hk name address op
      (perform op choice p.state).1 (perform op choice p.state).2
    have hbd := ih.2
    refine ⟨perform_maximum.trans ih.1, ?_⟩
    show ((perform op choice p.state).2.limiter name).counted address +
      inFlight name address (p.perform t op _ _) ≤ mx
    by_cases as : ∃ now, op = .allow name address now
    · -- a request of the source is let through or refused
      obtain ⟨now, rfl⟩ := as
      cases may
      have room := ro _ _ hal
      have expiry : ((p.state.limiter name).removeExpired now).counted address ≤
          (p.state.limiter name).counted address := FailureLimiter.counted_removeExpired_le
      have hlk : ((perform (.allow name address now) choice p.state).2.limiter name).counted
          address = ((p.state.limiter name).removeExpired now).counted address := by
        simp only [perform, API.limiter_setLimiter, if_true]
        exact FailureLimiter.counted_allow
      have joins : (Attempt.arrived.after (.allow name address now)
          (perform (.allow name address now) choice p.state).1).inFlight name address =
            ((p.state.limiter name).allow address now).1 := by
        show (if ((p.state.limiter name).allow address now).1 then Attempt.checking name address
          else Attempt.concluded).inFlight name address = _
        split
        · rename_i passes
          rw [passes, Attempt.inFlight_checking]
        · rename_i hrf
          rw [Bool.eq_false_iff.mpr hrf]
          rfl
      have hou : Attempt.arrived.inFlight name address = false := rfl
      rw [joins, hou] at moved
      rw [hlk]
      cases hans : ((p.state.limiter name).allow address now).1 with
      | false =>
        rw [hans] at moved
        simp only [Bool.toNat_false] at moved
        omega
      | true =>
        rw [hans] at moved
        simp only [roomLeft, hans, Bool.not_true, Bool.false_or, decide_eq_true_eq, ih.1] at room
        simp only [Bool.toNat_false, Bool.toNat_true] at moved
        omega
    · have step := counted_perform_le may (fun now he => as ⟨now, he⟩) choice p.state
      omega
  | @entered _ _ st _ _ hst =>
    cases hst
    rw [inFlight_entered]
    exact ih
  | crashed _ hre => cases hre

theorem counted_of_records (next : requests.Next rule p w) {e : Entry}
    (hrcd : w.trace = e :: trace) :
    (records name address e).toNat ≤ (w.state.limiter name).counted address := by
  cases next with
  | @performed t op choice r st _ ran =>
    obtain rfl := (List.cons.inj hrcd).1
    have hp : perform op choice p.state = (r, st) := Option.some.inj ran
    obtain rfl : (perform op choice p.state).2 = st := congrArg Prod.snd hp
    cases op with
    | failed other src _ =>
      by_cases own : other = name ∧ src = address
      · obtain ⟨rfl, rfl⟩ := own
        simp only [records, perform, API.limiter_setLimiter, if_true]
        exact Nat.le_trans (Bool.toNat_le _) FailureLimiter.counted_failed_pos
      · have hfo : (decide (other = name) && decide (src = address)) = false := by
          rw [← Bool.decide_and]
          exact decide_eq_false own
        simp only [records, hfo, Bool.toNat_false]
        exact Nat.zero_le _
    | _ => exact Nat.zero_le _
  | entered _ _ _ =>
    obtain rfl := (List.cons.inj hrcd).1
    exact Nat.zero_le _
  | crashed _ hre => cases hre

theorem counted_of_next (next : requests.Next rule p w) {e : Entry} (hrcd : w.trace = e :: trace)
    (ht : ((e.state.limiter name).entries.get address).isSome)
    (hux : (expiryTime name e).all ((p.state.limiter name).isOpen address)) :
    (p.state.limiter name).counted address + (records name address e).toNat ≤
      (w.state.limiter name).counted address := by
  cases next with
  | @performed t op choice r st _ ran =>
    obtain rfl := (List.cons.inj hrcd).1
    have hp : perform op choice p.state = (r, st) := Option.some.inj ran
    obtain rfl : (perform op choice p.state).1 = r := congrArg Prod.fst hp
    obtain rfl : (perform op choice p.state).2 = st := congrArg Prod.snd hp
    exact counted_ge_perform t ht hux
  | entered _ _ hst =>
    obtain rfl := (List.cons.inj hrcd).1
    cases hst
    exact Nat.le_refl _
  | crashed _ hre => cases hre

theorem records_le_counted {nw ol : List Entry} (hr : requests.Reached rule a p)
    (hsp : p.trace = nw ++ ol) (wi : oneWindow name address nw) :
    nw.countP (records name address) ≤ (p.state.limiter name).counted address := by
  induction nw generalizing p with
  | nil => exact Nat.zero_le _
  | cons e nw ih =>
    obtain ⟨pre, s, next, rest⟩ := hr.previous hsp
    have counts : (e :: nw).countP (records name address) =
        nw.countP (records name address) + (records name address e).toNat := by
      rw [List.countP_cons]
      cases records name address e <;> rfl
    rw [counts]
    cases nw with
    | nil => simpa using counted_of_records next hsp
    | cons latest nw =>
      simp only [oneWindow, Bool.and_eq_true] at wi
      obtain ⟨⟨ht, hux⟩, inn⟩ := wi
      have sameState : latest.state = pre.state := s.entry_state rest
      have step := counted_of_next next hsp ht (sameState ▸ hux)
      have earlierCounts := ih s rest inn
      omega

/-- In every history in which requests are let through only while there is room, the
    failed checks of a source within one window, those recorded in it and those not
    recorded yet, are at most the configured maximum. -/
theorem failures_bounded {maximum : Nat} {duration : Time} {newer older : List Entry}
    (roomy : ∀ step past, permitted step past = true → roomLeft step past = true)
    (reached : requests.Reached permitted (.configured maximum duration) past)
    (split : past.trace = newer ++ older) (within : oneWindow name address newer = true) :
    newer.countP (records name address) + unrecorded name address past ≤ maximum := by
  have counted := records_le_counted reached split within
  have bound : (past.state.limiter name).counted address + inFlight name address past ≤ maximum :=
    (bounded_of_reached roomy reached).2
  have pending : unrecorded name address past ≤ inFlight name address past := by
    apply tally_mono
    intro attempt rejected
    rw [of_decide_eq_true rejected]
    exact Attempt.inFlight_rejected
  omega

end Runs

/-! ## A burst -/

def latestReading : List Entry → Option Time
  | [] => none
  | .performed _ .now time _ :: _ => some time
  | _ :: trace => latestReading trace

/-- The clock does not go backwards, and the map of windows has room. -/
def steady (step : Step) (past : Past) : Bool :=
  match step with
  | .perform _ .now choice => (latestReading past.trace).all fun time => decide (time ≤ choice.time)
  | .perform _ (.failed name address now) _ =>
    let limiter := (past.state.limiter name).removeExpired now
    (limiter.entries.get address).isSome || decide (limiter.entries.rows.length < limiter.capacity)
  | _ => true

def rejects (name : LimiterName) : Entry → Bool
  | .performed _ (.login _ _ _) (.error .invalidCredentials) _ => name = .login
  | .performed _ (.claim _ _ _) (.error error) _ => name = .claim && error ≠ .failed
  | _ => false

def guess : LimiterName → Request
  | .login => .login (some "203.0.113.7") (some ⟨"admin", "guess"⟩)
  | .claim => .claim (some "203.0.113.7") (some "ABCDEFGH")

def stepsToCheck : LimiterName → Nat
  | .login => 2
  | .claim => 3

/-- As many requests of one source are all let through before the first is checked. -/
def burst (name : LimiterName) (count : Nat) : List (Label Request Choice) :=
  List.replicate count (.start (guess name)) ++
    (List.range count).flatMap (fun thread =>
      List.replicate (stepsToCheck name) (.run thread { user := some "user" })) ++
    (List.range count).flatMap fun thread => List.replicate 2 (.run thread {})

/-- So many checks have failed, and their records lie in one window. -/
def failsTimes (name : LimiterName) (count : Nat)
    (machine : Machine Http Request Past) : Bool :=
  let trace := machine.state.trace
  let newer := trace.take (2 * count - 1)
  oneWindow name "203.0.113.7" newer &&
    newer.countP (records name "203.0.113.7") = count && trace.countP (rejects name) = count

/-- Six checks of one source fail within one window of a limiter that is configured
    for five, with a steady clock and without eviction, for logins and for claims. -/
theorem failures_exceed_maximum :
    (requests.ranBy steady .new (burst .login 6)).any (failsTimes .login 6) = true ∧
      (requests.ranBy steady .new (burst .claim 6)).any (failsTimes .claim 6) = true := by
  constructor <;> decide +kernel

/-- Five requests at a time leave room. -/
theorem failures_bounded_burst :
    ∃ past newer older, requests.Reached roomLeft .new past ∧ past.trace = newer ++ older ∧
      oneWindow .login "203.0.113.7" newer = true ∧
      newer.countP (records .login "203.0.113.7") = 5 ∧
      newer.countP (records .login "203.0.113.7") + unrecorded .login "203.0.113.7" past ≤ 5 := by
  have ran : (requests.ranBy roomLeft .new (burst .login 5)).any (failsTimes .login 5) = true := by
    decide +kernel
  obtain ⟨machine, ran, fails⟩ := (Option.any_eq_true _ _).mp ran
  simp only [failsTimes, Bool.and_eq_true, decide_eq_true_eq] at fails
  have split := (List.take_append_drop 9 machine.state.trace).symm
  exact ⟨machine.state, _, _, System.reached_of_ranBy ran, split, fails.1.1, fails.1.2,
    failures_bounded (fun _ _ => id) (System.reached_of_ranBy ran) split fails.1.1⟩

end AISummoner.HttpApi
