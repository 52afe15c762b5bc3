import AISummoner.OpencodeBridge.Programs

/-! # What a goroutine has done with the bridge

The discipline of the callbacks and of those who close: which call a goroutine
has begun, whether it holds the gate, what it has reported, whose `closeOnce` it
is running and whom it waits for.
-/

namespace AISummoner.OpencodeBridge

open Concurrency Concurrency.Discipline
open Agent (AgentError)

structure Conduct where
  /-- The external session of a callback. -/
  session : Option String := none
  /-- The mapping `lookup` has returned. -/
  found : Option Nat := none
  /-- The mapping whose `inflight` counts this goroutine. -/
  calling : Option Nat := none
  /-- The mapping whose gate this goroutine holds. -/
  gate : Option Nat := none
  /-- The call's context had not ended when the gate was held. -/
  clear : Bool := false
  invoking : Bool := false
  reported : Option AgentError := none
  /-- The report has been sent, or was not the first. -/
  sent : Bool := false
  /-- The mapping whose `closeOnce` this goroutine runs. -/
  closing : Option Nat := none
  deactivated : Bool := false
  /-- The mapping whose `startClose` has returned last. -/
  settled : Option Nat := none
  /-- What the critical section of `Bridge.Close` has returned. -/
  snapshot : Option (List Nat) := none
  /-- The mappings `finishClose` has still to wait for. -/
  pending : Option (List Nat) := none
  /-- The mapping whose calls this goroutine waits for. -/
  waiter : Option Nat := none
  quiet : Bool := false
  announced : Bool := false
  deriving DecidableEq, Repr

namespace Conduct

def afterEntry (known : Conduct) (entry : Nat) (operation : EntryOperation)
    (response : operation.Response) : Conduct :=
  match operation with
  | .beginCall => if response then { known with calling := some entry } else known
  | .acquireGate => if response then { known with gate := some entry } else known
  | .callErr => { known with clear := !response }
  | .invoke => { known with invoking := true }
  | .invoked => { known with invoking := false }
  | .reportFatal error =>
    -- whoever is not the first has waited for the first to return
    if response then { known with reported := some error }
    else { known with reported := some error, sent := true, settled := some entry }
  | .sendFatal _ => { known with sent := true }
  | .enterClose =>
    if response then { known with closing := some entry } else { known with settled := some entry }
  | .deactivate => { known with deactivated := true }
  | .leaveClose => { known with closing := none, deactivated := false, settled := some entry }
  | .releaseGate => { known with gate := none, clear := false }
  | .doneCall => { known with calling := none }
  | .waitCalls => { known with quiet := true }
  | .closeDone => { known with announced := true }
  | .awaitClosed => { known with pending := known.pending.map (List.filter (· ≠ entry)) }
  | _ => known

def after (known : Conduct) (operation : Operation) (response : operation.Response) : Conduct :=
  match operation with
  | .entry entry operation => known.afterEntry entry operation response
  | .bridge (.lookup _) => { known with found := response }
  | .bridge .close => { known with snapshot := response }
  | _ => known

def mayEntry (known : Conduct) (entry : Nat) : EntryOperation → Prop
  | .beginCall => known.found = some entry ∧ known.calling = none ∧ known.gate = none
  | .acquireGate =>
    known.calling = some entry ∧ known.gate = none ∧ known.clear = false ∧ known.reported = none
  | .callErr => known.gate = some entry ∧ known.reported = none
  | .invoke =>
    known.gate = some entry ∧ known.clear = true ∧ known.reported = none ∧ known.invoking = false
  | .invoked => known.gate = some entry ∧ known.invoking = true
  | .reportFatal _ =>
    known.gate = some entry ∧ known.clear = true ∧ known.reported = none ∧ known.sent = false ∧
      known.invoking = false
  | .sendFatal error =>
    known.gate = some entry ∧ known.reported = some error ∧ known.sent = false
  | .releaseGate =>
    known.gate = some entry ∧ known.invoking = false ∧
      (known.reported.isSome → known.sent = true ∧ known.settled = some entry)
  | .leaveFatal =>
    known.gate = some entry ∧ known.settled = some entry ∧ known.reported.isSome
  | .doneCall => known.calling = some entry ∧ known.gate = none
  | .enterClose => known.closing = none ∧ known.deactivated = false
  | .deactivate => known.closing = some entry
  | .leaveClose => known.closing = some entry ∧ known.deactivated = true
  | .waitCalls => known.waiter = some entry
  | .closeDone => known.waiter = some entry ∧ known.quiet = true
  | _ => True

def may (known : Conduct) : Operation → Prop
  | .entry entry operation => known.mayEntry entry operation
  | .bridge (.lookup externalSessionID) =>
    known.session = some externalSessionID ∧ known.calling = none
  | .bridge (.remove entry) => known.closing = some entry
  | .bridge (.finished entry) => known.waiter = some entry ∧ known.announced = true
  | .bridge .closeDone => known.pending = some []
  | _ => True

def mayFork (known : Conduct) : Goroutine → Prop
  | .awaitCalls entry => known.closing = some entry ∧ known.deactivated = true
  | .finishClose entries => known.snapshot = some entries
  | .serveHTTP _ => False
  | _ => True

def start : Goroutine → Conduct
  | .serveHTTP externalSessionID => { session := some externalSessionID }
  | .awaitCalls entry => { waiter := some entry }
  | .finishClose entries => { pending := some entries }
  | _ => {}

end Conduct

def callDiscipline : Discipline Calls Goroutine Conduct where
  start goroutine := some (Conduct.start goroutine)
  after := Conduct.after
  afterFork known _ := known
  may := Conduct.may
  mayFork := Conduct.mayFork

/-! ## The programs follow it -/

variable {res : Except AgentError Unit} {rq : RunRequest} {xid : String}
  {post : Unit → Conduct → Prop} {rds : Nat}

section Follows

variable {known : Conduct} {entry sm : Nat} {α : Type}

def Free : Operation → Prop
  | .entry _ .receiveFatal => True
  | .entry _ .selectItem => True
  | .entry _ .cancelTurn => True
  | .bridge (.activate _ _ _) => True
  | .adapter _ => True
  | _ => False

def startsReader : Goroutine → Prop
  | .consumeEvents _ _ => True
  | .readStream _ => True
  | _ => False

theorem follows_free {prog : Code α} (hps : prog.performs Free startsReader)
    {post : α → Conduct → Prop} (hh : ∀ v, post v known) :
    callDiscipline.Follows prog post known := by
  refine Follows.of_free ?_ ?_ ?_ ?_ hps hh
  · intro op free
    cases op with
    | entry entry op | bridge op => cases op <;> trivial
    | adapter op => trivial
  · intro op r free
    cases op with
    | entry entry op | bridge op => cases op <;> first | rfl | cases free
    | adapter op => rfl
  · intro cd _
    cases cd <;> trivial
  · intro cd _
    rfl

theorem follows_startClose (hou : known.closing = none) (hia : known.deactivated = false)
    (hh : post () { known with settled := some entry }) :
    callDiscipline.Follows (startClose entry) post known := by
  obtain ⟨⟩ := known
  cases hou
  cases hia
  refine ⟨⟨rfl, rfl⟩, fun a => ?_⟩
  cases a with
  | false => exact hh
  | true =>
    refine ⟨rfl, fun _ => ⟨rfl, fun _ => ?_⟩⟩
    exact ⟨⟨rfl, rfl⟩, ⟨rfl, rfl⟩, fun _ => hh⟩

theorem follows_closeActivation (hou : known.closing = none)
    (hia : known.deactivated = false) (unhurried : known.pending = none)
    (hh : post () { known with settled := some entry }) :
    callDiscipline.Follows (closeActivation entry) post known := by
  apply Follows.bind
  apply follows_startClose hou hia
  refine ⟨trivial, fun _ => ?_⟩
  obtain ⟨⟩ := known
  cases unhurried
  exact hh

theorem follows_awaitCalls (hwa : known.waiter = some entry) :
    callDiscipline.Follows (awaitCalls entry) (fun _ _ => True) known :=
  ⟨hwa, fun _ => ⟨⟨hwa, rfl⟩, fun _ => ⟨⟨hwa, rfl⟩, fun _ => trivial⟩⟩⟩

structure Conduct.AtGate (known : Conduct) (entry : Nat) : Prop where
  calling : known.calling = some entry
  gate : known.gate = some entry
  reported : known.reported = none
  sent : known.sent = false
  invoking : known.invoking = false
  closing : known.closing = none
  deactivated : known.deactivated = false

structure Conduct.Leaving (known : Conduct) (entry : Nat) : Prop where
  calling : known.calling = some entry
  gate : known.gate = some entry
  invoking : known.invoking = false
  settled : known.reported.isSome → known.sent = true ∧ known.settled = some entry

theorem Conduct.AtGate.leaving (hga : known.AtGate entry) : known.Leaving entry where
  calling := hga.calling
  gate := hga.gate
  invoking := hga.invoking
  settled reported := by rw [hga.reported] at reported; cases reported

theorem follows_reportFatal {err : AgentError} (hga : known.AtGate entry) (clear : known.clear) :
    callDiscipline.Follows (reportFatal entry err) (fun _ last => last.Leaving entry) known := by
  refine ⟨⟨hga.gate, clear, hga.reported, hga.sent, hga.invoking⟩, fun a => ?_⟩
  cases a with
  | false => exact ⟨hga.calling, hga.gate, hga.invoking, fun _ => ⟨rfl, rfl⟩⟩
  | true =>
    refine ⟨⟨hga.gate, rfl, hga.sent⟩, fun _ => ?_⟩
    show callDiscipline.Follows ((startClose entry).bind fun _ => onEntry entry .leaveFatal) _ _
    apply Follows.bind
    refine follows_startClose hga.closing hga.deactivated ?_
    exact ⟨⟨hga.gate, rfl, rfl⟩, fun _ => ⟨hga.calling, hga.gate, hga.invoking,
      fun _ => ⟨rfl, rfl⟩⟩⟩

theorem follows_invokeGated (hga : known.AtGate entry) :
    callDiscipline.Follows (invokeGated entry) (fun _ last => last.Leaving entry) known := by
  refine ⟨⟨hga.gate, hga.reported⟩, fun ed => ?_⟩
  cases ed with
  | true => exact { hga.leaving with }
  | false =>
    -- from here on the context is known not to have ended
    have hbg : Conduct.AtGate { known with clear := true } entry := { hga with }
    refine ⟨trivial, fun marshalled => ?_⟩
    cases marshalled with
    | false => exact follows_reportFatal hbg rfl
    | true =>
      refine ⟨⟨hbg.gate, rfl, hbg.reported, hbg.invoking⟩, fun _ => ⟨⟨hbg.gate, rfl⟩, ?_⟩⟩
      intro res
      have hrt : Conduct.AtGate { known with clear := true, invoking := false } entry :=
        { hga with invoking := rfl }
      cases res with
      | error _ => exact follows_reportFatal hrt rfl
      | ok _ =>
        refine ⟨trivial, fun dl => ?_⟩
        cases dl with
        | false => exact follows_reportFatal hrt rfl
        | true => exact hrt.leaving

theorem follows_serveHTTP (xid : String) : callDiscipline.Follows (serveHTTP xid) (fun _ _ => True)
      (Conduct.start (.serveHTTP xid)) := by
  refine ⟨⟨rfl, rfl⟩, fun f => ?_⟩
  cases f with
  | none => trivial
  | some entry =>
    refine ⟨⟨rfl, rfl, rfl⟩, fun bg => ?_⟩
    cases bg with
    | false => trivial
    | true =>
      show callDiscipline.Follows (deferring (callBegun entry) (onEntry entry .doneCall)) _ _
      apply Follows.bind
      refine ⟨⟨rfl, rfl, rfl, rfl⟩, fun acquired => ?_⟩
      cases acquired with
      | false => exact ⟨⟨rfl, rfl⟩, fun _ => trivial⟩
      | true =>
        show callDiscipline.Follows (deferring (invokeGated entry) (onEntry entry .releaseGate)) _ _
        apply Follows.bind
        have hga : Conduct.AtGate
            { session := some xid, found := some entry, calling := some entry
              gate := some entry } entry := ⟨rfl, rfl, rfl, rfl, rfl, rfl, rfl⟩
        refine (follows_invokeGated hga).mono ?_
        intro _ _ leaving
        refine ⟨⟨leaving.gate, leaving.invoking, leaving.settled⟩, fun _ => ?_⟩
        exact ⟨⟨leaving.calling, rfl⟩, fun _ => trivial⟩

theorem follows_startCloseEach {es : List Nat} (hou : known.closing = none)
    (hia : known.deactivated = false) (hh : ∀ settled, post () { known with settled }) :
    callDiscipline.Follows (startCloseEach es) post known := by
  induction es generalizing known with
  | nil => exact hh known.settled
  | cons _ es ih =>
    apply Follows.bind
    apply follows_startClose hou hia
    exact ih hou hia hh

theorem follows_awaitClosedEach {es rem : List Nat} (hwa : known.pending = some rem)
    (hli : ∀ entry ∈ rem, entry ∈ es) :
    callDiscipline.Follows (awaitClosedEach es) (fun _ last => last.pending = some []) known := by
  induction es generalizing known rem with
  | nil =>
    have hem : rem = [] := List.eq_nil_iff_forall_not_mem.mpr fun entry hm =>
      List.not_mem_nil (hli entry hm)
    rw [hem] at hwa
    exact hwa
  | cons entry es ih =>
    refine ⟨trivial, fun _ => ?_⟩
    have shorter : (callDiscipline.after known (.entry entry .awaitClosed) ()).pending =
        some (rem.filter (· ≠ entry)) := by
      show known.pending.map _ = _
      rw [hwa]
      rfl
    apply ih shorter
    intro o hm
    obtain ⟨hm, ne⟩ := List.mem_filter.mp hm
    exact (List.mem_cons.mp (hli o hm)).resolve_left (of_decide_eq_true ne)

theorem follows_finishClose (es : List Nat) :
    callDiscipline.Follows (finishClose es) (fun _ _ => True)
      (Conduct.start (.finishClose es)) := by
  apply Follows.bind
  refine follows_startCloseEach rfl rfl fun _ => ?_
  apply Follows.bind
  refine (follows_awaitClosedEach rfl fun _ => id).mono ?_
  intro _ _ waited
  exact ⟨waited, fun _ => trivial⟩

theorem follows_closeBridge :
    callDiscipline.Follows closeBridge (fun _ _ => True) (Conduct.start .closeBridge) := by
  refine ⟨trivial, fun es => ?_⟩
  cases es with
  | none => exact ⟨trivial, fun _ => trivial⟩
  | some es => exact ⟨rfl, trivial, fun _ => trivial⟩

structure Conduct.Apart (known : Conduct) : Prop where
  closing : known.closing = none
  deactivated : known.deactivated = false
  pending : known.pending = none

theorem performs_onAdapter {op : AdapterOperation} : (onAdapter op).performs Free startsReader :=
  ⟨trivial, fun _ => trivial⟩

theorem performs_failureOr : (failureOr entry res).performs Free startsReader := by
  refine ⟨trivial, fun fatal => ?_⟩
  cases fatal <;> trivial

theorem performs_waitForTurn : (waitForTurn sm entry).performs Free startsReader := by
  refine ⟨trivial, fun fatal => ?_⟩
  cases fatal with
  | some fatal => trivial
  | none =>
    refine ⟨trivial, fun sel => ?_⟩
    cases sel with
    | fatal fatal => trivial
    | received res | ended cause => exact performs_failureOr

theorem performs_stopFailed : (stopFailed res).performs Free startsReader := by
  cases res with
  | ok _ => trivial
  | error _ => exact ⟨trivial, fun _ => trivial⟩

theorem performs_consumeTurn : (consumeTurn sm entry rds).performs Free startsReader := by
  induction rds with
  | zero => exact ⟨trivial, nofun⟩
  | succ rds ih =>
    refine ⟨trivial, fun sel => ?_⟩
    cases sel with
    | fatal fatal | ended cause => trivial
    | received ev =>
      cases ev with
      | quiet => exact ih
      | ended _ => trivial
      | delta =>
        refine ⟨trivial, fun ans => ?_⟩
        cases ans with
        | error _ => trivial
        | ok _ => exact ih

theorem performs_consumeEvents : (consumeEvents sm rds).performs Free startsReader := by
  induction rds with
  | zero => exact ⟨trivial, nofun⟩
  | succ rds ih =>
    refine ⟨trivial, fun ev => ?_⟩
    cases ev with
    | quiet => exact ih
    | ended _ => exact ⟨trivial, fun _ => ⟨trivial, fun _ => trivial⟩⟩
    | delta =>
      refine ⟨trivial, fun ans => ?_⟩
      cases ans with
      | error _ => exact ⟨trivial, fun _ => ⟨trivial, fun _ => trivial⟩⟩
      | ok _ => exact ih

theorem follows_cleanup (hap : known.Apart) :
    callDiscipline.Follows (cleanup sm entry res) (fun _ _ => True) known := by
  apply Follows.bind
  apply follows_closeActivation hap.closing hap.deactivated hap.pending
  refine ⟨trivial, fun _ => ⟨trivial, fun fatal => ?_⟩⟩
  cases fatal <;> trivial

theorem follows_provider {call : ProviderCall} {next : String → Code (Except AgentError Unit)}
    (follows : ∀ ans, callDiscipline.Follows (next ans) (fun _ _ => True) known) :
    callDiscipline.Follows ((provider call).chain next) (fun _ _ => True) known := by
  refine ⟨trivial, fun ans => ?_⟩
  cases ans with
  | error _ => trivial
  | ok ans => exact follows ans

theorem follows_activateFor {inv : Nat} {next : Nat → Code (Except AgentError Unit)}
    (follows : ∀ entry, callDiscipline.Follows (next entry) (fun _ _ => True) known) :
    callDiscipline.Follows ((activateFor rq xid inv).chain next) (fun _ _ => True) known := by
  refine ⟨trivial, fun av => ?_⟩
  cases av with
  | error _ => trivial
  | ok entry => exact follows entry

theorem follows_openCodeTurn {inv : Nat} (hap : known.Apart) :
    callDiscipline.Follows (openCodeTurn sm rq inv rds xid) (fun _ _ => True) known := by
  have stops (res : Except AgentError Unit) (last : Conduct) (_ : True) :
      callDiscipline.Follows (stopFailed res) (fun _ _ => True) last :=
    follows_free performs_stopFailed fun _ => trivial
  refine follows_provider fun _ => follows_activateFor fun _ => ?_
  refine ⟨trivial, trivial, fun prompted => ?_⟩
  cases prompted with
  | error _ => exact ((follows_cleanup hap).mono stops).bind
  | ok _ =>
    apply Follows.bind (follows_free performs_waitForTurn fun _ => ?_)
    exact ((follows_cleanup hap).mono stops).bind

theorem performs_openCodeSession : (openCodeSession sm xid).performs Free startsReader := by
  apply Program.performs_ite
  · apply Program.performs_chain performs_onAdapter
    intro _
    exact Program.performs_chain performs_onAdapter fun _ => trivial
  · exact Program.performs_ite trivial trivial

theorem follows_openCodeRun (hap : known.Apart) :
    callDiscipline.Follows (openCodeRun sm rq rds) (fun _ _ => True) known := by
  unfold openCodeRun
  cases rq.remoteExec with
  | none => trivial
  | some _ =>
    refine Follows.ite (fun _ => trivial) fun _ => ⟨trivial, fun pp => ?_⟩
    cases pp with
    | error err => trivial
    | ok _ =>
      show callDiscipline.Follows ((openCodeSession sm rq.externalSessionID).chain _) _ _
      apply Follows.chain
      refine follows_free performs_openCodeSession fun ses => ?_
      cases ses with
      | error err => trivial
      | ok _ => exact follows_openCodeTurn hap

theorem follows_stopAndCleanup (hap : known.Apart) :
    callDiscipline.Follows (stopAndCleanup sm entry res) (fun _ _ => True) known :=
  Follows.bind (follows_free performs_stopFailed fun _ => follows_cleanup hap)

theorem follows_dshTurn {inv : Nat} (hap : known.Apart) :
    callDiscipline.Follows (dshTurn sm rq inv rds xid) (fun _ _ => True) known := by
  refine follows_provider fun _ => follows_activateFor fun entry => ?_
  refine ⟨trivial, trivial, fun prompted => ?_⟩
  cases prompted with
  | error _ => exact follows_stopAndCleanup hap
  | ok _ =>
    show callDiscipline.Follows ((consumeTurn sm entry rds).bind _) _ _
    apply Follows.bind
    exact follows_free performs_consumeTurn fun _ => follows_stopAndCleanup hap

theorem performs_dshSession : (dshSession sm rq).performs Free startsReader := by
  apply Program.performs_chain performs_onAdapter
  intro _
  apply Program.performs_ite
  · exact Program.performs_chain performs_onAdapter fun _ => trivial
  · trivial

theorem follows_dshRun (hap : known.Apart) :
    callDiscipline.Follows (dshRun sm rq rds) (fun _ _ => True) known := by
  unfold dshRun
  cases rq.remoteExec with
  | none => trivial
  | some _ =>
    refine Follows.ite (fun _ => trivial) fun _ => ?_
    apply Follows.chain
    refine follows_free performs_dshSession fun ses => ?_
    cases ses with
    | error _ => trivial
    | ok _ => exact follows_dshTurn hap

theorem follows_running {run : Nat → Code (Except AgentError Unit)}
    (follows : ∀ sm, callDiscipline.Follows (run sm) (fun _ _ => True) known) :
    callDiscipline.Follows (running run) (fun _ _ => True) known := by
  refine ⟨trivial, fun sm => ?_⟩
  show callDiscipline.Follows ((run sm).bind _) _ _
  apply Follows.bind
  apply (follows sm).mono
  intro _ _ _
  exact ⟨trivial, fun _ => trivial⟩

theorem conducts {g : Goroutine} (hb : callDiscipline.start g = some known) :
    callDiscipline.Follows (callbacks.body g) (fun _ _ => True) known := by
  cases hb
  cases g with
  | serveHTTP xid => exact follows_serveHTTP xid
  | activate _ xid _ => exact ⟨trivial, fun _ => trivial⟩
  | closeActivation entry => exact follows_closeActivation rfl rfl rfl trivial
  | closeBridge => exact follows_closeBridge
  | turnEnds entry => exact ⟨trivial, fun _ => trivial⟩
  | openCodeRun rq rds =>
    exact follows_running fun sm => follows_openCodeRun ⟨rfl, rfl, rfl⟩
  | dshRun rq rds => exact follows_running fun sm => follows_dshRun ⟨rfl, rfl, rfl⟩
  | awaitCalls entry => exact follows_awaitCalls rfl
  | finishClose es => exact follows_finishClose es
  | consumeEvents sm rds => exact follows_free performs_consumeEvents fun _ => trivial
  | readStream sm => exact ⟨trivial, fun _ => trivial⟩

end Follows

end AISummoner.OpencodeBridge
