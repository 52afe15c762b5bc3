import AISummoner.OpencodeBridge.Programs

/-! # What an Adapter's `Run` has done

The discipline of `Run` and of the goroutine that reads its stream.  The right to
use the sink beside `Run` is a token: `Run` hands it to the reader it starts, and
the reader gives it up when it closes its channel.
-/

namespace AISummoner.OpencodeBridge

open Concurrency Concurrency.Discipline
open Agent (AgentError)

structure Running where
  /-- The channels of a `Run`. -/
  stream : Option Nat := none
  activation : Option Nat := none
  /-- The reader has been started. -/
  reader : Bool := false
  /-- The failure received last. -/
  took : Option AgentError := none
  closed : Bool := false
  /-- The failures were looked at after the close. -/
  polled : Bool := false
  joined : Bool := false
  returned : Bool := false
  /-- The channels of a reader. -/
  reads : Option Nat := none
  finished : Bool := false
  deriving DecidableEq, Repr

namespace Running

def after (known : Running) (operation : Operation) (response : operation.Response) : Running :=
  match operation with
  | .entry entry .awaitClosed =>
    { known with closed := known.closed || decide (known.activation = some entry) }
  | .entry _ .receiveFatal =>
    { known with took := response.or known.took, polled := known.closed }
  | .entry _ .selectItem =>
    match response with
    | .fatal error => { known with took := some error }
    | _ => known
  | .bridge (.activate _ _ _) =>
    match response with
    | .ok entry => { known with activation := some entry }
    | .error _ => known
  | .adapter (.selectTurn _ _) =>
    match response with
    | .fatal error => { known with took := some error }
    | _ => known
  | .adapter .newStream => { known with stream := some response }
  | .adapter (.awaitStream _) => { known with joined := true }
  | .adapter (.closeStream _) => { known with finished := true }
  | .adapter (.returned _ _) => { known with returned := true }
  | _ => known

def Agrees (known : Running) (result : Except AgentError Unit) : Prop :=
  ∀ error, known.took = some error → result = .error error

structure Ready (known : Running) (stream : Nat) (result : Except AgentError Unit) : Prop where
  stream : known.stream = some stream
  reads : known.reads = none
  unreturned : known.returned = false
  agrees : known.Agrees result
  closed : known.activation.isSome → known.closed = true ∧ known.polled = true
  joined : known.reader = true → known.joined = true

def may (known : Running) : Operation → Prop
  | .entry entry .receiveFatal => known.activation = some entry
  | .entry entry .selectItem => known.activation = some entry
  | .bridge (.activate _ _ _) =>
    known.activation = none ∧ known.took = none ∧ known.closed = false ∧ known.polled = false
  | .adapter (.selectTurn _ entry) => known.activation = some entry
  | .adapter .newStream =>
    known.stream = none ∧ known.reads = none ∧ known.reader = false ∧ known.joined = false
  | .adapter (.sink stream) =>
    (known.stream = some stream ∧ known.returned = false) ∨
      (known.reads = some stream ∧ known.finished = false)
  | .adapter (.closeStream stream) =>
    known.reads = some stream ∧ known.finished = false ∧ known.stream = none
  | .adapter (.awaitStream stream) => known.stream = some stream
  | .adapter (.returned stream result) => known.Ready stream result
  | _ => True

def streamOf : Goroutine → Option Nat
  | .consumeEvents stream _ => some stream
  | .readStream stream => some stream
  | _ => none

def mayFork (known : Running) (child : Goroutine) : Prop :=
  ∀ stream, streamOf child = some stream →
    known.stream = some stream ∧ known.reader = false ∧ known.reads = none ∧ known.returned = false

def afterFork (known : Running) (child : Goroutine) : Running :=
  { known with reader := known.reader || (streamOf child).isSome }

/-- Only its own operation changes a field. -/
structure Apart (known : Running) (operation : Operation) (response : operation.Response) : Prop where
  stream : operation ≠ .adapter .newStream →
    (known.after operation response).stream = known.stream
  activation : (∀ productSessionID externalSessionID invoker,
      operation ≠ .bridge (.activate productSessionID externalSessionID invoker)) →
    (known.after operation response).activation = known.activation
  reader : (known.after operation response).reader = known.reader
  reads : (known.after operation response).reads = known.reads
  finished : (∀ stream, operation ≠ .adapter (.closeStream stream)) →
    (known.after operation response).finished = known.finished
  returned : known.returned = true → (known.after operation response).returned = true

theorem apart (k : Running) (op : Operation) (r : op.Response) : k.Apart op r := by
  cases op with
  | entry _ op =>
    cases op with
    | selectItem => cases r <;> exact ⟨fun _ => rfl, fun _ => rfl, rfl, rfl, fun _ => rfl, id⟩
    | _ => exact ⟨fun _ => rfl, fun _ => rfl, rfl, rfl, fun _ => rfl, id⟩
  | bridge op =>
    cases op with
    | activate =>
      cases r with
      | ok entry => exact ⟨fun _ => rfl, fun o => absurd rfl (o _ _ _), rfl, rfl, fun _ => rfl, id⟩
      | error _ => exact ⟨fun _ => rfl, fun _ => rfl, rfl, rfl, fun _ => rfl, id⟩
    | _ => exact ⟨fun _ => rfl, fun _ => rfl, rfl, rfl, fun _ => rfl, id⟩
  | adapter op =>
    cases op with
    | selectTurn => cases r <;> exact ⟨fun _ => rfl, fun _ => rfl, rfl, rfl, fun _ => rfl, id⟩
    | newStream => exact ⟨fun o => absurd rfl o, fun _ => rfl, rfl, rfl, fun _ => rfl, id⟩
    | closeStream => exact ⟨fun _ => rfl, fun _ => rfl, rfl, rfl, fun o => absurd rfl (o _), id⟩
    | returned => exact ⟨fun _ => rfl, fun _ => rfl, rfl, rfl, fun _ => rfl, fun _ => rfl⟩
    | _ => exact ⟨fun _ => rfl, fun _ => rfl, rfl, rfl, fun _ => rfl, id⟩

end Running

def runDiscipline : Discipline Calls Goroutine Running where
  start goroutine := some { reads := Running.streamOf goroutine }
  after := Running.after
  afterFork := Running.afterFork
  may := Running.may
  mayFork := Running.mayFork

/-! ## The programs follow it -/

variable {xid : String} {rq : RunRequest} {result : Except AgentError Unit}
  {rds : Nat}

section Follows

variable {k : Running} {entry stream : Nat} {α : Type}

/-- Operations of the bridge and of the provider that `Run` learns nothing from. -/
def Aside : Operation → Prop
  | .entry _ .awaitClosed => False
  | .entry _ .receiveFatal => False
  | .entry _ .selectItem => False
  | .entry _ _ => True
  | .bridge (.activate _ _ _) => False
  | .bridge _ => True
  | .adapter (.provider _) => True
  | .adapter (.nextEvent _) => True
  | .adapter (.sendResult _ _) => True
  | .adapter .never => True
  | .adapter _ => False

def isAside (goroutine : Goroutine) : Prop := Running.streamOf goroutine = none

theorem follows_aside {prog : Code α} (hps : prog.performs Aside isAside)
    {post : α → Running → Prop} (hh : ∀ v, post v k) : runDiscipline.Follows prog post k := by
  refine Follows.of_free ?_ ?_ ?_ ?_ hps hh
  · intro op aside
    cases op with
    | entry entry op | bridge op | adapter op => cases op <;> trivial
  · intro op r aside
    cases op with
    | entry entry op | bridge op | adapter op =>
      cases op <;> first | rfl | cases aside
  · intro cd aside _ reads
    rw [show Running.streamOf cd = none from aside] at reads
    cases reads
  · intro cd aside
    show { k with reader := k.reader || (Running.streamOf cd).isSome } = k
    rw [show Running.streamOf cd = none from aside]
    simp

theorem performs_startClose : (startClose entry).performs Aside isAside := by
  refine ⟨trivial, fun a => ?_⟩
  cases a with
  | false => trivial
  | true => exact ⟨trivial, fun _ => ⟨trivial, fun _ => ⟨rfl, trivial, fun _ => trivial⟩⟩⟩

theorem performs_reportFatal {err : AgentError} :
    (reportFatal entry err).performs Aside isAside := by
  refine ⟨trivial, fun a => ?_⟩
  cases a with
  | false => trivial
  | true =>
    refine ⟨trivial, fun _ => ?_⟩
    show ((startClose entry).bind fun _ => onEntry entry .leaveFatal).performs Aside isAside
    exact Program.performs_bind performs_startClose fun _ => ⟨trivial, fun _ => trivial⟩

theorem performs_invokeGated : (invokeGated entry).performs Aside isAside := by
  refine ⟨trivial, fun ed => ?_⟩
  cases ed with
  | true => trivial
  | false =>
    refine ⟨trivial, fun marshalled => ?_⟩
    cases marshalled with
    | false => exact performs_reportFatal
    | true =>
      refine ⟨trivial, fun _ => ⟨trivial, fun result => ?_⟩⟩
      cases result with
      | error _ => exact performs_reportFatal
      | ok _ =>
        refine ⟨trivial, fun dl => ?_⟩
        cases dl with
        | false => exact performs_reportFatal
        | true => trivial

theorem performs_serveHTTP : (serveHTTP xid).performs Aside isAside := by
  refine ⟨trivial, fun f => ?_⟩
  cases f with
  | none => trivial
  | some entry =>
    refine ⟨trivial, fun bg => ?_⟩
    cases bg with
    | false => trivial
    | true =>
      show (deferring (callBegun entry) (onEntry entry .doneCall)).performs Aside isAside
      refine Program.performs_bind ⟨trivial, fun acquired => ?_⟩ fun _ => ⟨trivial, fun _ => trivial⟩
      cases acquired with
      | false => trivial
      | true =>
        show (deferring (invokeGated entry) (onEntry entry .releaseGate)).performs Aside isAside
        exact Program.performs_bind performs_invokeGated fun _ => ⟨trivial, fun _ => trivial⟩

theorem after_awaitClosed (hfo : k.activation = none) {r : Unit} :
    runDiscipline.after k (.entry entry .awaitClosed) r = k := by
  have ho : decide (k.activation = some entry) = false := by simp [hfo]
  show { k with closed := k.closed || decide (k.activation = some entry) } = k
  rw [ho, Bool.or_false]

theorem follows_closeAside : runDiscipline.Follows (closeActivation entry) (fun _ _ => True) k := by
  apply Follows.bind
  exact follows_aside performs_startClose fun _ => ⟨trivial, fun _ => trivial⟩

theorem follows_finishAside {es : List Nat} (hfo : k.activation = none) :
    runDiscipline.Follows (finishClose es) (fun _ _ => True) k := by
  have hst : (startCloseEach es).performs Aside isAside := by
    induction es with
    | nil => trivial
    | cons entry es ih =>
      exact Program.performs_bind performs_startClose fun _ => ih
  apply Follows.bind
  refine follows_aside hst fun _ => ?_
  apply Follows.bind
  clear hst
  induction es with
  | nil => exact ⟨trivial, fun _ => trivial⟩
  | cons entry es ih =>
    refine ⟨trivial, fun r => ?_⟩
    rw [after_awaitClosed hfo]
    exact ih

structure Running.Fresh (known : Running) (stream : Nat) : Prop where
  stream : known.stream = some stream
  activation : known.activation = none
  reader : known.reader = false
  took : known.took = none
  closed : known.closed = false
  polled : known.polled = false
  returned : known.returned = false
  reads : known.reads = none

structure Running.Activated (known : Running) (stream entry : Nat) : Prop where
  stream : known.stream = some stream
  reads : known.reads = none
  activation : known.activation = some entry
  returned : known.returned = false

theorem Running.Fresh.ready (hfr : k.Fresh stream) (result : Except AgentError Unit) :
    k.Ready stream result where
  stream := hfr.stream
  reads := hfr.reads
  unreturned := hfr.returned
  agrees := by
    intro _ took
    rw [hfr.took] at took
    cases took
  closed := by rw [hfr.activation]; nofun
  joined := by rw [hfr.reader]; nofun

theorem Running.agrees_of_took {err : AgentError} (took : k.took = some err) :
    k.Agrees (.error err) :=
  fun _ again => by rw [Option.some.inj (took.symm.trans again)]

theorem Running.agrees_of_none (none : k.took = none) (result : Except AgentError Unit) :
    k.Agrees result := by
  intro _ took
  rw [none] at took
  cases took

theorem follows_cleanup_ready (hav : k.Activated stream entry) (agrees : k.Agrees result) :
    runDiscipline.Follows (cleanup stream entry result)
      (fun result last => last.Ready stream result) k := by
  apply Follows.bind
  apply Follows.bind
  refine follows_aside performs_startClose fun _ => ⟨trivial, fun r => ?_⟩
  have hcl : runDiscipline.after k (.entry entry .awaitClosed) r =
      { k with closed := true } := by
    show { k with closed := k.closed || decide (k.activation = some entry) } = _
    rw [hav.activation]
    simp
  rw [hcl]
  refine ⟨hav.stream, fun _ => ⟨hav.activation, fun fatal => ?_⟩⟩
  cases fatal with
  | none =>
    exact ⟨hav.stream, hav.reads, hav.returned, agrees, fun _ => ⟨rfl, rfl⟩, fun _ => rfl⟩
  | some fatal =>
    exact ⟨hav.stream, hav.reads, hav.returned, Running.agrees_of_took rfl,
      fun _ => ⟨rfl, rfl⟩, fun _ => rfl⟩

theorem follows_stopFailed {post : Except AgentError Unit → Running → Prop}
    (hh : post result k) : runDiscipline.Follows (stopFailed result) post k := by
  cases result with
  | ok _ => exact hh
  | error _ => exact ⟨trivial, fun _ => hh⟩

/-- The end of a Turn: a failure that was received on the way is its result. -/
def Running.Waited (stream entry : Nat) (result : Except AgentError Unit) (known : Running) : Prop :=
  known.Activated stream entry ∧ known.Agrees result

theorem follows_failureOr (hav : k.Activated stream entry) (agrees : k.Agrees result) :
    runDiscipline.Follows (failureOr entry result) (Running.Waited stream entry) k := by
  refine ⟨hav.activation, fun fatal => ?_⟩
  cases fatal with
  | none => exact ⟨{ hav with }, agrees⟩
  | some fatal => exact ⟨{ hav with }, Running.agrees_of_took rfl⟩

theorem follows_waitForTurn (hav : k.Activated stream entry) (untaken : k.took = none) :
    runDiscipline.Follows (waitForTurn stream entry) (Running.Waited stream entry) k := by
  refine ⟨hav.activation, fun fatal => ?_⟩
  cases fatal with
  | some fatal => exact ⟨{ hav with }, Running.agrees_of_took rfl⟩
  | none =>
    refine ⟨hav.activation, fun sel => ?_⟩
    have still : Running.Activated { k with polled := k.closed } stream entry := { hav with }
    cases sel with
    | fatal fatal => exact ⟨{ hav with }, Running.agrees_of_took rfl⟩
    | received result => exact follows_failureOr still (Running.agrees_of_none untaken result)
    | ended cause => exact follows_failureOr still (Running.agrees_of_none untaken (.error cause))

theorem follows_consumeTurn (hav : k.Activated stream entry) (untaken : k.took = none) :
    runDiscipline.Follows (consumeTurn stream entry rds) (Running.Waited stream entry) k := by
  induction rds with
  | zero => exact ⟨trivial, nofun⟩
  | succ rds ih =>
    refine ⟨hav.activation, fun sel => ?_⟩
    cases sel with
    | fatal fatal => exact ⟨{ hav with }, Running.agrees_of_took rfl⟩
    | ended _ => exact ⟨hav, Running.agrees_of_none untaken _⟩
    | received ev =>
      cases ev with
      | quiet => exact ih
      | ended _ => exact ⟨hav, Running.agrees_of_none untaken _⟩
      | delta =>
        refine ⟨.inl ⟨hav.stream, hav.returned⟩, fun ans => ?_⟩
        cases ans with
        | error _ => exact ⟨hav, Running.agrees_of_none untaken _⟩
        | ok _ => exact ih

theorem follows_consumeEvents (reads : k.reads = some stream)
    (huf : k.finished = false) (hfo : k.stream = none) :
    runDiscipline.Follows (consumeEvents stream rds) (fun _ _ => True) k := by
  have ends (result : Except AgentError Unit) :
      runDiscipline.Follows (parsed stream result) (fun _ _ => True) k :=
    ⟨trivial, fun _ => ⟨⟨reads, huf, hfo⟩, fun _ => trivial⟩⟩
  induction rds with
  | zero => exact ⟨trivial, nofun⟩
  | succ rds ih =>
    refine ⟨trivial, fun ev => ?_⟩
    cases ev with
    | quiet => exact ih
    | ended result => exact ends result
    | delta =>
      refine ⟨.inr ⟨reads, huf⟩, fun ans => ?_⟩
      cases ans with
      | error err => exact ends (.error err)
      | ok _ => exact ih

theorem follows_turn {inv : Nat} (rd : Goroutine) (wait : Nat → Code (Except AgentError Unit))
    (conclude : Nat → Except AgentError Unit → Code (Except AgentError Unit))
    (hfr : k.Fresh stream) (reads : Running.streamOf rd = some stream)
    (hwa : ∀ {entry} {k : Running}, k.Activated stream entry → k.took = none →
      runDiscipline.Follows (wait entry) (Running.Waited stream entry) k)
    (concludes : ∀ {entry} {k : Running} {result}, k.Activated stream entry →
      k.Agrees result → runDiscipline.Follows (conclude entry result)
        (fun result last => last.Ready stream result) k) : runDiscipline.Follows
      ((provider .subscribe).chain fun _ => (activateFor rq xid inv).chain fun entry =>
          .fork rd ((provider .prompt).bind fun
            | .error err => conclude entry (.error err)
            | .ok _ => (wait entry).bind (conclude entry)))
      (fun result last => last.Ready stream result) k := by
  refine ⟨trivial, fun subscribed => ?_⟩
  cases subscribed with
  | error err => exact hfr.ready _
  | ok _ =>
    refine ⟨⟨hfr.activation, hfr.took, hfr.closed, hfr.polled⟩, fun av => ?_⟩
    cases av with
    | error err => exact hfr.ready _
    | ok entry =>
      refine ⟨?_, trivial, fun prompted => ?_⟩
      · intro o h
        cases reads.symm.trans h
        exact ⟨hfr.stream, hfr.reader, hfr.reads, hfr.returned⟩
      cases prompted with
      | error err =>
        exact concludes ⟨hfr.stream, hfr.reads, rfl, hfr.returned⟩
          (Running.agrees_of_none hfr.took _)
      | ok _ =>
        show runDiscipline.Follows ((wait entry).bind _) _ _
        refine Follows.bind (Follows.mono (hwa ?_ ?_) fun result last waited => ?_)
        · exact ⟨hfr.stream, hfr.reads, rfl, hfr.returned⟩
        · exact hfr.took
        · exact concludes waited.1 waited.2

theorem follows_openCodeTurn_ready {inv : Nat} (hfr : k.Fresh stream) :
    runDiscipline.Follows (openCodeTurn stream rq inv rds xid)
      (fun result last => last.Ready stream result) k := by
  refine follows_turn (.consumeEvents stream rds) (waitForTurn stream)
    (fun entry result => (cleanup stream entry result).bind stopFailed) hfr rfl follows_waitForTurn ?_
  intro entry k result hav agrees
  -- the provider is told after `cleanup`, which changes nothing any more
  exact Follows.bind
    ((follows_cleanup_ready hav agrees).mono fun _ _ ready => follows_stopFailed ready)

theorem follows_dshTurn_ready {inv : Nat} (hfr : k.Fresh stream) :
    runDiscipline.Follows (dshTurn stream rq inv rds xid)
      (fun result last => last.Ready stream result) k := by
  refine follows_turn (.readStream stream) (consumeTurn stream · rds) (stopAndCleanup stream) hfr
    rfl follows_consumeTurn ?_
  intro _ k result hav agrees
  exact Follows.bind (follows_stopFailed (follows_cleanup_ready hav agrees))

theorem follows_sink {next : Code (Except AgentError String)} (hfr : k.Fresh stream)
    (follows : runDiscipline.Follows next (fun _ last => last.Fresh stream) k) :
    runDiscipline.Follows ((onAdapter (.sink stream)).chain fun _ => next)
      (fun _ last => last.Fresh stream) k := by
  refine ⟨.inl ⟨hfr.stream, hfr.returned⟩, fun ans => ?_⟩
  cases ans with
  | error _ => exact hfr
  | ok _ => exact follows

theorem follows_openCodeSession (hfr : k.Fresh stream) :
    runDiscipline.Follows (openCodeSession stream xid) (fun _ last => last.Fresh stream) k := by
  apply Follows.ite
  · intro _
    refine ⟨trivial, fun created => ?_⟩
    cases created with
    | error _ => exact hfr
    | ok created => exact follows_sink hfr hfr
  · intro _
    exact Follows.ite (fun _ => hfr) fun _ => hfr

theorem follows_dshSession (hfr : k.Fresh stream) :
    runDiscipline.Follows (dshSession stream rq) (fun _ last => last.Fresh stream) k := by
  refine ⟨trivial, fun pp => ?_⟩
  cases pp with
  | error _ => exact hfr
  | ok _ => exact Follows.ite (fun _ => follows_sink hfr hfr) fun _ => hfr

theorem follows_openCodeRun_ready (hfr : k.Fresh stream) :
    runDiscipline.Follows (openCodeRun stream rq rds)
      (fun result last => last.Ready stream result) k := by
  unfold openCodeRun
  cases rq.remoteExec with
  | none => exact hfr.ready _
  | some _ =>
    refine Follows.ite (fun _ => hfr.ready _) fun _ => ⟨trivial, fun pp => ?_⟩
    cases pp with
    | error err => exact hfr.ready _
    | ok _ =>
      show runDiscipline.Follows ((openCodeSession stream rq.externalSessionID).chain _) _ _
      apply Follows.chain
      apply (follows_openCodeSession hfr).mono
      intro ses last stillFresh
      cases ses with
      | error err => exact stillFresh.ready _
      | ok _ => exact follows_openCodeTurn_ready stillFresh

theorem follows_dshRun_ready (hfr : k.Fresh stream) : runDiscipline.Follows (dshRun stream rq rds)
      (fun result last => last.Ready stream result) k := by
  unfold dshRun
  cases rq.remoteExec with
  | none => exact hfr.ready _
  | some _ =>
    refine Follows.ite (fun _ => hfr.ready _) fun _ => ?_
    apply Follows.chain
    apply (follows_dshSession hfr).mono
    intro ses last stillFresh
    cases ses with
    | error _ => exact stillFresh.ready _
    | ok _ => exact follows_dshTurn_ready stillFresh

theorem follows_running_ready {run : Nat → Code (Except AgentError Unit)}
    (follows : ∀ {stream} {k : Running}, k.Fresh stream →
      runDiscipline.Follows (run stream) (fun result last => last.Ready stream result) k) :
    runDiscipline.Follows (running run) (fun _ _ => True) {} := by
  refine ⟨⟨rfl, rfl, rfl, rfl⟩, fun stream => ?_⟩
  show runDiscipline.Follows ((run stream).bind _) _ _
  apply Follows.bind
  apply (follows ⟨rfl, rfl, rfl, rfl, rfl, rfl, rfl, rfl⟩).mono
  intro result last ready
  exact ⟨ready, fun _ => trivial⟩

theorem runs_conduct {g : Goroutine} (hb : runDiscipline.start g = some k) :
    runDiscipline.Follows (callbacks.body g) (fun _ _ => True) k := by
  cases hb
  cases g with
  | serveHTTP xid => exact follows_aside performs_serveHTTP fun _ => trivial
  | activate _ xid _ => exact ⟨⟨rfl, rfl, rfl, rfl⟩, fun _ => trivial⟩
  | closeActivation entry => exact follows_closeAside
  | closeBridge =>
    refine ⟨trivial, fun es => ?_⟩
    cases es with
    | none => exact ⟨trivial, fun _ => trivial⟩
    | some es => exact ⟨nofun, trivial, fun _ => trivial⟩
  | turnEnds entry => exact ⟨trivial, fun _ => trivial⟩
  | openCodeRun rq rds => exact follows_running_ready follows_openCodeRun_ready
  | dshRun rq rds => exact follows_running_ready follows_dshRun_ready
  | awaitCalls entry =>
    exact ⟨trivial, fun _ => ⟨trivial, fun _ => ⟨trivial, fun _ => trivial⟩⟩⟩
  | finishClose es => exact follows_finishAside rfl
  | consumeEvents stream rds => exact follows_consumeEvents rfl rfl rfl
  | readStream stream => exact ⟨⟨rfl, rfl, rfl⟩, fun _ => trivial⟩

end Follows

end AISummoner.OpencodeBridge
