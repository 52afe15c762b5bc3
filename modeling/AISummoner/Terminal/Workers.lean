import AISummoner.Concurrency.Schedule
import AISummoner.Streams.Pump

/-! # The end of a terminal session

`serveTerminal` starts three workers and takes the first report.  The output of the
shell is complete before the close frame if the worker that copies it is the first to
report, and need not be if the one that waits for the exit is.
-/

namespace AISummoner.Terminal

open Streams

/-- The ends `serveTerminal` knows, by their categories. -/
inductive TerminalEnd where
  | remoteEOF | browserClosed | protocolError | frameTooLarge | remoteClosed | internalError
  | canceled | deviceInvalidated | serverShutdown
  deriving DecidableEq, Repr

/-- `readBrowser`, `writeBrowser` and the call of `Wait`. -/
inductive Worker where
  | reader | writer | waiter
  deriving DecidableEq, Repr

/-- A session whose browser takes every write. -/
structure Session where
  output : Pump UInt8
  reported : List Worker := []
  /-- What `firstResult` got, and from whom. -/
  firstResult : Option (Worker × TerminalEnd) := none
  /-- Why the context of the session was canceled. -/
  cause : Option TerminalEnd := none
  /-- `serveTerminal` is over, and the clean-up has begun. -/
  result : Option TerminalEnd := none
  /-- What had been written when the close frame was sent. -/
  closeFrame : Option (List UInt8) := none
  deriving DecidableEq, Repr

inductive Event where
  | copies (action : Copying)
  | reports (worker : Worker) (result : TerminalEnd)
  | cancels (cause : TerminalEnd)
  | returns
  | sendsClose
  deriving DecidableEq, Repr

namespace Session

def report (session : Session) (worker : Worker) (result : TerminalEnd) : Session :=
  { session with
    reported := worker :: session.reported
    firstResult := session.firstResult.or (some (worker, result)) }

/-- What a worker may report: the one that copies has seen the end of the output. -/
def mayReport (session : Session) : Worker → TerminalEnd → Bool
  | .reader, _ => true
  | .writer, result => session.output.ended && result = .remoteEOF
  | .waiter, result => result = .remoteEOF || result = .remoteClosed

def step (session : Session) : Event → Option Session
  | .copies action => (session.output.copy action).map fun output => { session with output }
  | .reports worker result =>
    if worker ∈ session.reported || !session.mayReport worker result then none
    else some (session.report worker result)
  | .cancels cause => some { session with cause := session.cause.or (some cause) }
  | .returns =>
    if session.result.isSome then none
    else (session.cause.or (session.firstResult.map Prod.snd)).map fun result =>
      { session with result := some result }
  | .sendsClose =>
    if session.result.isNone || session.closeFrame.isSome then none
    else some { session with closeFrame := some session.output.written }

structure Sound (output : List UInt8) (session : Session) : Prop where
  copies : session.output.Copies output
  ended : ∀ {result}, session.firstResult = some (.writer, result) → session.output.ended = true
  decided : session.result.isSome = true → session.cause = none → session.firstResult.isSome = true
  closed : ∀ {written}, session.closeFrame = some written → session.cause = none →
    session.firstResult.isSome = true ∧
      ∀ result, session.firstResult = some (.writer, result) → written = output

variable {output : List UInt8} {session s' : Session}

theorem Sound.report (s : session.Sound output) {worker : Worker} {res : TerminalEnd}
    (may : session.mayReport worker res) : (session.report worker res).Sound output := by
  obtain ⟨copies, hed, hde, hcl⟩ := s
  cases a : session.firstResult with
  | some _ =>
    have h : (session.report worker res).firstResult = session.firstResult := by
      simp [Session.report, a]
    exact ⟨copies, by rw [h]; exact hed, by rw [h]; exact hde, by rw [h]; exact hcl⟩
  | none =>
    refine ⟨copies, fun hgi => ?_, fun _ _ => ?_, fun sent uncanceled => ?_⟩
    · simp only [Session.report, a, Option.none_or, Option.some.injEq, Prod.mk.injEq] at hgi
      simp only [hgi.1, mayReport, Bool.and_eq_true] at may
      exact may.1
    · simp [Session.report, a]
    · -- the close frame was not sent before there was a result
      have hde := (hcl sent uncanceled).1
      simp [a] at hde

theorem Sound.step (hs : session.Sound output) {ev : Event}
    (st : session.step ev = some s') : s'.Sound output := by
  cases ev with
  | copies _ =>
    obtain ⟨_, copied, rfl⟩ := Option.map_eq_some_iff.mp st
    exact { hs with
      copies := hs.copies.copy copied
      ended := fun a => Pump.ended_copy (hs.ended a) copied }
  | reports _ res =>
    simp only [Session.step, Option.ite_none_left_eq_some, Option.some.injEq] at st
    obtain ⟨enabled, rfl⟩ := st
    simp at enabled
    exact hs.report enabled.2
  | cancels cause =>
    cases st
    have hca : session.cause.or (some cause) ≠ none := by simp
    exact ⟨hs.copies, hs.ended, fun _ none => absurd none hca, fun _ none => absurd none hca⟩
  | returns =>
    simp only [Session.step, Option.ite_none_left_eq_some] at st
    obtain ⟨_, st⟩ := st
    obtain ⟨res, chosen, rfl⟩ := Option.map_eq_some_iff.mp st
    refine { hs with decided := fun _ uncanceled => ?_ }
    have uncanceled : session.cause = none := uncanceled
    cases a : session.firstResult with
    | none => simp [uncanceled, a] at chosen
    | some report => rfl
  | sendsClose =>
    simp only [Session.step, Option.ite_none_left_eq_some, Option.some.injEq] at st
    obtain ⟨enabled, rfl⟩ := st
    simp at enabled
    refine { hs with closed := fun sent uncanceled => ?_ }
    cases sent
    exact ⟨hs.decided (Option.isSome_iff_ne_none.mpr enabled.1) uncanceled,
      fun _ a => hs.copies.drained (hs.ended a)⟩

/-- If the worker that copies the output is the first to report, the output is complete when the
close frame is sent. -/
theorem output_before_close {events : List Event} {written : List UInt8} {result : TerminalEnd}
    (ran : events.foldlM step { output := { unread := output } } = some session)
    (sent : session.closeFrame = some written) (uncanceled : session.cause = none)
    (first : session.firstResult = some (.writer, result)) : written = output := by
  have begins : Sound output { output := { unread := output } } :=
    ⟨⟨rfl, nofun⟩, nofun, nofun, nofun⟩
  have sound : session.Sound output := Concurrency.invariant_of_run begins
    (fun sound stepped => sound.step stepped) ran
  exact (sound.closed sent uncanceled).2 result first

def copiedFirst : List Event :=
  [.copies (.read 1), .copies .write, .copies .finish, .reports .writer .remoteEOF, .returns,
    .sendsClose]

theorem output_before_close_copied : ∃ session written,
    copiedFirst.foldlM step { output := { unread := [7] } } = some session ∧
      session.closeFrame = some written ∧ written = [7] :=
  ⟨_, _, rfl, rfl, @output_before_close [7] _ copiedFirst _ .remoteEOF rfl rfl rfl rfl⟩

/-- The exit of the shell is reported while its output is unread. -/
theorem close_before_output :
    ([.reports .waiter .remoteEOF, .returns, .sendsClose].foldlM step
      { output := { unread := [7] } }).any fun session =>
        session.cause = none && session.closeFrame = some [] := by
  decide

end Session

end AISummoner.Terminal
