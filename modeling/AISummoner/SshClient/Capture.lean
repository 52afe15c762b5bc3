import AISummoner.Agent.Invoke

/-! # The output of a remote command

`capturePair` of `internal/sshclient`: two goroutines read the two streams of a
remote command and share one budget of bytes, one more than the Agent shows.  The
last part follows the bytes up to the result of `execute`.
-/

namespace AISummoner.SshClient

open Concurrency Concurrency.Program
open Store (Bytes)
open Agent AISummoner.Runtime App

/-! ## The two captures -/

inductive Stream where
  | stdout
  | stderr
  deriving DecidableEq, Repr

structure CapturePair where
  remaining : Nat
  stdout : Bytes
  stderr : Bytes
  stdoutTruncated : Bool
  stderrTruncated : Bool
  deriving DecidableEq, Repr

def newCapturePair (limit : Nat) : CapturePair := ⟨limit, [], [], false, false⟩

namespace CapturePair

/-- The critical section of `drain`, for the bytes one `Read` has returned. -/
def accept (captures : CapturePair) (stream : Stream) (read : Bytes) : CapturePair :=
  let accepted := min read.length captures.remaining
  match stream with
  | .stdout => { captures with
      stdout := captures.stdout ++ read.take accepted
      stdoutTruncated := captures.stdoutTruncated || decide (accepted < read.length)
      remaining := captures.remaining - accepted }
  | .stderr => { captures with
      stderr := captures.stderr ++ read.take accepted
      stderrTruncated := captures.stderrTruncated || decide (accepted < read.length)
      remaining := captures.remaining - accepted }

def contents (captures : CapturePair) : Stream → Bytes
  | .stdout => captures.stdout
  | .stderr => captures.stderr

end CapturePair

/-- How `Read` ends. -/
inductive ReadEnd where
  | eof
  | failed
  deriving DecidableEq, Repr

/-- What the calls of `Read` on one stream return; bytes returned together with
    the end are the last chunk. -/
structure Reader where
  chunks : List Bytes
  ending : ReadEnd
  deriving DecidableEq, Repr

/-- The two goroutines that drain: the captures and what each has still to read. -/
structure Draining where
  captures : CapturePair
  stdout : List Bytes
  stderr : List Bytes
  deriving DecidableEq, Repr

namespace Draining

def unread (draining : Draining) : Stream → List Bytes
  | .stdout => draining.stdout
  | .stderr => draining.stderr

def setUnread (draining : Draining) (stream : Stream) (chunks : List Bytes) : Draining :=
  match stream with
  | .stdout => { draining with stdout := chunks }
  | .stderr => { draining with stderr := chunks }

def round (draining : Draining) (stream : Stream) : Option Draining :=
  match draining.unread stream with
  | [] => none
  | read :: chunks =>
    let captures := if read.length > 0 then draining.captures.accept stream read
      else draining.captures
    some ({ draining with captures }.setUnread stream chunks)

/-- The rounds of both goroutines, in the order in which they get the mutex. -/
def rounds (draining : Draining) : List Stream → Option Draining
  | [] => some draining
  | stream :: schedule => (draining.round stream).bind fun changed => changed.rounds schedule

end Draining

/-- The captures when both goroutines have come to the end of their stream. -/
def capture (limit : Nat) (stdout stderr : Reader) (schedule : List Stream) : Option CapturePair :=
  match Draining.rounds ⟨newCapturePair limit, stdout.chunks, stderr.chunks⟩ schedule with
  | some ⟨captures, [], []⟩ => some captures
  | _ => none

/-! ## Executing a command -/

def defaultCaptureLimit : Nat := 256 * 1024

def maxCaptureLimit : Nat := 1024 * 1024

/-- The limit `Exec` uses for a requested one. -/
def captureLimit (requested : Nat) : Option Nat :=
  let limit := if requested = 0 then defaultCaptureLimit else requested
  if limit < 1 ∨ limit > maxCaptureLimit then none else some limit

/-- What `session.Wait` returns. -/
inductive Waited where
  | exited
  | exitError (status : Int)
  | failed
  deriving DecidableEq, Repr

/-- The end of `Dialer.Exec`: a non-zero status is a result, a broken stream is not. -/
def execResult (captures : CapturePair) (stdout stderr : Reader) (waited : Waited) :
    Except AgentError RemoteExecution :=
  if stdout.ending ≠ .eof ∨ stderr.ending ≠ .eof then .error (.failed "read SSH exec output")
  else
    match waited with
    | .exited => .ok ⟨captures.stdout, captures.stderr, 0⟩
    | .exitError status => .ok ⟨captures.stdout, captures.stderr, status⟩
    | .failed => .error (.failed "wait for SSH exec")

/-- `remoteExecutor.Exec` once the command has started; `none` while the
    goroutines still read. -/
def execOutput (stdout stderr : Reader) (schedule : List Stream) (waited : Waited) :
    Option (Except AgentError RemoteExecution) :=
  match captureLimit (maxToolOutputBytes + 1) with
  | none => some (.error (.failed "invalid SSH capture limit"))
  | some limit =>
    (capture limit stdout stderr schedule).map fun captures =>
      execResult captures stdout stderr waited

/-! ## What the captures hold -/

/-- Of what was read, a byte is missing only when the budget is spent. -/
structure Holds (limit : Nat) (read : Stream → Bytes) (captures : CapturePair) : Prop where
  initial : ∀ stream, captures.contents stream <+: read stream
  budget : captures.stdout.length + captures.stderr.length + captures.remaining = limit
  whole : 0 < captures.remaining → ∀ stream, captures.contents stream = read stream

theorem holds_new (limit : Nat) : Holds limit (fun _ => []) (newCapturePair limit) where
  initial stream := by cases stream <;> exact List.prefix_rfl
  budget := by simp [newCapturePair]
  whole _ stream := by cases stream <;> rfl

namespace CapturePair

variable {captures : CapturePair} {stream o : Stream} {read : Bytes}

theorem accept_contents : (captures.accept stream read).contents stream =
    captures.contents stream ++ read.take (min read.length captures.remaining) := by
  cases stream <;> rfl

theorem accept_contents_ne (ne : o ≠ stream) :
    (captures.accept stream read).contents o = captures.contents o := by
  cases stream <;> cases o <;> first | rfl | exact absurd rfl ne

theorem accept_remaining : (captures.accept stream read).remaining =
    captures.remaining - min read.length captures.remaining := by
  cases stream <;> rfl

theorem accept_length :
    (captures.accept stream read).stdout.length + (captures.accept stream read).stderr.length =
      captures.stdout.length + captures.stderr.length + min read.length captures.remaining := by
  cases stream with
  | stdout | stderr => simp only [accept, List.length_append, List.length_take]; omega

end CapturePair

variable {schedule : List Stream} {captures : CapturePair} {stdout stderr : Reader} {limit : Nat}

theorem Holds.accept {read : Stream → Bytes} (hh : Holds limit read captures) (stream : Stream)
    (chk : Bytes) : Holds limit (Function.update read stream (read stream ++ chk))
      (captures.accept stream chk) where
  initial o := by
    by_cases h : o = stream
    · subst h
      rw [Function.update_self, CapturePair.accept_contents]
      rcases Nat.eq_zero_or_pos captures.remaining with spent | room
      · -- nothing more is kept, so what was read only grows
        rw [spent, Nat.min_zero, List.take_zero, List.append_nil]
        exact (hh.initial o).trans (List.prefix_append _ _)
      · rw [hh.whole room o]
        exact List.prefix_append_right_inj _ |>.mpr (List.take_prefix _ _)
    · rw [Function.update_of_ne h, CapturePair.accept_contents_ne h]
      exact hh.initial o
  budget := by
    have budget := hh.budget
    rw [CapturePair.accept_length, CapturePair.accept_remaining]
    omega
  whole room o := by
    rw [CapturePair.accept_remaining] at room
    by_cases h : o = stream
    · subst h
      have fits : min chk.length captures.remaining = chk.length := by omega
      rw [Function.update_self, CapturePair.accept_contents, fits, List.take_length,
        hh.whole (by omega) o]
    · rw [Function.update_of_ne h, CapturePair.accept_contents_ne h]
      exact hh.whole (by omega) o

def Reading (limit : Nat) (written : Stream → Bytes) (draining : Draining) : Prop :=
  ∃ read, Holds limit read draining.captures ∧
    ∀ stream, read stream ++ (draining.unread stream).flatten = written stream

theorem Draining.unread_setUnread (draining : Draining) (stream o : Stream) (chs : List Bytes) :
    (draining.setUnread stream chs).unread o = if o = stream then chs else draining.unread o := by
  cases stream <;> cases o <;> rfl

theorem Draining.captures_setUnread (draining : Draining) (stream : Stream) (chs : List Bytes) :
    (draining.setUnread stream chs).captures = draining.captures := by
  cases stream <;> rfl

variable {w outp : Stream → Bytes} {draining c' : Draining}
  {prop : ToolResult × Option AgentError → Prop}

theorem Reading.round {stream : Stream}
    (rd : Reading limit w draining) (went : draining.round stream = some c') :
    Reading limit w c' := by
  obtain ⟨read, hh, rest⟩ := rd
  unfold Draining.round at went
  split at went
  · cases went
  rename_i chk chs hl
  cases went
  refine ⟨Function.update read stream (read stream ++ chk), ?_, ?_⟩
  · rw [Draining.captures_setUnread]
    by_cases some : chk.length > 0
    · rw [if_pos some]
      exact hh.accept stream chk
    -- a `Read` of nothing does not take the mutex
    have hem : chk = [] := List.eq_nil_of_length_eq_zero (by omega)
    rw [if_neg some, hem, List.append_nil, Function.update_eq_self]
    exact hh
  · intro o
    have hwh := rest o
    rw [Draining.unread_setUnread]
    by_cases h : o = stream
    · subst h
      rw [hl, List.flatten_cons] at hwh
      rw [Function.update_self, if_pos rfl, List.append_assoc]
      exact hwh
    · rw [Function.update_of_ne h, if_neg h]
      exact hwh

theorem Reading.rounds
    (hrd : Reading limit w draining) (went : draining.rounds schedule = some c') :
    Reading limit w c' := by
  induction schedule generalizing draining with
  | nil =>
    cases went
    exact hrd
  | cons _ schedule ih =>
    obtain ⟨_, a, hoth⟩ := Option.bind_eq_some_iff.mp went
    exact ih (hrd.round a) hoth

def delivered (stdout stderr : Reader) : Stream → Bytes
  | .stdout => stdout.chunks.flatten
  | .stderr => stderr.chunks.flatten

/-- However the goroutines take turns, the captures end with all that was delivered
    or with as much of it as the limit allows. -/
theorem holds_of_capture (captured : capture limit stdout stderr schedule = some captures) :
    Holds limit (delivered stdout stderr) captures := by
  unfold capture at captured
  split at captured
  · rename_i hed went
    cases captured
    have hb : Reading limit (delivered stdout stderr)
        ⟨newCapturePair limit, stdout.chunks, stderr.chunks⟩ := by
      refine ⟨fun _ => [], holds_new limit, fun stream => ?_⟩
      cases stream <;> rfl
    obtain ⟨read, hh, rest⟩ := hb.rounds went
    have everything : read = delivered stdout stderr := by
      funext stream
      have hwh := rest stream
      cases stream <;> simpa [Draining.unread] using hwh
    exact everything ▸ hh
  · cases captured

theorem capture_length (captured : capture limit stdout stderr schedule = some captures) :
    captures.stdout.length + captures.stderr.length = min limit
      ((delivered stdout stderr .stdout).length + (delivered stdout stderr .stderr).length) := by
  have hh := holds_of_capture captured
  have budget := hh.budget
  have ha : captures.stdout.length ≤ (delivered stdout stderr .stdout).length :=
    (hh.initial .stdout).length_le
  have hb : captures.stderr.length ≤ (delivered stdout stderr .stderr).length :=
    (hh.initial .stderr).length_le
  rcases Nat.eq_zero_or_pos captures.remaining with _ | room
  · omega
  have stdoutWhole : captures.stdout = delivered stdout stderr .stdout := hh.whole room .stdout
  have stderrWhole : captures.stderr = delivered stdout stderr .stderr := hh.whole room .stderr
  rw [stdoutWhole, stderrWhole] at budget ⊢
  omega

/-! ## What the Agent shows -/

/-- `result` shows the streams `output` as far as `maximum` bytes go, and says so. -/
structure Shows (maximum : Nat) (output : Stream → Bytes) (result : ToolResult) : Prop where
  truncated : result.truncated = true ↔
    (output .stdout).length + (output .stderr).length > maximum
  stdout : result.stdout <+: output .stdout
  stderr : result.stderr <+: output .stderr
  bounded : result.stdout.length + result.stderr.length ≤ maximum
  complete : result.truncated = false →
    result.stdout = output .stdout ∧ result.stderr = output .stderr

theorem shows_truncateOutput {mx : Nat} {stdout stderr : Bytes}
    (stdoutInitial : stdout <+: outp .stdout) (stderrInitial : stderr <+: outp .stderr)
    (hlen : stdout.length + stderr.length =
      min (mx + 1) ((outp .stdout).length + (outp .stderr).length)) (exitCode : Int) :
    Shows mx outp {
        stdout := (truncateOutput stdout stderr mx).1
        stderr := (truncateOutput stdout stderr mx).2.1
        exitCode
        truncated := (truncateOutput stdout stderr mx).2.2 } := by
  have stdoutShorter := stdoutInitial.length_le
  have stderrShorter := stderrInitial.length_le
  unfold truncateOutput
  by_cases fits : stdout.length + stderr.length ≤ mx
  · -- less than the budget was captured, so nothing is missing
    have stdoutWhole := stdoutInitial.eq_of_length (by omega)
    have stderrWhole := stderrInitial.eq_of_length (by omega)
    rw [if_pos fits]
    refine ⟨⟨nofun, ?_⟩, stdoutInitial, stderrInitial, fits, fun _ => ⟨stdoutWhole, stderrWhole⟩⟩
    intro _
    omega
  · rw [if_neg fits]
    refine ⟨⟨fun _ => by omega, fun _ => rfl⟩, ?_, ?_, ?_, nofun⟩
    · exact (List.take_prefix _ _).trans stdoutInitial
    · exact (List.take_prefix _ _).trans stderrInitial
    · simp only [List.length_take]
      omega

def Delivers (output : Stream → Bytes) (stdout stderr : Reader) : Prop :=
  (stdout.ending = .eof → stdout.chunks.flatten = output .stdout) ∧
    (stderr.ending = .eof → stderr.chunks.flatten = output .stderr)

/-- The answer of a command that writes `output`, whatever the chunks in which its
    bytes are read and the order of the goroutines that read them. -/
def Answers (output : Stream → Bytes) : (operation : Operation) → operation.Response → Prop
  | .remoteCommand _, response => ∀ execution, response = .ok execution →
    ∃ stdout stderr schedule waited, Delivers output stdout stderr ∧
      execOutput stdout stderr schedule waited = some (.ok execution)
  | _, _ => True

theorem shows_execOutput {waited : Waited} {exe : RemoteExecution}
    (delivers : Delivers outp stdout stderr)
    (ran : execOutput stdout stderr schedule waited = some (.ok exe)) :
    Shows maxToolOutputBytes outp
      { stdout := (truncateOutput exe.stdout exe.stderr maxToolOutputBytes).1
        stderr := (truncateOutput exe.stdout exe.stderr maxToolOutputBytes).2.1
        exitCode := exe.exitCode
        truncated := (truncateOutput exe.stdout exe.stderr maxToolOutputBytes).2.2 } := by
  have limit : captureLimit (maxToolOutputBytes + 1) = some (maxToolOutputBytes + 1) := rfl
  simp only [execOutput, limit, Option.map_eq_some_iff] at ran
  obtain ⟨captures, captured, res⟩ := ran
  have ends : stdout.ending = .eof ∧ stderr.ending = .eof := by
    by_contra broken
    unfold execResult at res
    rw [if_pos (by tauto)] at res
    cases res
  have h : delivered stdout stderr = outp := by
    funext stream
    cases stream with
    | stdout => exact delivers.1 ends.1
    | stderr => exact delivers.2 ends.2
  have hcts : exe.stdout = captures.stdout ∧ exe.stderr = captures.stderr := by
    unfold execResult at res
    rw [if_neg (by tauto)] at res
    cases waited <;> cases res <;> exact ⟨rfl, rfl⟩
  have hh := holds_of_capture captured
  have hlen := capture_length captured
  rw [h] at hh hlen
  rw [hcts.1, hcts.2]
  exact shows_truncateOutput (hh.initial .stdout) (hh.initial .stderr) hlen _

section Returns

variable {an : (op : Operation) → op.Response → Prop}

theorem returnsWhen_deferring {α : Type} {body : Code α} {deferred : Code Unit}
    {prop : α → Prop} (hh : body.returnsWhen an prop) :
    (deferring body deferred).returnsWhen an prop := by
  apply returnsWhen_bind
  apply returnsWhen_mono hh
  intro v keeps
  apply returnsWhen_rest
  exact fun _ => keeps

theorem exec_returnsWhen {prop : Except AgentError RemoteExecution → Prop} (ctx : Context)
    (did : String) (tg : ExecutionTarget) (cmd cwd : String) (fails : ∀ err, prop (.error err))
    (executes : ∀ cn r, an (.remoteCommand cn) r →
      prop r) : (exec ctx did tg cmd cwd).returnsWhen an prop := by
  unfold exec
  split
  · exact fails _
  split
  · exact fails _
  apply returnsWhen_rest
  rintro (err | cn)
  · exact fails _
  intro r han
  show ((checkContext ctx).chain fun _ => .done r).returnsWhen _ _
  apply returnsWhen_rest
  rintro (err | _)
  · exact fails _
  · exact executes cn r han

theorem runRemote_returnsWhen (ctx : Context)
    (ses : Store.AgentSession) (tg : ExecutionTarget) (args : RemoteExecArguments)
    (fails : ∀ err hed, prop (Service.toolFailure
      (Service.executionFailureCode err hed) "remote execution failed" err))
    (executes : ∀ cn exe, an (.remoteCommand cn) (.ok exe) → prop ({
        stdout := (truncateOutput exe.stdout exe.stderr maxToolOutputBytes).1
        stderr := (truncateOutput exe.stdout exe.stderr maxToolOutputBytes).2.1
        exitCode := exe.exitCode
        truncated := (truncateOutput exe.stdout exe.stderr maxToolOutputBytes).2.2 }, none)) :
    (Service.runRemote ctx ses tg args).returnsWhen an prop := by
  intro scp _
  show (deferring _ (cancel scp)).returnsWhen _ _
  apply returnsWhen_deferring
  apply returnsWhen_rest
  intro _
  apply returnsWhen_bind
  apply exec_returnsWhen
  · exact fun err _ _ => fails _ _
  · rintro cn (err | exe) han
    · exact fun _ _ => fails _ _
    · exact executes cn exe han

/-- The failures `execute` has before it calls the executor. -/
def executionRefusals : List ToolFailure :=
  [⟨failureExecCanceled, "remote execution canceled"⟩, ⟨failureDeviceNotFound, "device not found"⟩,
    ⟨failureDeviceOffline, "device is offline"⟩]

theorem execute_returnsWhen {ctx : Context}
    {ses : Store.AgentSession} {tg : ExecutionTarget} {args : RemoteExecArguments}
    (hrfs : ∀ err ∈ executionRefusals, ∀ er, prop (Service.toolFailure err.code err.message er))
    (runs : (Service.runRemote ctx ses tg args).returnsWhen an prop) :
    (Service.execute ctx ses tg args).returnsWhen an prop := by
  have hca (er : AgentError) : prop (Service.canceledExecution er) :=
    hrfs ⟨failureExecCanceled, "remote execution canceled"⟩ (by decide) er
  unfold Service.execute
  apply returnsWhen_rest
  rintro (_ | er)
  · rintro (er | _) _
    · exact hrfs ⟨failureDeviceNotFound, "device not found"⟩ (by decide) _
    intro hon _
    show (if !hon then _ else _ : Code _).returnsWhen _ _
    split
    · exact hrfs ⟨failureDeviceOffline, "device is offline"⟩ (by decide) _
    apply returnsWhen_rest
    rintro (_ | er)
    · exact runs
    · exact hca er
  · exact hca er

end Returns

/-- For every interleaving and chunking of the bytes a remote command writes, the
    result of a successful execution is truncated exactly if more than 256 KiB were
    written; it shows a part from the start of each stream, together at most 256 KiB,
    and all of both streams if it is not truncated. -/
theorem execute_shows_output (ctx : Context) (session : Store.AgentSession)
    (target : ExecutionTarget) (arguments : RemoteExecArguments) (output : Stream → Bytes) :
    (Service.execute ctx session target arguments).returnsWhen (Answers output)
      fun (result, failure) => failure = none → Shows (256 * 1024) output result := by
  apply execute_returnsWhen
  · exact fun _ _ _ => nofun
  apply runRemote_returnsWhen
  · exact fun _ _ => nofun
  · intro connection execution answered _
    obtain ⟨stdout, stderr, schedule, waited, delivers, executed⟩ := answered execution rfl
    exact shows_execOutput delivers executed

end AISummoner.SshClient
