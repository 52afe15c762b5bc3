import AISummoner.Concurrency.Schedule
import AISummoner.Streams.Pump

/-! # The output of a shell at its exit

A goroutine copies the PTY master to the SSH channel.  `finishProcess` waits for the
leader, reports its status and closes the channel; only `finish`, after that, joins
the copying goroutine.
-/

namespace AISummoner.SshServer

open Streams

/-- How far `finishProcess` has come. -/
inductive Finishing where
  | waiting | waited | reported | endedOutput | closed | finishing | finished
  deriving DecidableEq, Repr

/-- A shell whose channel takes every write until it is closed. -/
structure Shell where
  output : Pump UInt8 := { unread := [] }
  /-- Everything the terminal had yielded, or had ready, when the leader exited. -/
  atExit : Option (List UInt8) := none
  stage : Finishing := .waiting
  /-- What had been written when the channel was closed for writing, and whether the copying
  goroutine had come to its end. -/
  atClose : Option (List UInt8 × Bool) := none
  deriving DecidableEq, Repr

inductive Event where
  /-- A process of the session writes to the terminal. -/
  | prints (bytes : List UInt8)
  | copies (action : Copying)
  /-- The copying goroutine ends because one of its files is closed. -/
  | fails
  | exits
  | proceeds
  deriving DecidableEq, Repr

namespace Shell

/-- What the terminal has yielded or has ready. -/
def yielded (shell : Shell) : List UInt8 :=
  shell.output.written ++ shell.output.held ++ shell.output.unread

/-- The next statement of `finishProcess`. -/
def proceed (shell : Shell) : Option Shell :=
  match shell.stage with
  | .waiting => if shell.atExit.isSome then some { shell with stage := .waited } else none
  | .waited => some { shell with stage := .reported }
  | .reported =>
    some { shell with
      stage := .endedOutput, atClose := some (shell.output.written, shell.output.ended) }
  | .endedOutput => some { shell with stage := .closed }
  | .closed => some { shell with stage := .finishing }
  | .finishing => if shell.output.ended then some { shell with stage := .finished } else none
  | .finished => none

def step (shell : Shell) : Event → Option Shell
  | .prints bytes =>
    if shell.output.ended then none
    else some { shell with output := { shell.output with unread := shell.output.unread ++ bytes } }
  | .copies action =>
    if shell.atClose.isSome then none
    else (shell.output.copy action).map fun output => { shell with output }
  | .fails =>
    if shell.atClose.isSome then some { shell with output := { shell.output with ended := true } }
    else none
  | .exits =>
    if shell.atExit.isSome then none
    else some { shell with atExit := some shell.yielded }
  | .proceeds => shell.proceed

structure Sound (shell : Shell) : Prop where
  copies : shell.atClose = none → shell.output.Copies shell.yielded
  kept : ∀ {bytes}, shell.atExit = some bytes → bytes <+: shell.yielded
  exited : shell.stage ≠ .waiting → shell.atExit.isSome = true
  opened : shell.stage ∈ [.waiting, .waited, .reported] → shell.atClose = none
  closed : ∀ {written bytes}, shell.atClose = some (written, true) → shell.atExit = some bytes →
    bytes <+: written

variable {shell s' : Shell}

theorem Sound.advance (hs : shell.Sound) (exited : shell.atExit.isSome) {stage : Finishing}
    (hop : stage ∈ [.waiting, .waited, .reported] →
      shell.stage ∈ [.waiting, .waited, .reported]) : { shell with stage }.Sound :=
  ⟨hs.copies, hs.kept, fun _ => exited, fun early => hs.opened (hop early), hs.closed⟩

theorem Sound.proceed (hs : shell.Sound) (pr : shell.proceed = some s') : s'.Sound := by
  have exited {stage : Finishing} (at_ : shell.stage = stage) (hk' : stage ≠ .waiting) :
      shell.atExit.isSome := hs.exited (at_ ▸ hk')
  unfold Shell.proceed at pr
  split at pr
  next stage =>
    simp only [Option.ite_none_right_eq_some, Option.some.injEq] at pr
    obtain ⟨gone, rfl⟩ := pr
    exact hs.advance gone fun _ => by simp [stage]
  next stage =>
    cases pr
    exact hs.advance (exited stage nofun) fun _ => by simp [stage]
  next stage =>
    cases pr
    have copies := hs.copies (hs.opened (by simp [stage]))
    refine ⟨nofun, hs.kept, fun _ => exited stage nofun, fun early => by simp at early, ?_⟩
    intro _ _ shut gone
    simp only [Option.some.injEq, Prod.mk.injEq] at shut
    rw [← shut.1, copies.drained shut.2]
    exact hs.kept gone
  next stage =>
    cases pr
    exact hs.advance (exited stage nofun) fun early => by simp at early
  next stage =>
    cases pr
    exact hs.advance (exited stage nofun) fun early => by simp at early
  next stage =>
    simp only [Option.ite_none_right_eq_some, Option.some.injEq] at pr
    obtain ⟨_, rfl⟩ := pr
    exact hs.advance (exited stage nofun) fun early => by simp at early
  next => cases pr

theorem Sound.step (hs : shell.Sound) {ev : Event} (st : shell.step ev = some s') : s'.Sound := by
  cases ev with
  | prints bs =>
    simp only [Shell.step, Option.ite_none_left_eq_some, Option.some.injEq, Bool.not_eq_true] at st
    obtain ⟨hue, rfl⟩ := st
    refine { hs with copies := fun _ => ⟨rfl, fun hed => ?_⟩, kept := fun gone => ?_ }
    · cases hue.symm.trans hed
    · exact (hs.kept gone).trans ⟨bs, by simp [yielded]⟩
  | copies _ =>
    simp only [Shell.step, Option.ite_none_left_eq_some] at st
    obtain ⟨open_, st⟩ := st
    obtain ⟨output, copied, rfl⟩ := Option.map_eq_some_iff.mp st
    -- copying moves bytes, and yields none
    have copies := (hs.copies (Option.not_isSome_iff_eq_none.mp open_)).copy copied
    have h : { shell with output }.yielded = shell.yielded := copies.total
    exact { hs with copies := fun _ => h ▸ copies, kept := fun gone => h ▸ hs.kept gone }
  | fails =>
    simp only [Shell.step, Option.ite_none_right_eq_some, Option.some.injEq] at st
    obtain ⟨shut, rfl⟩ := st
    have shut : shell.atClose.isSome := shut
    exact { hs with copies := fun none => by rw [none] at shut; cases shut }
  | exits =>
    simp only [Shell.step, Option.ite_none_left_eq_some, Option.some.injEq] at st
    obtain ⟨hab, rfl⟩ := st
    have hwt : shell.stage = .waiting := Decidable.byContradiction fun k' => hab (hs.exited k')
    have none := hs.opened (by simp [hwt])
    refine { hs with kept := fun gone => ?_, exited := fun _ => rfl, closed := fun shut => ?_ }
    · cases gone
      exact List.prefix_rfl
    · cases none.symm.trans shut
  | proceeds => exact hs.proceed st

/-- If the copying goroutine has come to its end when the channel is closed, everything the terminal
had yielded at the exit of the leader was written before. -/
theorem output_before_channel_close {events : List Event} {written bytes : List UInt8}
    (ran : events.foldlM step {} = some shell) (closed : shell.atClose = some (written, true))
    (exited : shell.atExit = some bytes) : bytes <+: written := by
  have begins : Sound {} := ⟨fun _ => ⟨rfl, nofun⟩, nofun, nofun, fun _ => rfl, nofun⟩
  have sound : shell.Sound := Concurrency.invariant_of_run begins
    (fun sound stepped => sound.step stepped) ran
  exact sound.closed closed exited

def copiedFirst : List Event :=
  [.prints [7], .exits, .copies (.read 1), .copies .write, .copies .finish, .proceeds, .proceeds,
    .proceeds]

theorem output_before_channel_close_copied : ∃ shell, copiedFirst.foldlM step {} = some shell ∧
    shell.atExit = some [7] ∧ ∃ written, shell.atClose = some (written, true) ∧ [7] <+: written :=
  ⟨_, rfl, rfl, _, rfl, @output_before_channel_close _ copiedFirst _ [7] rfl rfl rfl⟩

/-- The channel is closed while the output is unread. -/
theorem channel_close_before_output :
    ([.prints [7], .exits, .proceeds, .proceeds, .proceeds].foldlM step {}).any fun shell =>
      shell.atExit = some [7] && shell.atClose = some ([], false) := by
  decide

end Shell

end AISummoner.SshServer
