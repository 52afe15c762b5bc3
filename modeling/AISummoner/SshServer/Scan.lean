import Mathlib

/-! # Scanning for the processes of a session

A scan lists PIDs, opens a pidfd for each and signals through it what still has the
PID and is of the scope.  Every call has a moment of its own.  The signal is left
out, and a pidfd is the process it names with the moment it was opened at.
-/

namespace AISummoner.SshServer

/-- `ESRCH`, `os.ErrNotExist` and all others. -/
inductive ScanError where
  | noProcess | notExist | other
  deriving DecidableEq, Repr

structure ProcessIdentity where
  pid : Int
  processGroup : Int
  session : Int
  startTime : Nat
  deriving DecidableEq, Repr

structure ProcessScope where
  processGroup : Int
  session : Int
  deriving DecidableEq, Repr

/-- `matches` -/
def ProcessScope.matchesIdentity (scope : ProcessScope) (identity : ProcessIdentity) : Bool :=
  if scope.session > 1 then identity.session = scope.session
  else scope.processGroup > 1 && identity.processGroup = scope.processGroup

/-- What the kernel does, moment by moment: processes are numbered, and a PID is theirs until they
are reaped. -/
structure Kernel where
  pid : Nat → Int
  /-- The unreaped process with a PID. -/
  holder : Nat → Int → Option Nat
  session : Nat → Nat → Int
  processGroup : Nat → Nat → Int
  startTime : Nat → Nat
  candidates : Nat → Except ScanError (List Int)
  /-- Why a call fails other than for want of the process. -/
  fault : Nat → Option ScanError
  named : ∀ {moment number process}, holder moment number = some process → pid process = number
  unreaped : ∀ {first middle last number process}, first ≤ middle → middle ≤ last →
    holder first number = some process → holder last number = some process →
    holder middle number = some process

structure PIDFD where
  process : Nat
  opened : Nat
  deriving DecidableEq, Repr

inductive Action where
  | opened (pidfd : PIDFD)
  | signaled (pidfd : PIDFD)
  | closed (pidfd : PIDFD)
  deriving DecidableEq, Repr

structure Scan where
  matched : Nat := 0
  result : List ScanError := []
  log : List Action := []
  deriving DecidableEq, Repr

inductive CleanupError where
  | scan (errors : List ScanError)
  | deadline
  deriving DecidableEq, Repr

def cleanupQuiescence : Nat := 2

namespace Kernel

variable (kernel : Kernel)

def identityOf (moment process : Nat) : ProcessIdentity :=
  ⟨kernel.pid process, kernel.processGroup moment process, kernel.session moment process,
    kernel.startTime process⟩

def lookup (absent : ScanError) (moment : Nat) (pid : Int) : Except ScanError Nat :=
  match kernel.fault moment, kernel.holder moment pid with
  | some error, _ => .error error
  | none, none => .error absent
  | none, some process => .ok process

/-- `readProcessIdentity` -/
def identity (moment : Nat) (pid : Int) : Except ScanError ProcessIdentity :=
  (kernel.lookup .notExist moment pid).map (kernel.identityOf moment)

def verifiedPIDFDIdentity (moment : Nat) (pid : Int) (process : Nat) :
    Except ScanError ProcessIdentity :=
  match kernel.identity moment pid with
  | .error error => .error error
  | .ok identity =>
    -- `readPIDFDProcessID`
    if kernel.lookup .noProcess (moment + 1) (kernel.pid process) ≠ .ok process ∨
        kernel.pid process ≠ pid then .error .noProcess
    else
      match kernel.identity (moment + 2) pid with
      | .error error => .error error
      | .ok confirmed =>
        if identity ≠ confirmed ∨ identity.pid ≠ pid then .error .noProcess else .ok identity

/-- One round of `signalProcessCandidates`. -/
def signalCandidate (scope : ProcessScope) (moment : Nat) (pid : Int) : Scan :=
  match kernel.lookup .noProcess moment pid with
  | .error error => { result := if error = .noProcess then [] else [error] }
  | .ok process =>
    let pidfd : PIDFD := ⟨process, moment⟩
    match kernel.verifiedPIDFDIdentity (moment + 1) pid process with
    | .ok identity =>
      if scope.matchesIdentity identity then
        { matched := 1
          result := ((kernel.fault (moment + 4)).filter (· ≠ .noProcess)).toList
          log := [.opened pidfd, .signaled pidfd, .closed pidfd] }
      else { log := [.opened pidfd, .closed pidfd] }
    | .error error =>
      { result := if error = .noProcess ∨ error = .notExist then [] else [error]
        log := [.opened pidfd, .closed pidfd] }

def signalProcessCandidates (scope : ProcessScope) (moment : Nat) : List Int → Scan
  | [] => {}
  | pid :: pids =>
    let first := kernel.signalCandidate scope moment pid
    let rest := signalProcessCandidates scope (moment + 6) pids
    ⟨first.matched + rest.matched, first.result ++ rest.result, first.log ++ rest.log⟩

def signalProcessScope (scope : ProcessScope) (leaderPID : Int) (moment : Nat) : Scan :=
  match kernel.candidates moment with
  | .error error => { result := [error] }
  | .ok pids => kernel.signalProcessCandidates scope (moment + 1)
      (pids.filter fun pid => pid > 1 && pid ≠ leaderPID)

/-- A round begins at some moment, and may find the deadline passed at its end.  The scans made are
kept, the newest first, with the result, if there is one yet. -/
def clearProcessScope (scope : ProcessScope) (leaderPID : Int) (quietScans : Nat)
    (scans : List Scan) : List (Nat × Bool) → List Scan × Option (Option CleanupError)
  | [] => (scans, none)
  | (moment, late) :: rounds =>
    let scan := kernel.signalProcessScope scope leaderPID moment
    let quietScans := if scan.matched = 0 then quietScans + 1 else 0
    if scan.result ≠ [] then (scan :: scans, some (some (.scan scan.result)))
    else if quietScans ≥ cleanupQuiescence then (scan :: scans, some none)
    else if late then (scan :: scans, some (some .deadline))
    else clearProcessScope scope leaderPID quietScans (scan :: scans) rounds

variable {kernel} {scp : ProcessScope} {leaderPID : Int} {moment : Nat} {pid : Int} {process : Nat}

theorem holder_of_lookup {ab : ScanError} (hf : kernel.lookup ab moment pid = .ok process) :
    kernel.holder moment pid = some process := by
  unfold lookup at hf
  split at hf
  all_goals simp_all

theorem identity_of_verified {identity : ProcessIdentity}
    (hop : kernel.holder moment pid = some process)
    (hvf : kernel.verifiedPIDFDIdentity (moment + 1) pid process = .ok identity) :
    identity = kernel.identityOf (moment + 1) process := by
  unfold verifiedPIDFDIdentity at hvf
  split at hvf
  · cases hvf
  rename_i a read
  split at hvf
  · cases hvf
  rename_i anchored
  simp only [ne_eq, not_or, not_not] at anchored
  obtain ⟨anchored, rfl⟩ := anchored
  have still : kernel.holder (moment + 1) (kernel.pid process) = some process :=
    kernel.unreaped (Nat.le_succ _) (Nat.le_succ _) hop (holder_of_lookup anchored)
  split at hvf
  · cases hvf
  split at hvf
  · cases hvf
  cases hvf
  cases hlk : kernel.lookup .notExist (moment + 1) (kernel.pid process) with
  | error _ => simp [Kernel.identity, hlk, Except.map] at read
  | ok _ =>
    cases Option.some.inj ((holder_of_lookup hlk).symm.trans still)
    simpa [Kernel.identity, hlk, Except.map] using read.symm

/-- What a scan of these PIDs does is done with pidfds it closes, and it signals only processes of
the scope. -/
structure Careful (kernel : Kernel) (scope : ProcessScope) (pids : List Int) (log : List Action) :
    Prop where
  closes : ∀ {pidfd}, .opened pidfd ∈ log → .closed pidfd ∈ log
  signals : ∀ {pidfd}, .signaled pidfd ∈ log → .opened pidfd ∈ log ∧
    kernel.pid pidfd.process ∈ pids ∧
    ∃ later > pidfd.opened, scope.matchesIdentity (kernel.identityOf later pidfd.process)

theorem careful_signalCandidate :
    Careful kernel scp [pid] (kernel.signalCandidate scp moment pid).log := by
  unfold signalCandidate
  split
  · exact ⟨nofun, nofun⟩
  rename_i process hf
  have hop := holder_of_lookup hf
  simp only
  split
  · rename_i identity hvf
    split
    · rename_i hma
      refine ⟨by simp, fun signaled => ?_⟩
      simp only [List.mem_cons, reduceCtorEq, Action.signaled.injEq, List.not_mem_nil, or_false,
        false_or] at signaled
      subst signaled
      refine ⟨by simp, by simp [kernel.named hop], moment + 1, Nat.lt_succ_self _, ?_⟩
      exact identity_of_verified hop hvf ▸ hma
    · exact ⟨by simp, by simp⟩
  · exact ⟨by simp, by simp⟩

theorem Careful.append {pids oth : List Int} {log rest : List Action}
    (careful : Careful kernel scp pids log) (also : Careful kernel scp oth rest) :
    Careful kernel scp (pids ++ oth) (log ++ rest) := by
  refine ⟨fun hop => ?_, fun signaled => ?_⟩
  · exact List.mem_append.mpr ((List.mem_append.mp hop).imp careful.closes also.closes)
  · rcases List.mem_append.mp signaled with early | late
    · obtain ⟨hop, hli, hma⟩ := careful.signals early
      exact ⟨List.mem_append_left _ hop, List.mem_append_left _ hli, hma⟩
    · obtain ⟨hop, hli, hma⟩ := also.signals late
      exact ⟨List.mem_append_right _ hop, List.mem_append_right _ hli, hma⟩

theorem careful_signalProcessCandidates {pids : List Int} :
    Careful kernel scp pids (kernel.signalProcessCandidates scp moment pids).log := by
  induction pids generalizing moment with
  | nil => exact ⟨nofun, nofun⟩
  | cons _ pids ih => exact careful_signalCandidate.append ih

def Quiet (count : Nat) (scans : List Scan) : Prop :=
  count ≤ scans.length ∧ ∀ scan ∈ scans.take count, scan.matched = 0 ∧ scan.result = []

theorem quiet_of_cleared {quietScans : Nat} {scans all : List Scan} {rds : List (Nat × Bool)}
    (hq : Quiet quietScans scans)
    (hcl : kernel.clearProcessScope scp leaderPID quietScans scans rds = (all, some none)) :
    Quiet cleanupQuiescence all := by
  induction rds generalizing quietScans scans with
  | nil => cases hcl
  | cons round rds ih =>
    simp only [clearProcessScope] at hcl
    generalize kernel.signalProcessScope scp leaderPID round.1 = scan at hcl
    split at hcl
    · cases hcl
    rename_i hcm
    have further : Quiet (if scan.matched = 0 then quietScans + 1 else 0) (scan :: scans) := by
      split
      · simp_all [Quiet]
      · simp [Quiet]
    generalize (if scan.matched = 0 then quietScans + 1 else 0) = count at hcl further
    split at hcl
    · rename_i enough
      cases hcl
      refine ⟨Nat.le_trans enough further.1, fun scan recent => further.2 scan ?_⟩
      exact (List.take_sublist_take_left enough).mem recent
    split at hcl
    · cases hcl
    · exact ih further hcl

end Kernel

end AISummoner.SshServer
