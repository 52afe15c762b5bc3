import AISummoner.Streams.Source

/-! # A scanner with a growing buffer

The loop of Go's `bufio.Scanner`: a split function is offered what is buffered; if it
wants more, the buffer is shifted, doubled up to a maximum, and filled by one read.
It is offered prefixes of the stream, and the last one decides (`scan_cases`).
-/

namespace AISummoner.Streams

variable {α τ : Type}

inductive Stop where
  | ended (ending : Ending)
  | tooLong
  deriving DecidableEq, Repr

structure Scanner (α : Type) where
  /-- What is buffered: `buf[start:end]`. -/
  data : List α
  start : Nat
  /-- `len(buf)`. -/
  size : Nat
  stop : Option Stop
  source : Source α

/-- A split function: how far to advance and the token, or a request for more.  The
flag says that there is no more. -/
abbrev Split (α τ : Type) := List α → Bool → Option (Nat × τ)

namespace Scanner

def new (size : Nat) (source : Source α) : Scanner α :=
  { data := [], start := 0, size, stop := none, source }

def remaining (scanner : Scanner α) : List α :=
  scanner.data ++ scanner.source.unread

/-- The error of `Err`: the end of the file is none. -/
def err (scanner : Scanner α) : Option Stop :=
  if scanner.stop = some (.ended .endOfFile) then none else scanner.stop

def advance (scanner : Scanner α) (count : Nat) : Scanner α :=
  { scanner with data := scanner.data.drop count, start := scanner.start + count }

def offer (split : Split α τ) (scanner : Scanner α) : Option (Nat × τ) :=
  if scanner.data ≠ [] ∨ scanner.stop ≠ none then split scanner.data scanner.stop.isSome
  else none

/-- Move the data to the front if that is needed or frees much. -/
def shift (scanner : Scanner α) : Scanner α :=
  if 0 < scanner.start ∧
      (scanner.start + scanner.data.length = scanner.size ∨ scanner.size / 2 < scanner.start) then
    { scanner with start := 0 }
  else scanner

/-- A larger buffer; `startBufSize` stands for the double of none. -/
def resize (maximum : Nat) (scanner : Scanner α) : Scanner α :=
  { scanner with
    start := 0
    size := min (if scanner.size = 0 then 4096 else 2 * scanner.size) maximum }

/-- One read into the free end of the buffer. -/
def fill (scanner : Scanner α) : Scanner α :=
  { scanner with
    data := scanner.data ++
      (scanner.source.read (scanner.size - (scanner.start + scanner.data.length))).data
    stop :=
      (scanner.source.read (scanner.size - (scanner.start + scanner.data.length))).ending.map
        .ended
    source :=
      (scanner.source.read (scanner.size - (scanner.start + scanner.data.length))).rest }

/-- Make room, or find that the buffer may not grow. -/
def makeRoom (maximum : Nat) (scanner : Scanner α) : Option (Scanner α) :=
  if scanner.shift.start + scanner.shift.data.length = scanner.shift.size then
    if maximum ≤ scanner.shift.size then none else some (scanner.shift.resize maximum)
  else some scanner.shift

/-- The loop of `Scan`, for a number of rounds. -/
def scanLoop (split : Split α τ) (maximum : Nat) : Nat → Scanner α → Option τ × Scanner α
  | 0, scanner => (none, scanner)
  | rounds + 1, scanner =>
    match scanner.offer split with
    | some (count, token) => (some token, scanner.advance count)
    | none =>
      if scanner.stop ≠ none then (none, { scanner with data := [], start := 0 })
      else match scanner.makeRoom maximum with
        | none => (none, { scanner.shift with stop := some .tooLong })
        | some roomy => scanLoop split maximum rounds roomy.fill

/-- Every round but the last reads an element or the ending. -/
def scan (split : Split α τ) (maximum : Nat) (scanner : Scanner α) : Option τ × Scanner α :=
  scanLoop split maximum (scanner.source.unread.length + 2) scanner

/-- The tokens of at most so many scans, each with `Err` at that time, and `Err` after
the scan that found none. -/
def drainLoop (split : Split α τ) (maximum : Nat) :
    Nat → Scanner α → List (τ × Option Stop) × Option Stop
  | 0, scanner => ([], scanner.err)
  | scans + 1, scanner =>
    match scanner.scan split maximum with
    | (none, scanner) => ([], scanner.err)
    | (some token, scanner) =>
      let rest := drainLoop split maximum scans scanner
      ((token, scanner.err) :: rest.1, rest.2)

/-- All tokens; every token takes an element at least. -/
def drain (split : Split α τ) (maximum : Nat) (scanner : Scanner α) :
    List (τ × Option Stop) × Option Stop :=
  drainLoop split maximum (scanner.remaining.length + 1) scanner

/-! ## One round -/

variable {scanner : Scanner α} {mx : Nat}

theorem offer_of_ne_nil (sp : Split α τ) (hfi : scanner.data ≠ [] ∨ scanner.stop ≠ none) :
    scanner.offer sp = sp scanner.data scanner.stop.isSome := by
  rw [offer, if_pos hfi]

theorem offer_eq_some {split : Split α τ} {ans : Nat × τ} (hof : scanner.offer split = some ans) :
    split scanner.data scanner.stop.isSome = some ans := by
  unfold offer at hof
  split at hof
  · exact hof
  · cases hof

/-- The data lies in the buffer, and reads stop only at the end of the stream. -/
structure Sound (scanner : Scanner α) : Prop where
  bounded : scanner.start + scanner.data.length ≤ scanner.size
  positive : 0 < scanner.size
  stopped : ∀ stop, scanner.stop = some stop →
    stop = .ended scanner.source.ending ∧ scanner.source.unread = []

@[simp] theorem shift_data (scanner : Scanner α) : scanner.shift.data = scanner.data := by
  unfold shift
  split <;> rfl

@[simp] theorem shift_size (scanner : Scanner α) : scanner.shift.size = scanner.size := by
  unfold shift
  split <;> rfl

@[simp] theorem shift_source (scanner : Scanner α) : scanner.shift.source = scanner.source := by
  unfold shift
  split <;> rfl

@[simp] theorem shift_stop (scanner : Scanner α) : scanner.shift.stop = scanner.stop := by
  unfold shift
  split <;> rfl

theorem shift_start_le (scanner : Scanner α) : scanner.shift.start ≤ scanner.start := by
  unfold shift
  split
  · exact Nat.zero_le _
  · exact Nat.le_refl _

theorem start_of_shift_full
    (full : scanner.shift.start + scanner.shift.data.length = scanner.shift.size) :
    scanner.data.length = scanner.size := by
  unfold shift at full
  split at full
  · simpa using full
  rename_i kept
  rcases Nat.eq_zero_or_pos scanner.start with front | behind
  · simpa [front] using full
  · exact absurd ⟨behind, .inl full⟩ kept

structure Roomy (maximum : Nat) (scanner roomy : Scanner α) : Prop where
  data : roomy.data = scanner.data
  source : roomy.source = scanner.source
  room : roomy.start + roomy.data.length < roomy.size
  grown : roomy.size = scanner.size ∨
    scanner.data.length = scanner.size ∧ scanner.size < maximum ∧
      roomy.size = min (2 * scanner.size) maximum

theorem roomy_of_makeRoom {ro : Scanner α} (hs : scanner.Sound)
    (made : scanner.makeRoom mx = some ro) : Roomy mx scanner ro := by
  have hpos := hs.positive
  unfold makeRoom at made
  split at made
  · rename_i full
    split at made
    · cases made
    rename_i small
    cases made
    have hfi : scanner.data.length = scanner.size := start_of_shift_full full
    rw [shift_size] at small
    have doubled : (scanner.shift.resize mx).size = min (2 * scanner.size) mx := by
      simp [resize, Nat.ne_of_gt hpos]
    exact
      { data := shift_data scanner
        source := shift_source scanner
        room := by
          rw [doubled]
          show 0 + scanner.shift.data.length < _
          rw [shift_data]
          omega
        grown := .inr ⟨hfi, by omega, doubled⟩ }
  · rename_i ro
    cases made
    have hbd := hs.bounded
    have lower := shift_start_le scanner
    exact
      { data := shift_data scanner
        source := shift_source scanner
        room := by
          simp only [shift_data, shift_size] at ro ⊢
          omega
        grown := .inl (shift_size scanner) }

theorem full_of_makeRoom (hrf : scanner.makeRoom mx = none) :
    scanner.data.length = scanner.size ∧ mx ≤ scanner.size := by
  unfold makeRoom at hrf
  split at hrf
  · rename_i full
    split at hrf
    · rename_i large
      exact ⟨start_of_shift_full full, by simpa using large⟩
    · cases hrf
  · cases hrf

structure Refilled (scanner filled : Scanner α) : Prop where
  sound : filled.Sound
  remaining : filled.remaining = scanner.data ++ scanner.source.unread
  ending : filled.source.ending = scanner.source.ending
  joined : filled.source.joined = scanner.source.joined
  /-- A reader that reports its ending alone adds nothing with it. -/
  alone : filled.source.joined = false → filled.stop ≠ none → filled.data = scanner.data
  progress : filled.source.unread.length + (if filled.stop = none then 1 else 0) <
    scanner.source.unread.length + 1

theorem refilled_fill {ro : Scanner α} (made : Roomy mx scanner ro) : Refilled scanner ro.fill := by
  obtain ⟨data, hsrc, _, -⟩ := made
  have reads := ro.source.reads (ro.size - (ro.start + ro.data.length))
  have hbd := reads.bounded
  have hdl := reads.delivered
  have read : (ro.source.read (ro.size - (ro.start + ro.data.length))).data.length +
      ro.fill.source.unread.length = scanner.source.unread.length := by
    rw [← hsrc, ← List.length_append]
    exact congrArg List.length hdl
  refine
    { sound := ⟨?_, by show 0 < ro.size; omega, ?_⟩
      remaining := ?_
      ending := by rw [← hsrc]; exact reads.ending
      joined := by rw [← hsrc]; exact reads.joined
      alone := ?_
      progress := ?_ }
  · show ro.start + (ro.data ++ _).length ≤ ro.size
    rw [List.length_append]
    omega
  · intro stop hsp
    obtain ⟨edg, hrd, h⟩ := Option.map_eq_some_iff.mp hsp
    obtain ⟨hn, hem⟩ := reads.ended edg hrd
    exact ⟨by rw [← h, hn]; exact congrArg _ reads.ending.symm, hem⟩
  · show (ro.data ++ _) ++ _ = _
    rw [List.append_assoc, ← data, ← hsrc]
    exact congrArg _ hdl
  · intro separate hsp
    have hnot := reads.alone (reads.joined.symm.trans separate)
      (fun none => hsp (by simp [fill, none]))
    show ro.data ++ _ = _
    rw [hnot, List.append_nil, data]
  · cases hrd :
        (ro.source.read (ro.size - (ro.start + ro.data.length))).ending with
    | none =>
      have progress := List.length_pos_of_ne_nil (reads.progress hrd (by omega))
      have hgo : ro.fill.stop = none := by simp [fill, hrd]
      rw [if_pos hgo]
      omega
    | some edg =>
      have stops : ro.fill.stop ≠ none := by simp [fill, hrd]
      rw [if_neg stops]
      omega

/-- How a scan can end, seen from the last round. -/
inductive Scanned (split : Split α τ) (maximum : Nat) (last : Scanner α) :
    Option τ × Scanner α → Prop
  | token {count : Nat} {token : τ} (offered : last.offer split = some (count, token)) :
      Scanned split maximum last (some token, last.advance count)
  | ended (offered : last.offer split = none) (stopped : last.stop ≠ none) :
      Scanned split maximum last (none, { last with data := [], start := 0 })
  | tooLong (offered : last.offer split = none) (reading : last.stop = none)
      (full : last.data.length = last.size) (large : maximum ≤ last.size) :
      Scanned split maximum last (none, { last.shift with stop := some .tooLong })

theorem scan_cases (split : Split α τ) (mx : Nat) (hh : Scanner α → Prop)
    (kept : ∀ scanner ro, scanner.Sound → hh scanner → scanner.offer split = none →
      scanner.stop = none → Roomy mx scanner ro → Refilled scanner ro.fill →
      hh ro.fill) (hs : scanner.Sound) (start : hh scanner) :
    ∃ last : Scanner α, last.Sound ∧ hh last ∧ last.remaining = scanner.remaining ∧
      last.source.ending = scanner.source.ending ∧ last.source.joined = scanner.source.joined ∧
      Scanned split mx last (scanner.scan split mx) := by
  -- A round needs one more than the elements and the ending that are left to read.
  suffices loop : ∀ rds, ∀ scanner : Scanner α,
      scanner.source.unread.length + (if scanner.stop = none then 1 else 0) < rds →
      scanner.Sound → hh scanner →
      ∃ last : Scanner α, last.Sound ∧ hh last ∧ last.remaining = scanner.remaining ∧
        last.source.ending = scanner.source.ending ∧
        last.source.joined = scanner.source.joined ∧
        Scanned split mx last (scanner.scanLoop split mx rds) from by
    refine loop _ scanner ?_ hs start
    split <;> omega
  intro rds
  induction rds with
  | zero => intro scanner few; omega
  | succ rds ih =>
    intro scanner few hs start
    cases hof : scanner.offer split with
    | some _ =>
      refine ⟨scanner, hs, start, rfl, rfl, rfl, ?_⟩
      simp only [scanLoop, hof]
      exact .token hof
    | none =>
      by_cases hrd : scanner.stop = none
      · cases made : scanner.makeRoom mx with
        | none =>
          obtain ⟨full, large⟩ := full_of_makeRoom made
          refine ⟨scanner, hs, start, rfl, rfl, rfl, ?_⟩
          simp only [scanLoop, hof, hrd, ne_eq, not_true_eq_false, if_false, made]
          exact .tooLong hof hrd full large
        | some ro =>
          have room := roomy_of_makeRoom hs made
          have hrl := refilled_fill room
          have progress := hrl.progress
          rw [if_pos hrd] at few
          obtain ⟨last, lastSound, lastHolds, h, edg, hjo, hsc⟩ :=
            ih ro.fill (by omega) hrl.sound
              (kept scanner ro hs start hof hrd room hrl)
          refine ⟨last, lastSound, lastHolds, h.trans hrl.remaining,
            edg.trans hrl.ending, hjo.trans hrl.joined, ?_⟩
          simpa only [scanLoop, hof, hrd, ne_eq, not_true_eq_false, if_false, made]
            using hsc
      · refine ⟨scanner, hs, start, rfl, rfl, rfl, ?_⟩
        simp only [scanLoop, hof, ne_eq, hrd, not_false_eq_true, if_true]
        exact .ended hof hrd

end Scanner

end AISummoner.Streams
