import AISummoner.Encoding.Utf8
import AISummoner.Streams.Feed
import AISummoner.Streams.Lines

/-! # Reading server-sent events

The loop that `consumeEvents` of `internal/opencode/sse.go` and `consumeStream` of
`internal/deepseek/adapter.go` have in common: lines are scanned with a limit, `data`
lines are joined to a record, and a blank line hands the record over.
-/

namespace AISummoner.Sse

open Encoding Streams

def maximumSSERecordBytes : Nat := 256 * 1024

/-- The length of `data: ` is allowed for. -/
def maximumSSELineBytes : Nat := maximumSSERecordBytes + 6

def initialBufferBytes : Nat := 4096

/-- A token of the scanner; `oversized` stands for the flag `oversizedLine`. -/
inductive Line where
  | oversized
  | line (bytes : List UInt8)
  deriving DecidableEq, Repr

/-- The split function of both readers. -/
def splitLine : Split UInt8 Line := fun data atEOF =>
  if newline ∈ data ∧ maximumSSELineBytes < (firstLine data).length then
    some ((firstLine data).length + 1, .oversized)
  else if maximumSSELineBytes < data.length then some (data.length, .oversized)
  else (scanLines data atEOF).map fun answer => (answer.1, .line answer.2)

/-- What the scanner makes of a response body. -/
def scanned (source : Source UInt8) : List (Line × Option Stop) × Option Stop :=
  (Scanner.new initialBufferBytes source).drain splitLine (maximumSSELineBytes + 2)

inductive Assembled where
  | more (record : List UInt8)
  | complete (record : List UInt8)
  | exceeds
  deriving DecidableEq, Repr

/-- The value of a `data` line, without the blank that may precede it. -/
def dataOf (line : List UInt8) : List UInt8 :=
  if (line.drop 5).head? = some 32 then line.drop 6 else line.drop 5

/-- The record a further line is appended to. -/
def separated (record : List UInt8) : List UInt8 :=
  if record = [] then [] else record ++ [newline]

def assemble (record line : List UInt8) : Assembled :=
  if line = [] then if record = [] then .more [] else .complete record
  else if line.head? = some 58 ∨ ¬ utf8 "data:" <+: line then .more record
  else if maximumSSERecordBytes < (separated record).length + (dataOf line).length then .exceeds
  else .more (separated record ++ dataOf line)

variable {σ ε : Type}

structure Reader (σ ε : Type) where
  oversizedLine : ε
  oversizedRecord : ε
  /-- `ctx.Err()` when a line is read. -/
  context : Nat → Option ε
  /-- The record a blank line completes: an error, or whether it was the last one. -/
  consume : σ → Nat × List UInt8 → σ × Except ε Bool

inductive Ended (ε : Type) where
  | failed (error : ε)
  /-- By the record that the blank line of this number completed. -/
  | stopped (line : Nat)
  /-- After so many lines, with what is left of a record. -/
  | exhausted (lines : Nat) (record : List UInt8)
  deriving DecidableEq, Repr

structure Run (σ ε : Type) where
  state : σ
  /-- The records handed over, each with the number of its line. -/
  records : List (Nat × List UInt8)
  ended : Ended ε

def Run.after (record : Nat × List UInt8) (run : Run σ ε) : Run σ ε :=
  { run with records := record :: run.records }

def readLines (reader : Reader σ ε) : Nat → σ → List UInt8 → List Line → Run σ ε
  | count, state, record, [] => ⟨state, [], .exhausted count record⟩
  | _, state, _, .oversized :: _ => ⟨state, [], .failed reader.oversizedLine⟩
  | count, state, record, .line bytes :: lines =>
    match reader.context count with
    | some error => ⟨state, [], .failed error⟩
    | none =>
      match assemble record bytes with
      | .more record => readLines reader (count + 1) state record lines
      | .exceeds => ⟨state, [], .failed reader.oversizedRecord⟩
      | .complete record =>
        match reader.consume state (count, record) with
        | (state, .error error) => ⟨state, [(count, record)], .failed error⟩
        | (state, .ok true) => ⟨state, [(count, record)], .stopped count⟩
        | (state, .ok false) =>
          (readLines reader (count + 1) state [] lines).after (count, record)

/-! ## Streams of short lines -/

/-- Every line is shorter than a record may be. -/
def ShortLines (stream : List UInt8) : Prop :=
  ∀ segment ∈ segments stream, segment.1.length < maximumSSERecordBytes

instance (stream : List UInt8) : Decidable (ShortLines stream) :=
  inferInstanceAs (Decidable (∀ segment ∈ segments stream, _))

def linesOf (stream : List UInt8) : List Line :=
  (segments stream).map fun segment => .line (dropReturn segment.1)

theorem length_firstLine_le (data : List UInt8) : (firstLine data).length ≤ data.length :=
  (List.takeWhile_sublist _).length_le

theorem takesLines_splitLine : Scanner.TakesLines splitLine maximumSSERecordBytes .line := by
  intro data _ _
  have line := length_firstLine_le data
  have hbl : maximumSSERecordBytes < maximumSSELineBytes := Nat.lt_add_of_pos_right (by decide)
  rw [splitLine, if_neg (by omega), if_neg (by omega)]

theorem sound_new (src : Source UInt8) : (Scanner.new initialBufferBytes src).Sound :=
  ⟨Nat.zero_le _, show 0 < initialBufferBytes by decide, nofun⟩

variable {src : Source UInt8} {data line rest record pl : List UInt8} {count : Nat}
  {state : σ} {run : Run σ ε}

theorem lined_new (short : ShortLines src.unread) :
    (Scanner.new initialBufferBytes src).Lined maximumSSERecordBytes where
  sound := sound_new src
  grows := ⟨6, show initialBufferBytes * 2 ^ 6 = maximumSSERecordBytes by decide⟩
  short := short
  alone := fun _ _ hm => nomatch hm

theorem scanned_lines (short : ShortLines src.unread) :
    (scanned src).1.map Prod.fst = linesOf src.unread ∧ (scanned src).2 = src.ending.err ∧
      ((src.joined → src.ending = .endOfFile) →
        (scanned src).1.map Prod.snd = (segments src.unread).map fun seg =>
          if seg.2 then none else src.ending.err) :=
  Scanner.drain_lines (Nat.le_trans (Nat.le_add_right _ _) (Nat.le_add_right _ _))
    takesLines_splitLine (lined_new short)

/-! ## Lines of the largest length

The newline that ends a line is in the buffer when the line is found, and the split
function counts it: no line of `maximumSSELineBytes` is ever taken. -/

theorem length_of_splitLine {atEOF : Bool} {bs : List UInt8}
    (hta : splitLine data atEOF = some (count, .line bs)) :
    data.length ≤ maximumSSELineBytes ∧ scanLines data atEOF = some (count, bs) := by
  unfold splitLine at hta
  split at hta
  · cases hta
  split at hta
  · cases hta
  rename_i short
  obtain ⟨_, hsc, h⟩ := Option.map_eq_some_iff.mp hta
  cases h
  exact ⟨Nat.le_of_not_lt short, hsc⟩

theorem splitLine_of_long (atEOF : Bool)
    (long : maximumSSELineBytes < data.length) : splitLine data atEOF ≠ none := by
  unfold splitLine
  split
  · nofun
  · nofun

theorem uncut_of_length_le {unr : List UInt8}
    (hsm : data ++ unr = line ++ newline :: rest) (uncut : newline ∉ line)
    (short : data.length ≤ line.length) : newline ∉ data := by
  have start : data <+: line :=
    List.prefix_of_prefix_length_le ⟨unr, hsm⟩ (List.prefix_append _ _) short
  exact fun hm => uncut (start.subset hm)

theorem scan_longest {sc : Scanner UInt8} (hs : sc.Sound)
    (hsm : sc.remaining = line ++ newline :: rest) (uncut : newline ∉ line)
    (long : maximumSSELineBytes ≤ line.length) :
    (sc.scan splitLine (maximumSSELineBytes + 2)).1 = some .oversized := by
  obtain ⟨last, lastSound, -, h, -, -, scanned⟩ :=
    Scanner.scan_cases splitLine (maximumSSELineBytes + 2) (fun _ => True)
      (fun _ _ _ _ _ _ _ _ => trivial) hs trivial
  rw [hsm] at h
  -- Once the reader has reported its ending, all of the line is buffered.
  have hwh (hsp : last.stop ≠ none) : last.data = line ++ newline :: rest := by
    obtain ⟨stop, hn⟩ := Option.ne_none_iff_exists'.mp hsp
    rwa [Scanner.remaining, (lastSound.stopped stop hn).2, List.append_nil] at h
  generalize sc.scan splitLine (maximumSSELineBytes + 2) = result at scanned ⊢
  cases scanned with
  | @token _ tok hof =>
    cases tok with
    | oversized => rfl
    | line _ =>
      obtain ⟨short, hta⟩ := length_of_splitLine (Scanner.offer_eq_some hof)
      have open_ := uncut_of_length_le h uncut (Nat.le_trans short long)
      rw [scanLines, if_neg open_] at hta
      split at hta
      · rename_i last
        have all := hwh (Option.isSome_iff_ne_none.mp last.1)
        exact absurd (by simp [all]) open_
      · cases hta
  | ended hof hsp =>
    have all := hwh hsp
    rw [Scanner.offer_of_ne_nil _ (.inr hsp)] at hof
    refine absurd hof (splitLine_of_long _ ?_)
    rw [all, List.length_append, List.length_cons]
    omega
  | tooLong hof _ _ _ =>
    have hfi : last.data ≠ [] := List.ne_nil_of_length_pos (by omega)
    rw [Scanner.offer_of_ne_nil _ (.inl hfi)] at hof
    exact absurd hof (splitLine_of_long _ (by omega))

theorem readLines_longest (rd : Reader σ ε) (state : σ) (hsm : src.unread = line ++ newline :: rest)
    (uncut : newline ∉ line) (long : maximumSSELineBytes ≤ line.length) :
    readLines rd 0 state [] ((scanned src).1.map Prod.fst) =
      ⟨state, [], .failed rd.oversizedLine⟩ := by
  have ha := scan_longest (sound_new src) hsm uncut long
  rw [scanned, Scanner.drain, Scanner.drainLoop]
  rcases hf : (Scanner.new initialBufferBytes src).scan splitLine (maximumSSELineBytes + 2) with
    ⟨res, next⟩
  rw [hf] at ha
  cases ha
  rfl

theorem readLines_feed (rd : Reader σ ε)
    (lns : List Line) (read : readLines rd count state record lns = run) :
    (∀ line, run.ended = .stopped line →
      feed rd.consume state run.records = (run.state, .ok true)) ∧
    (∀ lns left, run.ended = .exhausted lns left →
      feed rd.consume state run.records = (run.state, .ok false)) ∧
    (feed rd.consume state run.records).1 = run.state := by
  subst read
  induction lns generalizing count state record with
  | nil => exact ⟨nofun, fun _ _ _ => rfl, rfl⟩
  | cons line lns ih =>
    cases line with
    | oversized => exact ⟨nofun, nofun, rfl⟩
    | line bs =>
      rw [readLines]
      cases context : rd.context count with
      | some err => exact ⟨nofun, nofun, rfl⟩
      | none =>
        cases assembled : assemble record bs with
        | more record => exact ih
        | exceeds => exact ⟨nofun, nofun, rfl⟩
        | complete record =>
          match consumed : rd.consume state (count, record) with
          | (next, .error err) =>
            simp only [consumed]
            rw [feed_stop consumed nofun]
            exact ⟨nofun, nofun, rfl⟩
          | (next, .ok true) =>
            simp only [consumed]
            rw [feed_stop consumed nofun]
            exact ⟨fun _ _ => rfl, nofun, rfl⟩
          | (next, .ok false) =>
            simp only [consumed, Run.after]
            rw [feed_continue consumed]
            exact ih

theorem readLines_append (rd : Reader σ ε) {last : Nat} {left : List UInt8} {lns : List Line}
    (read : readLines rd count state record lns = run)
    (hex : run.ended = .exhausted last left) (more : List Line) :
    readLines rd count state record (lns ++ more) = { readLines rd last run.state left more with
        records := run.records ++ (readLines rd last run.state left more).records } := by
  subst read
  induction lns generalizing count state record with
  | nil =>
    cases hex
    rfl
  | cons line lns ih =>
    cases line with
    | oversized => cases hex
    | line bs =>
      rw [List.cons_append]
      simp only [readLines] at hex ⊢
      cases context : rd.context count with
      | some _ =>
        rw [context] at hex
        cases hex
      | none =>
        rw [context] at hex
        cases assembled : assemble record bs with
        | more record =>
          rw [assembled] at hex
          exact ih hex
        | exceeds =>
          rw [assembled] at hex
          cases hex
        | complete record =>
          rw [assembled] at hex
          match consumed : rd.consume state (count, record) with
          | (_, .error _) | (_, .ok true) =>
            simp only [consumed] at hex
            cases hex
          | (next, .ok false) =>
            simp only [consumed] at hex ⊢
            rw [ih hex]
            rfl

/-! ## Records of one line -/

def dataLine (payload : List UInt8) : List UInt8 := utf8 "data: " ++ payload

theorem assemble_dataLine (fits : pl.length ≤ maximumSSERecordBytes) :
    assemble [] (dataLine pl) = .more pl := by
  have hn : utf8 "data:" <+: dataLine pl := ⟨32 :: pl, rfl⟩
  have hv : dataOf (dataLine pl) = pl := rfl
  have start : (dataLine pl).head? ≠ some 58 := by
    show some 100 ≠ some 58
    decide
  rw [assemble, if_neg (show dataLine pl ≠ [] from List.cons_ne_nil _ _),
    if_neg (by rw [not_or, not_not]; exact ⟨start, hn⟩), hv, separated, if_pos rfl,
    if_neg (by simpa using fits), List.nil_append]

theorem assemble_blank (hfi : record ≠ []) : assemble record [] = .complete record := by
  rw [assemble, if_pos rfl, if_neg hfi]

theorem record_read (rd : Reader σ ε) (state : σ)
    (fits : pl.length ≤ maximumSSERecordBytes) (hfi : pl ≠ [])
    (live : rd.context count = none ∧ rd.context (count + 1) = none) (more : List Line) :
    ∃ k', (readLines rd count state []
        (.line (dataLine pl) :: .line [] :: more)).records = (count + 1, pl) :: k' := by
  simp only [readLines, live.1, live.2, assemble_dataLine fits, assemble_blank hfi]
  match rd.consume state (count + 1, pl) with
  | (_, .error _) | (_, .ok true) => exact ⟨[], rfl⟩
  | (_, .ok false) => exact ⟨_, rfl⟩

theorem dropReturn_dataLine (hfi : pl ≠ []) (last : pl.getLast? ≠ some carriageReturn) :
    dropReturn (dataLine pl) = dataLine pl := by
  rw [dropReturn, dataLine, List.getLast?_append_of_ne_nil _ hfi, if_neg last]

/-- A record of one line, as it stands in a stream. -/
def recordBytes (payload : List UInt8) : List UInt8 :=
  dataLine payload ++ [newline, newline]

structure OneLine (payload : List UInt8) : Prop where
  filled : payload ≠ []
  uncut : newline ∉ payload
  last : payload.getLast? ≠ some carriageReturn

theorem linesOf_record (oneLine : OneLine pl) (s' : List UInt8) : linesOf (recordBytes pl ++ s') =
      .line (dataLine pl) :: .line [] :: linesOf s' := by
  have uncut : newline ∉ dataLine pl := by
    rw [dataLine, List.mem_append, not_or]
    exact ⟨by decide +kernel, oneLine.uncut⟩
  have start : recordBytes pl ++ s' =
      dataLine pl ++ newline :: newline :: s' := by
    simp [recordBytes]
  have ha : firstLine (recordBytes pl ++ s') = dataLine pl := by
    rw [start, firstLine_append_of_notMem uncut, firstLine_newline, List.append_nil]
  have cut : newline ∈ recordBytes pl ++ s' := by simp [recordBytes]
  have rest : (recordBytes pl ++ s').drop ((dataLine pl).length + 1) =
      newline :: s' := by
    simp [start, List.drop_append]
  rw [linesOf, segments_of_mem cut, ha, rest, segments, if_pos rfl, List.map_cons,
    List.map_cons, dropReturn_dataLine oneLine.filled oneLine.last]
  rfl

theorem record_handed_over (rd : Reader σ ε) {s s' : List UInt8}
    (hed : s = [] ∨ s.getLast? = some newline) (oneLine : OneLine pl)
    (fits : pl.length ≤ maximumSSERecordBytes)
    (hr : (readLines rd 0 state [] (linesOf s)).ended = .exhausted count [])
    (live : rd.context count = none ∧ rd.context (count + 1) = none) :
    (count + 1, pl) ∈ (readLines rd 0 state []
      (linesOf (s ++ (recordBytes pl ++ s')))).records := by
  have hlns : linesOf (s ++ (recordBytes pl ++ s')) =
      linesOf s ++ .line (dataLine pl) :: .line [] :: linesOf s' := by
    rw [← linesOf_record oneLine, linesOf, segments_append hed, List.map_append]
    rfl
  rw [hlns, readLines_append rd rfl hr]
  obtain ⟨_, hhd⟩ := record_read rd
    (readLines rd 0 state [] (linesOf s)).state fits oneLine.filled live (linesOf s')
  exact List.mem_append_right _ (hhd ▸ List.mem_cons_self)

end AISummoner.Sse
