import AISummoner.Protocol.Control

/-! # The payloads of session requests

The decoders of `sshserver/server.go` for `exec`, `env` and `pty-req`.  A decoder reads
outside the payload, refuses it, or accepts it with a value.
-/

namespace AISummoner.SshServer

open Encoding Protocol

def cwdEnvironment : Bytes := utf8 "AISUMMONER_CWD"
def maxCommandBytes : Nat := 8192
def maxCWDBytes : Nat := 4096
def maxTerminalBytes : Nat := 128
def maxRequestPayload : Nat := 16 * 1024
def maxCols : Nat := 500
def maxRows : Nat := 300

/-- The width of Go's `int`. -/
inductive Word where
  | bits32
  | bits64
  deriving DecidableEq, Repr

def Word.bits : Word → Nat
  | .bits32 => 32
  | .bits64 => 64

/-- The conversion of a `uint32` to `int`. -/
def Word.int (word : Word) (number : Nat) : Int := Int.bmod number (2 ^ word.bits)

/-- `data[low:high]`, which has no value outside the data. -/
def slice (data : Bytes) (low high : Nat) : OptionT Option Bytes :=
  OptionT.lift
    (if low ≤ high ∧ high ≤ data.length then some ((data.take high).drop low) else none)

def validWindow (cols rows : Nat) : Bool :=
  1 ≤ cols && cols ≤ maxCols && 1 ≤ rows && rows ≤ maxRows

structure PtyState where
  term : Bytes
  cols : Nat
  rows : Nat
  deriving DecidableEq, Repr

structure SessionState where
  launched : Bool
  cwd : Bytes
  pty : Option PtyState
  deriving DecidableEq, Repr

structure ExecutionBackend where
  isAbsolutePath : Bytes → Bool
  validateWorkingDirectory : Bytes → Option Bytes

section Decoders

variable (word : Word)

/-- `consumeBytes` and `consumeString` -/
def consumeBytes (payload : Bytes) (limit : Nat) : OptionT Option (Bytes × Bytes) := do
  guard (¬payload.length < 4)
  let size := word.int (uint32 (← slice payload 0 4))
  guard (¬(size < 0 ∨ size > limit ∨ size > (payload.length : Int) - 4))
  let value ← slice payload 4 (4 + size.toNat)
  let rest ← slice payload (4 + size.toNat) payload.length
  return (value, rest)

def parseExec (payload : Bytes) : OptionT Option Bytes := do
  let (command, rest) ← consumeBytes word payload maxCommandBytes
  guard (rest.length = 0 ∧ command ≠ [] ∧ command.length ≤ maxCommandBytes ∧ !command.contains 0)
  return command

def acceptEnvironment (backend : ExecutionBackend) (state : SessionState) (payload : Bytes) :
    OptionT Option SessionState := do
  guard (¬(state.launched ∨ state.cwd ≠ []))
  let (name, rest) ← consumeBytes word payload maxCWDBytes
  guard (name = cwdEnvironment)
  let (value, rest) ← consumeBytes word rest maxCWDBytes
  guard (¬(rest.length ≠ 0 ∨ value = [] ∨ value.length > maxCWDBytes ∨
    !backend.isAbsolutePath value))
  guard (backend.validateWorkingDirectory value ≠ none)
  return { state with cwd := value }

def acceptPTY (state : SessionState) (payload : Bytes) : OptionT Option SessionState := do
  guard (¬(state.launched ∨ state.pty ≠ none))
  let (term, rest) ← consumeBytes word payload maxTerminalBytes
  guard (¬(term = [] ∨ rest.length < 16))
  let cols := uint32 (← slice rest 0 4)
  let rows := uint32 (← slice rest 4 8)
  let (_, trailing) ← consumeBytes word (← slice rest 16 rest.length) maxRequestPayload
  guard (¬(trailing.length ≠ 0 ∨ !validWindow cols rows))
  return { state with pty := some { term, cols, rows } }

end Decoders

/-! ## Decoders that stay inside the payload -/

section Decodes

variable {α β : Type}

def Accepts (decoder : OptionT Option α) (value : α) : Prop := decoder.run = some (some value)

/-- Nothing is read outside the payload, and the values accepted are those of `spec`. -/
structure Decodes (decoder : OptionT Option α) (spec : α → Prop) : Prop where
  inside : ∃ found, decoder.run = some found
  accepts : ∀ value, Accepts decoder value ↔ spec value

variable {decoder : OptionT Option α} {next : α → OptionT Option β} {spec o : α → Prop}

theorem Decodes.congr (decodes : Decodes decoder spec) (h : ∀ v, spec v ↔ o v) :
    Decodes decoder o :=
  ⟨decodes.inside, fun v => (decodes.accepts v).trans (h v)⟩

theorem Decodes.value (v : α) : Decodes (pure v) (· = v) :=
  ⟨⟨_, rfl⟩, fun o => by
    simp only [Accepts, OptionT.run_pure, Option.pure_def, Option.some.injEq, eq_comm]⟩

theorem Decodes.lift {read : Option α} {v : α} (is : read = some v) :
    Decodes (OptionT.lift read) (· = v) := by
  subst is
  exact .value v

theorem Decodes.bind {specs : α → β → Prop} (decodes : Decodes decoder spec)
    (each : ∀ v, spec v → Decodes (next v) (specs v)) :
    Decodes (decoder >>= next) fun res => ∃ v, spec v ∧ specs v res := by
  obtain ⟨⟨f, ran⟩, hacp⟩ := decodes
  have only (v : α) : spec v ↔ f = some v := by
    rw [← hacp, Accepts, ran, Option.some.injEq]
  cases f with
  | none =>
    have hrfs : (decoder >>= next).run = some none := by
      simp [OptionT.run_bind, ran, Option.elimM]
    exact ⟨⟨none, hrfs⟩, by simp [Accepts, hrfs, only]⟩
  | some v =>
    have goes : (decoder >>= next).run = (next v).run := by
      simp [OptionT.run_bind, ran, Option.elimM]
    obtain ⟨hi, exactly⟩ := each v ((only v).mpr rfl)
    exact ⟨goes ▸ hi, by simpa [Accepts, goes, only] using exactly⟩

theorem Decodes.check {next : OptionT Option β} {spec : β → Prop} (p : Prop) [Decidable p]
    (decodes : p → Decodes next spec) :
    Decodes (guard p >>= fun _ => next) fun res => p ∧ spec res := by
  by_cases hh : p
  · simpa [guard, hh] using decodes hh
  · exact ⟨⟨none, by simp [guard, hh]⟩, by simp [Accepts, guard, hh]⟩

end Decodes

theorem slice_decodes {data : Bytes} {low high : Nat} (hor : low ≤ high) (hi : high ≤ data.length) :
    Decodes (slice data low high) (· = (data.take high).drop low) :=
  .lift (if_pos ⟨hor, hi⟩)

/-! ## The wire format -/

/-- A `string` of RFC 4251. -/
def sshString (value : Bytes) : Bytes := putUint32 value.length ++ value

structure EnvironmentRequest where
  name : Bytes
  value : Bytes

def EnvironmentRequest.wire (request : EnvironmentRequest) : Bytes :=
  sshString request.name ++ sshString request.value

structure PtyRequest where
  term : Bytes
  cols : Nat
  rows : Nat
  width : Nat
  height : Nat
  modes : Bytes

def PtyRequest.wire (request : PtyRequest) : Bytes :=
  sshString request.term ++ putUint32 request.cols ++ putUint32 request.rows ++
    putUint32 request.width ++ putUint32 request.height ++ sshString request.modes

theorem putUint32_uint32 {data : Bytes} (four : data.length = 4) :
    putUint32 (uint32 data) = data := by
  match data, four with
  | [a, b, third, fourth], _ =>
    have := a.toNat_lt
    have := b.toNat_lt
    have := third.toNat_lt
    have := fourth.toNat_lt
    simp only [putUint32, uint32, ← UInt8.toNat_inj, UInt8.toNat_ofNat', List.cons.injEq, and_true]
    omega

theorem uint32_lt (data : Bytes) : uint32 data < 2 ^ 32 := by
  unfold uint32
  split
  · rename_i a b third fourth
    have := a.toNat_lt
    have := b.toNat_lt
    have := third.toNat_lt
    have := fourth.toNat_lt
    omega
  · decide

variable (word : Word) (payload : Bytes) {lm : Nat}

theorem int_bounds {n : Nat} (small : lm < 2 ^ 31) (fits : n < 2 ^ 32) :
    (0 ≤ word.int n ∧ word.int n ≤ lm ↔ n ≤ lm) ∧ (n ≤ lm → word.int n = n) := by
  unfold Word.int
  cases word with
  | bits32 =>
    -- a length of 2^31 or more is negative
    by_cases half : n < 2 ^ 31
    · rw [Int.bmod_eq_of_le (by simp only [Word.bits]; omega) (by simp only [Word.bits]; omega)]
      omega
    have negative : Int.bmod n (2 ^ Word.bits32.bits) < 0 := by
      simp only [Word.bits, Int.bmod_def]
      rw [if_neg] <;> omega
    omega
  | bits64 =>
    rw [Int.bmod_eq_of_le (by simp only [Word.bits]; omega) (by simp only [Word.bits]; omega)]
    omega

theorem consumeBytes_decodes (small : lm < 2 ^ 31) :
    Decodes (consumeBytes word payload lm) fun read =>
      payload = sshString read.1 ++ read.2 ∧ read.1.length ≤ lm := by
  obtain ⟨_, h⟩ := int_bounds word small (uint32_lt (payload.take 4))
  refine .congr (.check _ fun long => .bind (slice_decodes (by omega) (by omega)) fun _ _ =>
    .check _ fun fits => .bind (slice_decodes (by omega) (by omega)) fun v a =>
      .bind (slice_decodes (by omega) le_rfl) fun rest b => .value _) ?_
  simp only [List.drop_zero, List.take_length, exists_eq_left, List.drop_take, Prod.forall,
    Prod.mk.injEq, Nat.sub_zero, Nat.add_sub_cancel_left]
  refine fun v rest => ⟨?_, ?_⟩
  · rintro ⟨long, fits, rfl, rfl⟩
    rw [h (by omega), Int.toNat_natCast]
    have size : ((payload.drop 4).take (uint32 (payload.take 4))).length =
        uint32 (payload.take 4) := by
      rw [List.length_take, List.length_drop]
      omega
    rw [sshString, size, putUint32_uint32 (List.length_take_of_le (by omega)), List.append_assoc,
      ← List.drop_drop, List.take_append_drop, List.take_append_drop]
    exact ⟨rfl, by omega⟩
  · rintro ⟨rfl, fits⟩
    have size : uint32 ((sshString v ++ rest).take 4) = v.length := by
      rw [sshString, List.append_assoc, List.take_left' (length_putUint32 _),
        uint32_putUint32 (by omega)]
    have long : (sshString v ++ rest).length = 4 + (v.length + rest.length) := by
      rw [sshString, List.append_assoc, List.length_append, length_putUint32, List.length_append]
    rw [size] at h ⊢
    rw [h fits, Int.toNat_natCast, ← List.drop_drop, long, sshString, List.append_assoc,
      List.drop_left' (length_putUint32 _), List.take_left, List.drop_left]
    exact ⟨by omega, by omega, rfl, rfl⟩

/-! ## The requests -/

structure Commands (payload command : Bytes) : Prop where
  wire : payload = sshString command
  filled : 1 ≤ command.length
  fits : command.length ≤ maxCommandBytes
  clean : 0 ∉ command

theorem parseExec_decodes : Decodes (parseExec word payload) (Commands payload) := by
  refine .congr (.bind (consumeBytes_decodes word payload (by decide)) fun _ _ =>
    .check _ fun _ => .value _) fun cmd => ⟨?_, ?_⟩
  · rintro ⟨⟨cmd, _⟩, ⟨rfl, fits⟩, ⟨hwh, hfi, -, clean⟩, rfl⟩
    obtain rfl := List.length_eq_zero_iff.mp hwh
    exact ⟨List.append_nil _, List.length_pos_iff.mpr hfi, fits, by simpa using clean⟩
  · rintro ⟨rfl, hfi, fits, clean⟩
    exact ⟨(cmd, []), ⟨(List.append_nil _).symm, fits⟩,
      ⟨rfl, List.ne_nil_of_length_pos hfi, fits, by simpa using clean⟩, rfl⟩

structure Enters (backend : ExecutionBackend) (state : SessionState) (payload : Bytes)
    (request : EnvironmentRequest) : Prop where
  idle : state.launched = false
  unset : state.cwd = []
  wire : payload = request.wire
  named : request.name = cwdEnvironment
  filled : 1 ≤ request.value.length
  fits : request.value.length ≤ maxCWDBytes
  absolute : backend.isAbsolutePath request.value
  valid : backend.validateWorkingDirectory request.value ≠ none

theorem acceptEnvironment_decodes (backend : ExecutionBackend) (st : SessionState) :
    Decodes (acceptEnvironment word backend st payload) fun next =>
      ∃ rq, Enters backend st payload rq ∧ next = { st with cwd := rq.value } := by
  refine .congr (.check _ fun _ => .bind (consumeBytes_decodes word payload (by decide))
    fun read _ => .check _ fun _ => .bind (consumeBytes_decodes word read.2 (by decide))
      fun _ _ => .check _ fun _ => .check _ fun _ => .value _) fun next => ⟨?_, ?_⟩
  · rintro ⟨idle, ⟨name, _⟩, ⟨rfl, -⟩, named, ⟨v, _⟩, ⟨tail, fits⟩, hwh, hva, rfl⟩
    simp only [not_or, ne_eq, not_not, List.length_eq_zero_iff, Bool.not_eq_true,
      Bool.not_eq_false'] at idle hwh tail
    rw [hwh.1, List.append_nil] at tail
    refine ⟨⟨name, v⟩, ?_, rfl⟩
    exact { idle := idle.1, unset := idle.2, named, fits, valid := hva
            wire := congrArg (sshString name ++ ·) tail
            filled := List.length_pos_iff.mpr hwh.2.1, absolute := hwh.2.2.2 }
  · rintro ⟨rq, enters, rfl⟩
    have short : rq.name.length ≤ maxCWDBytes := by
      rw [enters.named]
      decide
    refine ⟨by simp [enters.idle, enters.unset], (rq.name, sshString rq.value),
      ⟨enters.wire, short⟩, enters.named, (rq.value, []),
      ⟨(List.append_nil _).symm, enters.fits⟩, ?_, enters.valid, rfl⟩
    simpa [List.ne_nil_of_length_pos enters.filled, enters.absolute] using enters.fits

structure Opens (state : SessionState) (payload : Bytes) (request : PtyRequest) : Prop where
  idle : state.launched = false
  unset : state.pty = none
  wire : payload = request.wire
  filled : 1 ≤ request.term.length
  fits : request.term.length ≤ maxTerminalBytes
  window : validWindow request.cols request.rows
  modes : request.modes.length ≤ maxRequestPayload

theorem eq_putUint32s {rest : Bytes} (long : 16 ≤ rest.length) :
    ∃ width height, rest = putUint32 (uint32 (rest.take 4)) ++
      putUint32 (uint32 ((rest.drop 4).take 4)) ++ putUint32 width ++ putUint32 height ++
        rest.drop 16 := by
  have hsp : rest = rest.take 4 ++ (rest.drop 4).take 4 ++ (rest.drop 8).take 4 ++
      (rest.drop 12).take 4 ++ rest.drop 16 := by
    simp only [List.append_assoc]
    rw [show (16 : Nat) = 12 + 4 from rfl, ← List.drop_drop, List.take_append_drop,
      show (12 : Nat) = 8 + 4 from rfl, ← List.drop_drop, List.take_append_drop,
      show (8 : Nat) = 4 + 4 from rfl, ← List.drop_drop, List.take_append_drop,
      List.take_append_drop]
  refine ⟨uint32 ((rest.drop 8).take 4), uint32 ((rest.drop 12).take 4), ?_⟩
  rw [putUint32_uint32, putUint32_uint32, putUint32_uint32, putUint32_uint32]
  · exact hsp
  all_goals
    simp only [List.length_take, List.length_drop]
    omega

theorem acceptPTY_decodes (st : SessionState) :
    Decodes (acceptPTY word st payload) fun next => ∃ rq, Opens st payload rq ∧
      next = { st with pty := some ⟨rq.term, rq.cols, rq.rows⟩ } := by
  refine .congr (.check _ fun _ => .bind (consumeBytes_decodes word payload (by decide))
    fun _ _ => .check _ fun _ => .bind (slice_decodes (by omega) (by omega)) fun _ _ =>
      .bind (slice_decodes (by omega) (by omega)) fun _ _ =>
        .bind (slice_decodes (by omega) le_rfl) fun last _ =>
          .bind (consumeBytes_decodes word last (by decide)) fun _ _ => .check _ fun _ => .value _)
    fun next => ⟨?_, ?_⟩
  · rintro ⟨idle, ⟨term, rest⟩, ⟨rfl, fits⟩, long, _, rfl, _, rfl, _, rfl, ⟨modes, _⟩,
      ⟨same, short⟩, whole, rfl⟩
    simp only [not_or, ne_eq, not_not, List.length_eq_zero_iff, Bool.not_eq_true, Nat.not_lt,
      Bool.not_eq_false', List.drop_zero, List.take_length, List.drop_take] at idle long same whole ⊢
    obtain ⟨width, height, numbers⟩ := eq_putUint32s long.2
    rw [same, whole.1, List.append_nil] at numbers
    refine ⟨⟨term, uint32 (rest.take 4), uint32 ((rest.drop 4).take 4), width, height, modes⟩,
      ?_, rfl⟩
    exact { idle := idle.1, unset := idle.2, fits, window := whole.2, modes := short
            filled := List.length_pos_iff.mpr long.1
            wire := (congrArg (sshString term ++ ·) numbers).trans
              (by simp only [PtyRequest.wire, List.append_assoc]) }
  · rintro ⟨rq, opens, rfl⟩
    have hwnd := opens.window
    simp only [validWindow, Bool.and_eq_true, decide_eq_true_eq] at hwnd
    have : maxCols = 500 ∧ maxRows = 300 := ⟨rfl, rfl⟩
    have cols : uint32 (putUint32 rq.cols) = rq.cols := uint32_putUint32 (by omega)
    have rows : uint32 (putUint32 rq.rows) = rq.rows := uint32_putUint32 (by omega)
    refine ⟨by simp [opens.idle, opens.unset], (rq.term, putUint32 rq.cols ++
      (putUint32 rq.rows ++ (putUint32 rq.width ++ (putUint32 rq.height ++
        sshString rq.modes)))), ⟨?_, opens.fits⟩, ?_, putUint32 rq.cols, ?_,
      putUint32 rq.rows, ?_, sshString rq.modes, ?_, (rq.modes, []),
      ⟨(List.append_nil _).symm, opens.modes⟩, ?_, ?_⟩
    · simp only [opens.wire, PtyRequest.wire, List.append_assoc]
    · simp [putUint32, List.ne_nil_of_length_pos opens.filled]
    · simp [putUint32]
    · simp [putUint32]
    · simp [putUint32]
    · simp [cols, rows, opens.window]
    · rw [cols, rows]

/-- No decoder reads outside its payload.  Each accepts the encodings of its fields and
    nothing else. -/
theorem requests_decoded (backend : ExecutionBackend) (state : SessionState) :
    Decodes (parseExec word payload) (Commands payload) ∧
    Decodes (acceptEnvironment word backend state payload) (fun next =>
      ∃ request, Enters backend state payload request ∧
        next = { state with cwd := request.value }) ∧
    Decodes (acceptPTY word state payload) (fun next => ∃ request, Opens state payload request ∧
        next = { state with pty := some ⟨request.term, request.cols, request.rows⟩ }) :=
  ⟨parseExec_decodes word payload, acceptEnvironment_decodes word payload backend state,
    acceptPTY_decodes word payload state⟩

end AISummoner.SshServer
