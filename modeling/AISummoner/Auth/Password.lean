import AISummoner.Encoding.Base64
import AISummoner.Encoding.Json
import AISummoner.Store.Agent

/-! # Password hashes as text

`hashPassword` writes a PHC string and `parsePasswordHash` reads it.  The parser compares the
parameters with their own formatting, but not the version, and its base64 decoder skips line
breaks: with either, a hash has more than one text.
-/

namespace AISummoner.Auth

open Encoding
open Store (Bytes isSpace)

def argon2Version : Nat := 0x13

structure PasswordParams where
  memory : Nat
  iterations : Nat
  parallelism : Nat
  saltLength : Nat
  keyLength : Nat
  deriving DecidableEq, Repr

def decimal (number : Nat) : List Char := Nat.toDigits 10 number

def versionText (version : Nat) : Bytes := encodeRunes ("v=".toList ++ decimal version)

def parameterText (params : PasswordParams) : Bytes :=
  encodeRunes ("m=".toList ++ decimal params.memory ++ ",t=".toList ++ decimal params.iterations ++
    ",p=".toList ++ decimal params.parallelism)

def dollar : UInt8 := 36

/-- The text of `hashPassword`. -/
def formatPasswordHash (params : PasswordParams) (salt output : Bytes) : Bytes :=
  dollar :: utf8 "argon2id" ++ dollar :: versionText argon2Version ++
    dollar :: parameterText params ++ dollar :: Base64.encode salt ++ dollar :: Base64.encode output

/-! ## Parsing -/

/-- `SkipSpace` of `fmt`: a newline is an error. -/
def skipSpace : List Char → Option (List Char)
  | [] => some []
  | rune :: rest =>
    if rune = '\n' then none else if isSpace rune then skipSpace rest else some (rune :: rest)

def literal (text : String) (input : List Char) : Option (List Char) :=
  if text.toList.isPrefixOf input then some (input.drop text.length) else none

/-- `%d` into an unsigned integer of so many bits. -/
def scanUint (bits : Nat) (input : List Char) : Option (Nat × List Char) := do
  let (digits, rest) := digitRun (← skipSpace input)
  if digits = [] ∨ Nat.ofDigitChars 10 digits 0 ≥ 2 ^ bits then none
  else some (Nat.ofDigitChars 10 digits 0, rest)

/-- `%d` into an `int`. -/
def scanInt (input : List Char) : Option (Int × List Char) := do
  let input ← skipSpace input
  let (digits, rest) := digitRun (if input.head? = some '-' then input.tail
    else if input.head? = some '+' then input.tail else input)
  let magnitude : Int := Nat.ofDigitChars 10 digits 0
  let value := if input.head? = some '-' then -magnitude else magnitude
  if digits = [] ∨ value < -2 ^ 63 ∨ value ≥ 2 ^ 63 then none else some (value, rest)

/-- `Sscanf(part, "v=%d", …)`, which leaves what follows unread. -/
def scanVersion (part : Bytes) : Option Int := do
  let (version, _) ← scanInt (← literal "v=" (decodeRunes part))
  return version

def scanParams (part : Bytes) : Option (Nat × Nat × Nat) := do
  let (memory, rest) ← scanUint 32 (← literal "m=" (decodeRunes part))
  let (iterations, rest) ← scanUint 32 (← literal ",t=" rest)
  let (parallelism, _) ← scanUint 8 (← literal ",p=" rest)
  return (memory, iterations, parallelism)

def PasswordParams.withinBounds (params : PasswordParams) : Bool :=
  8 * 1024 ≤ params.memory && params.memory ≤ 256 * 1024 && 1 ≤ params.iterations &&
    params.iterations ≤ 10 && 1 ≤ params.parallelism && params.parallelism ≤ 8

def require (holds : Bool) (message : String) : Except String Unit :=
  if holds then .ok () else .error message

def orFail {α : Type} (message : String) : Option α → Except String α
  | some value => .ok value
  | none => .error message

def parsePasswordHash (encoded : Bytes) : Except String (PasswordParams × Bytes × Bytes) :=
  match encoded.splitOn dollar with
  | [start, kind, version, parameters, saltText, outputText] => do
    require (start = [] && kind = utf8 "argon2id") "invalid Argon2id PHC hash"
    require (scanVersion version = some (argon2Version : Int)) "unsupported Argon2id version"
    let (memory, iterations, parallelism) ←
      orFail "invalid Argon2id parameters" (scanParams parameters)
    let params := { memory, iterations, parallelism, saltLength := 0, keyLength := 0 }
    require (parameters = parameterText params) "invalid Argon2id parameter encoding"
    require params.withinBounds "Argon2id parameters outside safety bounds"
    let salt ← orFail "invalid Argon2id salt" (Base64.decode saltText)
    require (8 ≤ salt.length && salt.length ≤ 64) "invalid Argon2id salt"
    let output ← orFail "invalid Argon2id output" (Base64.decode outputText)
    require (16 ≤ output.length && output.length ≤ 64) "invalid Argon2id output"
    return ({ params with saltLength := salt.length, keyLength := output.length }, salt, output)
  | _ => .error "invalid Argon2id PHC hash"

theorem require_bind {α : Type} {h : Bool} {msg : String} {next : Unit → Except String α}
    {res : α} : (require h msg >>= next) = .ok res ↔ h = true ∧ next () = .ok res := by
  cases h <;> simp [require, bind, Except.bind]

theorem orFail_bind {α β : Type} {msg : String} {f : Option α}
    {next : α → Except String β} {res : β} : (orFail msg f >>= next) = .ok res ↔ ∃ v, f = some v ∧
      next v = .ok res := by
  cases f <;> simp [orFail, bind, Except.bind]

structure Lengths (params : PasswordParams) (salt output : Bytes) : Prop where
  salt : params.saltLength = salt.length ∧ 8 ≤ salt.length ∧ salt.length ≤ 64
  output : params.keyLength = output.length ∧ 16 ≤ output.length ∧ output.length ≤ 64

theorem parsePasswordHash_iff {en salt outp : Bytes} {params : PasswordParams} :
    parsePasswordHash en = .ok (params, salt, outp) ↔ ∃ version saltText outputText,
        en.splitOn dollar =
          [[], utf8 "argon2id", version, parameterText params, saltText, outputText] ∧
        scanVersion version = some (argon2Version : Int) ∧ scanParams (parameterText params) =
          some (params.memory, params.iterations, params.parallelism) ∧
        params.withinBounds ∧ Base64.decode saltText = some salt ∧
        Base64.decode outputText = some outp ∧ Lengths params salt outp := by
  unfold parsePasswordHash
  constructor
  · intro pa
    split at pa
    case h_2 => cases pa
    case h_1 start kind version parameters saltText outputText hpts =>
      simp only [require_bind, orFail_bind, Bool.and_eq_true, decide_eq_true_eq] at pa
      obtain ⟨⟨rfl, rfl⟩, version', ⟨_, iterations, parallelism⟩, hsc, rfl, bounds, _,
        saltFound, saltLength, _, outputFound, outputLength, h⟩ := pa
      cases h
      exact ⟨version, saltText, outputText, hpts, version', hsc, bounds, saltFound,
        outputFound, ⟨rfl, saltLength⟩, ⟨rfl, outputLength⟩⟩
  · rintro ⟨version, saltText, outputText, hpts, version', hsc, bounds, saltFound,
      outputFound, ⟨saltIs, saltLength⟩, outputIs, outputLength⟩
    rw [hpts]
    simp only [require_bind, orFail_bind, Bool.and_eq_true, decide_eq_true_eq]
    refine ⟨by simp, version', _, hsc, rfl, bounds, salt, saltFound, saltLength, outp,
      outputFound, outputLength, ?_⟩
    rw [← saltIs, ← outputIs]
    rfl

/-! ## What is written -/

theorem literal_append (text : String) (rest : List Char) :
    literal text (text.toList ++ rest) = some rest := by
  rw [literal, if_pos (List.isPrefixOf_iff_prefix.mpr (List.prefix_append _ _)),
    ← String.length_toList, List.drop_left]

theorem skipSpace_of_digit {rune : Char} (dgt : rune.isDigit) (rest : List Char) :
    skipSpace (rune :: rest) = some (rune :: rest) := by
  simp only [Char.isDigit, Bool.and_eq_true, decide_eq_true_eq, UInt32.le_iff_toNat_le] at dgt
  have bounds : 48 ≤ rune.toNat ∧ rune.toNat ≤ 57 := dgt
  have word : isSpace rune = false := by
    simp only [isSpace, Bool.or_eq_false_iff, Bool.and_eq_false_iff, decide_eq_false_iff_not,
      beq_eq_false_iff_ne]
    omega
  have ho : rune ≠ '\n' := by
    rintro rfl
    exact absurd bounds (by decide)
  rw [skipSpace, if_neg ho, word]
  rfl

theorem scanUint_decimal {bits n : Nat} {rest : List Char} (hpos : 0 < n)
    (small : n < 2 ^ bits) (stops : ∀ rune ∈ rest.head?, rune.isDigit = false) :
    scanUint bits (decimal n ++ rest) = some (n, rest) := by
  have dgs : ∀ rune ∈ decimal n, rune.isDigit := fun rune mem =>
    Nat.isDigit_of_mem_toDigits (by omega) (by omega) mem
  obtain ⟨a, _, h, -⟩ := toDigits_head hpos
  have skipped : skipSpace (decimal n ++ rest) = some (decimal n ++ rest) := by
    have := dgs a (by simp [decimal, h])
    rw [decimal, h, List.cons_append, skipSpace_of_digit this]
  have hfi : decimal n ≠ [] := by simp [decimal, h]
  simp only [scanUint, skipped, Option.bind_eq_bind, Option.bind_some, digitRun_append dgs stops]
  rw [decimal, Nat.ofDigitChars_ten_toDigits, if_neg]
  rw [not_or, Nat.not_le]
  exact ⟨hfi, small⟩

variable {params : PasswordParams}

theorem scanParams_parameterText (bounds : params.withinBounds) :
    scanParams (parameterText params) =
      some (params.memory, params.iterations, params.parallelism) := by
  simp only [PasswordParams.withinBounds, Bool.and_eq_true, decide_eq_true_eq] at bounds
  have last := @scanUint_decimal 8 params.parallelism [] (by omega) (by omega) (by simp)
  rw [List.append_nil] at last
  rw [scanParams, parameterText, decodeRunes_encodeRunes]
  simp only [List.append_assoc, literal_append, Option.bind_eq_bind, Option.bind_some]
  rw [scanUint_decimal (by omega) (by omega) (by simp)]
  simp only [Option.bind_some, literal_append]
  rw [scanUint_decimal (by omega) (by omega) (by simp)]
  simp only [Option.bind_some, literal_append, last]
  rfl

theorem dollar_notMem_encodeRunes {rn : List Char}
    (plain : ∀ rune ∈ rn, rune.toNat < 128 ∧ rune.toNat ≠ 36) : dollar ∉ encodeRunes rn := by
  intro mem
  obtain ⟨rune, hf, mem⟩ := List.mem_flatMap.mp mem
  obtain ⟨small, o⟩ := plain rune hf
  have hsg : rune.utf8Size = 1 :=
    Char.utf8Size_eq_one_iff.mpr (UInt32.le_iff_toNat_le.mpr (Nat.le_of_lt_succ small))
  rw [String.utf8EncodeChar_eq_singleton hsg, List.mem_singleton] at mem
  have code := congrArg UInt8.toNat mem
  rw [UInt32.toNat_toUInt8] at code
  have : (36 : Nat) = rune.toNat % 256 := code
  omega

theorem dollar_notMem_parameterText (params : PasswordParams) : dollar ∉ parameterText params := by
  refine dollar_notMem_encodeRunes fun rune mem => ?_
  have hdgs {n : Nat} (mem : rune ∈ decimal n) :
      rune.toNat < 128 ∧ rune.toNat ≠ 36 := by
    have dgt := Nat.isDigit_of_mem_toDigits (by omega) (by omega) mem
    simp only [Char.isDigit, Bool.and_eq_true, decide_eq_true_eq, UInt32.le_iff_toNat_le] at dgt
    have bounds : 48 ≤ rune.toNat ∧ rune.toNat ≤ 57 := dgt
    omega
  have letters (mem : rune ∈ ['m', 't', 'p', ',', '=']) : rune.toNat < 128 ∧ rune.toNat ≠ 36 := by
    simp only [List.mem_cons, List.not_mem_nil, or_false] at mem
    rcases mem with rfl | rfl | rfl | rfl | rfl <;> decide
  simp only [List.mem_append] at mem
  rcases mem with ((((mem | mem) | mem) | mem) | mem) | mem
  · exact letters (by simp at mem ⊢; tauto)
  · exact hdgs mem
  · exact letters (by simp at mem ⊢; tauto)
  · exact hdgs mem
  · exact letters (by simp at mem ⊢; tauto)
  · exact hdgs mem

theorem splitOn_formatPasswordHash (params : PasswordParams) (salt outp : Bytes) :
    (formatPasswordHash params salt outp).splitOn dollar = [[], utf8 "argon2id",
      versionText argon2Version, parameterText params, Base64.encode salt, Base64.encode outp] := by
  have hen (bs : Bytes) : dollar ∉ Base64.encode bs := fun mem =>
    absurd (Base64.digit_of_mem_encode mem) (by decide)
  have kind : dollar ∉ utf8 "argon2id" ∧ dollar ∉ versionText argon2Version := by decide +kernel
  have hjo : formatPasswordHash params salt outp = [dollar].intercalate [[], utf8 "argon2id",
      versionText argon2Version, parameterText params, Base64.encode salt, Base64.encode outp] := by
    simp [formatPasswordHash, List.intercalate]
  rw [hjo]
  exact List.splitOn_intercalate dollar
    (by simp [kind, hen, dollar_notMem_parameterText params]) (by simp)

/-- The version and the base64 texts are written as the formatter writes them. -/
structure Canonical (encoded : Bytes) : Prop where
  version : (encoded.splitOn dollar)[2]? = some (versionText argon2Version)
  unbroken : ∀ byte ∈ encoded, Base64.isBreak byte = false

/-- A hash of zeros, with any text of the version. -/
def zeroHash (version : String) : Bytes :=
  utf8 ("$argon2id$" ++ version ++ "$m=8192,t=1,p=1$AAAAAAAAAAA$AAAAAAAAAAAAAAAAAAAAAA")

end AISummoner.Auth
