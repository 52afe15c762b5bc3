import AISummoner.Encoding.Utf8

/-! # Flat JSON objects

Objects whose members are scalars, character by character.  Reading follows the
usual conventions: escapes with surrogate pairs (an unpaired one reads as the
replacement character), raw control characters refused, numbers kept as text.  A
composite member is refused.  Writing escapes as an HTML-safe encoder does.
-/

namespace AISummoner.Encoding

/-! ## Scanning -/

def isBlank (character : Char) : Bool :=
  character == ' ' || character == '\t' || character == '\r' || character == '\n'

def skipBlanks (input : List Char) : List Char := input.dropWhile isBlank

def hexValue (character : Char) : Option Nat :=
  let code := character.toNat
  if 48 ≤ code ∧ code ≤ 57 then some (code - 48)
  else if 97 ≤ code ∧ code ≤ 102 then some (code - 87)
  else if 65 ≤ code ∧ code ≤ 70 then some (code - 55)
  else none

def codeUnit (first second third fourth : Char) : Option Nat := do
  let a ← hexValue first
  let b ← hexValue second
  let c ← hexValue third
  let d ← hexValue fourth
  some (((a * 16 + b) * 16 + c) * 16 + d)

def isSurrogate (unit : Nat) : Bool := 0xD800 ≤ unit && unit ≤ 0xDFFF

/-- The character of a surrogate pair. -/
def pairedChar (high low : Nat) : Option Char :=
  if 0xD800 ≤ high ∧ high ≤ 0xDBFF ∧ 0xDC00 ≤ low ∧ low ≤ 0xDFFF then
    some (Char.ofNat ((high - 0xD800) * 0x400 + (low - 0xDC00) + 0x10000))
  else none

def simpleEscape (escape : Char) : Option Char :=
  if escape = '"' ∨ escape = '\\' ∨ escape = '/' then some escape
  else if escape = 'b' then some (Char.ofNat 8)
  else if escape = 'f' then some (Char.ofNat 12)
  else if escape = 'n' then some '\n'
  else if escape = 'r' then some '\r'
  else if escape = 't' then some '\t'
  else none

/-- Complete a surrogate pair with an escape that follows it. -/
def surrogateRune (high : Nat) (rest : List Char) : Char × List Char :=
  match rest with
  | backslash :: letter :: a :: b :: c :: d :: others =>
    if backslash = '\\' ∧ letter = 'u' then
      match (codeUnit a b c d).bind (pairedChar high) with
      | some character => (character, others)
      | none => (replacementChar, rest)
    else (replacementChar, rest)
  | _ => (replacementChar, rest)

def escapedRune : List Char → Option (Char × List Char)
  | [] => none
  | escape :: rest =>
    if escape = 'u' then
      match rest with
      | a :: b :: c :: d :: others =>
        (codeUnit a b c d).map fun unit =>
          if isSurrogate unit then surrogateRune unit others else (Char.ofNat unit, others)
      | _ => none
    else (simpleEscape escape).map fun character => (character, rest)

def stringRune : List Char → Option (Char × List Char)
  | [] => none
  | character :: rest =>
    if character = '\\' then escapedRune rest
    else if character.toNat < 0x20 then none
    else some (character, rest)

/-- Every character consumes input, so `fuel` need not exceed its length. -/
def stringBodyWith : Nat → List Char → Option (List Char × List Char)
  | 0, _ => none
  | _ + 1, [] => none
  | fuel + 1, first :: input =>
    if first = '"' then some ([], input)
    else do
      let (character, rest) ← stringRune (first :: input)
      let (characters, rest) ← stringBodyWith fuel rest
      some (character :: characters, rest)

/-- The characters of a string literal after its opening quote, and what follows
    the closing quote. -/
def stringBody (input : List Char) : Option (List Char × List Char) :=
  stringBodyWith input.length input

structure Number where
  negative : Bool
  digits : List Char
  /-- Without fraction and exponent. -/
  integral : Bool
  deriving DecidableEq, Repr

/-- The longest run of digits, and what follows it. -/
def digitRun (input : List Char) : List Char × List Char :=
  (input.takeWhile Char.isDigit, input.dropWhile Char.isDigit)

def integerDigits : List Char → Option (List Char × List Char)
  | [] => none
  | first :: rest =>
    if first = '0' then some (['0'], rest)
    else
      let (digits, others) := digitRun (first :: rest)
      if digits = [] then none else some (digits, others)

/-- `.digits`, if there is one.  `none` is a point without digits. -/
def fraction : List Char → Option (Bool × List Char)
  | [] => some (false, [])
  | first :: rest =>
    if first = '.' then
      let (digits, others) := digitRun rest
      if digits = [] then none else some (true, others)
    else some (false, first :: rest)

def skipSign : List Char → List Char
  | [] => []
  | first :: rest => if first = '+' ∨ first = '-' then rest else first :: rest

/-- `e`, a sign and digits, if there is one. -/
def exponent : List Char → Option (Bool × List Char)
  | [] => some (false, [])
  | first :: rest =>
    if first = 'e' ∨ first = 'E' then
      let (digits, others) := digitRun (skipSign rest)
      if digits = [] then none else some (true, others)
    else some (false, first :: rest)

def unsignedNumber (negative : Bool) (input : List Char) : Option (Number × List Char) := do
  let (digits, rest) ← integerDigits input
  let (fractional, rest) ← fraction rest
  let (exponential, rest) ← exponent rest
  some (⟨negative, digits, !fractional && !exponential⟩, rest)

def number : List Char → Option (Number × List Char)
  | [] => none
  | first :: rest =>
    if first = '-' then unsignedNumber true rest else unsignedNumber false (first :: rest)

inductive Scalar where
  | null
  | bool (value : Bool)
  | number (value : Number)
  | string (value : List Char)
  deriving DecidableEq, Repr

def keyword (word : String) (value : Scalar) (input : List Char) : Option (Scalar × List Char) :=
  if word.toList.isPrefixOf input then some (value, input.drop word.toList.length) else none

def scalar : List Char → Option (Scalar × List Char)
  | [] => none
  | first :: rest =>
    if first = '"' then (stringBody rest).map fun (value, others) => (.string value, others)
    else if first = 'n' then keyword "null" .null (first :: rest)
    else if first = 't' then keyword "true" (.bool true) (first :: rest)
    else if first = 'f' then keyword "false" (.bool false) (first :: rest)
    else (number (first :: rest)).map fun (value, others) => (.number value, others)

def expect (character : Char) : List Char → Option (List Char)
  | [] => none
  | first :: rest => if first = character then some rest else none

def member (input : List Char) : Option ((List Char × Scalar) × List Char) := do
  let rest ← expect '"' input
  let (key, rest) ← stringBody rest
  let rest ← expect ':' (skipBlanks rest)
  let (value, rest) ← scalar (skipBlanks rest)
  some ((key, value), rest)

/-- The members of an object up to its closing brace.  Every member consumes a
    character, so `fuel` need not exceed the length of the input. -/
def members : Nat → List Char → Option (List (List Char × Scalar) × List Char)
  | 0, _ => none
  | fuel + 1, input => do
    let (entry, rest) ← member input
    match skipBlanks rest with
    | [] => none
    | first :: rest =>
      if first = '}' then some ([entry], rest)
      else if first = ',' then do
        let (entries, rest) ← members fuel (skipBlanks rest)
        some (entry :: entries, rest)
      else none

/-- One object of scalars, and what follows it. -/
def flatObject (input : List Char) : Option (List (List Char × Scalar) × List Char) := do
  let rest ← expect '{' (skipBlanks input)
  match skipBlanks rest with
  | [] => none
  | first :: rest =>
    if first = '}' then some ([], rest) else members (rest.length + 1) (first :: rest)

/-! ## Writing -/

def hexDigit (value : Nat) : Char :=
  if value < 10 then Char.ofNat (48 + value) else Char.ofNat (87 + value)

def shortEscape (character : Char) : Option Char :=
  if character = '"' ∨ character = '\\' then some character
  else if character.toNat = 8 then some 'b'
  else if character.toNat = 12 then some 'f'
  else if character = '\n' then some 'n'
  else if character = '\r' then some 'r'
  else if character = '\t' then some 't'
  else none

/-- Written as a code unit: control characters, markup, and the two line separators. -/
def needsUnicodeEscape (character : Char) : Bool :=
  character.toNat < 0x20 || character == '<' || character == '>' || character == '&' ||
    character.toNat == 0x2028 || character.toNat == 0x2029

def unicodeEscape (unit : Nat) : List Char :=
  ['\\', 'u', hexDigit (unit / 4096), hexDigit (unit / 256 % 16), hexDigit (unit / 16 % 16),
    hexDigit (unit % 16)]

/-- Escaped as an HTML-safe JSON encoder does. -/
def quoteChar (character : Char) : List Char :=
  match shortEscape character with
  | some escape => ['\\', escape]
  | none =>
    if needsUnicodeEscape character then unicodeEscape character.toNat else [character]

/-- The inside of a string literal and its closing quote. -/
def quoteBody (characters : List Char) : List Char := characters.flatMap quoteChar ++ ['"']

def quote (characters : List Char) : List Char := '"' :: quoteBody characters

/-- The inside of a string literal for bytes that may be no text: a byte that starts
    no rune is written as the escape of the replacement character. -/
def quoteBytesWith : Nat → List UInt8 → List UInt8
  | 0, _ => []
  | _ + 1, [] => []
  | fuel + 1, byte :: bytes =>
    match (byte :: bytes).toByteArray.utf8DecodeChar? 0 with
    | some rune =>
      encodeRunes (quoteChar rune) ++ quoteBytesWith fuel ((byte :: bytes).drop rune.utf8Size)
    | none => encodeRunes (unicodeEscape replacementChar.toNat) ++ quoteBytesWith fuel bytes

def quoteBytes (bytes : List UInt8) : List UInt8 :=
  encodeRunes ['"'] ++ quoteBytesWith bytes.length bytes ++ encodeRunes ['"']

/-! ## Round trips -/

theorem hexValue_hexDigit : ∀ value < 16, hexValue (hexDigit value) = some value := by decide

variable {unit value fuel : Nat} {char : Char} {rest input : List Char}
  {e : List Char × Scalar} {entries : List (List Char × Scalar)}

theorem codeUnit_hexDigit (small : unit < 65536) :
    codeUnit (hexDigit (unit / 4096)) (hexDigit (unit / 256 % 16)) (hexDigit (unit / 16 % 16))
      (hexDigit (unit % 16)) = some unit := by
  simp only [codeUnit, hexValue_hexDigit (unit / 4096) (by omega),
    hexValue_hexDigit (unit / 256 % 16) (by omega), hexValue_hexDigit (unit / 16 % 16) (by omega),
    hexValue_hexDigit (unit % 16) (by omega), Option.bind_eq_bind, Option.bind_some]
  congr 1
  omega

theorem char_eq_of_toNat {code : Nat} (h : char.toNat = code) : char = Char.ofNat code := by
  rw [← h, Char.ofNat_toNat]

theorem simpleEscape_shortEscape {escape : Char} (short : shortEscape char = some escape) :
    simpleEscape escape = some char ∧ escape ≠ 'u' ∧ escape.utf8Size = 1 := by
  unfold shortEscape at short
  split at short
  · rename_i itself
    cases short
    rcases itself with rfl | rfl <;> decide
  split at short
  · rename_i backspace
    cases short
    rw [char_eq_of_toNat backspace]
    decide
  split at short
  · rename_i formFeed
    cases short
    rw [char_eq_of_toNat formFeed]
    decide
  split at short
  · cases short
    subst_vars
    decide
  split at short
  · cases short
    subst_vars
    decide
  split at short
  · cases short
    subst_vars
    decide
  · cases short

theorem toNat_of_needsUnicodeEscape (needed : needsUnicodeEscape char) : char.toNat < 0x202A := by
  simp only [needsUnicodeEscape, Bool.or_eq_true, decide_eq_true_eq, beq_iff_eq] at needed
  rcases needed with ((((_ | rfl) | rfl) | rfl) | h) | h
  · omega
  · decide
  · decide
  · decide
  · omega
  · omega

theorem stringRune_unicodeEscape (small : unit < 0xD800) (rest : List Char) :
    stringRune (unicodeEscape unit ++ rest) = some (Char.ofNat unit, rest) := by
  have plain : isSurrogate unit = false := by
    simp only [isSurrogate, Bool.and_eq_false_iff, decide_eq_false_iff_not]
    omega
  simp only [unicodeEscape, List.cons_append, List.nil_append, stringRune, escapedRune, if_true,
    codeUnit_hexDigit (Nat.lt_trans small (by decide)), Option.map_some, plain, Bool.false_eq_true,
    if_false]

theorem stringRune_quoteChar (char : Char) (rest : List Char) :
    stringRune (quoteChar char ++ rest) = some (char, rest) := by
  unfold quoteChar
  cases short : shortEscape char with
  | some _ =>
    obtain ⟨reads, notUnicode, _⟩ := simpleEscape_shortEscape short
    simp only [List.cons_append, List.nil_append, stringRune, escapedRune, if_true,
      if_neg notUnicode, reads, Option.map_some]
  | none =>
    by_cases needed : needsUnicodeEscape char = true
    · have hbd := toNat_of_needsUnicodeEscape needed
      simp only [if_pos needed]
      rw [stringRune_unicodeEscape (by omega), Char.ofNat_toNat]
    -- neither a backslash nor a control character is left to be written plainly
    have notBackslash : char ≠ '\\' := by
      rintro rfl
      exact absurd short (by decide)
    have notControl : ¬ char.toNat < 0x20 := by
      intro control
      simp [needsUnicodeEscape, control] at needed
    simp only [if_neg needed, List.cons_append, List.nil_append, stringRune,
      if_neg notBackslash, if_neg notControl]

theorem quoteChar_head (char : Char) : ∃ a hoth, quoteChar char = a :: hoth ∧ a ≠ '"' := by
  unfold quoteChar
  cases short : shortEscape char with
  | some escape => exact ⟨'\\', [escape], rfl, by decide⟩
  | none =>
    by_cases needed : needsUnicodeEscape char = true
    · simp only [if_pos needed]
      exact ⟨'\\', _, rfl, by decide⟩
    simp only [if_neg needed]
    refine ⟨char, [], rfl, ?_⟩
    rintro rfl
    exact absurd short (by decide)

theorem stringBodyWith_quoteBody (chs rest : List Char) (fuel : Nat) (enough : chs.length < fuel) :
    stringBodyWith fuel (quoteBody chs ++ rest) = some (chs, rest) := by
  induction chs generalizing fuel with
  | nil =>
    cases fuel with
    | zero => omega
    | succ fuel => rfl
  | cons char chs ih =>
    cases fuel with
    | zero => omega
    | succ fuel =>
      have hsp : quoteBody (char :: chs) ++ rest =
          quoteChar char ++ (quoteBody chs ++ rest) := by
        simp [quoteBody]
      have read := stringRune_quoteChar char (quoteBody chs ++ rest)
      have hoth := ih fuel (by simp only [List.length_cons] at enough; omega)
      obtain ⟨a, _, hw, notQuote⟩ := quoteChar_head char
      rw [hsp]
      rw [hw, List.cons_append] at read ⊢
      simp only [stringBodyWith, if_neg notQuote, read, hoth, Option.bind_eq_bind, Option.bind_some]

theorem length_lt_quoteBody (chs : List Char) : chs.length < (quoteBody chs).length := by
  induction chs with
  | nil => decide
  | cons char chs ih =>
    obtain ⟨a, _, hw, _⟩ := quoteChar_head char
    simp only [quoteBody, List.flatMap_cons, List.append_assoc, List.length_append, hw,
      List.length_cons, List.length_nil] at ih ⊢
    omega

theorem stringBody_quoteBody (chs rest : List Char) :
    stringBody (quoteBody chs ++ rest) = some (chs, rest) := by
  apply stringBodyWith_quoteBody
  have := length_lt_quoteBody chs
  simp only [List.length_append]
  omega

theorem toDigits_head (hpos : 0 < value) : ∃ a hoth, Nat.toDigits 10 value = a :: hoth ∧ a ≠ '0' ∧
      a.isDigit := by
  induction value using Nat.strongRecOn with
  | _ value ih =>
    rw [Nat.toDigits_eq_if (by omega)]
    by_cases hsg : value < 10
    · rw [if_pos hsg]
      refine ⟨value.digitChar, [], rfl, ?_⟩
      have nonzero : ∀ dgt < 10, 0 < dgt →
          dgt.digitChar ≠ '0' ∧ dgt.digitChar.isDigit := by decide
      exact nonzero value hsg hpos
    · rw [if_neg hsg]
      obtain ⟨a, hoth, hdgs, nonzero⟩ := ih (value / 10) (by omega) (by omega)
      exact ⟨a, hoth ++ [(value % 10).digitChar], by rw [hdgs]; rfl, nonzero⟩

theorem digitRun_append {dgs : List Char} (dgt : ∀ char ∈ dgs, char.isDigit)
    (stops : ∀ char ∈ rest.head?, char.isDigit = false) : digitRun (dgs ++ rest) = (dgs, rest) := by
  unfold digitRun
  induction dgs with
  | nil =>
    cases rest with
    | nil => rfl
    | cons char rest =>
      have stop := stops char (by simp)
      simp [stop]
  | cons char dgs ih =>
    have ha := dgt char (by simp)
    have hoth := ih (fun o hm => dgt o (by simp [hm]))
    simp only [Prod.mk.injEq] at hoth
    simp [ha, hoth.1, hoth.2]

/-- Where a number ends: at the end, or before a character no number goes on with. -/
def EndsNumber (rest : List Char) : Prop :=
  ∀ character ∈ rest.head?, character.isDigit = false ∧ character ≠ '.' ∧
    character ≠ 'e' ∧ character ≠ 'E'

theorem number_decimal (hpos : 0 < value) (ends : EndsNumber rest) :
    number (Nat.toDigits 10 value ++ rest) = some (⟨false, Nat.toDigits 10 value, true⟩, rest) := by
  obtain ⟨a, _, hdgs, nonzero, firstDigit⟩ := toDigits_head hpos
  have isDigit : ∀ char ∈ Nat.toDigits 10 value, char.isDigit :=
    fun char hm => Nat.isDigit_of_mem_toDigits (by omega) (by omega) hm
  have spans := digitRun_append isDigit (fun char hm => (ends char hm).1)
  have notMinus : a ≠ '-' := by
    rintro rfl
    exact absurd firstDigit (by decide)
  have hsc : integerDigits (Nat.toDigits 10 value ++ rest) =
      some (Nat.toDigits 10 value, rest) := by
    rw [hdgs, List.cons_append] at spans ⊢
    simp only [integerDigits, if_neg nonzero, spans]
    rw [if_neg (List.cons_ne_nil _ _)]
  have noFraction : fraction rest = some (false, rest) := by
    cases rest with
    | nil => rfl
    | cons char rest =>
      have point := (ends char (by simp)).2.1
      simp only [fraction, if_neg point]
  have noExponent : exponent rest = some (false, rest) := by
    cases rest with
    | nil => rfl
    | cons char rest =>
      have letters := (ends char (by simp)).2.2
      simp only [exponent]
      rw [if_neg (by simp [letters])]
  have unsigned : unsignedNumber false (Nat.toDigits 10 value ++ rest) =
      some (⟨false, Nat.toDigits 10 value, true⟩, rest) := by
    simp only [unsignedNumber, hsc, noFraction, noExponent, Option.bind_eq_bind,
      Option.bind_some, Bool.not_false, Bool.and_self]
  rw [hdgs, List.cons_append] at unsigned ⊢
  simp only [number, if_neg notMinus, unsigned]

theorem skipBlanks_of_head {a : Char} (hv : isBlank a = false) :
    skipBlanks (a :: rest) = a :: rest := by
  simp [skipBlanks, hv]

theorem expect_cons (char : Char) (rest : List Char) : expect char (char :: rest) = some rest := by
  simp only [expect, if_true]

theorem member_string (key value rest : List Char) :
    member (quote key ++ ':' :: (quote value ++ rest)) = some ((key, .string value), rest) := by
  have colon : skipBlanks (':' :: (quote value ++ rest)) = ':' :: (quote value ++ rest) :=
    skipBlanks_of_head (by decide)
  have hopn : skipBlanks (quote value ++ rest) = quote value ++ rest :=
    skipBlanks_of_head (by decide)
  have read : scalar (quote value ++ rest) = some (.string value, rest) := by
    simp only [quote, List.cons_append, scalar, stringBody_quoteBody, Option.map_some, if_true]
  have keyRead : expect '"' (quote key ++ ':' :: (quote value ++ rest)) =
      some (quoteBody key ++ ':' :: (quote value ++ rest)) := expect_cons _ _
  simp only [member, keyRead, stringBody_quoteBody, Option.bind_eq_bind, Option.bind_some, colon,
    expect_cons, hopn, read]

theorem scalar_decimal (hpos : 0 < value) (ends : EndsNumber rest) :
    scalar (Nat.toDigits 10 value ++ rest) =
      some (.number ⟨false, Nat.toDigits 10 value, true⟩, rest) := by
  have read := number_decimal hpos ends
  obtain ⟨a, _, hdgs, _, firstDigit⟩ := toDigits_head hpos
  have differs (o : Char) (noDigit : o.isDigit = false) : a ≠ o := by
    rintro rfl
    simp [noDigit] at firstDigit
  rw [hdgs, List.cons_append] at read ⊢
  simp only [scalar, if_neg (differs '"' (by decide)), if_neg (differs 'n' (by decide)),
    if_neg (differs 't' (by decide)), if_neg (differs 'f' (by decide)), read, Option.map_some]

theorem member_number (key : List Char) (hpos : 0 < value) (ends : EndsNumber rest) :
    member (quote key ++ ':' :: (Nat.toDigits 10 value ++ rest)) =
      some ((key, .number ⟨false, Nat.toDigits 10 value, true⟩), rest) := by
  have read := scalar_decimal hpos ends
  obtain ⟨a, _, hdgs, _, firstDigit⟩ := toDigits_head hpos
  have hv : isBlank a = false := by
    by_contra blank
    simp only [isBlank, Bool.not_eq_false, Bool.or_eq_true, beq_iff_eq] at blank
    rcases blank with ((rfl | rfl) | rfl) | rfl <;> exact absurd firstDigit (by decide)
  have hopn : skipBlanks (Nat.toDigits 10 value ++ rest) = Nat.toDigits 10 value ++ rest := by
    rw [hdgs]
    exact skipBlanks_of_head hv
  have colon : skipBlanks (':' :: (Nat.toDigits 10 value ++ rest)) =
      ':' :: (Nat.toDigits 10 value ++ rest) :=
    skipBlanks_of_head (by decide)
  have keyRead : expect '"' (quote key ++ ':' :: (Nat.toDigits 10 value ++ rest)) =
      some (quoteBody key ++ ':' :: (Nat.toDigits 10 value ++ rest)) := expect_cons _ _
  simp only [member, keyRead, stringBody_quoteBody, Option.bind_eq_bind, Option.bind_some, colon,
    expect_cons, hopn, read]

theorem members_last (read : member input = some (e, '}' :: rest)) :
    members (fuel + 1) input = some ([e], rest) := by
  have hclg : skipBlanks ('}' :: rest) = '}' :: rest := skipBlanks_of_head (by decide)
  simp only [members, read, Option.bind_eq_bind, Option.bind_some, hclg, if_true]

theorem members_cons {fin : List Char} (read : member input = some (e, ',' :: '"' :: rest))
    (hoth : members fuel ('"' :: rest) = some (entries, fin)) :
    members (fuel + 1) input = some (e :: entries, fin) := by
  have comma : skipBlanks (',' :: '"' :: rest) = ',' :: '"' :: rest :=
    skipBlanks_of_head (by decide)
  have hopn : skipBlanks ('"' :: rest) = '"' :: rest := skipBlanks_of_head (by decide)
  have ne : ',' ≠ '}' := by decide
  simp only [members, read, Option.bind_eq_bind, Option.bind_some, comma, if_neg ne,
    if_true, hopn, hoth]

theorem members_mono {more : Nat} (enough : fuel ≤ more)
    (read : members fuel input = some (entries, rest)) :
    members more input = some (entries, rest) := by
  induction fuel generalizing more input entries rest with
  | zero => cases read
  | succ fuel ih =>
    obtain ⟨more, rfl⟩ : ∃ cnt, more = cnt + 1 := ⟨more - 1, by omega⟩
    simp only [members, Option.bind_eq_bind, Option.bind_eq_some_iff] at read ⊢
    obtain ⟨⟨e, hoth⟩, hf, read⟩ := read
    refine ⟨(e, hoth), hf, ?_⟩
    cases following : skipBlanks hoth with
    | nil => simp only [following, reduceCtorEq] at read
    | cons a _ =>
      simp only [following] at read ⊢
      by_cases hclg : a = '}'
      · rwa [if_pos hclg] at read ⊢
      by_cases comma : a = ','
      · rw [if_neg hclg, if_pos comma] at read ⊢
        obtain ⟨⟨_, _⟩, readLater, h⟩ := Option.bind_eq_some_iff.mp read
        rw [ih (by omega) readLater]
        exact h
      · rw [if_neg hclg, if_neg comma] at read
        cases read

theorem flatObject_members (fuel : Nat) (enough : fuel ≤ input.length + 1)
    (read : members fuel ('"' :: input) = some (entries, rest)) :
    flatObject ('{' :: '"' :: input) = some (entries, rest) := by
  have brace : skipBlanks ('{' :: '"' :: input) = '{' :: '"' :: input :=
    skipBlanks_of_head (by decide)
  have hopn : skipBlanks ('"' :: input) = '"' :: input := skipBlanks_of_head (by decide)
  have ne : '"' ≠ '}' := by decide
  simp only [flatObject, brace, expect_cons, Option.bind_eq_bind, Option.bind_some, hopn,
    if_neg ne, members_mono enough read]

/-! ## Lengths -/

theorem length_encodeRunes (rn : List Char) :
    (encodeRunes rn).length = (rn.map Char.utf8Size).sum := by
  induction rn with
  | nil => rfl
  | cons _ rn ih =>
    simp [ih, String.length_utf8EncodeChar]

theorem length_encodeRunes_of_single {rn : List Char}
    (sg : ∀ rune ∈ rn, rune.utf8Size = 1) : (encodeRunes rn).length = rn.length := by
  rw [length_encodeRunes]
  induction rn with
  | nil => rfl
  | cons rune rn ih =>
    have ha := sg rune (by simp)
    have hoth := ih (fun o hm => sg o (by simp [hm]))
    simp only [List.map_cons, List.sum_cons, ha, hoth, List.length_cons]
    omega

theorem length_encodeRunes_toList (text : String) :
    (encodeRunes text.toList).length = text.utf8ByteSize := by
  rw [String.utf8ByteSize, ← String.utf8Encode_toList]
  exact List.size_toByteArray.symm

theorem utf8Size_of_isDigit (dgt : char.isDigit) : char.utf8Size = 1 := by
  simp only [Char.isDigit, Bool.and_eq_true, decide_eq_true_eq] at dgt
  have hbd : char.val ≤ 127 := by
    have := dgt.2
    simp only [UInt32.le_iff_toNat_le] at this ⊢
    exact Nat.le_trans this (by decide)
  exact if_pos hbd

theorem utf8Size_hexDigit : ∀ value < 16, (hexDigit value).utf8Size = 1 := by decide

theorem length_quoteChar_le (char : Char) :
    (encodeRunes (quoteChar char)).length ≤ 6 * char.utf8Size := by
  have hpos : 0 < char.utf8Size := Char.utf8Size_pos char
  have backslash : '\\'.utf8Size = 1 := by decide
  have hlt' : 'u'.utf8Size = 1 := by decide
  rw [length_encodeRunes]
  unfold quoteChar
  cases short : shortEscape char with
  | some _ =>
    obtain ⟨_, _, hsg⟩ := simpleEscape_shortEscape short
    simp only [List.map_cons, List.map_nil, List.sum_cons, List.sum_nil, backslash, hsg]
    omega
  | none =>
    by_cases needed : needsUnicodeEscape char = true
    · have hbd := toNat_of_needsUnicodeEscape needed
      simp only [if_pos needed, unicodeEscape, List.map_cons, List.map_nil, List.sum_cons,
        List.sum_nil, backslash, hlt', utf8Size_hexDigit (char.toNat / 4096) (by omega),
        utf8Size_hexDigit (char.toNat / 256 % 16) (by omega),
        utf8Size_hexDigit (char.toNat / 16 % 16) (by omega),
        utf8Size_hexDigit (char.toNat % 16) (by omega)]
      omega
    · simp only [if_neg needed, List.map_cons, List.map_nil, List.sum_cons, List.sum_nil]
      omega

theorem length_quoteBytesWith_le (fuel : Nat) (bs : List UInt8) :
    (quoteBytesWith fuel bs).length ≤ 6 * bs.length := by
  induction fuel generalizing bs with
  | zero => exact Nat.zero_le _
  | succ fuel ih =>
    cases bs with
    | nil => exact Nat.zero_le _
    | cons byte bs =>
      unfold quoteBytesWith
      split
      · rename_i rune hdc
        obtain ⟨_, hst⟩ := ByteArray.exists_of_utf8DecodeChar?_eq_some hdc
        have size : rune.utf8Size ≤ (byte :: bs).length := by
          have sizes := congrArg ByteArray.size hst
          simp only [ByteArray.size_append, List.size_toByteArray,
            String.length_utf8EncodeChar] at sizes
          omega
        have ha := length_quoteChar_le rune
        have rest := ih ((byte :: bs).drop rune.utf8Size)
        rw [List.length_drop] at rest
        rw [List.length_append]
        omega
      · have ha : (encodeRunes (unicodeEscape replacementChar.toNat)).length = 6 := by decide
        have rest := ih bs
        rw [List.length_append, List.length_cons]
        omega

theorem length_quoteBytes_le (bs : List UInt8) : (quoteBytes bs).length ≤ 6 * bs.length + 2 := by
  have body := length_quoteBytesWith_le bs.length bs
  have mark : (encodeRunes ['"']).length = 1 := by decide
  simp only [quoteBytes, List.length_append, mark]
  omega

theorem length_quoteBody_le (chs : List Char) :
    (encodeRunes (quoteBody chs)).length ≤ 6 * (encodeRunes chs).length + 1 := by
  induction chs with
  | nil => decide
  | cons char chs ih =>
    have ha := length_quoteChar_le char
    simp only [quoteBody, List.flatMap_cons, encodeRunes_append, encodeRunes_cons,
      List.length_append, String.length_utf8EncodeChar] at ih ⊢
    omega

end AISummoner.Encoding
