import AISummoner.Agent.Types
import AISummoner.Encoding.Json

/-! # The arguments of `remote_exec`

The decoder is Go's: keys match a field exactly or up to case folding, a later
duplicate wins, `null` leaves a string alone and resets the timeout, unknown keys
and values of another type are errors.  Decoding the stored text gives back exactly
the arguments that were validated (`parse_marshal`).
-/

namespace AISummoner.Agent

open Encoding
open Store (Bytes)

def maxRemoteExecArgumentBytes : Nat := 6 * (maxCommandBytes + maxCWDBytes) + 1024

/-- The local struct the decoder fills. -/
structure DecodedArguments where
  command : List Char := []
  cwd : List Char := []
  timeoutMS : Option Int := none
  deriving DecidableEq, Repr

/-- `foldRune`, as far as it can meet an ASCII letter: besides the other case
    only U+017F and U+212A fold to one. -/
def foldRune (character : Char) : Char :=
  if character.isLower then character.toUpper
  else if character.toNat = 0x17F then 'S'
  else if character.toNat = 0x212A then 'K'
  else character

/-- A key of the object names the field. -/
def keyMatches (key : List Char) (field : String) : Bool :=
  decide (key.map foldRune = field.toList.map foldRune)

/-- `strconv.ParseInt(text, 10, 64)` on a JSON number. -/
def parseInt (value : Number) : Option Int :=
  if value.integral then
    let magnitude : Int := Nat.ofDigitChars 10 value.digits 0
    let signed := if value.negative then -magnitude else magnitude
    if -(2 ^ 63) ≤ signed ∧ signed < 2 ^ 63 then some signed else none
  else none

/-- `literalStore` into a `string`: `null` leaves it as it is. -/
def storeText (current : List Char) : Scalar → Option (List Char)
  | .string characters => some characters
  | .null => some current
  | _ => none

/-- `literalStore` into an `*int`: `null` resets it. -/
def storeInt : Scalar → Option (Option Int)
  | .number value => (parseInt value).map some
  | .null => some none
  | _ => none

inductive ArgumentField where
  | command
  | cwd
  | timeoutMS
  deriving DecidableEq, Repr

def argumentField (key : List Char) : Option ArgumentField :=
  if keyMatches key "command" then some .command
  else if keyMatches key "cwd" then some .cwd
  else if keyMatches key "timeout_ms" then some .timeoutMS
  else none

/-- One member of the object; `DisallowUnknownFields` refuses any other key. -/
def storeMember (decoded : DecodedArguments) (entry : List Char × Scalar) :
    Option DecodedArguments :=
  match argumentField entry.1 with
  | some .command => (storeText decoded.command entry.2).map fun command => { decoded with command }
  | some .cwd => (storeText decoded.cwd entry.2).map fun cwd => { decoded with cwd }
  | some .timeoutMS => (storeInt entry.2).map fun timeoutMS => { decoded with timeoutMS }
  | none => none

/-- The first `decoder.Decode`: one object, and the input after it. -/
def decodeArguments (raw : Bytes) : Option (DecodedArguments × List Char) := do
  let (entries, rest) ← flatObject (decodeRunes raw)
  let decoded ← entries.foldlM storeMember {}
  some (decoded, rest)

/-- A command or directory the executor may be given: no `NUL`, and at most `maximum` bytes. -/
def boundedText (text : List Char) (maximum : Nat) : Bool :=
  decide ((encodeRunes text).length ≤ maximum) && !text.contains (Char.ofNat 0)

def parseRemoteExecArguments (raw : Bytes) : Except AgentError RemoteExecArguments :=
  if raw = [] ∨ raw.length > maxRemoteExecArgumentBytes then .error (.invalidTool "")
  else
    match decodeArguments raw with
    | none => .error (.invalidTool "invalid remote_exec arguments")
    | some (arguments, rest) =>
      -- a second Decode must find nothing but white space
      if skipBlanks rest ≠ [] then .error (.invalidTool "")
      else if arguments.command = [] ∨ ¬ boundedText arguments.command maxCommandBytes then
        .error (.invalidTool "")
      else if arguments.cwd ≠ [] ∧ ¬ boundedText arguments.cwd maxCWDBytes then
        .error (.invalidTool "")
      else
        let timeoutMS := arguments.timeoutMS.getD defaultExecTimeoutMS
        if timeoutMS < minimumExecTimeoutMS ∨ timeoutMS > maximumExecTimeoutMS then
          .error (.invalidTool "")
        else .ok ⟨String.ofList arguments.command, String.ofList arguments.cwd, timeoutMS⟩

def writeMember (key : String) (value : List Char) : List Char :=
  quote key.toList ++ ':' :: value

/-- `json.Marshal` of `RemoteExecArguments`; `cwd` is `omitempty`. -/
def marshalRunes (arguments : RemoteExecArguments) : List Char :=
  let timeout := writeMember "timeout_ms" (Nat.toDigits 10 arguments.timeoutMS.toNat ++ ['}'])
  let cwd := if arguments.cwd = "" then timeout
    else writeMember "cwd" (quote arguments.cwd.toList ++ ',' :: timeout)
  '{' :: writeMember "command" (quote arguments.command.toList ++ ',' :: cwd)

def marshalArguments (arguments : RemoteExecArguments) : Bytes :=
  encodeRunes (marshalRunes arguments)

/-! ## Decoding the stored form -/

/-- What `parseRemoteExecArguments` guarantees of the arguments it accepts. -/
structure RemoteExecArguments.Valid (arguments : RemoteExecArguments) : Prop where
  commandNonempty : arguments.command ≠ ""
  commandBounded : boundedText arguments.command.toList maxCommandBytes = true
  cwdBounded : boundedText arguments.cwd.toList maxCWDBytes = true
  atLeastMinimum : minimumExecTimeoutMS ≤ arguments.timeoutMS
  atMostMaximum : arguments.timeoutMS ≤ maximumExecTimeoutMS

theorem valid_of_parse {raw : Bytes} {args : RemoteExecArguments}
    (hpa : parseRemoteExecArguments raw = .ok args) : args.Valid := by
  simp only [parseRemoteExecArguments] at hpa
  split at hpa
  · cases hpa
  split at hpa
  · cases hpa
  rename_i hdc rest _
  split at hpa
  · cases hpa
  split at hpa
  · cases hpa
  rename_i commandAccepted
  split at hpa
  · cases hpa
  rename_i cwdAccepted
  split at hpa
  · cases hpa
  rename_i inRange
  cases hpa
  simp only [not_or, not_and, not_not] at commandAccepted cwdAccepted inRange
  refine ⟨?_, ?_, ?_, by dsimp only; omega, by dsimp only; omega⟩
  · intro hem
    have : hdc.command = "".toList := by rw [← hem, String.toList_ofList]
    exact commandAccepted.1 this
  · simpa only [String.toList_ofList] using commandAccepted.2
  · rw [String.toList_ofList]
    by_cases hem : hdc.cwd = []
    · rw [hem]
      decide
    · exact cwdAccepted hem

section Marshal

variable {args : RemoteExecArguments}

theorem parseInt_toDigits (hva : args.Valid) :
    parseInt ⟨false, Nat.toDigits 10 args.timeoutMS.toNat, true⟩ = some args.timeoutMS := by
  have minimum : 1000 ≤ args.timeoutMS := hva.atLeastMinimum
  have hmx : args.timeoutMS ≤ 60000 := hva.atMostMaximum
  have hv : (Nat.ofDigitChars 10 (Nat.toDigits 10 args.timeoutMS.toNat) 0 : Int) =
      args.timeoutMS := by
    rw [Nat.ofDigitChars_ten_toDigits]
    omega
  unfold parseInt
  rw [if_pos rfl, hv]
  exact if_pos ⟨by dsimp only; omega, by dsimp only; omega⟩

theorem storeMember_timeout (hva : args.Valid) (dc : DecodedArguments) :
    storeMember dc ("timeout_ms".toList,
      .number ⟨false, Nat.toDigits 10 args.timeoutMS.toNat, true⟩) =
    some { dc with timeoutMS := some args.timeoutMS } := by
  have hfld : argumentField "timeout_ms".toList = some .timeoutMS := by decide +kernel
  simp only [storeMember, hfld, storeInt, parseInt_toDigits hva, Option.map_some]

theorem storeMember_command (dc : DecodedArguments) (text : List Char) :
    storeMember dc ("command".toList, .string text) = some { dc with command := text } := by
  have hfld : argumentField "command".toList = some .command := by decide +kernel
  simp only [storeMember, hfld, storeText, Option.map_some]

theorem storeMember_cwd (dc : DecodedArguments) (text : List Char) :
    storeMember dc ("cwd".toList, .string text) = some { dc with cwd := text } := by
  have hfld : argumentField "cwd".toList = some .cwd := by decide +kernel
  simp only [storeMember, hfld, storeText, Option.map_some]

/-- The members of the stored object, as `flatObject` reads them. -/
def storedMembers (arguments : RemoteExecArguments) : List (List Char × Scalar) :=
  ("command".toList, .string arguments.command.toList) ::
    ((if arguments.cwd = "" then [] else [("cwd".toList, .string arguments.cwd.toList)]) ++
      [("timeout_ms".toList, .number ⟨false, Nat.toDigits 10 arguments.timeoutMS.toNat, true⟩)])

theorem flatObject_marshalRunes (hva : args.Valid) :
    flatObject (marshalRunes args) = some (storedMembers args, []) := by
  have hpos : 0 < args.timeoutMS.toNat := by
    have minimum := hva.atLeastMinimum
    simp only [minimumExecTimeoutMS] at minimum
    omega
  have ends : EndsNumber ['}'] := by
    intro _ hm
    cases hm
    decide
  -- the members from the last one back
  have timeout (fuel : Nat) :
      members (fuel + 1) (writeMember "timeout_ms"
        (Nat.toDigits 10 args.timeoutMS.toNat ++ ['}'])) =
      some ([("timeout_ms".toList,
        .number ⟨false, Nat.toDigits 10 args.timeoutMS.toNat, true⟩)], []) :=
    members_last (member_number "timeout_ms".toList hpos ends)
  unfold marshalRunes storedMembers
  by_cases noDirectory : args.cwd = ""
  · simp only [if_pos noDirectory, List.nil_append]
    refine flatObject_members 2 ?_ (members_cons
      (member_string "command".toList args.command.toList _) (timeout 0))
    simp only [List.append_eq, List.length_append, List.length_cons]
    omega
  · simp only [if_neg noDirectory]
    refine flatObject_members 3 ?_ (members_cons
      (member_string "command".toList args.command.toList _)
      (members_cons (member_string "cwd".toList args.cwd.toList _) (timeout 0)))
    simp only [List.append_eq, List.length_append, List.length_cons]
    omega

theorem foldlM_storeMember {dc w : DecodedArguments} {e : List Char × Scalar}
    {es : List (List Char × Scalar)} (hsr : storeMember dc e = some w) :
    (e :: es).foldlM storeMember dc = es.foldlM storeMember w := by
  simp only [List.foldlM_cons, hsr, Option.bind_eq_bind, Option.bind_some]

theorem foldlM_storedMembers (hva : args.Valid) : (storedMembers args).foldlM storeMember {} =
      some ⟨args.command.toList, args.cwd.toList, some args.timeoutMS⟩ := by
  unfold storedMembers
  rw [foldlM_storeMember (storeMember_command _ _)]
  by_cases noDirectory : args.cwd = ""
  · have hem : args.cwd.toList = [] := by
      rw [noDirectory]
      rfl
    rw [if_pos noDirectory, List.nil_append, foldlM_storeMember (storeMember_timeout hva _), hem]
    rfl
  · rw [if_neg noDirectory, List.cons_append, foldlM_storeMember (storeMember_cwd _ _),
      List.nil_append, foldlM_storeMember (storeMember_timeout hva _)]
    rfl

theorem decodeArguments_marshal (hva : args.Valid) : decodeArguments (marshalArguments args) =
      some (⟨args.command.toList, args.cwd.toList, some args.timeoutMS⟩, []) := by
  simp only [decodeArguments, marshalArguments, decodeRunes_encodeRunes,
    flatObject_marshalRunes hva, foldlM_storedMembers hva, Option.bind_eq_bind, Option.bind_some]

theorem length_boundedText {text : List Char} {mx : Nat}
    (hbd : boundedText text mx) : (encodeRunes text).length ≤ mx := by
  simp only [boundedText, Bool.and_eq_true, decide_eq_true_eq] at hbd
  exact hbd.1

theorem length_quote_le (text : List Char) :
    (encodeRunes (quote text)).length ≤ 6 * (encodeRunes text).length + 2 := by
  have body := length_quoteBody_le text
  have hopn : (String.utf8EncodeChar '"').length = 1 := by decide
  simp only [quote, encodeRunes_cons, List.length_append, hopn]
  omega

theorem length_writeMember (key : String) (v : List Char) :
    (encodeRunes (writeMember key v)).length =
      (encodeRunes (quote key.toList)).length + 1 + (encodeRunes v).length := by
  have colon : (String.utf8EncodeChar ':').length = 1 := by decide
  simp only [writeMember, encodeRunes_append, encodeRunes_cons, List.length_append, colon]
  omega

theorem length_timeoutMember (hva : args.Valid) : (encodeRunes (writeMember "timeout_ms"
      (Nat.toDigits 10 args.timeoutMS.toNat ++ ['}']))).length ≤ 19 := by
  have hmx := hva.atMostMaximum
  simp only [maximumExecTimeoutMS] at hmx
  have short : (Nat.toDigits 10 args.timeoutMS.toNat).length ≤ 5 :=
    (Nat.length_toDigits_le_iff (by omega) (by omega)).mpr (by omega)
  have hdgs : (encodeRunes (Nat.toDigits 10 args.timeoutMS.toNat)).length =
      (Nat.toDigits 10 args.timeoutMS.toNat).length :=
    length_encodeRunes_of_single fun _ hm =>
      utf8Size_of_isDigit (Nat.isDigit_of_mem_toDigits (by omega) (by omega) hm)
  have key : (encodeRunes (quote "timeout_ms".toList)).length = 12 := by decide +kernel
  have brace : (encodeRunes ['}']).length = 1 := by decide
  rw [length_writeMember, encodeRunes_append, List.length_append]
  omega

theorem length_marshal_le (hva : args.Valid) :
    (marshalArguments args).length ≤ maxRemoteExecArgumentBytes := by
  have hcmd := length_boundedText hva.commandBounded
  have cwd := length_boundedText hva.cwdBounded
  have commandQuoted := length_quote_le args.command.toList
  have cwdQuoted := length_quote_le args.cwd.toList
  have timeout := length_timeoutMember hva
  have commandKey : (encodeRunes (quote "command".toList)).length = 9 := by decide +kernel
  have cwdKey : (encodeRunes (quote "cwd".toList)).length = 5 := by decide +kernel
  have brace : (String.utf8EncodeChar '{').length = 1 := by decide
  have comma : (String.utf8EncodeChar ',').length = 1 := by decide
  have hlm : maxRemoteExecArgumentBytes = 6 * (maxCommandBytes + maxCWDBytes) + 1024 := rfl
  unfold marshalArguments marshalRunes
  by_cases noDirectory : args.cwd = ""
  · simp only [if_pos noDirectory, encodeRunes_cons, encodeRunes_append, length_writeMember,
      List.length_append] at timeout ⊢
    omega
  · simp only [if_neg noDirectory, encodeRunes_cons, encodeRunes_append, length_writeMember,
      List.length_append] at timeout ⊢
    omega

theorem parse_marshal_of_valid (hva : args.Valid) :
    parseRemoteExecArguments (marshalArguments args) = .ok args := by
  have size := length_marshal_le hva
  have hne : marshalArguments args ≠ [] := by
    intro hem
    have := congrArg decodeRunes hem
    rw [marshalArguments, decodeRunes_encodeRunes] at this
    cases this
  have hcmd : args.command.toList ≠ [] := by
    intro hem
    exact hva.commandNonempty (String.toList_inj.mp hem)
  have minimum := hva.atLeastMinimum
  have hmx := hva.atMostMaximum
  simp only [parseRemoteExecArguments, decodeArguments_marshal hva]
  rw [if_neg (by simp only [not_or, hne, not_false_eq_true, true_and]; omega)]
  simp only [skipBlanks, List.dropWhile_nil, ne_eq, not_true_eq_false, if_false, hcmd,
    hva.commandBounded, hva.cwdBounded, and_false, or_self, Option.getD_some, String.ofList_toList]
  rw [if_neg (by omega)]

/-- Decoding the stored text gives back the arguments that were accepted. -/
theorem parse_marshal {raw : Bytes} (hpa : parseRemoteExecArguments raw = .ok args) :
    parseRemoteExecArguments (marshalArguments args) = .ok args :=
  parse_marshal_of_valid (valid_of_parse hpa)

end Marshal

/-- The rune after `m` folds to `S`, and a later member replaces an earlier one. -/
example : parseRemoteExecArguments (encodeRunes
    ("\x7b\"command\":\"a\",\"timeout_m".toList ++ Char.ofNat 0x17F ::
      "\": 2000, \"Command\":\"id\"\x7d ".toList)) = .ok ⟨"id", "", 2000⟩ := by decide +kernel

end AISummoner.Agent
