import AISummoner.SshClient.Capture

/-! # The body of a callback

The two encodings `serveHTTP` makes around `Invoke`: the arguments it builds from
a callback, and the result it answers with.  A byte of output takes at most six
bytes in the encoding, and an output has at most 256 KiB.
-/

namespace AISummoner.OpencodeBridge

open Concurrency Concurrency.Program Encoding
open Store (Bytes)
open Agent AISummoner.Runtime App

/-- The arguments `serveHTTP` hands to `Invoke`. -/
def callbackArguments (command cwd : String) (timeoutSeconds : Int) : Bytes :=
  marshalArguments ⟨command, cwd, timeoutSeconds * 1000⟩

theorem boundedText_of_utf8 {text : String} {mx : Nat}
    (hbd : (utf8 text).length ≤ mx) (noNul : Char.ofNat 0 ∉ text.toList) :
    boundedText text.toList mx := by
  simp only [boundedText, Bool.and_eq_true, decide_eq_true_eq, Bool.not_eq_true',
    List.contains_eq_mem, decide_eq_false_iff_not]
  exact ⟨hbd, noNul⟩

/-- Whatever the command and the directory, the bridge's encoding of them is within the
    limit of the Service, which reads exactly them back from it, and once more from the
    encoding it stores itself. -/
theorem callback_arguments_read_back (command cwd : String) (timeoutSeconds : Int)
    (commandNonempty : 1 ≤ (utf8 command).length) (commandBounded : (utf8 command).length ≤ 8192)
    (commandText : Char.ofNat 0 ∉ command.toList) (cwdBounded : (utf8 cwd).length ≤ 4096)
    (cwdText : Char.ofNat 0 ∉ cwd.toList) (atLeastMinimum : 1 ≤ timeoutSeconds)
    (atMostMaximum : timeoutSeconds ≤ 60) :
    (callbackArguments command cwd timeoutSeconds).length ≤ maxRemoteExecArgumentBytes ∧
      ∃ arguments,
        parseRemoteExecArguments (callbackArguments command cwd timeoutSeconds) = .ok arguments ∧
        arguments = ⟨command, cwd, timeoutSeconds * 1000⟩ ∧
        parseRemoteExecArguments (marshalArguments arguments) = .ok arguments := by
  have valid : RemoteExecArguments.Valid ⟨command, cwd, timeoutSeconds * 1000⟩ := by
    refine ⟨?_, boundedText_of_utf8 commandBounded commandText,
      boundedText_of_utf8 cwdBounded cwdText, ?_, ?_⟩
    · rintro rfl
      exact absurd commandNonempty (by decide)
    · simp only [minimumExecTimeoutMS]
      omega
    · simp only [maximumExecTimeoutMS]
      omega
  have accepted := parse_marshal_of_valid valid
  exact ⟨length_marshal_le valid, _, accepted, rfl, parse_marshal accepted⟩

theorem callback_arguments_read_back_listing :
    (callbackArguments "ls <a> & \"b\"" "/tmp" 30).length ≤ maxRemoteExecArgumentBytes ∧
      ∃ arguments,
        parseRemoteExecArguments (callbackArguments "ls <a> & \"b\"" "/tmp" 30) = .ok arguments ∧
        arguments = ⟨"ls <a> & \"b\"", "/tmp", 30 * 1000⟩ ∧
        parseRemoteExecArguments (marshalArguments arguments) = .ok arguments :=
  callback_arguments_read_back "ls <a> & \"b\"" "/tmp" 30 (by decide +kernel) (by decide +kernel)
    (by decide +kernel) (by decide +kernel) (by decide +kernel) (by decide) (by decide)

/-! ## The result -/

def maxResponseBytes : Nat := 2 * 1024 * 1024

/-- `strconv.AppendInt` to base ten. -/
def decimal (value : Int) : List Char :=
  if value < 0 then '-' :: Nat.toDigits 10 value.natAbs else Nat.toDigits 10 value.natAbs

def marshalBool (value : Bool) : Bytes := utf8 (if value then "true" else "false")

def marshalFailure (failure : ToolFailure) : Bytes :=
  utf8 "\x7b\"code\":" ++ quoteBytes (utf8 failure.code) ++
    utf8 ",\"message\":" ++ quoteBytes (utf8 failure.message) ++ utf8 "\x7d"

/-- `json.Marshal` of a `ToolResult`; `failure` is `omitempty`. -/
def marshalResult (result : ToolResult) : Bytes :=
  utf8 "\x7b\"tool_call_id\":" ++ quoteBytes (utf8 result.toolCallID) ++
    utf8 ",\"stdout\":" ++ quoteBytes result.stdout ++
    utf8 ",\"stderr\":" ++ quoteBytes result.stderr ++
    utf8 ",\"exit_code\":" ++ encodeRunes (decimal result.exitCode) ++
    utf8 ",\"truncated\":" ++ marshalBool result.truncated ++
    utf8 ",\"denied\":" ++ marshalBool result.denied ++
    (match result.failure with
      | none => []
      | some failure => utf8 ",\"failure\":" ++ marshalFailure failure) ++
    utf8 "\x7d"

/-- How `serveHTTP` ends once the callback is admitted. -/
inductive Reply where
  /-- `Invoke` has failed: the error is reported as fatal. -/
  | failed (error : AgentError)
  /-- `errResponseTooLarge` is reported as fatal. -/
  | tooLarge
  | body (encoded : Bytes)
  deriving DecidableEq, Repr

/-- `serveHTTP` from the encoding of the arguments to that of the result. -/
def serveCall (turn : Nat) (ctx : Context) (command cwd : String) (timeoutSeconds : Int) :
    App.Code Reply :=
  (Service.invoke turn ctx ⟨toolRemoteExec, callbackArguments command cwd timeoutSeconds⟩).bind fun
  | .error error => .done (.failed error)
  | .ok result =>
    let encoded := marshalResult result
    .done (if encoded.length > maxResponseBytes then .tooLarge else .body encoded)

structure Bounded (result : ToolResult) : Prop where
  id : (utf8 result.toolCallID).length ≤ 64
  output : result.stdout.length + result.stderr.length ≤ maxToolOutputBytes
  exitCode : -(2 ^ 63) ≤ result.exitCode ∧ result.exitCode < 2 ^ 63
  failure : ∀ failure ∈ result.failure,
    (utf8 failure.code).length ≤ 64 ∧ (utf8 failure.message).length ≤ 64

theorem length_decimal_le {v : Int} (minimum : -(2 ^ 63) ≤ v) (hmx : v < 2 ^ 63) :
    (encodeRunes (decimal v)).length ≤ 20 := by
  have short : (Nat.toDigits 10 v.natAbs).length ≤ 19 :=
    (Nat.length_toDigits_le_iff (by omega) (by omega)).mpr (by omega)
  have hdgs : (encodeRunes (Nat.toDigits 10 v.natAbs)).length =
      (Nat.toDigits 10 v.natAbs).length :=
    length_encodeRunes_of_single fun _ hm =>
      utf8Size_of_isDigit (Nat.isDigit_of_mem_toDigits (by omega) (by omega) hm)
  have sign : (String.utf8EncodeChar '-').length = 1 := by decide
  unfold decimal
  split
  · rw [encodeRunes_cons, List.length_append]
    omega
  · omega

variable {failure : ToolFailure} {result : ToolResult} {err : AgentError}
  {args : RemoteExecArguments}

theorem length_marshalFailure_le (code : (utf8 failure.code).length ≤ 64)
    (hmsg : (utf8 failure.message).length ≤ 64) :
    (utf8 ",\"failure\":" ++ marshalFailure failure).length ≤ 1024 := by
  have codeQuoted := length_quoteBytes_le (utf8 failure.code)
  have messageQuoted := length_quoteBytes_le (utf8 failure.message)
  have hfld : (utf8 ",\"failure\":").length = 11 := by decide +kernel
  have ha : (utf8 "\x7b\"code\":").length = 8 := by decide +kernel
  have hb : (utf8 ",\"message\":").length = 11 := by decide +kernel
  have hclg : (utf8 "\x7d").length = 1 := by decide +kernel
  simp only [marshalFailure, List.length_append]
  omega

theorem length_marshalResult_le (hbd : Bounded result) :
    (marshalResult result).length ≤ maxResponseBytes := by
  have id := hbd.id
  have houtp := hbd.output
  have idQuoted := length_quoteBytes_le (utf8 result.toolCallID)
  have stdoutQuoted := length_quoteBytes_le result.stdout
  have stderrQuoted := length_quoteBytes_le result.stderr
  have exitCode := length_decimal_le hbd.exitCode.1 hbd.exitCode.2
  have flag (v : Bool) : (marshalBool v).length ≤ 5 := by
    cases v <;> decide +kernel
  have truncated := flag result.truncated
  have denied := flag result.denied
  have names : (utf8 "\x7b\"tool_call_id\":").length + (utf8 ",\"stdout\":").length +
      (utf8 ",\"stderr\":").length + (utf8 ",\"exit_code\":").length +
      (utf8 ",\"truncated\":").length + (utf8 ",\"denied\":").length + (utf8 "\x7d").length ≤ 128 := by
    decide +kernel
  have failure : (match result.failure with
      | none => []
      | some failure => utf8 ",\"failure\":" ++ marshalFailure failure : Bytes).length ≤ 1024 := by
    cases hl : result.failure with
    | none => exact Nat.zero_le _
    | some failure =>
      obtain ⟨code, msg⟩ := hbd.failure failure hl
      exact length_marshalFailure_le code msg
  simp only [maxToolOutputBytes] at houtp
  simp only [marshalResult, List.length_append, maxResponseBytes]
  omega

/-! ## What `Invoke` returns -/

def base32Digits : List Char := "abcdefghijklmnopqrstuvwxyz234567".toList

/-- Base 32 without padding, in lower case. -/
def base32 (bytes : Bytes) : List Char :=
  let count := (8 * bytes.length + 4) / 5
  let value := bytes.foldl (fun value byte => value * 256 + byte.toNat) 0
  let shifted := value * 2 ^ (5 * count - 8 * bytes.length)
  (List.range count).map fun index =>
    base32Digits.getD (shifted / 32 ^ (count - 1 - index) % 32) 'a'

def randomIDBytes : Nat := 16

/-- `id.New`, for the random bytes it reads. -/
def newIdentifier (kind : String) (random : Bytes) : String :=
  kind ++ "_" ++ String.ofList (base32 random)

/-- What the libraries below `Invoke` answer with: identifiers as `id.New` makes them,
    and an exit code that is an `int`.  The output of a command is any bytes. -/
def Genuine : (operation : App.Operation) → operation.Response → Prop
  | .newID kind, response => ∀ id, response = some id →
    ∃ random : Bytes, random.length = randomIDBytes ∧ id = newIdentifier kind random
  | .remoteCommand _, response => ∀ execution, response = .ok execution →
    -(2 ^ 63) ≤ execution.exitCode ∧ execution.exitCode < 2 ^ 63
  | _, _ => True

theorem length_newIdentifier (kind : String) {random : Bytes}
    (size : random.length = randomIDBytes) :
    (utf8 (newIdentifier kind random)).length = (utf8 kind).length + 27 := by
  have hsg : ∀ ix < 32, (base32Digits.getD ix 'a').utf8Size = 1 := by decide +kernel
  have hdgs : (encodeRunes (base32 random)).length = (base32 random).length := by
    apply length_encodeRunes_of_single
    intro _ hm
    obtain ⟨ix, _, rfl⟩ := List.mem_map.mp hm
    exact hsg _ (Nat.mod_lt _ (by decide))
  have hcnt : (base32 random).length = 26 := by
    simp only [base32, List.length_map, List.length_range, size, randomIDBytes]
  have separator : (encodeRunes "_".toList).length = 1 := by decide +kernel
  simp only [newIdentifier, utf8, String.toList_append, String.toList_ofList, encodeRunes_append,
    List.length_append, hdgs, hcnt, separator]

theorem length_stableFailureCode_le (code : String) :
    (utf8 (stableFailureCode code)).length ≤ 64 := by
  unfold stableFailureCode
  split
  · decide +kernel
  · rename_i ha
    have size : (utf8 code).length = code.utf8ByteSize := length_encodeRunes_toList code
    omega

theorem length_executionFailureCode_le (err : AgentError) (ed : Option AgentError) :
    (utf8 (Service.executionFailureCode err ed)).length ≤ 64 := by
  have transport : (utf8 failureExecTransport).length ≤ 64 := by decide +kernel
  unfold Service.executionFailureCode
  split
  · decide +kernel
  split
  · decide +kernel
  split
  · split
    · exact length_stableFailureCode_le _
    · exact transport
  · exact transport

theorem length_truncateOutput_le (stdout stderr : Bytes) (mx : Nat) :
    (truncateOutput stdout stderr mx).1.length +
      (truncateOutput stdout stderr mx).2.1.length ≤ mx := by
  unfold truncateOutput
  split
  · assumption
  · simp only [List.length_take]
    omega

theorem zero_int : -(2 ^ 63) ≤ (0 : Int) ∧ (0 : Int) < 2 ^ 63 := by decide

theorem bounded_failure (code : (utf8 failure.code).length ≤ 64)
    (hmsg : (utf8 failure.message).length ≤ 64) : Bounded { failure := some failure } where
  id := Nat.zero_le 64
  output := Nat.zero_le _
  exitCode := zero_int
  failure := by
    rintro _ ⟨⟩
    exact ⟨code, hmsg⟩

theorem Bounded.named (hbd : Bounded result) {cid : String}
    (id : (utf8 cid).length ≤ 64) : Bounded { result with toolCallID := cid } where
  id := id
  output := hbd.output
  exitCode := hbd.exitCode
  failure := hbd.failure

section Invoke

variable {ctx : Context} {ses : Store.AgentSession} {cid : String}

theorem execute_bounded (ctx : Context) (ses : Store.AgentSession) (tg : ExecutionTarget)
    (args : RemoteExecArguments) : (Service.execute ctx ses tg args).returnsWhen Genuine
      fun (result, _) => Bounded result := by
  apply SshClient.execute_returnsWhen
  · have htxs : ∀ failure ∈ SshClient.executionRefusals,
        (utf8 failure.code).length ≤ 64 ∧ (utf8 failure.message).length ≤ 64 := by decide +kernel
    intro failure hm err
    exact bounded_failure (htxs failure hm).1 (htxs failure hm).2
  apply SshClient.runRemote_returnsWhen
  · intro err hed
    have hmsg : (utf8 "remote execution failed").length ≤ 64 := by decide +kernel
    exact bounded_failure (length_executionFailureCode_le err hed) hmsg
  · intro _ exe han
    exact ⟨Nat.zero_le 64, length_truncateOutput_le _ _ _, han exe rfl, nofun⟩

def Fits (outcome : Except AgentError ToolResult) : Prop :=
  ∀ result, outcome = .ok result → Bounded result

theorem fits_error (err : AgentError) : Fits (.error err) := nofun

theorem fits_ok (hbd : Bounded result) : Fits (.ok result) := by
  rintro _ ⟨⟩
  exact hbd

theorem settleFailure_fits (hbd : Bounded result) :
    (Service.settleFailure ctx ses cid result err).returnsWhen Genuine Fits := by
  apply returnsWhen_rest
  rintro ⟨_, terr⟩
  apply returnsWhen_rest
  intro _
  cases terr with
  | some terr => exact fits_error _
  | none =>
    apply returnsWhen_rest
    intro _
    show Fits _
    split
    · exact fits_ok hbd
    · exact fits_error _

theorem settleSuccess_fits (hbd : Bounded result) :
    (Service.settleSuccess ses cid result).returnsWhen Genuine Fits := by
  apply returnsWhen_rest
  rintro ⟨_, terr⟩
  cases terr with
  | some terr => exact returnsWhen_rest fun _ => fits_error _
  | none =>
    apply returnsWhen_rest
    intro _
    exact returnsWhen_rest fun _ => fits_ok hbd

theorem runTool_fits {tg : ExecutionTarget} (id : (utf8 cid).length ≤ 64) :
    (Service.runTool ctx ses tg cid args).returnsWhen Genuine Fits := by
  apply returnsWhen_rest
  intro _
  apply returnsWhen_bind
  apply returnsWhen_mono (execute_bounded ctx ses tg args)
  rintro ⟨_, failure⟩ hbd
  cases failure with
  | some _ => exact settleFailure_fits (hbd.named id)
  | none => exact settleSuccess_fits (hbd.named id)

theorem abandonTool_fits {exc : String} :
    (Service.abandonTool ses cid exc err).returnsWhen Genuine Fits := by
  apply returnsWhen_rest
  rintro ⟨_, _⟩
  exact returnsWhen_rest fun _ => fits_error _

theorem denyTool_fits (id : (utf8 cid).length ≤ 64) :
    (Service.denyTool ses cid).returnsWhen Genuine Fits := by
  have denied : Bounded (Service.deniedResult cid) := by
    refine ⟨id, Nat.zero_le _, zero_int, ?_⟩
    rintro _ ⟨⟩
    decide +kernel
  apply returnsWhen_rest
  rintro ⟨_, terr⟩
  apply returnsWhen_rest
  intro _
  cases terr with
  | some _ => exact fits_error _
  | none => exact fits_ok denied

def EndFits : Except (Except AgentError ToolResult) Unit → Prop
  | .error oc => Fits oc
  | .ok _ => True

theorem approveTool_fits {turn : Nat} (id : (utf8 cid).length ≤ 64) :
    (Service.approveTool turn ctx ses cid args).returnsWhen Genuine EndFits := by
  have abandoned (exc : String) (err : AgentError) :
      ((Service.abandonTool ses cid exc err).bind fun result =>
        (.done (.error result) : App.Code _)).returnsWhen Genuine EndFits :=
    returnsWhen_bind (returnsWhen_mono abandonTool_fits fun _ fits => fits)
  apply returnsWhen_rest
  rintro (err | _)
  · exact abandoned _ _
  apply returnsWhen_rest
  intro _
  apply returnsWhen_rest
  rintro (err | dec)
  · exact abandoned _ _
  cases dec with
  | deny => exact returnsWhen_bind (returnsWhen_mono (denyTool_fits id) fun _ fits => fits)
  | approveOnce | approveSession =>
    apply returnsWhen_rest
    rintro (err | _)
    · exact abandoned _ _
    · exact returnsWhen_rest fun _ => trivial

theorem invoke_fits (turn : Nat) (ctx : Context) (rq : ToolRequest) :
    (Service.invoke turn ctx rq).returnsWhen Genuine Fits := by
  apply returnsWhen_rest
  rintro (err | _)
  · exact fits_error _
  apply SshClient.returnsWhen_deferring
  apply returnsWhen_rest
  rintro (err | _)
  · exact fits_error _
  show (if _ then _ else _ : App.Code _).returnsWhen _ _
  split
  · exact fits_error _
  split
  · exact fits_error _
  rename_i args _
  rintro (_ | _) made
  · exact fits_error _
  obtain ⟨random, size, rfl⟩ := made _ rfl
  have id : (utf8 (newIdentifier "tool" random)).length ≤ 64 := by
    have kind : (utf8 "tool").length = 4 := by decide +kernel
    rw [length_newIdentifier "tool" size]
    omega
  intro _ _
  rintro ⟨_, _⟩ _
  show ((storedRaw ctx _).chain _).returnsWhen _ _
  apply returnsWhen_rest
  rintro (err | _)
  · exact fits_error _
  show (if _ then _ else _ : App.Code _).returnsWhen _ _
  split
  · apply returnsWhen_bind
    apply returnsWhen_mono (approveTool_fits id)
    rintro (_ | _) fits
    · exact fits
    · exact runTool_fits id
  · exact runTool_fits id

end Invoke

/-- Whatever a remote command writes, text or not, the encoding of the result that
    `Invoke` returns is within the response limit, and a callback never ends with a
    response that is too large. -/
theorem response_within_limit (turn : Nat) (ctx : Context) (request : ToolRequest)
    (command cwd : String) (timeoutSeconds : Int) :
    ((Service.invoke turn ctx request).returnsWhen Genuine fun outcome =>
      ∀ result, outcome = .ok result → (marshalResult result).length ≤ maxResponseBytes) ∧
    (serveCall turn ctx command cwd timeoutSeconds).returnsWhen Genuine (· ≠ .tooLarge) := by
  constructor
  · apply returnsWhen_mono (invoke_fits turn ctx request)
    exact fun outcome fits result returned => length_marshalResult_le (fits result returned)
  · apply returnsWhen_bind
    apply returnsWhen_mono (invoke_fits turn ctx _)
    rintro (error | result) fits
    · exact nofun
    · have size := length_marshalResult_le (fits result rfl)
      show (if _ then _ else _ : Reply) ≠ _
      rw [if_neg (by omega)]
      exact nofun

end AISummoner.OpencodeBridge
