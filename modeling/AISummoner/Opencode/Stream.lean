import AISummoner.Opencode.Completeness
import AISummoner.Opencode.Outcome
import AISummoner.Sse.Reader

/-! # The event stream of a Turn

`consumeEvents` of `internal/opencode/sse.go`: the records of the response body go to
the tracker until it has seen the end of the Turn.  What is known of the tracker's
success, and of what it has emitted by then, is here stated of the stream.
-/

namespace AISummoner.Opencode

open Encoding Sse Streams

/-- What the reader is told while it reads, line by line. -/
structure Surroundings where
  /-- `ctx.Err()`. -/
  context : Nat → Option Failure
  /-- The prompt has been dispatched. -/
  dispatched : Nat → Bool

def eventReader (setup : Setup) (told : Surroundings) : Reader Tracker Failure where
  oversizedLine := protocolError "OpenCode event exceeds limit"
  oversizedRecord := protocolError "OpenCode event exceeds limit"
  context := told.context
  consume := fun tracker record => tracker.consume setup (told.dispatched record.1, record.2)

structure Consumption where
  tracker : Tracker
  /-- The records that were consumed, each with the number of its line. -/
  records : List (Nat × Text)
  outcome : Except Failure Unit

/-- The end of the stream before the end of the Turn: what is left of a record may still be
    that end. -/
def consumeLast (setup : Setup) (told : Surroundings) (read : Run Tracker Failure) (lines : Nat)
    (record : Text) : Consumption :=
  if record = [] then
    ⟨read.state, read.records,
      .error (protocolError "OpenCode event stream ended before terminal event")⟩
  else
    match read.state.consume setup (told.dispatched lines, record) with
    | (tracker, .error failure) => ⟨tracker, read.records ++ [(lines, record)], .error failure⟩
    | (tracker, .ok true) => ⟨tracker, read.records ++ [(lines, record)], .ok ()⟩
    | (tracker, .ok false) =>
      ⟨tracker, read.records ++ [(lines, record)],
        .error (protocolError "OpenCode event stream ended before terminal event")⟩

/-- What follows the loop; `err` is the scanner's error. -/
def finishEvents (setup : Setup) (told : Surroundings) (read : Run Tracker Failure)
    (err : Option Stop) : Consumption :=
  match read.ended with
  | .failed failure => ⟨read.state, read.records, .error failure⟩
  | .stopped _ => ⟨read.state, read.records, .ok ()⟩
  | .exhausted lines record =>
    if err ≠ none then
      ⟨read.state, read.records, .error ((told.context lines).getD
        (.adapter "provider_unavailable" "OpenCode event stream read failed"))⟩
    else
      match told.context lines with
      | some failure => ⟨read.state, read.records, .error failure⟩
      | none => consumeLast setup told read lines record

def consumeEvents (setup : Setup) (told : Surroundings) (promptMessageID : Text)
    (source : Source UInt8) : Consumption :=
  finishEvents setup told
    (readLines (eventReader setup told) 0 (newTracker promptMessageID) []
      ((scanned source).1.map Prod.fst))
    (scanned source).2

def Consumption.given (told : Surroundings) (consumption : Consumption) : List (Bool × Text) :=
  consumption.records.map fun record => (told.dispatched record.1, record.2)

variable {res : Consumption}

theorem consumeEvents_feed (su : Setup) (told : Surroundings) (cf : Text)
    (src : Source UInt8) (hcs : consumeEvents su told cf src = res) :
    (feed (Tracker.consume su) (newTracker cf) (res.given told)).1 = res.tracker ∧
      (res.outcome = .ok () → (feed (Tracker.consume su) (newTracker cf) (res.given told)).2 =
          .ok true) := by
  unfold Consumption.given
  rw [feed_map]
  change (feed (eventReader su told).consume _ _).1 = _ ∧
    (_ → (feed (eventReader su told).consume _ _).2 = _)
  unfold consumeEvents at hcs
  generalize reads : readLines (eventReader su told) 0 (newTracker cf) []
    ((scanned src).1.map Prod.fst) = read at hcs
  obtain ⟨hsp, ex, st⟩ := readLines_feed _ _ reads
  unfold finishEvents at hcs
  cases hed : read.ended with
  | failed fl =>
    simp only [hed] at hcs
    subst hcs
    exact ⟨st, nofun⟩
  | stopped ln =>
    simp only [hed] at hcs
    subst hcs
    exact ⟨st, fun _ => by rw [hsp ln hed]⟩
  | exhausted lns rc =>
    have hgo := ex lns rc hed
    simp only [hed] at hcs
    split at hcs
    · subst hcs
      exact ⟨st, nofun⟩
    split at hcs
    · subst hcs
      exact ⟨st, nofun⟩
    unfold consumeLast at hcs
    split at hcs
    · subst hcs
      exact ⟨st, nofun⟩
    -- The last record is one more for the tracker.
    have last := feed_append_continue hgo [(lns, rc)]
    match stepped : (eventReader su told).consume read.state (lns, rc) with
    | (next, .error fl) =>
      simp only [show read.state.consume su (told.dispatched lns, rc) = _ from stepped]
        at hcs
      subst hcs
      rw [feed_stop stepped nofun] at last
      rw [last]
      exact ⟨rfl, nofun⟩
    | (next, .ok true) =>
      simp only [show read.state.consume su (told.dispatched lns, rc) = _ from stepped]
        at hcs
      subst hcs
      rw [feed_stop stepped nofun] at last
      rw [last]
      exact ⟨rfl, fun _ => rfl⟩
    | (next, .ok false) =>
      simp only [show read.state.consume su (told.dispatched lns, rc) = _ from stepped]
        at hcs
      subst hcs
      rw [feed_continue stepped] at last
      rw [last]
      exact ⟨rfl, nofun⟩

def Consumption.events (setup : Setup) (told : Surroundings) (configured : Text)
    (consumption : Consumption) : List Received :=
  handledEvents setup configured (consumption.given told)

theorem handled_of_success {su : Setup} {told : Surroundings} {cf : Text}
    {src : Source UInt8} (hcs : consumeEvents su told cf src = res)
    (success : res.outcome = .ok ()) : feed (Correlation.handle su) (newTracker cf).correlation
      (accepted su false [] (res.given told)) = (res.tracker.correlation, .ok true) := by
  obtain ⟨hst, ends⟩ := consumeEvents_feed su told cf src hcs
  obtain ⟨c, ans⟩ := feed_accepted su (newTracker cf) (res.given told)
  rw [hst] at c
  rw [ends success] at ans
  obtain h | ⟨-, _, o⟩ := ans
  · exact Prod.ext c.symm h.symm
  · cases o

/-! ## Success -/

theorem finish_of_final {su : Setup} {finish : Text}
    (hfin : finalAssistantFinish su finish = .ok true) :
    finish ≠ [] ∧ su.toLower finish ≠ utf8 "tool-calls" ∧
      su.toLower finish ≠ utf8 "tool_calls" := by
  unfold finalAssistantFinish at hfin
  split at hfin
  · cases hfin
  split at hfin
  · cases hfin
  · rename_i hfi _
    simpa [hfi] using hfin

/-- Success is authorised by a finished answer to the prompt and an idle after an answer, and
    what is emitted belongs to answers, whatever else the stream contains. -/
theorem success_answers_prompt (setup : Setup) (told : Surroundings) (configured : Text)
    (source : Source UInt8) (result : Consumption)
    (consumes : consumeEvents setup told configured source = result)
    (prompt : Text) (current : prompt = currentPrompt setup configured
      (result.events setup told configured)) :
    (result.outcome = .ok () →
      (∃ event ∈ result.events setup told configured, ∃ info,
        Answers setup prompt event info ∧ info.finish ≠ [] ∧
          setup.toLower info.finish ≠ utf8 "tool-calls" ∧
          setup.toLower info.finish ≠ utf8 "tool_calls") ∧
      ∃ before idle after,
        result.events setup told configured = before ++ idle :: after ∧
          isIdle setup idle = true ∧
          ∃ event ∈ before, ∃ info, Answers setup prompt event info) ∧
    ∀ emission ∈ result.tracker.correlation.delivery.emitted,
      (∃ state, emission.call = .providerState state) ∨
      ∃ origin, emission.origin = some origin ∧
        ∃ event ∈ result.events setup told configured, ∃ info,
          Answers setup prompt event info ∧ info.id = origin.messageID := by
  subst current
  refine ⟨fun success => ?_, ?_⟩
  · obtain ⟨_, rfl, ⟨event, member, info, answers, final⟩, idle⟩ :=
      ended_answers (handled_of_success consumes success)
    exact ⟨⟨event, member, info, answers, finish_of_final final⟩, idle⟩
  · obtain ⟨state, -⟩ := consumeEvents_feed setup told configured source consumes
    obtain ⟨correlation, -⟩ := feed_accepted setup (newTracker configured) (result.given told)
    rw [← state, correlation]
    exact emitted_answers setup configured _

def recordStream (records : List UInt8) : Source UInt8 where
  chunks := records.map fun record => dataLine [record] ++ [newline, newline]
  ending := .endOfFile
  joined := false
  filled := by
    intro chunk member
    obtain ⟨record, -, rfl⟩ := List.mem_map.mp member
    simp

def turnEvent (id type : String) (properties : EventProperties) : ProviderEvent :=
  ⟨utf8 id, utf8 type, .decoded { properties with sessionID := utf8 "ses_1" }⟩

def answerInfo (finish : String) : MessageInfo :=
  ⟨utf8 "msg_2", [], utf8 "assistant", utf8 "msg_1", utf8 finish, []⟩

def answerDelta : EventProperties :=
  { messageID := utf8 "msg_2", partID := utf8 "prt_1", field := utf8 "text", delta := utf8 "hi" }

/-- The prompt, a text of its answer, the answer before and after its end, and an idle. -/
def turnSetup : Setup :=
  openSetup (numbered
    [turnEvent "evt_0" "message.updated" { info := some ⟨utf8 "msg_1", [], utf8 "user", [], [], []⟩ },
      turnEvent "evt_1" "message.part.delta" answerDelta,
      turnEvent "evt_2" "message.updated" { info := some (answerInfo "") },
      turnEvent "evt_3" "message.updated" { info := some (answerInfo "stop") },
      turnEvent "evt_4" "session.idle" {}])

def undisturbed : Surroundings := ⟨fun _ => none, fun _ => true⟩

theorem success_answers_prompt_turn :
    ∃ event ∈ (consumeEvents turnSetup undisturbed [] (recordStream [0, 1, 3, 4])).events turnSetup
        undisturbed [], ∃ info, Answers turnSetup (utf8 "msg_1") event info ∧ info.finish ≠ [] ∧
      turnSetup.toLower info.finish ≠ utf8 "tool-calls" ∧
      turnSetup.toLower info.finish ≠ utf8 "tool_calls" :=
  ((success_answers_prompt turnSetup undisturbed [] (recordStream [0, 1, 3, 4]) _ rfl (utf8 "msg_1")
    (by decide +kernel)).1 (by decide +kernel)).1

/-- If no update of a message comes before the prompt it answers, all its text has been emitted
    when the stream succeeds. -/
theorem answer_emitted_whole (setup : Setup) (told : Surroundings) (configured : Text)
    (source : Source UInt8) (result : Consumption)
    (consumes : consumeEvents setup told configured source = result)
    (success : result.outcome = .ok ()) (events : List Received)
    (handled : events = result.events setup told configured)
    (noCompatibility : ∀ event ∈ events, event.type ≠ .compatibilityDelta) (messageID : Text)
    (answered : ∃ event ∈ events, Correlation.Updates setup messageID event)
    (promptFirst : PromptFirst setup configured messageID events) :
    ∀ text ∈ textsOf setup messageID events,
      fragmentsOf result.tracker.correlation.delivery.emitted messageID text.partID =
        receivedText (textsOf setup messageID events) text.partID := by
  intro text member
  obtain ⟨event, among, carries⟩ := List.mem_filterMap.mp member
  have read := Correlation.textOf_of_textFor carries
  obtain ⟨valid, _⟩ := readText_of_textOf read
  have family := family_of_textOf read (noCompatibility event among)
  exact emitted_of_ended handled.symm noCompatibility promptFirst answered valid.message
    (handled_of_success consumes success) (valid.part (.inl family))

/-- An update before the prompt settles that the message answers none: its text is dropped, and
    the update after the prompt does not bring it back. -/
theorem text_lost_before_prompt :
    (consumeEvents turnSetup undisturbed [] (recordStream [2, 1, 0, 3, 4])).outcome = .ok () ∧
      textsOf turnSetup (utf8 "msg_2")
          ((consumeEvents turnSetup undisturbed [] (recordStream [2, 1, 0, 3, 4])).events turnSetup
            undisturbed []) =
        [{ family := .messagePart, partID := utf8 "prt_1", delta := utf8 "hi" }] ∧
      (consumeEvents turnSetup undisturbed []
        (recordStream [2, 1, 0, 3, 4])).tracker.correlation.delivery.emitted = [] := by
  decide +kernel

def turnRecords : List Received :=
  [⟨utf8 "ses_1", utf8 "evt_0", .messageUpdated, { sessionID := utf8 "ses_1", info := some ⟨utf8 "msg_1", [], utf8 "user", [], [], []⟩ }⟩,
    ⟨utf8 "ses_1", utf8 "evt_1", .messagePartDelta, { answerDelta with sessionID := utf8 "ses_1" }⟩,
    ⟨utf8 "ses_1", utf8 "evt_3", .messageUpdated, { sessionID := utf8 "ses_1", info := some (answerInfo "stop") }⟩,
    ⟨utf8 "ses_1", utf8 "evt_4", .sessionIdle, { sessionID := utf8 "ses_1" }⟩]

/-- The text waits for the update of its message. -/
theorem answer_emitted_whole_turn :
    fragmentsOf (consumeEvents turnSetup undisturbed []
        (recordStream [0, 1, 3, 4])).tracker.correlation.delivery.emitted (utf8 "msg_2")
        (utf8 "prt_1") = utf8 "hi" := by
  have whole := answer_emitted_whole turnSetup undisturbed [] (recordStream [0, 1, 3, 4]) _ rfl
    (by decide +kernel) turnRecords (by decide +kernel) (by decide +kernel) (utf8 "msg_2")
    ⟨⟨utf8 "ses_1", utf8 "evt_3", .messageUpdated,
      { sessionID := utf8 "ses_1", info := some (answerInfo "stop") }⟩, by simp [turnRecords],
      (answerInfo "stop", .assistant), by decide +kernel, rfl⟩ ?_
    { family := .messagePart, partID := utf8 "prt_1", delta := utf8 "hi" } (by decide +kernel)
  · rw [whole]
    decide +kernel
  · intro past event rest state split reached info role reports own
    -- The third event is the only one that updates the message.
    rcases past with _ | ⟨first, _ | ⟨second, _ | ⟨third, _ | ⟨fourth, past⟩⟩⟩⟩ <;>
      simp only [turnRecords, List.cons_append, List.nil_append, List.cons.injEq] at split
    · obtain ⟨rfl, -⟩ := split
      cases (show some _ = some _ from reports)
      exact absurd own (by decide +kernel)
    · obtain ⟨-, rfl, -⟩ := split
      cases (show none = some _ from reports)
    · obtain ⟨rfl, rfl, rfl, -⟩ := split
      have known := congrArg (fun result => result.1.promptMessageID) reached
      cases (show some _ = some _ from reports)
      rw [← known]
      decide +kernel
    · obtain ⟨-, -, -, rfl, -⟩ := split
      cases (show none = some _ from reports)
    · simp at split

end AISummoner.Opencode
