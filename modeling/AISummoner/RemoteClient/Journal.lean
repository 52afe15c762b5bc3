import AISummoner.Concurrency.Schedule
import AISummoner.Encoding.Timestamp

/-! # The events of the Remote service

`remoteclient/controller.go` keeps the last events of a daemon, and
`clientipc/server.go` hands them to the local client in pages: a client asks for
the events after a sequence number and goes on with the number it is given.
-/

namespace AISummoner.RemoteClient

open Encoding

def maxEvents : Nat := 200

/-- What `recordLocked` is called with. -/
inductive Notice where
  | started
  | paused
  | failed
  | resumed
  | preparing
  | refreshRequested
  | connecting
  | online
  | retrying
  | pairingAvailable
  | pairingExpired
  | sessionStarted
  | sessionEnded
  | stopped
  deriving DecidableEq, Repr

def Notice.texts : Notice → String × String × String
  | .started => ("daemon.started", "info", "Remote service started")
  | .paused => ("daemon.paused", "info", "Remote control is paused")
  | .failed => ("daemon.error", "error", "Remote service needs attention")
  | .resumed => ("daemon.resumed", "info", "Remote control resumed")
  | .preparing => ("tunnel.starting", "info", "Preparing connection")
  | .refreshRequested => ("pairing.refresh_requested", "info", "A new pairing code was requested")
  | .connecting => ("tunnel.connecting", "info", "Connecting to control service")
  | .online => ("tunnel.online", "info", "Connected to control service")
  | .retrying => ("tunnel.retrying", "warning", "Connection lost; retry scheduled")
  | .pairingAvailable => ("pairing.available", "info", "A pairing code is available")
  | .pairingExpired => ("pairing.expired", "warning", "The pairing code expired")
  | .sessionStarted => ("control_session.started", "info", "A remote control session started")
  | .sessionEnded => ("control_session.ended", "info", "A remote control session ended")
  | .stopped => ("daemon.stopped", "info", "Remote service stopped")

structure Event where
  sequence : Nat
  moment : Int
  notice : Notice
  deriving DecidableEq, Repr

/-- The buffer, and all that was ever recorded. -/
structure Journal where
  events : List Event := []
  sequence : Nat := 0
  recorded : List Event := []
  numbered : recorded.map Event.sequence = List.range' 1 sequence := by rfl
  retained : events = recorded.drop (sequence - maxEvents) := by rfl

theorem Journal.length_recorded (journal : Journal) :
    journal.recorded.length = journal.sequence := by
  simpa using congrArg List.length journal.numbered

/-- `recordLocked`. -/
def Journal.record (journal : Journal) (moment : Int) (notice : Notice) : Journal :=
  let event : Event := ⟨journal.sequence + 1, moment, notice⟩
  { events :=
      if journal.events.length = maxEvents then journal.events.drop 1 ++ [event]
      else journal.events ++ [event]
    sequence := journal.sequence + 1
    recorded := journal.recorded ++ [event]
    numbered := by simp [event, journal.numbered, List.range'_1_concat, Nat.add_comm]
    retained := by
      have all := journal.length_recorded
      have some : 0 < maxEvents := by decide
      have held : journal.events.length = journal.sequence - (journal.sequence - maxEvents) := by
        rw [journal.retained, List.length_drop, all]
      rw [List.drop_append_of_le_length (by omega)]
      split
      · have oldest : journal.sequence - maxEvents + 1 = journal.sequence + 1 - maxEvents := by omega
        rw [journal.retained, List.drop_drop, oldest]
      · have whole : journal.sequence - maxEvents = journal.sequence + 1 - maxEvents := by omega
        rw [journal.retained, whole] }

/-- `Controller.Events` for a limit that `handle` lets through. -/
def Journal.eventsAfter (journal : Journal) (after limit : Nat) : List Event :=
  (journal.events.filter (after < ·.sequence)).take limit

/-- `next_sequence` of the reply. -/
def nextSequence (after : Nat) (events : List Event) : Nat :=
  (events.getLast?.map Event.sequence).getD after

/-! ## The reply -/

def Event.encode (event : Event) : String :=
  "\x7b\"sequence\":" ++ toString event.sequence ++ ",\"at\":\"" ++ rfc3339Nano event.moment ++
    "\",\"kind\":\"" ++ event.notice.texts.1 ++ "\",\"level\":\"" ++ event.notice.texts.2.1 ++
    "\",\"summary\":\"" ++ event.notice.texts.2.2 ++ "\"\x7d"

def encodeEvents : List Event → String
  | [] => ""
  | [event] => event.encode
  | event :: events => event.encode ++ "," ++ encodeEvents events

instance (moment : Int) : Decidable (Dated moment) := inferInstanceAs (Decidable (_ ∧ _))

def internalError : String :=
  "\",\"ok\":false,\"error\":\x7b\"code\":\"INTERNAL_ERROR\",\"message\":\"local service failed\"\x7d\x7d"

/-- `writeResult`: `json.Marshal` fails for a year of five digits. -/
def encodeReply (id : String) (events : List Event) (next : Nat) : String :=
  if ∀ event ∈ events, Dated event.moment then
    "\x7b\"version\":1,\"id\":\"" ++ id ++ "\",\"ok\":true,\"result\":\x7b\"events\":[" ++
      encodeEvents events ++ "],\"next_sequence\":" ++ toString next ++ "\x7d\x7d"
  else
    "\x7b\"version\":1,\"id\":\"" ++ id ++ internalError

def maxFrameBytes : Nat := 64 * 1024

/-- `writeResponse`: a reply that is too long is dropped. -/
def writeResponse (encoded : String) : Option String :=
  if encoded.utf8ByteSize + 1 > maxFrameBytes then none else some (encoded ++ "\n")

def validRequestID (value : String) : Bool :=
  5 ≤ value.utf8ByteSize && value.utf8ByteSize ≤ 64 &&
    value.toList.all fun character => character.isAlphanum || character == '_' || character == '-'

/-! ### Its length -/

theorem utf8ByteSize_toString {n : Nat} (hbd : n < 2 ^ 64) : (toString n).utf8ByteSize ≤ 20 := by
  have hdgs : (toString n).toList = Nat.toDigits 10 n := String.toList_ofList
  rw [← length_encodeRunes_toList, hdgs, length_encodeRunes_of_single fun _ mem =>
    utf8Size_of_isDigit (Nat.isDigit_of_mem_toDigits (by omega) (by omega) mem)]
  exact Nat.toDigits_length 10 n 20 (by decide) (by omega)

theorem utf8ByteSize_marks :
    "\x7b\"sequence\":".utf8ByteSize = 12 ∧ ",\"at\":\"".utf8ByteSize = 7 ∧
      "\",\"kind\":\"".utf8ByteSize = 10 ∧ "\",\"level\":\"".utf8ByteSize = 11 ∧
      "\",\"summary\":\"".utf8ByteSize = 13 ∧ "\"\x7d".utf8ByteSize = 2 := by
  decide

theorem utf8ByteSize_envelope :
    "\x7b\"version\":1,\"id\":\"".utf8ByteSize = 19 ∧
      "\",\"ok\":true,\"result\":\x7b\"events\":[".utf8ByteSize = 32 ∧
      "],\"next_sequence\":".utf8ByteSize = 18 ∧ "\x7d\x7d".utf8ByteSize = 2 ∧
      internalError.utf8ByteSize = 80 := by
  decide

theorem utf8ByteSize_texts (notice : Notice) :
    notice.texts.1.utf8ByteSize + notice.texts.2.1.utf8ByteSize +
      notice.texts.2.2.utf8ByteSize ≤ 61 := by
  cases notice <;> decide

theorem Event.utf8ByteSize_encode {event : Event} (hbd : event.sequence < 2 ^ 64)
    (dated : Dated event.moment) : event.encode.utf8ByteSize ≤ 166 := by
  have sequence := utf8ByteSize_toString hbd
  have hmom := utf8ByteSize_rfc3339Nano dated
  have htxs := utf8ByteSize_texts event.notice
  unfold Event.encode
  simp only [String.utf8ByteSize_append, utf8ByteSize_marks]
  omega

theorem utf8ByteSize_encodeEvents {evs : List Event} (hbd : ∀ event ∈ evs, event.sequence < 2 ^ 64)
    (dated : ∀ event ∈ evs, Dated event.moment) :
    (encodeEvents evs).utf8ByteSize ≤ 167 * evs.length := by
  induction evs with
  | nil => simp [encodeEvents]
  | cons event evs ih =>
    simp only [List.forall_mem_cons] at hbd dated
    have ha := Event.utf8ByteSize_encode hbd.1 dated.1
    have hoth := ih hbd.2 dated.2
    cases evs with
    | nil =>
      simp only [encodeEvents, List.length_cons, List.length_nil]
      omega
    | cons b evs =>
      have comma : ",".utf8ByteSize = 1 := by decide
      simp only [encodeEvents, String.utf8ByteSize_append, comma, List.length_cons] at hoth ⊢
      omega

theorem writeResponse_isSome {id : String} {evs : List Event} {next : Nat}
    (hva : validRequestID id) (few : evs.length ≤ maxEvents) (hbd : next < 2 ^ 64)
    (bounds : ∀ event ∈ evs, event.sequence < 2 ^ 64) :
    (writeResponse (encodeReply id evs next)).isSome := by
  have short : id.utf8ByteSize ≤ 64 := by
    simp only [validRequestID, Bool.and_eq_true, decide_eq_true_eq] at hva
    exact hva.1.2
  have hn := utf8ByteSize_toString hbd
  have marks := utf8ByteSize_envelope
  have limit : maxEvents = 200 ∧ maxFrameBytes = 65536 := by decide
  have fits : (encodeReply id evs next).utf8ByteSize + 1 ≤ maxFrameBytes := by
    unfold encodeReply
    split
    · next dated =>
      have hli := utf8ByteSize_encodeEvents bounds dated
      simp only [String.utf8ByteSize_append, marks]
      omega
    · simp only [String.utf8ByteSize_append, marks]
      omega
  rw [writeResponse, if_neg (Nat.not_lt.mpr fits)]
  rfl
/-! ## Pages -/

variable {journal : Journal} {s' limit : Nat} {event : Event}

theorem Journal.numbers (journal : Journal) :
    journal.events.map Event.sequence = List.range' (journal.sequence - maxEvents + 1)
      (min journal.sequence maxEvents) := by
  have ha : 1 + (journal.sequence - maxEvents) * 1 = journal.sequence - maxEvents + 1 := by omega
  have hcnt : journal.sequence - (journal.sequence - maxEvents) = min journal.sequence maxEvents := by
    omega
  rw [journal.retained, List.map_drop, journal.numbered, List.drop_range', ha, hcnt]

theorem Journal.ordered (journal : Journal) :
    journal.events.Pairwise (·.sequence < ·.sequence) := by
  apply List.pairwise_map.mp
  rw [journal.numbers]
  exact List.pairwise_lt_range'

theorem Journal.le_sequence (mem : event ∈ journal.events) : event.sequence ≤ journal.sequence := by
  have hn := List.mem_map_of_mem (f := Event.sequence) mem
  rw [journal.numbers, List.mem_range'_1] at hn
  omega

theorem Journal.latest (journal : Journal) (some : 0 < journal.sequence) :
    ∃ event ∈ journal.events, event.sequence = journal.sequence := by
  have hpos : 0 < maxEvents := by decide
  apply List.mem_map.mp
  rw [journal.numbers, List.mem_range'_1]
  omega

theorem mem_filter_of_page (mem : event ∈ journal.eventsAfter s' limit) :
    event ∈ journal.events ∧ s' < event.sequence := by
  simpa using List.mem_of_mem_take mem

theorem page_ordered : (journal.eventsAfter s' limit).Pairwise (·.sequence < ·.sequence) :=
  journal.ordered.sublist ((List.take_sublist ..).trans List.filter_sublist)

theorem nextSequence_spec (journal : Journal) (s' limit : Nat) :
    let page := journal.eventsAfter s' limit
    (page = [] ∧ nextSequence s' page = s') ∨
      (∃ last ∈ page, nextSequence s' page = last.sequence) ∧
        ∀ event ∈ page, event.sequence ≤ nextSequence s' page := by
  have sorted := @page_ordered journal s' limit
  rcases List.eq_nil_or_concat (journal.eventsAfter s' limit) with hem | ⟨_, last, page⟩
  · simp [hem, nextSequence]
  simp only [page, List.concat_eq_append, List.pairwise_append, List.forall_mem_append] at sorted ⊢
  simp only [nextSequence, List.getLast?_concat, Option.map_some, Option.getD_some]
  refine .inr ⟨⟨last, by simp, rfl⟩, fun event mem => ?_, by simp⟩
  exact (sorted.2.2 event mem last (by simp)).le

theorem mem_page (mem : event ∈ journal.events) (hk' : s' < event.sequence)
    (le : event.sequence ≤ nextSequence s' (journal.eventsAfter s' limit)) :
    event ∈ journal.eventsAfter s' limit := by
  have hli : event ∈ journal.events.filter (s' < ·.sequence) := by simp [mem, hk']
  have sorted := journal.ordered.sublist (List.filter_sublist (p := (s' < ·.sequence)))
  rw [← List.take_append_drop limit (journal.events.filter _), List.mem_append] at hli
  rw [← List.take_append_drop limit (journal.events.filter _), List.pairwise_append] at sorted
  rcases hli with hta | left
  · exact hta
  obtain ⟨_, next⟩ | ⟨⟨last, hi, next⟩, -⟩ := nextSequence_spec journal s' limit
  · omega
  · have := sorted.2.2 last hi event left
    omega

/-! ## Polling -/

/-- A client that goes on with the number it was given. -/
structure Client where
  journal : Journal := {}
  cursor : Nat := 0
  delivered : List Event := []

inductive Act where
  | record (moment : Int) (notice : Notice)
  | poll (limit : Nat)

def Client.step (client : Client) : Act → Option Client
  | .record moment notice => some { client with journal := client.journal.record moment notice }
  | .poll limit =>
    if 1 ≤ limit ∧ limit ≤ maxEvents then
      let events := client.journal.eventsAfter client.cursor limit
      some { client with
        cursor := nextSequence client.cursor events, delivered := client.delivered ++ events }
    else none

structure Client.Sound (client : Client) : Prop where
  reached : client.cursor ≤ client.journal.sequence
  ordered : client.delivered.Pairwise (·.sequence < ·.sequence)
  passed : ∀ event ∈ client.delivered, event.sequence ≤ client.cursor
  complete : ∀ event ∈ client.journal.events, event.sequence ≤ client.cursor →
    event ∈ client.delivered

theorem Client.Sound.poll {client : Client} (hs : client.Sound) (limit : Nat) :
    Client.Sound { client with
      cursor := nextSequence client.cursor (client.journal.eventsAfter client.cursor limit)
      delivered := client.delivered ++ client.journal.eventsAfter client.cursor limit } := by
  have next := nextSequence_spec client.journal client.cursor limit
  have onward : client.cursor ≤
      nextSequence client.cursor (client.journal.eventsAfter client.cursor limit) := by
    obtain ⟨-, next⟩ | ⟨⟨last, hi, next⟩, -⟩ := next
    · exact next.ge
    · exact next ▸ (mem_filter_of_page hi).2.le
  constructor
  · obtain ⟨-, next⟩ | ⟨⟨last, hi, next⟩, -⟩ := next
    · exact next.trans_le hs.reached
    · exact next ▸ Journal.le_sequence (mem_filter_of_page hi).1
  · refine List.pairwise_append.mpr ⟨hs.ordered, page_ordered, fun old s _ mem => ?_⟩
    exact (hs.passed old s).trans_lt (mem_filter_of_page mem).2
  · intro event mem
    rcases List.mem_append.mp mem with s | mem
    · exact (hs.passed event s).trans onward
    · obtain ⟨hem, -⟩ | ⟨-, last⟩ := next
      · simp [hem] at mem
      · exact last event mem
  · intro event mem le
    by_cases old : event.sequence ≤ client.cursor
    · exact List.mem_append_left _ (hs.complete event mem old)
    · exact List.mem_append_right _ (mem_page mem (Nat.not_le.mp old) le)

theorem Client.Sound.step {client k' : Client} {act : Act} (hs : client.Sound)
    (hst : client.step act = some k') : k'.Sound := by
  cases act with
  | record _ _ =>
    cases hst
    refine ⟨hs.reached.trans (Nat.le_succ _), hs.ordered, hs.passed, fun event mem le => ?_⟩
    have kept : event ∈ client.journal.events ∨ event.sequence = client.journal.sequence + 1 := by
      simp only [Journal.record] at mem
      split at mem
      · rcases List.mem_append.mp mem with old | new
        · exact .inl (List.mem_of_mem_drop old)
        · exact .inr (by simp_all)
      · rcases List.mem_append.mp mem with old | new
        · exact .inl old
        · exact .inr (by simp_all)
    rcases kept with old | new
    · exact hs.complete event old le
    · have := hs.reached
      simp only at le
      omega
  | poll limit =>
    obtain ⟨-, ⟨⟩⟩ := Option.ite_none_right_eq_some.mp hst
    exact hs.poll limit

end AISummoner.RemoteClient
