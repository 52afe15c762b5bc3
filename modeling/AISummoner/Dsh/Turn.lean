import AISummoner.Dsh.Configuration
import AISummoner.Streams.Feed

/-! # The events of a turn

`consumeTurn` of `internal/dsh/adapter.go`.  What its `select` receives, in any
order, is a list of arrivals.  Decoding is a parameter, and so is the answer of the
sink, given all calls up to the one it answers.
-/

namespace AISummoner.Dsh

open Streams

structure SessionEvent where
  type : String
  seq : Int
  data : String
  deriving DecidableEq, Repr

structure MuxFrame where
  type : String
  sessionID : String
  event : SessionEvent
  deriving DecidableEq, Repr

structure TurnData where
  turn : Int
  reason : String := ""
  chunk : String := ""
  deriving DecidableEq, Repr

structure EventChunk where
  type : String
  index : Int
  text : List UInt8
  deriving DecidableEq, Repr

structure TurnEndReason where
  kind : String
  code : String := ""
  deriving DecidableEq, Repr

inductive Call where
  | providerState (state : String)
  | reasoningDelta (text : List UInt8)
  | textDelta (text : List UInt8)
  deriving DecidableEq, Repr

structure Decoding where
  /-- `decodeStrict` of an event's data. -/
  data : String → Option TurnData
  chunk : String → Option EventChunk
  reason : String → Option TurnEndReason
  /-- `strings.ToUpper`. -/
  upper : String → String
  /-- The error of the last of these calls. -/
  sink : List Call → Option Failure

inductive Arrival where
  | failure (fatal : Option Failure)
  | canceled (error : Failure)
  | closed
  /-- A read error, with the context's error if it is one. -/
  | broken (canceled : Option Failure)
  | frame (frame : MuxFrame)
  deriving DecidableEq, Repr

structure Turn where
  lastSeq : Int
  activeTurn : Int := 0
  calls : List Call := []
  deriving DecidableEq, Repr

def providerUnavailable : Failure := .adapter "provider_unavailable" "DSH Host is unavailable"

def classifyTurnEnd (upper : String → String) (reason : TurnEndReason) : Except Failure Bool :=
  if reason.kind = "completed" then .ok true
  else if reason.kind = "aborted" then .error (.call "context canceled")
  else if reason.kind = "error" then
    if upper reason.code ∈ ["AUTH", "UNAUTHORIZED"] then
      .error (.adapter "unauthorized" "DSH provider authentication failed")
    else if upper reason.code ∈ ["RATE_LIMIT", "QUOTA"] then
      .error (.adapter "rate_limited" "DSH provider rate limited")
    else if upper reason.code ∈ ["SERVER", "TRANSPORT", "STREAM_CLOSED"] then
      .error providerUnavailable
    else .error (.adapter "provider_rejected" "DSH provider rejected the turn")
  else if reason.kind = "interrupted" then .error providerUnavailable
  else if reason.kind ∈ ["blocked", "max-tokens"] then
    .error (.adapter "provider_rejected" "DSH turn did not complete")
  else .error (protocolError "unknown DSH turn outcome")

section Steps

variable (decoding : Decoding)

def send (turn : Turn) (call : Call) : Turn × Except Failure Bool :=
  let calls := turn.calls ++ [call]
  ({ turn with calls }, match decoding.sink calls with
    | none => .ok false
    | some error => .error error)

def takeStart (turn : Turn) (event : SessionEvent) : Turn × Except Failure Bool :=
  match decoding.data event.data with
  | none => (turn, .error (protocolError "invalid DSH turn start"))
  | some data =>
    if data.turn ≤ 0 ∨ turn.activeTurn ≠ 0 then
      (turn, .error (protocolError "invalid DSH turn start"))
    else send decoding { turn with activeTurn := data.turn } (.providerState "streaming")

/-- The call a decoded chunk is for, if any. -/
def EventChunk.call (chunk : EventChunk) : Option Call :=
  if chunk.text = [] then none
  else if chunk.type = "reasoning-delta" then some (.reasoningDelta chunk.text)
  else if chunk.type = "text-delta" then some (.textDelta chunk.text)
  else none

def EventChunk.valid (chunk : EventChunk) : Bool :=
  chunk.type ≠ "" && 0 ≤ chunk.index && Encoding.validString chunk.text

def takeChunk (turn : Turn) (event : SessionEvent) : Turn × Except Failure Bool :=
  match decoding.data event.data with
  | none => (turn, .error (protocolError "invalid DSH assistant chunk"))
  | some data =>
    if data.turn ≤ 0 then (turn, .error (protocolError "invalid DSH assistant chunk"))
    else if turn.activeTurn = 0 ∨ data.turn ≠ turn.activeTurn then (turn, .ok false)
    else
      match (decoding.chunk data.chunk).filter EventChunk.valid with
      | none => (turn, .error (protocolError "invalid DSH text encoding"))
      | some chunk =>
        match chunk.call with
        | none => (turn, .ok false)
        | some call => send decoding turn call

def takeEnd (turn : Turn) (event : SessionEvent) : Turn × Except Failure Bool :=
  match decoding.data event.data with
  | none => (turn, .error (protocolError "invalid DSH turn end"))
  | some data =>
    if data.turn ≤ 0 ∨ turn.activeTurn = 0 ∨ data.turn ≠ turn.activeTurn then
      (turn, .error (protocolError "invalid DSH turn end"))
    else
      match (decoding.reason data.reason).filter (·.kind ≠ "") with
      | none => (turn, .error (protocolError "invalid DSH turn end reason"))
      | some reason => (turn, classifyTurnEnd decoding.upper reason)

def takeEvent (turn : Turn) (event : SessionEvent) : Turn × Except Failure Bool :=
  if event.type = "" ∨ event.seq ≤ turn.lastSeq then
    (turn, .error (protocolError "non-monotonic DSH session event"))
  else
    let turn := { turn with lastSeq := event.seq }
    if event.type = "turn/start" then takeStart decoding turn event
    else if event.type = "assistant/chunk" then takeChunk decoding turn event
    else if event.type = "turn/end" then takeEnd decoding turn event
    else (turn, .ok false)

def takeArrival (externalID : String) (turn : Turn) : Arrival → Turn × Except Failure Bool
  | .failure none => (turn, .ok false)
  | .failure (some fatal) => (turn, .error fatal)
  | .canceled error => (turn, .error error)
  | .closed => (turn, .error providerUnavailable)
  | .broken canceled => (turn, .error (canceled.getD providerUnavailable))
  | .frame frame =>
    if frame.type = "stream/error" then (turn, .error providerUnavailable)
    else if frame.type ≠ "session/event" ∨ frame.sessionID ≠ externalID then (turn, .ok false)
    else takeEvent decoding turn frame.event

/-- `.ok true` is the return of nil, `.ok false` that the loop waits for more. -/
def consumeTurn (externalID : String) (baseline : Int) (arrivals : List Arrival) :
    Turn × Except Failure Bool :=
  feed (takeArrival decoding externalID) { lastSeq := baseline } arrivals

end Steps

/-! ## What the sink should get -/

def Arrival.event (externalID : String) : Arrival → Option SessionEvent
  | .frame received =>
    if received.type = "session/event" ∧ received.sessionID = externalID then some received.event
    else none
  | _ => none

def sessionEvents (externalID : String) (arrivals : List Arrival) : List SessionEvent :=
  arrivals.filterMap (Arrival.event externalID)

/-- The non-empty text or reasoning a well-formed chunk of the turn carries. -/
def deltaOf (decoding : Decoding) (number : Int) (event : SessionEvent) : Option Call :=
  if event.type ≠ "assistant/chunk" then none
  else
    match decoding.data event.data with
    | none => none
    | some data =>
      if data.turn ≠ number then none
      else ((decoding.chunk data.chunk).filter EventChunk.valid).bind EventChunk.call

def startOf (decoding : Decoding) (event : SessionEvent) : Option Int :=
  if event.type = "turn/start" then (decoding.data event.data).map TurnData.turn else none

def startedTurn (decoding : Decoding) (events : List SessionEvent) : Option Int :=
  events.findSome? (startOf decoding)

/-- The deltas of the active turn; if there is none, of the first that starts. -/
def turnDeltas (decoding : Decoding) : Option Int → List SessionEvent → List Call
  | _, [] => []
  | active, event :: events =>
    (active.bind (deltaOf decoding · event)).toList ++
      turnDeltas decoding (active.or (startOf decoding event)) events

def deltasSent (calls : List Call) : List Call :=
  calls.filter fun call =>
    match call with
    | .providerState _ => false
    | _ => true

inductive Taken (decoding : Decoding) (turn : Turn) (event : SessionEvent) :
    Turn × Except Failure Bool → Prop
  | refused {next : Turn} {error : Failure} (calls : next.calls = turn.calls) :
      Taken decoding turn event (next, .error error)
  | started {data : TurnData} (newer : turn.lastSeq < event.seq) (type : event.type = "turn/start")
      (read : decoding.data event.data = some data) (positive : 0 < data.turn)
      (idle : turn.activeTurn = 0) :
      Taken decoding turn event
        (send decoding { turn with lastSeq := event.seq, activeTurn := data.turn }
          (.providerState "streaming"))
  | sent {call : Call} (newer : turn.lastSeq < event.seq) (active : turn.activeTurn ≠ 0)
      (delta : deltaOf decoding turn.activeTurn event = some call) :
      Taken decoding turn event (send decoding { turn with lastSeq := event.seq } call)
  | passed (newer : turn.lastSeq < event.seq) (other : event.type ≠ "turn/start")
      (silent : deltaOf decoding turn.activeTurn event = none) :
      Taken decoding turn event ({ turn with lastSeq := event.seq }, .ok false)
  | ended {data : TurnData} {reason : TurnEndReason} (newer : turn.lastSeq < event.seq)
      (type : event.type = "turn/end") (read : decoding.data event.data = some data)
      (active : turn.activeTurn ≠ 0) (same : data.turn = turn.activeTurn)
      (why : decoding.reason data.reason = some reason) (completed : reason.kind = "completed") :
      Taken decoding turn event ({ turn with lastSeq := event.seq }, .ok true)

section Taken

variable {decoding : Decoding} {turn : Turn} {event : SessionEvent}

theorem classifyTurnEnd_cases (upper : String → String) (reason : TurnEndReason) :
    reason.kind = "completed" ∧ classifyTurnEnd upper reason = .ok true ∨
      ∃ err, classifyTurnEnd upper reason = .error err := by
  unfold classifyTurnEnd
  grind

theorem taken_chunk (hnw : turn.lastSeq < event.seq) (type : event.type = "assistant/chunk") :
    Taken decoding turn event (takeChunk decoding { turn with lastSeq := event.seq } event) := by
  have ho : event.type ≠ "turn/start" := by
    rw [type]
    decide
  unfold takeChunk
  cases read : decoding.data event.data with
  | none => exact .refused rfl
  | some data =>
    dsimp only
    split
    · exact .refused rfl
    split
    · rename_i hpos hel
      refine .passed hnw ho ?_
      have ne : data.turn ≠ turn.activeTurn := by
        rcases hel with _ | ne
        · omega
        · exact ne
      simp [deltaOf, read, ne]
    · rename_i here
      obtain ⟨hac, h⟩ := not_or.mp here
      have expected : deltaOf decoding turn.activeTurn event =
          ((decoding.chunk data.chunk).filter EventChunk.valid).bind EventChunk.call := by
        simp [deltaOf, type, read, not_not.mp h]
      cases hdc : (decoding.chunk data.chunk).filter EventChunk.valid with
      | none => exact .refused rfl
      | some chk =>
        rw [hdc, Option.bind_some] at expected
        dsimp only
        cases carried : chk.call with
        | none => exact .passed hnw ho (expected.trans carried)
        | some call => exact .sent hnw hac (expected.trans carried)

theorem taken_end (hnw : turn.lastSeq < event.seq) (type : event.type = "turn/end") :
    Taken decoding turn event (takeEnd decoding { turn with lastSeq := event.seq } event) := by
  unfold takeEnd
  cases read : decoding.data event.data with
  | none => exact .refused rfl
  | some data =>
    dsimp only
    split
    · exact .refused rfl
    rename_i here
    obtain ⟨_, hac, h⟩ := not_or.mp here |>.imp_right not_or.mp
    cases hdc : (decoding.reason data.reason).filter (·.kind ≠ "") with
    | none => exact .refused rfl
    | some reason =>
      dsimp only
      rcases classifyTurnEnd_cases decoding.upper reason with ⟨completed, nil⟩ | ⟨_, hfa⟩
      · rw [nil]
        exact .ended hnw type read hac (not_not.mp h)
          (Option.eq_some_of_filter_eq_some hdc) completed
      · rw [hfa]
        exact .refused rfl

theorem taken (decoding : Decoding) (turn : Turn) (event : SessionEvent) :
    Taken decoding turn event (takeEvent decoding turn event) := by
  unfold takeEvent
  split
  · exact .refused rfl
  rename_i hfr
  have hnw : turn.lastSeq < event.seq := Int.not_le.mp (not_or.mp hfr).2
  dsimp only
  split
  · rename_i type
    unfold takeStart
    cases read : decoding.data event.data with
    | none => exact .refused rfl
    | some data =>
      dsimp only
      split
      · exact .refused rfl
      · rename_i a
        obtain ⟨hpos, idle⟩ := not_or.mp a
        exact .started hnw type read (Int.not_le.mp hpos) (not_not.mp idle)
  rename_i o
  split
  · exact taken_chunk hnw ‹_›
  split
  · exact taken_end hnw ‹_›
  · refine .passed hnw o ?_
    simp [deltaOf, *]

end Taken

/-! ## Runs -/

def Turn.active (turn : Turn) : Option Int :=
  if turn.activeTurn = 0 then none else some turn.activeTurn

/-- What the loop does with the events of the session, as long as none is refused. -/
structure Follows (decoding : Decoding) (turn : Turn) (events : List SessionEvent) (last : Turn) :
    Prop where
  newest : turn.lastSeq ≤ last.lastSeq ∧ ∀ event ∈ events, event.seq ≤ last.lastSeq
  active : last.active = turn.active.or (startedTurn decoding events)
  single : (events.filter (·.type = "turn/start")).length + turn.active.toList.length =
    last.active.toList.length
  sent : deltasSent last.calls = deltasSent turn.calls ++ turnDeltas decoding turn.active events

section Runs

variable {decoding : Decoding} {baseline : Int} {events k' : List SessionEvent}
  {turn middle last : Turn} {event : SessionEvent} {xid : String}

theorem turnDeltas_append (ac : Option Int) (events k' : List SessionEvent) :
    turnDeltas decoding ac (events ++ k') = turnDeltas decoding ac events ++
      turnDeltas decoding (ac.or (startedTurn decoding events)) k' := by
  induction events generalizing ac with
  | nil => cases ac <;> rfl
  | cons event events ih =>
    rw [List.cons_append, turnDeltas, ih, turnDeltas, List.append_assoc]
    cases ac <;> cases hst : startOf decoding event <;> simp [startedTurn, hst]

theorem Follows.refl (turn : Turn) : Follows decoding turn [] turn where
  newest := ⟨Int.le_refl _, nofun⟩
  active := by cases turn.active <;> rfl
  single := Nat.zero_add _
  sent := (List.append_nil _).symm

theorem Follows.trans (a : Follows decoding turn events middle)
    (b : Follows decoding middle k' last) : Follows decoding turn (events ++ k') last where
  newest := by
    refine ⟨a.newest.1.trans b.newest.1, List.forall_mem_append.mpr ⟨?_, b.newest.2⟩⟩
    exact fun event hm => (a.newest.2 event hm).trans b.newest.1
  active := by
    rw [b.active, a.active, startedTurn, startedTurn, startedTurn, List.findSome?_append,
      Option.or_assoc]
  single := by
    rw [List.filter_append, List.length_append, ← b.single, ← a.single]
    omega
  sent := by
    rw [b.sent, a.sent, a.active, turnDeltas_append, List.append_assoc]

theorem deltasSent_append (calls : List Call) (call : Call) :
    deltasSent (calls ++ [call]) = deltasSent calls ++ deltasSent [call] :=
  List.filter_append ..

theorem deltaOf_some {n : Int} {call : Call} (hdt : deltaOf decoding n event = some call) :
    event.type = "assistant/chunk" ∧ deltasSent [call] = [call] := by
  unfold deltaOf at hdt
  split at hdt
  · cases hdt
  rename_i chunked
  split at hdt
  · cases hdt
  split at hdt
  · cases hdt
  obtain ⟨_, _, carried⟩ := Option.bind_eq_some_iff.mp hdt
  refine ⟨not_not.mp chunked, ?_⟩
  unfold EventChunk.call at carried
  grind [deltasSent]

theorem turnDeltas_single (ac : Option Int) :
    turnDeltas decoding ac [event] = (ac.bind (deltaOf decoding · event)).toList :=
  List.append_nil _

theorem Follows.single_event {calls : List Call} (hnw : turn.lastSeq < event.seq)
    (ho : event.type ≠ "turn/start") (sent : deltasSent calls =
      deltasSent turn.calls ++ (turn.active.bind (deltaOf decoding · event)).toList) :
    Follows decoding turn [event] { turn with lastSeq := event.seq, calls } where
  newest := ⟨Int.le_of_lt hnw, List.forall_mem_singleton.mpr (Int.le_refl _)⟩
  active := by
    rw [startedTurn, List.findSome?_singleton, startOf, if_neg ho]
    exact Option.or_none.symm
  single := by
    rw [List.filter_singleton, decide_eq_false ho]
    exact Nat.zero_add _
  sent := by rw [turnDeltas_single]; exact sent

theorem deltasSent_send {call : Call} (hac : turn.activeTurn ≠ 0)
    (hdt : deltaOf decoding turn.activeTurn event = some call) : deltasSent (turn.calls ++ [call]) =
      deltasSent turn.calls ++ (turn.active.bind (deltaOf decoding · event)).toList := by
  rw [deltasSent_append, (deltaOf_some hdt).2, Turn.active, if_neg hac, Option.bind_some, hdt]
  rfl

theorem silent_bind (hsl : deltaOf decoding turn.activeTurn event = none) :
    (turn.active.bind (deltaOf decoding · event)).toList = [] := by
  unfold Turn.active
  split
  · rfl
  · rw [Option.bind_some, hsl]
    rfl

theorem follows_event {next : Turn} {ans : Bool}
    (ran : takeEvent decoding turn event = (next, .ok ans)) :
    Follows decoding turn [event] next := by
  have step := taken decoding turn event
  rw [ran] at step
  generalize res : (next, Except.ok ans) = outcome at step
  cases step with
  | refused => cases res
  | @started data nw type read hpos idle =>
    cases (Prod.mk.inj res).1
    have hs : turn.active = none := if_pos idle
    have hs' : Turn.active ⟨event.seq, data.turn, turn.calls ++ [.providerState "streaming"]⟩ =
        some data.turn :=
      if_neg (Int.ne_of_gt hpos)
    refine ⟨⟨Int.le_of_lt nw, List.forall_mem_singleton.mpr (Int.le_refl _)⟩, ?_, ?_, ?_⟩
    · rw [hs', hs, startedTurn, List.findSome?_singleton, startOf, if_pos type, read]
      rfl
    · rw [hs', hs, List.filter_singleton, decide_eq_true type]
      rfl
    · rw [hs, turnDeltas_single, deltasSent_append]
      rfl
  | sent nw hac hdt =>
    cases (Prod.mk.inj res).1
    refine .single_event nw ?_ (deltasSent_send hac hdt)
    rw [(deltaOf_some hdt).1]
    decide
  | passed nw o hsl =>
    cases (Prod.mk.inj res).1
    exact .single_event nw o (by rw [silent_bind hsl, List.append_nil])
  | ended nw type _ _ _ _ _ =>
    cases (Prod.mk.inj res).1
    refine .single_event nw (by rw [type]; decide) ?_
    rw [silent_bind (by simp [deltaOf, type]), List.append_nil]

theorem deltasSent_failed {next : Turn} {err : Failure}
    (ran : takeEvent decoding turn event = (next, .error err)) :
    deltasSent next.calls = deltasSent turn.calls ∨ deltasSent next.calls =
      deltasSent turn.calls ++ (turn.active.bind (deltaOf decoding · event)).toList := by
  have step := taken decoding turn event
  rw [ran] at step
  generalize result : (next, Except.error err) = outcome at step
  cases step with
  | refused calls =>
    cases result
    exact .inl (by rw [calls])
  | started =>
    cases (Prod.mk.inj result).1
    exact .inl ((deltasSent_append ..).trans (List.append_nil _))
  | sent _ hac dt =>
    cases (Prod.mk.inj result).1
    exact .inr (deltasSent_send hac dt)
  | passed | ended => cases result

theorem sessionEvents_append (xid : String) (front : List Arrival) (last : Arrival) :
    sessionEvents xid (front ++ [last]) = sessionEvents xid front ++ (last.event xid).toList := by
  rw [sessionEvents, List.filterMap_append]
  cases hf : last.event xid <;> simp [sessionEvents, hf]

theorem takeArrival_cases (decoding : Decoding) (xid : String) (turn : Turn) (arr : Arrival) :
    (∃ rv, arr = .frame rv ∧ rv.type = "session/event" ∧
        rv.sessionID = xid ∧ arr.event xid = some rv.event ∧
        takeArrival decoding xid turn arr = takeEvent decoding turn rv.event) ∨
      arr.event xid = none ∧ (takeArrival decoding xid turn arr = (turn, .ok false) ∨
          ∃ err, takeArrival decoding xid turn arr = (turn, .error err)) := by
  unfold takeArrival Arrival.event
  cases arr with
  | failure fatal => cases fatal <;> simp
  | frame rv =>
    by_cases ours : rv.type = "session/event" ∧ rv.sessionID = xid
    · refine .inl ⟨rv, rfl, ours.1, ours.2, if_pos ours, ?_⟩
      simp [ours]
    refine .inr ⟨if_neg ours, ?_⟩
    dsimp only
    split
    · exact .inr ⟨_, rfl⟩
    · rw [not_and_or] at ours
      exact .inl (if_pos ours)
  | _ => simp

theorem follows_arrival {arr : Arrival} {next : Turn} {ans : Bool}
    (ran : takeArrival decoding xid turn arr = (next, .ok ans)) :
    Follows decoding turn (arr.event xid).toList next := by
  rcases takeArrival_cases decoding xid turn arr with ⟨_, _, _, _, hf, took⟩ |
    ⟨unseen, passed | ⟨error, failed⟩⟩
  · rw [hf]
    exact follows_event (took.symm.trans ran)
  · cases (Prod.mk.inj (passed.symm.trans ran)).1
    rw [unseen]
    exact .refl turn
  · cases failed.symm.trans ran

theorem follows_of_ok {arrs : List Arrival} {ans : Bool}
    (ran : consumeTurn decoding xid baseline arrs = (last, .ok ans)) :
    Follows decoding { lastSeq := baseline } (sessionEvents xid
      (consumed (takeArrival decoding xid) { lastSeq := baseline } arrs)) last := by
  refine feed_invariant_ok (fun p turn =>
    Follows decoding { lastSeq := baseline } (sessionEvents xid p) turn) (.refl _) ?_ ran
  intro p turn _ _ ans follows hst
  rw [sessionEvents_append]
  exact follows.trans (follows_arrival hst)

theorem Follows.starts_le_one (follows : Follows decoding turn events last) :
    (events.filter (·.type = "turn/start")).length ≤ 1 := by
  have hct := follows.single
  have hbd : last.active.toList.length ≤ 1 := by cases last.active <;> simp
  omega

theorem refused_of_old (follows : Follows decoding { lastSeq := baseline } events turn)
    (old : event.seq ≤ baseline ∨ ∃ pre ∈ events, event.seq ≤ pre.seq) :
    takeEvent decoding turn event =
      (turn, .error (protocolError "non-monotonic DSH session event")) := by
  refine if_pos (.inr ?_)
  rcases old with old | ⟨pre, hm, old⟩
  · exact old.trans follows.newest.1
  · exact old.trans (follows.newest.2 pre hm)

end Runs

/-- For every sequence of arrivals after a baseline: the sink gets exactly, in order, the
    non-empty deltas of the single started turn (if the turn ends with an error, those
    before the last arrival or with it); nil is returned only on a completed end of that
    turn; an event of the session that is not newer than all before it and the baseline
    is an error; and frames of other sessions, a stream error apart, change nothing. -/
theorem turn_emits_its_deltas (decoding : Decoding) (externalID : String) (baseline : Int)
    (arrivals : List Arrival) :
    let read := consumed (takeArrival decoding externalID) { lastSeq := baseline } arrivals
    let result := consumeTurn decoding externalID baseline arrivals
    (∀ answer, result.2 = .ok answer →
        deltasSent result.1.calls = turnDeltas decoding none (sessionEvents externalID read) ∧
          ((sessionEvents externalID read).filter (·.type = "turn/start")).length ≤ 1) ∧
      (∀ error, result.2 = .error error → ∃ front last, read = front ++ [last] ∧
        (deltasSent result.1.calls = turnDeltas decoding none (sessionEvents externalID front) ∨
          deltasSent result.1.calls = turnDeltas decoding none (sessionEvents externalID read))) ∧
      (result.2 = .ok true → ∃ front received data reason, read = front ++ [.frame received] ∧
        received.type = "session/event" ∧ received.sessionID = externalID ∧
        received.event.type = "turn/end" ∧ decoding.data received.event.data = some data ∧
        startedTurn decoding (sessionEvents externalID front) = some data.turn ∧
        decoding.reason data.reason = some reason ∧ reason.kind = "completed") ∧
      (∀ before received after turn, arrivals = before ++ .frame received :: after →
        consumeTurn decoding externalID baseline before = (turn, .ok false) →
        received.type = "session/event" → received.sessionID = externalID →
        (received.event.seq ≤ baseline ∨
          ∃ earlier ∈ sessionEvents externalID before, received.event.seq ≤ earlier.seq) →
        result = (turn, .error (protocolError "non-monotonic DSH session event"))) ∧
      ∀ before received after, arrivals = before ++ .frame received :: after →
        received.type ≠ "stream/error" →
        received.type ≠ "session/event" ∨ received.sessionID ≠ externalID →
        result = consumeTurn decoding externalID baseline (before ++ after) := by
  obtain ⟨front, middle, goesOn, all, ends⟩ :=
    feed_last (takeArrival decoding externalID) { lastSeq := baseline } arrivals
  have follows : Follows decoding { lastSeq := baseline } (sessionEvents externalID front) middle := by
    have holds := follows_of_ok (show consumeTurn decoding externalID baseline front = _ from goesOn)
    rwa [all] at holds
  refine ⟨fun answer ok => ?_, fun error failed => ?_, fun nil => ?_, ?_, ?_⟩
  · have holds := follows_of_ok (show consumeTurn decoding externalID baseline arrivals =
      (_, .ok answer) from Prod.ext rfl ok)
    exact ⟨holds.sent, holds.starts_le_one⟩
  · obtain ⟨_, fed⟩ | ⟨last, read, fed⟩ := ends
    · cases (congrArg Prod.snd fed).symm.trans failed
    · refine ⟨front, last, read, ?_⟩
      change (feed _ _ _).2 = _ at failed
      rw [consumeTurn, fed]
      rw [fed] at failed
      have sent : deltasSent middle.calls = turnDeltas decoding none (sessionEvents externalID front) :=
        follows.sent
      rw [read, sessionEvents_append, turnDeltas_append, ← sent]
      rcases takeArrival_cases decoding externalID middle last with ⟨received, _, _, _, found, took⟩ |
        ⟨unseen, passed | ⟨error, refused⟩⟩
      · rw [took] at failed ⊢
        have active : middle.active = Option.or none (startedTurn decoding (sessionEvents externalID front)) :=
          follows.active
        rw [found, ← active, Option.toList_some, turnDeltas_single]
        exact deltasSent_failed (Prod.ext rfl failed)
      · exact .inl (by rw [passed])
      · exact .inl (by rw [refused])
  · obtain ⟨_, fed⟩ | ⟨last, read, fed⟩ := ends
    · cases (congrArg Prod.snd fed).symm.trans nil
    · change (feed _ _ _).2 = _ at nil
      rw [fed] at nil
      rcases takeArrival_cases decoding externalID middle last with
        ⟨received, rfl, type, same, found, took⟩ | ⟨unseen, passed | ⟨error, refused⟩⟩
      · rw [took] at nil
        have step := taken decoding middle received.event
        generalize takeEvent decoding middle received.event = outcome at step nil
        cases step with
        | refused => cases nil
        | started | sent =>
          simp only [send] at nil
          split at nil <;> cases nil
        | passed => cases nil
        | @ended data reason newer ending decoded active carried why completed =>
          have number : some middle.activeTurn = startedTurn decoding (sessionEvents externalID front) :=
            (if_neg active).symm.trans follows.active
          exact ⟨front, received, data, reason, read, type, same, ending, decoded,
            carried ▸ number.symm, why, completed⟩
      · rw [passed] at nil
        cases nil
      · rw [refused] at nil
        cases nil
  · rintro before received after turn rfl goesOn type same old
    have reached := follows_of_ok goesOn
    rw [consumed_of_continue goesOn] at reached
    have took : takeArrival decoding externalID turn (.frame received) =
        (turn, .error (protocolError "non-monotonic DSH session event")) := by
      rw [← refused_of_old reached old]
      simp [takeArrival, type, same]
    exact (feed_append_continue goesOn _).trans (feed_stop took nofun _)
  · rintro before received after rfl other foreign
    refine feed_insert (fun turn => ?_) _ before after
    simp only [takeArrival, if_neg other, if_pos foreign]

/-- A stream error ends the turn also when it names another session. -/
theorem turn_ends_on_foreign_stream_error :
    let decoding : Decoding :=
      ⟨fun _ => some ⟨1, "", ""⟩, fun _ => none, fun _ => some ⟨"completed", ""⟩, id, fun _ => none⟩
    let own (type : String) (seq : Int) := Arrival.frame ⟨"session/event", "own", ⟨type, seq, ""⟩⟩
    let foreign := Arrival.frame ⟨"stream/error", "other", ⟨"", 0, ""⟩⟩
    consumeTurn decoding "own" 0 [own "turn/start" 1, own "turn/end" 2] =
        (⟨2, 1, [.providerState "streaming"]⟩, .ok true) ∧
      consumeTurn decoding "own" 0 [own "turn/start" 1, foreign, own "turn/end" 2] =
        (⟨1, 1, [.providerState "streaming"]⟩, .error providerUnavailable) :=
  ⟨rfl, rfl⟩

end AISummoner.Dsh
