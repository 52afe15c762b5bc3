import AISummoner.Opencode.Order

/-! # Which events are looked at

Events of other sessions, events before the prompt was dispatched and events that
were seen before change nothing.  What is left of a stream is its accepted events,
and consuming the records of a stream is handling those.
-/

namespace AISummoner.Opencode

open Encoding Streams

variable {su : Setup}

/-! ## Redundant records -/

/-- A record that was read before, an event of another session, or an event of this session
    with the id of an event that was read before. -/
def Redundant (setup : Setup) (past : List Text) (record : Text) : Prop :=
  record ∈ past ∨ ∃ event, receive (setup.decode record) = .ok event ∧
    (event.sessionID ≠ setup.externalSessionID ∨
      ∃ earlier ∈ past, ∃ seen, receive (setup.decode earlier) = .ok seen ∧
        seen.sessionID = setup.externalSessionID ∧ seen.id = event.id)

/-- The second stream is the first with redundant records in any places, after `past`. -/
inductive Padded (setup : Setup) : List Text → List Text → List Text → Prop
  | nil (past : List Text) : Padded setup past [] []
  | keep {past records padded : List Text} {record : Text}
    (rest : Padded setup (past ++ [record]) records padded) :
    Padded setup past (record :: records) (record :: padded)
  | insert {past records padded : List Text} {record : Text}
    (redundant : Redundant setup past record)
    (rest : Padded setup (past ++ [record]) records padded) :
    Padded setup past records (record :: padded)

/-- Every record read so far could be looked at, and was noted if it is of this session. -/
def Noted (setup : Setup) (past : List Text) (tracker : Tracker) : Prop :=
  ∀ record ∈ past, ∃ event, receive (setup.decode record) = .ok event ∧
    (event.sessionID = setup.externalSessionID → event.id ∈ tracker.seenIDs)

namespace Tracker

variable {trk : Tracker} {p : List Text} {rc : Text}

theorem arm_of_armed (armed : trk.armed) (dp : Bool) : trk.arm dp = trk := by
  obtain ⟨_, _, c⟩ := trk
  cases armed
  rfl

theorem accept_cases (su : Setup) (armed : trk.armed) (ev : Received) :
    (trk.accept su ev = (trk, .ok false) ∧
        (ev.sessionID = su.externalSessionID → ev.id ∈ trk.seenIDs)) ∨
      (∃ err, trk.accept su ev = (trk, .error err)) ∨
      ev.sessionID = su.externalSessionID ∧ ev.id ∉ trk.seenIDs ∧ trk.accept su ev =
          ({ trk with
             seenIDs := trk.seenIDs ++ [ev.id]
             correlation := (trk.correlation.handle su ev).1 },
            (trk.correlation.handle su ev).2) := by
  unfold accept
  by_cases own : ev.sessionID = su.externalSessionID
  · rw [if_neg (not_not.mpr own), if_neg (by simp [armed])]
    by_cases seen : ev.id ∈ trk.seenIDs
    · rw [if_pos seen]
      exact .inl ⟨rfl, fun _ => seen⟩
    rw [if_neg seen]
    split
    · exact .inr (.inl ⟨_, rfl⟩)
    · exact .inr (.inr ⟨own, seen, rfl⟩)
  · rw [if_pos own]
    exact .inl ⟨rfl, fun h => absurd h own⟩

theorem armed_consume (armed : trk.armed) (rc : Bool × Text) : (trk.consume su rc).1.armed := by
  unfold consume
  rw [arm_of_armed armed]
  split
  · exact armed
  · rename_i ev _
    obtain ⟨h, _⟩ | ⟨_, h⟩ | ⟨_, _, h⟩ := accept_cases su armed ev <;>
      rw [h] <;> exact armed

theorem noted_consume (armed : trk.armed) (noted : Noted su p trk) {dp : Bool} {next : Tracker}
    {ans : Bool} (hcs : trk.consume su (dp, rc) = (next, .ok ans)) : Noted su (p ++ [rc]) next := by
  unfold consume at hcs
  rw [arm_of_armed armed] at hcs
  simp only at hcs
  split at hcs
  · cases hcs
  rename_i ev hrv
  have grows : ∀ id, id ∈ trk.seenIDs → id ∈ next.seenIDs := by
    obtain ⟨h, _⟩ | ⟨_, h⟩ | ⟨_, _, h⟩ := accept_cases su armed ev
    · rw [h] at hcs
      cases hcs
      exact fun _ => id
    · rw [h] at hcs
      cases hcs
    · rw [h] at hcs
      rw [← (Prod.mk.inj hcs).1]
      exact fun _ => List.mem_append_left _
  intro o hm
  obtain pre | here := List.mem_append.mp hm
  · obtain ⟨ev, hf, seen⟩ := noted o pre
    exact ⟨ev, hf, fun own => grows _ (seen own)⟩
  rw [List.mem_singleton] at here
  subst here
  refine ⟨ev, hrv, fun own => ?_⟩
  obtain ⟨h, seen⟩ | ⟨_, h⟩ | ⟨_, _, h⟩ := accept_cases su armed ev
  · exact grows _ (seen own)
  · rw [h] at hcs
    cases hcs
  · rw [h] at hcs
    rw [← (Prod.mk.inj hcs).1]
    exact List.mem_append_right _ (List.mem_singleton_self _)

theorem consume_redundant (armed : trk.armed)
    (noted : Noted su p trk) (redundant : Redundant su p rc)
    (dp : Bool) : trk.consume su (dp, rc) = (trk, .ok false) := by
  have k : ∃ ev, receive (su.decode rc) = .ok ev ∧
      (ev.sessionID = su.externalSessionID → ev.id ∈ trk.seenIDs) := by
    obtain again | ⟨ev, hrv, hfo | ⟨pre, hm, seen, hf, own, h⟩⟩ := redundant
    · exact noted rc again
    · exact ⟨ev, hrv, fun own => absurd own hfo⟩
    · obtain ⟨o, again, noted⟩ := noted pre hm
      cases hf.symm.trans again
      exact ⟨ev, hrv, fun _ => h ▸ noted own⟩
  obtain ⟨ev, hrv, seen⟩ := k
  unfold consume
  rw [arm_of_armed armed]
  simp only [hrv]
  unfold accept
  by_cases own : ev.sessionID = su.externalSessionID
  · rw [if_neg (not_not.mpr own), if_neg (by simp [armed]), if_pos (seen own)]
  · rw [if_pos own]

end Tracker

theorem feed_padded {p rcs padded : List Text} (pads : Padded su p rcs padded)
    {trk : Tracker} (armed : trk.armed) (noted : Noted su p trk) :
    feed (Tracker.consume su) trk (padded.map (true, ·)) =
      feed (Tracker.consume su) trk (rcs.map (true, ·)) := by
  induction pads generalizing trk with
  | nil => rfl
  | @keep p rcs padded rc rest ih =>
    simp only [List.map_cons]
    have armedNext : (trk.consume su (true, rc)).1.armed :=
      Tracker.armed_consume armed (true, rc)
    match consumes : trk.consume su (true, rc) with
    | (next, .ok false) =>
      rw [consumes] at armedNext
      rw [feed_continue consumes, feed_continue consumes]
      exact ih armedNext (Tracker.noted_consume armed noted consumes)
    | (_, .ok true) | (_, .error _) =>
      rw [feed_stop consumes (by simp), feed_stop consumes (by simp)]
  | @insert p rcs padded rc redundant rest ih =>
    have h := Tracker.consume_redundant armed noted redundant true
    rw [List.map_cons, feed_continue h]
    exact ih armed (Tracker.noted_consume armed noted h)

theorem feed_arm (su : Setup) (trk : Tracker) (rcs : List Text) :
    (feed (Tracker.consume su) trk (rcs.map (true, ·))).2 =
        (feed (Tracker.consume su) (trk.arm true) (rcs.map (true, ·))).2 ∧
      (feed (Tracker.consume su) trk (rcs.map (true, ·))).1.emitted =
        (feed (Tracker.consume su) (trk.arm true) (rcs.map (true, ·))).1.emitted := by
  cases rcs with
  | nil => exact ⟨rfl, rfl⟩
  | cons rc rcs =>
    have h : trk.consume su (true, rc) =
        (trk.arm true).consume su (true, rc) := by
      simp [Tracker.consume, Tracker.arm]
    simp only [List.map_cons, feed, h, and_self]

/-- Repeated events and events of other sessions are not seen in what is emitted or in the
    outcome, wherever they stand in a stream. -/
theorem redundant_records_unseen (setup : Setup) (promptMessageID : Text)
    {records padded : List Text} (pads : Padded setup [] records padded) :
    (consumeRecords setup (newTracker promptMessageID) (padded.map (true, ·))).1.emitted =
        (consumeRecords setup (newTracker promptMessageID) (records.map (true, ·))).1.emitted ∧
      (consumeRecords setup (newTracker promptMessageID) (padded.map (true, ·))).2 =
        (consumeRecords setup (newTracker promptMessageID) (records.map (true, ·))).2 := by
  have armed : ((newTracker promptMessageID).arm true).armed = true := rfl
  have same := feed_padded pads armed nofun
  obtain ⟨paddedAnswer, paddedEmitted⟩ := feed_arm setup (newTracker promptMessageID) padded
  obtain ⟨answer, emitted⟩ := feed_arm setup (newTracker promptMessageID) records
  rw [same, ← answer] at paddedAnswer
  rw [same, ← emitted] at paddedEmitted
  unfold consumeRecords
  generalize feed (Tracker.consume setup) (newTracker promptMessageID) (padded.map (true, ·)) =
    first at paddedAnswer paddedEmitted
  generalize feed (Tracker.consume setup) (newTracker promptMessageID) (records.map (true, ·)) =
    second at paddedAnswer paddedEmitted
  obtain ⟨tracker, result⟩ := first
  obtain ⟨other, otherResult⟩ := second
  simp only at paddedAnswer paddedEmitted
  subst paddedAnswer
  match result with
  | .ok true | .ok false | .error _ => exact ⟨paddedEmitted, rfl⟩

/-! ## Accepted events -/

theorem feed_accepted (su : Setup) (trk : Tracker) (rcs : List (Bool × Text)) :
    (feed (Tracker.consume su) trk rcs).1.correlation =
        (feed (Correlation.handle su) trk.correlation (accepted su trk.armed trk.seenIDs rcs)).1 ∧
      ((feed (Tracker.consume su) trk rcs).2 = (feed (Correlation.handle su) trk.correlation
            (accepted su trk.armed trk.seenIDs rcs)).2 ∨
        (feed (Correlation.handle su) trk.correlation
            (accepted su trk.armed trk.seenIDs rcs)).2 = .ok false ∧
          ∃ err, (feed (Tracker.consume su) trk rcs).2 = .error err) := by
  induction rcs generalizing trk with
  | nil => exact ⟨rfl, .inl rfl⟩
  | cons rc rcs ih =>
    obtain ⟨hdp, rc⟩ := rc
    unfold accepted
    match received : receive (su.decode rc) with
    | .error err =>
      have hcs : trk.consume su (hdp, rc) =
          (trk.arm hdp, .error err) := by
        simp [Tracker.consume, received]
      rw [feed_stop hcs (by simp)]
      exact ⟨rfl, .inr ⟨rfl, err, rfl⟩⟩
    | .ok event =>
      have hcs : trk.consume su (hdp, rc) =
          (trk.arm hdp).accept su event := by
        simp [Tracker.consume, received]
      simp only
      split
      · rename_i lk
        obtain ⟨own, armed, hfr⟩ := lk
        have isArmed : (trk.arm hdp).armed := armed
        unfold Tracker.accept at hcs
        rw [if_neg (not_not.mpr own), if_neg (by simp [isArmed]),
          if_neg (by simpa [Tracker.arm] using hfr)] at hcs
        split
        · rename_i full
          rw [if_pos (by simpa [Tracker.arm] using full)] at hcs
          rw [feed_stop hcs (by simp)]
          exact ⟨rfl, .inr ⟨rfl, _, rfl⟩⟩
        rename_i room
        rw [if_neg (by simpa [Tracker.arm] using room)] at hcs
        match handles : trk.correlation.handle su event with
        | (next, .ok false) =>
          simp only [Tracker.arm, handles] at hcs
          rw [feed_continue hcs, feed_continue handles]
          exact ih
            ⟨trk.armed || hdp, trk.seenIDs ++ [event.id], next⟩
        | (_, .ok true) | (_, .error _) =>
          simp only [Tracker.arm, handles] at hcs
          rw [feed_stop hcs (by simp), feed_stop handles (by simp)]
          exact ⟨rfl, .inl rfl⟩
      · rename_i skipped
        have h : (trk.arm hdp).accept su event =
            (trk.arm hdp, .ok false) := by
          unfold Tracker.accept
          split
          · rfl
          rename_i own
          split
          · rfl
          rename_i armed
          split
          · rfl
          · rename_i hfr
            exact absurd ⟨not_not.mp own, (Bool.not_eq_false _).mp armed, hfr⟩ skipped
        rw [feed_continue (hcs.trans h)]
        exact ih (trk.arm hdp)

def handledEvents (setup : Setup) (configured : Text) (records : List (Bool × Text)) :
    List Received :=
  consumed (Correlation.handle setup) (newTracker configured).correlation
    (accepted setup false [] records)

def numbered (events : List ProviderEvent) : Text → Option ProviderEvent
  | [number] => events[number.toNat]?
  | _ => none

def idleIn (session : String) : ProviderEvent :=
  ⟨utf8 "evt_idle", utf8 "session.idle", .decoded { sessionID := utf8 session }⟩

def finishedInfo : MessageInfo :=
  ⟨utf8 "msg_2", [], utf8 "assistant", utf8 "msg_1", utf8 "stop", []⟩

def answeredStream : Setup :=
  openSetup (numbered [⟨utf8 "evt_answer", utf8 "message.updated",
        .decoded { sessionID := utf8 "ses_1", info := some finishedInfo }⟩,
      idleIn "ses_2", idleIn "ses_1"])

theorem redundant_records_unseen_answered :
    (consumeRecords answeredStream (newTracker (utf8 "msg_1"))
        ([[0], [1], [0], [2]].map (true, ·))).2 =
      (consumeRecords answeredStream (newTracker (utf8 "msg_1")) ([[0], [2]].map (true, ·))).2 := by
  refine (redundant_records_unseen answeredStream (utf8 "msg_1")
    (.keep (.insert (.inr ?_) (.insert (.inl (by simp)) (.keep (.nil _)))))).2
  exact ⟨⟨utf8 "ses_2", utf8 "evt_idle", .sessionIdle, { sessionID := utf8 "ses_2" }⟩,
    by decide +kernel, .inl (by decide +kernel)⟩

end AISummoner.Opencode
