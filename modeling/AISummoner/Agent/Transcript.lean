import AISummoner.Agent.Approval
import AISummoner.Agent.Engagement

/-! # The transcript and the outcome of a Turn

The texts of a Turn are the deltas that were accepted, one after the other.  Its
outcome is announced after its final state was stored.
-/

namespace AISummoner.Agent

open Concurrency Concurrency.Discipline Store AISummoner.Runtime App

/-- The two texts an Adapter emits. -/
inductive Channel where
  | reasoning
  | text
  deriving DecidableEq

namespace Channel

def of : Channel → Turn → String
  | .reasoning => Turn.reasoning
  | .text => Turn.text

/-- What an entry of the history adds to a text of the Turn. -/
def delta (channel : Channel) (turn : Nat) : HistoryEntry → String
  | .performed _ (.agent (.appendReasoning other _ _)) (.ok delta) _ =>
    if channel = .reasoning ∧ other = turn then delta else ""
  | .performed _ (.agent (.appendText other _)) (.ok delta) _ =>
    if channel = .text ∧ other = turn then delta else ""
  | _ => ""

def emitted (channel : Channel) (turn : Nat) : Trace → String
  | [] => ""
  | entry :: trace => channel.emitted turn trace ++ channel.delta turn entry

variable {c : Channel} {turn : Nat} {rule : Step → History → Bool} {p w : History}
  {e : HistoryEntry}

/-- Only a delta that fits is added, and only to a Turn that is there. -/
theorem step_of_delta (next : Next rule p w) (hrcd : w.trace = e :: p.trace)
    (hd : c.delta turn e ≠ "") : ∃ s, p.state.agent.turns[turn]? = some s ∧
      ∃ t op r change, w.trace = .performed t (.agent op) r w.state :: p.trace ∧
        TurnStep t p.state.agent op r turn change := by
  cases next with
  | @performed t op _ r wd _ ran =>
    cases (List.cons.inj hrcd).1
    unfold delta at hd
    split at hd
    case h_3 => exact absurd rfl hd
    all_goals
      rename_i he
      cases he
      obtain ⟨⟨_, rfl⟩, _⟩ := ite_ne_right_iff.mp hd
      obtain ⟨s, hl, he⟩ := Option.map_eq_some_iff.mp (perform_agent ran).1
      split at he
      · cases he
      · cases (Prod.mk.inj he).1
        exact ⟨s, hl, _, _, _, _, rfl, by constructor <;> assumption⟩
  | entered | crashed =>
    cases (List.cons.inj hrcd).1
    exact absurd rfl hd

theorem utf8ByteSize_accepted {buffer text : String} {delta : Bytes}
    (ha : acceptDelta buffer delta = some text) :
    (buffer ++ text).utf8ByteSize ≤ maxMessageBytes := by
  rw [String.utf8ByteSize_append]
  unfold acceptDelta at ha
  split at ha
  · cases ha
  · split at ha
    · cases ha
    · cases ha
      omega

/-- A text of a Turn is what was accepted for it, and it is within the limit of a message. -/
structure Held (channel : Channel) (turn : Nat) (past : History) : Prop where
  text : ∀ s, past.state.agent.turns[turn]? = some s →
    channel.of s = channel.emitted turn past.trace ∧ (channel.of s).utf8ByteSize ≤ maxMessageBytes
  unborn : past.state.agent.turns.length ≤ turn → channel.emitted turn past.trace = ""

theorem held_of_reached {cfg : Configuration} {db : Db} (hr : Reached rule cfg db p) :
    Held c turn p := by
  refine Reached.induction ⟨fun _ hl => ?_, fun _ => rfl⟩ ?_ hr
  · cases hl
  intro p w _ _ next held
  obtain ⟨e, hrcd, _⟩ := next.trace
  have quiet (hd : c.delta turn e = "") : c.emitted turn w.trace = c.emitted turn p.trace := by
    rw [hrcd, emitted, hd, String.append_empty]
  -- an accepted delta grows the buffer and the account alike; no other step changes either
  refine ⟨fun s hl => ?_, fun hle => ?_⟩
  · have same {s' : Turn} (hd : c.delta turn e = "") (was : p.state.agent.turns[turn]? = some s')
        (h : c.of s = c.of s') : c.of s = c.emitted turn w.trace ∧
          (c.of s).utf8ByteSize ≤ maxMessageBytes := by
      rw [quiet hd, h]
      exact held.text s' was
    cases next.turn hl with
    | reserved rcd new he =>
      cases (List.cons.inj (hrcd.symm.trans rcd)).1
      rw [quiet rfl, held.unborn (Nat.le_of_eq new.symm), he]
      cases c <;> exact ⟨rfl, Nat.zero_le _⟩
    | kept was _ hut =>
      refine same ?_ was rfl
      by_contra hd
      obtain ⟨_, _, _, _, _, _, rcd, step⟩ := step_of_delta next hrcd hd
      exact hut rcd step
    | stepped rcd step was he =>
      cases (List.cons.inj (hrcd.symm.trans rcd)).1
      subst he
      obtain ⟨heq, _⟩ := held.text _ was
      cases step with
      | appendReasoning found ha =>
        cases found.symm.trans was
        cases c with
        | reasoning =>
          refine ⟨?_, utf8ByteSize_accepted ha⟩
          rw [hrcd, emitted, ← heq]
          simp [delta, of, Turn.appendReasoning]
        | text => exact same (by simp [delta]) was rfl
      | appendText found ha =>
        cases found.symm.trans was
        cases c with
        | reasoning => exact same (by simp [delta]) was rfl
        | text =>
          refine ⟨?_, utf8ByteSize_accepted ha⟩
          rw [hrcd, emitted, ← heq]
          simp [delta, of, Turn.appendText]
      | _ => exact same rfl was (by cases c <;> rfl)
    | invoked rcd was he | emitted rcd was he | crashed rcd was he =>
      cases (List.cons.inj (hrcd.symm.trans rcd)).1
      refine same rfl was ?_
      rw [he]
      cases c <;> rfl
  · have hd : c.delta turn e = "" := by
      by_contra hd
      obtain ⟨_, hl, _⟩ := step_of_delta next hrcd hd
      have old := (List.getElem?_eq_some_iff.mp hl).1
      exact absurd next.turns_length (by omega)
    rw [quiet hd, held.unborn (Nat.le_trans next.turns_length hle)]

end Channel

/-! ## What is announced -/

/-- The thread read the two texts while no Adapter ran the Turn, and they were all that had
    been accepted for it. -/
def Spoken (trace : Trace) (thread turn : Nat) (reasoning text : String) : Prop :=
  ∃ older startedAt world,
    .performed thread (.agent (.transcript turn)) (reasoning, text, startedAt) world :: older <:+
      trace ∧ (∀ value, world.agent.turns[turn]? = some value → value.active = false) ∧
    reasoning = Channel.reasoning.emitted turn older ∧ text = Channel.text.emitted turn older ∧
    reasoning.utf8ByteSize ≤ maxMessageBytes ∧ text.utf8ByteSize ≤ maxMessageBytes

/-- The store acknowledged the message. -/
def MessageStored (trace : Trace) (thread : Nat) (role : MessageRole) (content : String) : Prop :=
  ∃ ctx site owner message world,
    .performed thread (.store ctx site (.createAgentMessage owner message)) (.ok ()) world ∈ trace ∧
      message.role = role ∧ message.content = content

/-- The store acknowledged the state of the session. -/
def StateStored (trace : Trace) (thread : Nat) (state : SessionState) : Prop :=
  ∃ ctx site owner sessionID time world, .performed thread
    (.store ctx site (.updateAgentSessionState owner sessionID state time)) (.ok ()) world ∈ trace

/-- The thread runs the Turn, or has reserved it. -/
def OwnTurn (trace : Trace) (thread turn : Nat) : Prop :=
  (∃ scope session message target,
    Entered trace thread (.runTurn turn scope session message target)) ∨
  ∃ sessionID deviceID userID scope world, .performed thread
    (.agent (.reserveTurn sessionID deviceID userID scope)) (.ok turn) world ∈ trace

/-- What the goroutine of a Turn knows, as the history has it. -/
structure Recalled (trace : Trace) (thread : Nat) (known : TurnKnowledge) : Prop where
  transcript : ∀ {reasoning text}, known.transcript = some (reasoning, text) →
    ∃ turn, OwnTurn trace thread turn ∧ Spoken trace thread turn reasoning text
  saved : ∀ {role content}, (role, content) ∈ known.saved → MessageStored trace thread role content
  settled : ∀ {state}, known.settled = some state → StateStored trace thread state

section Recalled

variable {tr : Trace} {t : Nat} {k k' : TurnKnowledge} {op : Operation} {r : op.Response}
  {rule : Step → History → Bool} {cfg : Configuration} {db : Db} {p : History}

theorem OwnTurn.cons {turn : Nat} (own : OwnTurn tr t turn) (e : HistoryEntry) :
    OwnTurn (e :: tr) t turn := by
  rcases own with ⟨scp, ses, msg, tg, hent⟩ | ⟨sid, did, uid, scp, wd, hm⟩
  · exact .inl ⟨scp, ses, msg, tg, hent.cons e⟩
  · exact .inr ⟨sid, did, uid, scp, wd, List.mem_cons_of_mem e hm⟩

theorem own_of_held (hr : Reached rule cfg db p) (hk : turnDiscipline.knows t p.trace = some k) :
    ∀ sid turn, k.held = some (.turn sid turn) → OwnTurn p.trace t turn := by
  refine Reached.knowing turn_bodies_kept ?_ ?_ ?_ ?_ hr hk
  · intro p pa g k _ _ _ hb sid turn held
    cases g <;> cases hb <;> cases held
    exact .inl ⟨_, _, _, _, pa, _, List.mem_cons_self⟩
  · intro p w t k _ _ next _ own sid turn held
    obtain ⟨e, hrcd, _⟩ := next.trace
    exact hrcd ▸ (own sid turn held).cons e
  · intro p t op _ r wd k _ _ _ _ _ own sid turn held
    by_cases hreg : registers op = false
    · exact (own sid turn ((held_after hreg).symm.trans held)).cons _
    cases op with
    | agent op =>
      cases op with
      | reserveTurn =>
        cases r with
        | error err => exact (own sid turn held).cons _
        | ok v =>
          cases held
          exact .inr ⟨_, _, _, _, wd, List.mem_cons_self⟩
      | reserveSessionConfiguration =>
        cases r with
        | error err => exact (own sid turn held).cons _
        | ok v => cases held
      | releaseTurn | releaseSessionConfiguration => cases held
      | _ => exact absurd rfl hreg
    | _ => exact absurd rfl hreg
  · intro _ _ _ _ _ _ _ _ _ _ _ held
    cases held

theorem Recalled.cons (told : Recalled tr t k) (e : HistoryEntry) : Recalled (e :: tr) t k where
  transcript ht := by
    obtain ⟨turn, own, older, since, wd, hwi, h⟩ := told.transcript ht
    exact ⟨turn, own.cons e, older, since, wd, hwi.trans (List.suffix_cons _ _), h⟩
  saved hm := by
    obtain ⟨ctx, site, ow, msg, wd, pre, h⟩ := told.saved hm
    exact ⟨ctx, site, ow, msg, wd, List.mem_cons_of_mem _ pre, h⟩
  settled hst := by
    obtain ⟨ctx, site, ow, sid, time, wd, pre⟩ := told.settled hst
    exact ⟨ctx, site, ow, sid, time, wd, List.mem_cons_of_mem _ pre⟩

theorem Recalled.of_same (told : Recalled tr t k) (h : k' = { k' with
      transcript := k.transcript, saved := k.saved, settled := k.settled }) : Recalled tr t k' := by
  rw [h]
  exact ⟨told.transcript, told.saved, told.settled⟩

theorem recalled_statement {ctx : Context} {site : Site} {stm : Statement}
    {r : Except StoreError stm.Result} {wd : World} (told : Recalled tr t k) :
    Recalled (.performed t (.store ctx site stm) r wd :: tr) t (k.afterStore site stm r) := by
  have hs := told.cons (.performed t (.store ctx site stm) r wd)
  cases stm with
  | createAgentMessage ow msg =>
    cases r with
    | error err => exact hs
    | ok v =>
      refine { hs with saved := fun hm => ?_ }
      rcases List.mem_cons.mp hm with he | pre
      · cases he
        exact ⟨ctx, site, ow, msg, wd, List.mem_cons_self, rfl, rfl⟩
      · exact hs.saved pre
  | updateAgentSessionState ow sid st now =>
    refine { hs with settled := fun hst => ?_ }
    cases r with
    | error err => cases hst
    | ok v =>
      cases hst
      exact ⟨ctx, site, ow, sid, now, wd, List.mem_cons_self⟩
  | agentSessionByOwner =>
    cases r with
    | error err => exact hs.of_same rfl
    | ok v => cases site <;> exact hs.of_same rfl
  | beginTurn =>
    cases r with
    | error err | ok v => exact hs.of_same rfl
  | _ => exact hs

theorem recalled_agent {op : AgentOperation} {r : op.Response} {cho : Choice} {wd : World}
    (hr : Reached rule cfg db p) (hk : turnDiscipline.knows t p.trace = some k)
    (may : k.mayAgent op) (told : Recalled p.trace t k)
    (ran : perform t (.agent op) cho p.state = some (r, wd)) :
    Recalled (.performed t (.agent op) r wd :: p.trace) t (k.afterAgent op r) := by
  have hs := told.cons (.performed t (.agent op) r wd)
  cases op with
  | transcript turn =>
    obtain ⟨rsn, text, since⟩ := r
    obtain ⟨idle, _, sid, held⟩ := may
    have own := own_of_held hr hk sid turn held
    obtain ⟨he, same⟩ := Prod.mk.inj (Option.some.inj (perform_agent ran).1)
    have still : ∀ v, wd.agent.turns[turn]? = some v → v.active = false := by
      intro v hl
      by_contra hac
      obtain ⟨_, _, hk', eg, hrn⟩ := conducts_of_active hr (same ▸ hl) (by simpa using hac)
      -- the Turn has one holder, and that is this thread
      cases (registry_of_reached hr).distinct ⟨k, hk, held⟩ ⟨_, hk', eg.1⟩
      cases hk.symm.trans hk'
      cases idle.symm.trans hrn
    refine { hs with transcript := fun ht => ⟨turn, own.cons _, ?_⟩ }
    cases ht
    refine ⟨p.trace, since, wd, List.suffix_refl _, still, ?_⟩
    have hrs : Channel.reasoning.Held turn p := Channel.held_of_reached hr
    have htx : Channel.text.Held turn p := Channel.held_of_reached hr
    cases hl : p.state.agent.turns[turn]? with
    | none =>
      have new := List.getElem?_eq_none_iff.mp hl
      rw [hl] at he
      cases he
      rw [hrs.unborn new, htx.unborn new]
      exact ⟨rfl, rfl, Nat.zero_le _, Nat.zero_le _⟩
    | some s =>
      rw [hl] at he
      cases he
      exact ⟨(hrs.text s hl).1, (htx.text s hl).1, (hrs.text s hl).2, (htx.text s hl).2⟩
  | reserveTurn =>
    cases r with
    | error err => exact hs.of_same rfl
    | ok v => exact { hs with settled := nofun }
  | beginMutation | reserveSessionConfiguration =>
    cases r with
    | error err | ok v => exact hs.of_same rfl
  | releaseTurn | releaseSessionConfiguration | beginRun | endRun | publish => exact hs.of_same rfl
  | _ => exact hs

theorem recalled_of_reached (hr : Reached rule cfg db p)
    (hk : turnDiscipline.knows t p.trace = some k) : Recalled p.trace t k := by
  refine Reached.knowing turn_bodies_kept ?_ ?_ ?_ ?_ hr hk
  · intro p _ g k s _ _ hb
    cases g <;> cases hb <;> exact ⟨nofun, nofun, nofun⟩
  · intro p w t k _ _ next _ told
    obtain ⟨e, hrcd, _⟩ := next.trace
    rw [hrcd]
    exact told.cons e
  · intro p t op _ r wd k s hk may _ ran told
    cases op with
    | store => exact recalled_statement told
    | agent => exact recalled_agent s hk may told ran
    | observe obs =>
      cases obs with
      | publishing => exact (told.cons _).of_same rfl
      | _ => exact told.cons _
    | _ => exact told.cons _
  · intro p w t k cd _ _ next told
    obtain ⟨e, hrcd, _⟩ := next.trace
    rw [hrcd]
    exact (told.cons e).of_same rfl

/-- The thread announced the outcome of its Turn that goes with the state. -/
def Concluded (trace : Trace) (thread : Nat) (state : SessionState) : Prop :=
  ∃ sessionID payload world, TurnKnowledge.outcome payload = some state ∧
    .performed thread (.observe (.publishing sessionID payload)) () world ∈ trace

theorem concluded_after (hq : ∀ sid pl, op ≠ .observe (.publishing sid pl)) :
    (k.after op r).concluded = k.concluded := by
  cases op with
  | store _ site stm =>
    change (k.afterStore site stm r).concluded = _
    unfold TurnKnowledge.afterStore
    repeat' split
    all_goals rfl
  | agent op =>
    change (k.afterAgent op r).concluded = _
    unfold TurnKnowledge.afterAgent
    split <;> rfl
  | observe obs =>
    cases obs with
    | publishing sid pl => exact absurd rfl (hq sid pl)
    | _ => rfl
  | _ => rfl

theorem concluded_of_reached (hr : Reached rule cfg db p) : ∀ t k st,
    turnDiscipline.knows t p.trace = some k → Concluded p.trace t st → k.concluded = some st := by
  refine Reached.induction ?_ ?_ hr
  · rintro _ _ _ k
    cases k
  rintro p w s s' next ih t k st hk ⟨sid, pl, wd, ho, hm⟩
  cases next with
  | @performed pf op _ r _ _ _ =>
    by_cases h : pf = t
    case neg =>
      rw [knows_performed_ne h] at hk
      rcases List.mem_cons.mp hm with he | pre
      · cases he
        exact absurd rfl h
      · exact ih t k st hk ⟨sid, pl, wd, ho, pre⟩
    subst h
    rw [knows_performed_self, Option.map_eq_some_iff] at hk
    obtain ⟨k, hk, rfl⟩ := hk
    rcases List.mem_cons.mp hm with he | pre
    · cases he
      exact congrArg (Option.orElse · _) ho
    have was := ih pf k st hk ⟨sid, pl, wd, ho, pre⟩
    by_cases hpu : ∃ sid pl, op = .observe (.publishing sid pl)
    case neg => exact (concluded_after fun sid pl he => hpu ⟨sid, pl, he⟩).trans was
    obtain ⟨_, pl, rfl⟩ := hpu
    have may := ((s'.kept turn_bodies_kept).1 k hk).2.2
    -- a second outcome would need that none was announced
    cases pl with
    | turnCompleted | turnFailed => cases was.symm.trans may.1
    | _ => exact was
  | @entered pa g _ _ =>
    have pre := (List.mem_cons.mp hm).resolve_left nofun
    have ne : p.threads ≠ t := Nat.ne_of_gt (s.performed_below pre)
    by_cases hcd : pa = some t
    · subst hcd
      rw [knows_entered_parent ne, Option.map_eq_some_iff] at hk
      obtain ⟨k, hk, rfl⟩ := hk
      exact ih t k st hk ⟨sid, pl, wd, ho, pre⟩
    · rw [knows_entered_ne ne hcd] at hk
      exact ih t k st hk ⟨sid, pl, wd, ho, pre⟩
  | crashed _ => cases hk

end Recalled

/-- What the goroutine of a Turn announces is so. -/
def Recounts (trace : Trace) (thread turn : Nat) : Payload → Prop
  | .reasoningDone reasoning => ∃ text, Spoken trace thread turn reasoning text
  | .textDone text => ∃ reasoning, Spoken trace thread turn reasoning text
  | .turnCompleted => StateStored trace thread .idle ∧ ∃ reasoning text,
      Spoken trace thread turn reasoning text ∧
        (reasoning ≠ "" → MessageStored trace thread .reasoning reasoning) ∧
        (text ≠ "" → MessageStored trace thread .assistant text)
  | .turnFailed .. => StateStored trace thread .failed
  | _ => True

/-- In every run: the texts a Turn announces, and those stored before `turn.completed`, are the
    deltas accepted for it; an outcome is announced after its state was stored, and after it
    only that state is. -/
theorem announcements_recount {configuration : Configuration} {db : Db} {past : History}
    {thread turn : Nat} {scope : Scope} {session : AgentSession} {message : AgentMessage}
    {target : ExecutionTarget} {sessionID : String} {payload : Payload} {world : World}
    {trace : Trace} (reached : Reached freely configuration db past)
    (entered : Entered trace thread (.runTurn turn scope session message target))
    (announces : past.trace =
      .performed thread (.observe (.publishing sessionID payload)) () world :: trace) :
    Recounts trace thread turn payload ∧
      ∀ state, Concluded trace thread state → payload = .sessionState state := by
  obtain ⟨past, before, _, rfl⟩ := reached.previous announces
  have chronicle := before.chronicle
  have attributed := reached.attributed
  have kept := reached.kept turn_bodies_kept
  rw [announces] at attributed kept
  obtain ⟨⟨goroutine, runs⟩, _⟩ := attributed
  cases chronicle.entered_once entered (entered_of_runs runs)
  obtain ⟨known, knows⟩ := knows_of_runs (D := turnDiscipline) runs rfl
  obtain ⟨_, _, may⟩ := kept.1 known knows
  have told := recalled_of_reached before knows
  have spoken {reasoning text : String} (read : known.transcript = some (reasoning, text)) :
      Spoken past.trace thread turn reasoning text := by
    obtain ⟨own, ⟨_, _, _, _, runs⟩ | ⟨_, _, _, _, _, member⟩, spoken⟩ := told.transcript read
    · cases chronicle.entered_once entered runs
      exact spoken
    · -- whoever reserves a Turn does not run one
      obtain ⟨⟨_, _, _⟩, _, earlier, rfl, within⟩ := before.at_entry member
      obtain ⟨_, runs, role⟩ := earlier.performer
      obtain ⟨_, _, began⟩ := (entered_of_runs runs).cons _
      cases chronicle.entered_once entered ⟨_, _, within.subset began⟩
      cases role
  have last {state : SessionState} (said : Concluded past.trace thread state)
      (isOpen : known.concluded = none) : False := by
    cases isOpen.symm.trans (concluded_of_reached before _ _ _ knows said)
  cases payload with
  | reasoningDone | textDone =>
    exact ⟨may.2.imp fun _ read => spoken read, fun _ said => (last said may.1).elim⟩
  | turnCompleted =>
    obtain ⟨isOpen, settled, reasoning, text, read, first, second⟩ := may
    exact ⟨⟨told.settled settled, reasoning, text, spoken read, fun some => told.saved (first some),
      fun some => told.saved (second some)⟩, fun _ said => (last said isOpen).elim⟩
  | turnFailed => exact ⟨told.settled may.2, fun _ said => (last said may.1).elim⟩
  | sessionState =>
    refine ⟨trivial, fun state said => ?_⟩
    have stored := concluded_of_reached before _ _ _ knows said
    rw [← may, stored]
    rfl
  | _ => cases may

/-- The Adapter emits a text, and its Turn completes. -/
def answerSchedule : Schedule :=
  turnSchedule ++ .start (.sink 0 [] "alice" "session" (.textDelta [104, 105])) :: steps 2 2 ++
    steps 1 4 ++ making 1 "answer" ++ steps 1 4 ++ making 1 "event2" ++ steps 1 7

def concluding (past : History) : Bool :=
  match past.trace with
  | .performed thread (.observe (.publishing _ .turnCompleted)) _ _ :: trace =>
    (System.runs thread trace).any fun
    | .runTurn .. => true
    | _ => false
  | _ => false

theorem announcements_recount_answer : ∃ past thread turn trace,
    reachedBy freely sampleConfiguration sampleDb answerSchedule = some past ∧
      concluding past = true ∧ Recounts trace thread turn .turnCompleted ∧
      ∀ state, ¬Concluded trace thread state := by
  have ran : (reachedBy freely sampleConfiguration sampleDb answerSchedule).any concluding = true := by
    decide +kernel
  obtain ⟨past, reached, concludes⟩ := (Option.any_eq_true _ _).mp ran
  have concluded := concludes
  unfold concluding at concluded
  split at concluded
  · next thread _ _ _ trace announces =>
    obtain ⟨goroutine, runs, is⟩ := (Option.any_eq_true _ _).mp concluded
    cases goroutine with
    | runTurn turn =>
      obtain ⟨recounts, first⟩ := announcements_recount (reached_of_schedule reached)
        (entered_of_runs runs) announces
      exact ⟨past, thread, turn, trace, reached, concludes, recounts, fun state said =>
        nomatch first state said⟩
    | _ => cases is
  · cases concluded

end AISummoner.Agent
