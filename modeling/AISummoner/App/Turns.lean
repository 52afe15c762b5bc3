import AISummoner.App.History

/-! # What one step does to a Turn

`TurnNext` lists everything that can happen to one Turn when the history takes
a step.  Whatever is proved about the gate, the texts or the callbacks of a Turn
is read off this list.
-/

namespace AISummoner.App

open Concurrency Store Agent AISummoner.Runtime

inductive TurnStep (thread : Nat) (memory : Memory) :
    (operation : AgentOperation) → operation.Response → Nat → (Turn → Turn) → Prop
  | finish {sessionID : String} {turn : Nat} (registered : memory.running sessionID = some turn) :
      TurnStep thread memory (.releaseTurn sessionID) () turn Turn.finish
  | beginRun {turn : Nat} {session : AgentSession} {target : ExecutionTarget} :
      TurnStep thread memory (.beginRun turn session target) () turn (Turn.beginRun session target)
  | endRun {turn : Nat} {outcome : Except AgentError Unit} :
      TurnStep thread memory (.endRun turn) outcome turn Turn.endRun
  | appendReasoning {turn : Nat} {delta : Bytes} {now : Time} {text : String} {value : Turn}
      (located : memory.turns[turn]? = some value)
      (accepted : acceptDelta value.reasoning delta = some text) :
      TurnStep thread memory (.appendReasoning turn delta now) (.ok text) turn
        (Turn.appendReasoning text now)
  | appendText {turn : Nat} {delta : Bytes} {text : String} {value : Turn}
      (located : memory.turns[turn]? = some value)
      (accepted : acceptDelta value.text delta = some text) :
      TurnStep thread memory (.appendText turn delta) (.ok text) turn (Turn.appendText text)
  | acquireGate {turn : Nat} {ctx : Context} {value : Turn}
      (located : memory.turns[turn]? = some value) (free : value.gate = false) :
      TurnStep thread memory (.acquireGate turn ctx) (.ok ()) turn (Turn.setGate true)
  | releaseGate {turn : Nat} :
      TurnStep thread memory (.releaseGate turn) () turn (Turn.setGate false)
  | upgrade {turn : Nat} : TurnStep thread memory (.upgradeApprovalMode turn) () turn Turn.upgrade
  | endInvoke {turn : Nat} :
      TurnStep thread memory (.endInvoke turn) () turn (Turn.endInvoke thread)
  | endSink {turn : Nat} : TurnStep thread memory (.endSink turn) () turn (Turn.endSink thread)

variable {change : Turn → Turn} {rule : Step → History → Bool}

section Memory

variable {t : Nat} {op : AgentOperation} {cho : Choice} {contexts : Contexts}
  {mem w : Memory} {r : op.Response}

theorem TurnStep.touches {turn : Nat} (step : TurnStep t mem op r turn change) :
    .turns ∈ App.touches op := by
  cases step <;> simp [App.touches]

theorem TurnStep.unique {a b : Nat} {ho : Turn → Turn} (one : TurnStep t mem op r a change)
    (ano : TurnStep t mem op r b ho) : a = b := by
  cases one with
  | finish hrg =>
    cases ano with
    | finish again => exact Option.some.inj (hrg.symm.trans again)
  | _ => cases ano; rfl

theorem stepAgent_turns (ran : stepAgent t op cho contexts mem = some (r, w)) :
    (w.turns = mem.turns ∧ ∀ turn change, ¬TurnStep t mem op r turn change) ∨
      (∃ sessionID deviceID userID scope, op = .reserveTurn sessionID deviceID userID scope ∧
        w.turns = mem.turns ++ [({ sessionID, deviceID, userID, scope } : Turn)]) ∨
      ∃ turn change, TurnStep t mem op r turn change ∧ w.turns = mem.turns.modify turn change := by
  by_cases touched : .turns ∈ touches op
  case neg =>
    exact .inl ⟨stepAgent_unmoved ran .turns touched, fun _ _ step => touched step.touches⟩
  cases op with
  | reserveTurn sessionID deviceID userID scope =>
    simp only [stepAgent, Memory.reserveTurn] at ran
    split at ran
    · cases ran
      exact .inl ⟨rfl, fun _ _ step => by cases step⟩
    · cases ran
      exact .inr (.inl ⟨_, _, _, _, rfl, rfl⟩)
  | releaseTurn sessionID =>
    cases ran
    cases hrg : mem.running sessionID with
    | none =>
      refine .inl ⟨by simp [Memory.releaseTurn, hrg], ?_⟩
      rintro turn change (⟨again⟩)
      rw [hrg] at again
      cases again
    | some turn => exact .inr (.inr ⟨turn, _, .finish hrg, by
        simp [Memory.releaseTurn, hrg]⟩)
  | appendReasoning turn | appendText turn =>
    obtain ⟨v, hl, he⟩ := Option.map_eq_some_iff.mp ran
    split at he
    · cases he
      exact .inl ⟨rfl, fun _ _ step => by cases step⟩
    · rename_i ha
      cases he
      exact .inr (.inr ⟨turn, _, by constructor <;> assumption, rfl⟩)
  | acquireGate turn _ =>
    simp only [stepAgent, ready] at ran
    repeat' split at ran
    · obtain ⟨_, _, he⟩ := Option.map_eq_some_iff.mp ran
      cases he
      exact .inl ⟨rfl, fun _ _ step => by cases step⟩
    · cases ran
    · rename_i _ hta
      cases ran
      cases hl : mem.turns[turn]? with
      | none => simp [hl] at hta
      | some v =>
        have free : v.gate = false := by simpa [hl] using hta
        exact .inr (.inr ⟨turn, _, .acquireGate hl free, rfl⟩)
  | beginRun turn | endRun turn | releaseGate turn | upgradeApprovalMode turn | endInvoke turn
  | endSink turn =>
    cases ran
    exact .inr (.inr ⟨turn, _, by constructor, rfl⟩)
  | _ => simp [touches] at touched

end Memory

/-! ## Steps of a history -/

/-- A crash ends a Turn without anybody's doing. -/
def cutOff (turn : Turn) : Turn :=
  { turn with done := true, active := false, invokes := [], sinks := [] }

/-- How a Turn came to be what it is after a step. -/
inductive TurnNext (past changed : History) (turn : Nat) (after : Turn) : Prop
  | reserved {thread : Nat} {sessionID deviceID userID : String} {scope : Scope}
      {response : Except AgentError Nat}
      (recorded : changed.trace = .performed thread
        (.agent (.reserveTurn sessionID deviceID userID scope)) response changed.state :: past.trace)
      (new : turn = past.state.agent.turns.length)
      (equal : after = { sessionID, deviceID, userID, scope })
  | kept (located : past.state.agent.turns[turn]? = some after)
      (alive : changed.trace ≠ .crashed changed.state :: past.trace)
      (untouched : ∀ {thread operation response change}, changed.trace =
        .performed thread (.agent operation) response changed.state :: past.trace →
        ¬TurnStep thread past.state.agent operation response turn change)
  | stepped {thread : Nat} {operation : AgentOperation} {response : operation.Response}
      {change : Turn → Turn} {before : Turn}
      (recorded : changed.trace =
        .performed thread (.agent operation) response changed.state :: past.trace)
      (step : TurnStep thread past.state.agent operation response turn change)
      (located : past.state.agent.turns[turn]? = some before) (equal : after = change before)
  | invoked {parent : Option Nat} {ctx : Context} {request : ToolRequest} {before : Turn}
      (recorded : changed.trace =
        .entered parent past.threads (.invoke turn ctx request) changed.state :: past.trace)
      (located : past.state.agent.turns[turn]? = some before)
      (equal : after = before.beginInvoke past.threads)
  | emitted {parent : Option Nat} {ctx : Context} {owner sessionID : String} {call : SinkCall}
      {before : Turn}
      (recorded : changed.trace =
        .entered parent past.threads (.sink turn ctx owner sessionID call) changed.state :: past.trace)
      (located : past.state.agent.turns[turn]? = some before)
      (equal : after = before.beginSink past.threads)
  | crashed {before : Turn} (recorded : changed.trace = .crashed changed.state :: past.trace)
      (located : past.state.agent.turns[turn]? = some before) (equal : after = cutOff before)

theorem getElem?_modify_some {turns : List Turn} {tg turn : Nat}
    {s' : Turn} (hl : (turns.modify tg change)[turn]? = some s') :
    (tg = turn ∧ ∃ s, turns[turn]? = some s ∧ s' = change s) ∨
      tg ≠ turn ∧ turns[turn]? = some s' := by
  by_cases h : tg = turn
  · subst h
    rw [List.getElem?_modify_eq] at hl
    obtain ⟨s, hf, he⟩ := Option.map_eq_some_iff.mp hl
    exact .inl ⟨rfl, s, hf, he.symm⟩
  · rw [List.getElem?_modify_ne _ _ h] at hl
    exact .inr ⟨h, hl⟩

theorem Next.turn {p w : History} {turn : Nat} {s' : Turn} (next : Next rule p w)
    (hl : w.state.agent.turns[turn]? = some s') : TurnNext p w turn s' := by
  cases next with
  | @performed t op _ r wd _ ran =>
    by_cases agent : ∃ inn, op = .agent inn
    case neg =>
      have h := perform_memory ran fun inn he => agent ⟨inn, he⟩
      refine .kept (h ▸ hl) nofun ?_
      intro _ inn _ _ rcd
      cases rcd
      exact absurd ⟨inn, rfl⟩ agent
    obtain ⟨inn, rfl⟩ := agent
    change wd.agent.turns[turn]? = some s' at hl
    rcases stepAgent_turns (perform_agent ran).1 with
      ⟨h, hut⟩ | ⟨sid, did, uid, scp, rfl, grown⟩ |
      ⟨target, change, step, modified⟩
    · refine .kept (h ▸ hl) nofun ?_
      intro _ _ _ _ rcd
      cases rcd
      exact hut _ _
    · rw [grown, List.getElem?_append] at hl
      split at hl
      · refine .kept hl nofun ?_
        intro _ _ _ _ rcd
        cases rcd
        nofun
      · obtain ⟨bd, he⟩ := List.getElem?_eq_some_iff.mp hl
        have new : turn = p.state.agent.turns.length := by
          simp only [List.length_singleton] at bd
          omega
        refine .reserved rfl new ?_
        simpa using he.symm
    · rw [modified] at hl
      obtain ⟨rfl, s, hf, he⟩ | ⟨h, hl⟩ := getElem?_modify_some hl
      · exact .stepped rfl step hf he
      refine .kept hl nofun ?_
      intro _ _ _ _ rcd
      cases rcd
      exact fun again => h (step.unique again)
  | @entered pa g _ _ =>
    have hel {g : Goroutine} {hst : World} {ths : Nat}
        (hf : p.state.agent.turns[turn]? = some s') :
        TurnNext p ⟨hst, .entered pa p.threads g hst :: p.trace, ths⟩
          turn s' :=
      .kept hf nofun nofun
    cases g with
    | invoke =>
      obtain ⟨rfl, s, hf, he⟩ | ⟨_, hl⟩ := getElem?_modify_some hl
      · exact .invoked rfl hf he
      · exact hel hl
    | sink =>
      obtain ⟨rfl, s, hf, he⟩ | ⟨_, hl⟩ := getElem?_modify_some hl
      · exact .emitted rfl hf he
      · exact hel hl
    | _ => exact hel hl
  | crashed _ =>
    change (p.state.agent.turns.map cutOff)[turn]? = some s' at hl
    rw [List.getElem?_map] at hl
    obtain ⟨s, hf, he⟩ := Option.map_eq_some_iff.mp hl
    exact .crashed rfl hf he.symm

theorem Next.turns_length {p w : History} (next : Next rule p w) :
    p.state.agent.turns.length ≤ w.state.agent.turns.length := by
  cases next with
  | @performed t op _ r wd _ ran =>
    change p.state.agent.turns.length ≤ wd.agent.turns.length
    by_cases agent : ∃ hinn, op = .agent hinn
    · obtain ⟨hinn, rfl⟩ := agent
      rcases stepAgent_turns (perform_agent ran).1 with
        ⟨h, _⟩ | ⟨_, _, _, _, _, grown⟩ | ⟨_, _, _, modified⟩
      · rw [h]
      · simp [grown]
      · simp [modified]
    · rw [perform_memory ran fun hinn he => agent ⟨hinn, he⟩]
  | @entered _ g _ _ =>
    cases g with
    | invoke | sink => simp [enter, Memory.updateTurn]
    | _ => exact Nat.le_refl _
  | crashed _ => simp [World.reboot]

theorem Next.identity {p w : History} {turn : Nat} {s : Turn} (next : Next rule p w)
    (hl : p.state.agent.turns[turn]? = some s) :
    ∃ s', w.state.agent.turns[turn]? = some s' ∧ s'.identity = s.identity := by
  have old : turn < p.state.agent.turns.length := (List.getElem?_eq_some_iff.mp hl).1
  have hbd : turn < w.state.agent.turns.length := Nat.lt_of_lt_of_le old next.turns_length
  refine ⟨_, List.getElem?_eq_getElem hbd, ?_⟩
  cases next.turn (List.getElem?_eq_getElem hbd) with
  | reserved _ new _ => exact absurd new (Nat.ne_of_lt old)
  | kept again _ _ =>
    rw [hl] at again
    rw [← Option.some.inj again]
  | stepped _ step again he =>
    rw [hl] at again
    cases again
    rw [he]
    cases step <;> rfl
  | invoked _ again he | emitted _ again he | crashed _ again he =>
    rw [hl] at again
    cases again
    rw [he]
    rfl

end AISummoner.App
