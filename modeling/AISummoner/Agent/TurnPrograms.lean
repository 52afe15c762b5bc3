import AISummoner.Agent.TurnConduct

/-! # The programs of a Turn keep to its conduct

One rule per function of `Agent.Service` that takes part in a Turn or in the
configuration of a session, with an open postcondition; `turn_bodies` puts them
together.
-/

namespace AISummoner.Agent

open Concurrency Concurrency.Discipline Store AISummoner.Runtime App

variable {ow sid : String} {ctx : Context} {tg : ExecutionTarget} {er : StoreError}

namespace Service

open Agent.TurnKnowledge

variable {k : TurnKnowledge}

variable {st : SessionState} {content : String} {scp : Scope} {pl : Payload}
  {res : Except AgentError Unit}

theorem follows_persistSessionStateFrom
    {post : Except StoreError Unit → TurnKnowledge → Prop} (rem att : Nat) (lerr : StoreError)
    (may : ∀ now, k.mayStore (.attempt 0) (.updateAgentSessionState ow sid st now))
    (hh : ∀ res ended settled, (res = .ok () → settled = some st) →
      post res { k with ended, settled }) : turnDiscipline.Follows
      (persistSessionStateFrom ow sid st att lerr rem) post k := by
  induction rem generalizing k att lerr with
  | zero => exact hh (.error lerr) k.ended k.settled nofun
  | succ rem ih =>
    apply Follows.bind
    apply follows_cleanup turn_ignores
    intro _
    apply follows_unowned turn_ignores rfl
    intro now
    refine ⟨may now, fun r => ?_⟩
    cases r with
    | ok _ => exact hh (.ok ()) true (some st) fun _ => rfl
    | error er =>
      -- the attempt may have been committed, so nothing is acknowledged any more
      have again : turnDiscipline.Follows (persistSessionStateFrom ow sid st
          (att + 1) er rem) post { k with ended := true, settled := none } :=
        ih (att + 1) er may hh
      cases er with
      | notFound => exact hh (.error .notFound) true none nofun
      | _ => exact again

theorem follows_persistSessionState {post : Except StoreError Unit → TurnKnowledge → Prop}
    (may : ∀ now, k.mayStore (.attempt 0) (.updateAgentSessionState ow sid st now))
    (hh : ∀ res ended settled, (res = .ok () → settled = some st) →
      post res { k with ended, settled }) :
    turnDiscipline.Follows (persistSessionState ow sid st) post k :=
  follows_persistSessionStateFrom 2 0 .unavailable may hh

/-! ## Admission -/

structure Answered (result : Except AgentError AgentMessage) (last : TurnKnowledge) : Prop where
  released : last.held = none
  busy : result = .error .turnInProgress → last.refused = true ∨ last.conflicted = true

structure Refused (failure : AgentError × String) (last : TurnKnowledge) : Prop where
  stopped : last.running = false
  names : last.Names failure.2 ∨ (last.lost = true ∧ failure.2 = "" ∧ ∃ other, last.Holds other)
  busy : failure.1 = .turnInProgress → last.conflicted = true

theorem mapStoreNotFound_ne : mapStoreNotFound er ≠ .turnInProgress := by
  cases er <;> nofun

theorem reported_ne {er : OutsideError} : er.reported ≠ .turnInProgress := by
  cases er <;> nofun

theorem follows_failAdmission {releaseID : String}
    {post : Except (AgentError × String) AgentMessage → TurnKnowledge → Prop}
    (may : ∀ now, k.mayStore (.attempt 0) (.updateAgentSessionState ow sid .failed now))
    (hh : ∀ ended settled, post (.error (mapStoreNotFound er, releaseID))
      { k with ended, settled }) :
    turnDiscipline.Follows (failAdmission ow sid er releaseID) post k := by
  apply follows_unowned turn_ignores rfl
  intro _
  apply Follows.bind
  apply Follows.ite
  · intro _
    exact hh k.ended k.settled
  · intro _
    apply Follows.bind
    apply follows_persistSessionState may
    intro _ ended settled _
    exact hh ended settled

theorem executionTarget_ne {platform arch : String} {er : AgentError}
    (hfa : executionTarget platform arch = .error er) : er ≠ .turnInProgress := by
  simp only [executionTarget] at hfa
  repeat' split at hfa
  all_goals first
    | cases hfa
      nofun
    | cases hfa

/-- A step that teaches nothing, and is not refused as a second Turn is. -/
def Plain {α : Type} (known : TurnKnowledge) (result : Except AgentError α) (last : TurnKnowledge) :
    Prop :=
  last = known ∧ result ≠ .error .turnInProgress

theorem plain_ok {α : Type} {v : α} : Plain k (.ok v) k := ⟨rfl, nofun⟩

theorem plain_error {α : Type} {er : AgentError} (ho : er ≠ .turnInProgress) :
    Plain (α := α) k (.error er) k :=
  ⟨rfl, fun h => ho (Except.error.inj h)⟩

theorem follows_external {call : ExternalCall} :
    turnDiscipline.Follows (external call) (Plain k) k := by
  refine ⟨trivial, fun ans => ?_⟩
  cases ans with
  | ok v => exact plain_ok
  | error _ => exact plain_error reported_ne

theorem follows_freshID {kind : String} : turnDiscipline.Follows (freshID kind) (Plain k) k := by
  refine ⟨trivial, fun made => ?_⟩
  cases made with
  | some _ => exact plain_ok
  | none => exact plain_error nofun

theorem follows_prepareExternalSession {ses : AgentSession} :
    turnDiscipline.Follows (prepareExternalSession ctx ow ses) (Plain k) k := by
  apply Follows.chain
  apply follows_external.mono
  rintro pp _ ⟨rfl, o⟩
  cases pp with
  | error er => exact plain_error fun h => o (congrArg _ h)
  | ok _ =>
    apply Follows.ite
    · intro _
      exact plain_error nofun
    · intro _
      apply Follows.ite
      · intro _
        exact plain_ok
      · intro _
        apply follows_unowned turn_ignores rfl
        intro _
        apply Follows.chain
        refine ⟨trivial, fun r => ?_⟩
        cases r with
        | error er => exact plain_error mapStoreNotFound_ne
        | ok _ => exact plain_ok

theorem follows_refusing {α β : Type} {code : Code (Except AgentError α)}
    {next : α → Code (Except (AgentError × String) β)}
    {post : Except (AgentError × String) β → TurnKnowledge → Prop}
    (plain : turnDiscipline.Follows code (Plain k) k)
    (hfa : ∀ er, er ≠ .turnInProgress → post (.error (er, sid)) k)
    (rest : ∀ v, turnDiscipline.Follows (next v) post k) :
    turnDiscipline.Follows ((code.bind fun res =>
      .done (res.mapError fun er => (er, sid))).chain next) post k := by
  apply Follows.chain
  apply Follows.bind
  apply plain.mono
  rintro res _ ⟨rfl, o⟩
  cases res with
  | ok v => exact rest v
  | error er => exact hfa er fun h => o (congrArg _ h)

structure Admitting (known : TurnKnowledge) (requested sessionID : String) (turn : Nat) : Prop where
  requested : known.requested = requested
  held : known.held = some (.turn sessionID turn)
  unbegun : known.begun = false
  open_ : known.ended = false
  stopped : known.running = false

section Admission

variable {rqd : String} {ses : AgentSession} {turn : Nat}
  {post : Except (AgentError × String) AgentMessage → TurnKnowledge → Prop}

theorem follows_beginAgentTurn {now : Time} {post : Except StoreError Unit → TurnKnowledge → Prop}
    (hadm : Admitting k rqd sid turn) (hfa : ∀ er last, Admitting last rqd sid turn →
      (er = .conflict → last.conflicted) → post (.error er) last)
    (hbg : ∀ last, last.requested = rqd → last.held = some (.turn sid turn) →
      last.begun → last.ended = false → last.running = false → post (.ok ()) last) :
    turnDiscipline.Follows (beginAgentTurn (statement ctx .begin) ow sid now) post k := by
  have held : k.Holds sid := ⟨turn, hadm.held⟩
  apply Follows.chain
  refine ⟨⟨held, hadm.unbegun, hadm.open_⟩, fun r => ?_⟩
  cases r with
  | error er =>
    refine hfa er _ { hadm with } ?_
    intro conflict
    simp [turnDiscipline, TurnKnowledge.after, TurnKnowledge.afterStore, conflict]
  | ok af =>
    by_cases one : af = 1
    · apply Follows.ite
      · intro o
        exact absurd one o
      · intro _
        refine hbg _ hadm.requested hadm.held ?_ hadm.open_ hadm.stopped
        simp [turnDiscipline, TurnKnowledge.after, TurnKnowledge.afterStore, one]
    have kept : Admitting (k.afterStore .begin (.beginTurn ow sid now) (.ok af))
        rqd sid turn := by
      refine { hadm with unbegun := ?_ }
      simp [TurnKnowledge.afterStore, one, hadm.unbegun]
    apply Follows.ite
    · intro _
      apply Follows.chain
      refine ⟨⟨by simp, fun _ => held⟩, fun lk => ?_⟩
      cases lk with
      | error er =>
        refine hfa er _ { kept with } ?_
        intro conflict
        simp [turnDiscipline, TurnKnowledge.after, TurnKnowledge.afterStore, conflict]
      | ok _ =>
        refine hfa .conflict _ { kept with } ?_
        intro _
        simp [turnDiscipline, TurnKnowledge.after, TurnKnowledge.afterStore, one]
    · intro w
      exact absurd one w

theorem follows_failHeld (names : k.Names sid) (hsp : k.running = false)
    (hrf : ∀ err last, Refused err last → post (.error err) last) :
    turnDiscipline.Follows (failAdmission ow sid er sid) post k := by
  apply follows_failAdmission
  · intro _
    exact ⟨hsp, names, .inl rfl⟩
  · intro _ _
    exact hrf _ _ ⟨hsp, .inl names, fun h => absurd h mapStoreNotFound_ne⟩

theorem follows_admitTurn {ad : Adapter} (hadm : Admitting k rqd ses.id turn)
    (had : ∀ msg last, last.held = none → post (.ok msg) last)
    (hrf : ∀ err last, Refused err last → post (.error err) last) : turnDiscipline.Follows
      (admitTurn ctx ow rqd content ses ad tg turn scp) post k := by
  have early (er : AgentError) (ho : er ≠ .turnInProgress) :
      post (.error (er, ses.id)) k :=
    hrf _ k ⟨hadm.stopped, .inl (Holds.names ⟨turn, hadm.held⟩), fun h => absurd h ho⟩
  have prepares : turnDiscipline.Follows
      (if ad.runtimeSession then prepareExternalSession ctx ow ses
        else .done (.ok (ses.externalSessionID.getD ""))) (Plain k) k :=
    Follows.ite (fun _ => follows_prepareExternalSession) (fun _ => plain_ok)
  have checks : turnDiscipline.Follows
      (if ad.preflight then external (.preflightTurn ses.provider) else .done (.ok ""))
      (Plain k) k :=
    Follows.ite (fun _ => follows_external) (fun _ => plain_ok)
  apply follows_refusing prepares early
  intro _
  apply follows_refusing checks early
  intro _
  apply follows_refusing follows_freshID early
  intro _
  apply follows_unowned turn_ignores rfl
  intro now
  apply Follows.bind
  apply follows_beginAgentTurn hadm
  · intro er last still conflicted
    cases er with
    | conflict =>
      exact hrf _ last
        ⟨still.stopped, .inl (Holds.names ⟨turn, still.held⟩), fun _ => conflicted rfl⟩
    | _ => exact follows_failHeld (Holds.names ⟨turn, still.held⟩) still.stopped hrf
  · intro last requestedKept held hbg open_ hsp
    refine ⟨⟨nofun, fun _ => ⟨turn, held⟩⟩, fun lk => ?_⟩
    cases lk with
    | error er =>
      -- from here on the Turn is released under the empty name
      have lost : (last.afterStore .reread (.agentSessionByOwner ow ses.id)
          (.error er)).lost := by simp [TurnKnowledge.afterStore]
      apply follows_failAdmission
      · intro now
        exact ⟨hsp, ⟨⟨ses.id, turn, held⟩, .inr (.inr ⟨lost, requestedKept.symm⟩)⟩, .inl rfl⟩
      · intro _ _
        exact hrf _ _ ⟨hsp, .inr ⟨lost, rfl, ses.id, turn, held⟩,
          fun h => absurd h mapStoreNotFound_ne⟩
    | ok again =>
      have names : (last.afterStore .reread (.agentSessionByOwner ow ses.id)
          (.ok again)).Names again.id :=
        ⟨⟨ses.id, turn, held⟩, .inr (.inl ⟨again, rfl, rfl⟩)⟩
      refine ⟨⟨names, hsp, trivial⟩, fun created => ?_⟩
      cases created with
      | error er => exact follows_failHeld names hsp hrf
      | ok _ =>
        refine ⟨⟨ses.id, turn, scp, again, _, tg, rfl, held, rfl, hbg, open_, hsp⟩, ?_⟩
        exact had _ _ rfl

end Admission

theorem startTurn_follows : turnDiscipline.Follows (startTurn ctx ow sid content) Answered
      { requested := sid } := by
  have refusing {k : TurnKnowledge} {er : AgentError} (free : k.held = none)
      (ho : er ≠ .turnInProgress) : Answered (.error er) k :=
    ⟨free, fun h => absurd (Except.error.inj h) ho⟩
  apply follows_mutation turn_ignores trivial
  · intro er
    refine ⟨rfl, fun h => .inl ?_⟩
    simp [turnDiscipline, TurnKnowledge.after, TurnKnowledge.afterAgent, Except.error.inj h]
  intro ctx
  apply Follows.ite
  · intro _
    exact ⟨trivial, refusing rfl nofun⟩
  intro _
  apply Follows.chain
  refine ⟨⟨fun _ => ⟨rfl, rfl⟩, nofun⟩, fun lk => ?_⟩
  cases lk with
  | error er => exact ⟨trivial, refusing rfl mapStoreNotFound_ne⟩
  | ok ses =>
    apply follows_unowned turn_ignores rfl
    intro ad
    cases ad with
    | none => exact ⟨trivial, refusing rfl nofun⟩
    | some ad =>
      apply follows_stored
      · trivial
      · intro er
        exact ⟨trivial, refusing rfl mapStoreNotFound_ne⟩
      · intro dev
        cases targeted : executionTarget dev.platform dev.arch with
        | error er => exact ⟨trivial, refusing rfl (executionTarget_ne targeted)⟩
        | ok _ =>
          apply follows_unowned turn_ignores rfl
          intro _
          apply follows_step
          · exact ⟨rfl, rfl, ses, rfl, rfl⟩
          intro reserved
          cases reserved with
          | error er =>
            apply follows_unowned turn_ignores rfl
            intro _
            refine ⟨trivial, rfl, fun h => .inl ?_⟩
            simp [turnDiscipline, TurnKnowledge.after, TurnKnowledge.afterAgent, Except.error.inj h]
          | ok turn =>
            have hadm : Admitting
                { requested := sid, found := some ses, held := some (.turn ses.id turn) }
                sid ses.id turn := ⟨rfl, rfl, rfl, rfl, rfl⟩
            apply Follows.bind
            apply follows_admitTurn hadm
            · intro _ last free
              exact ⟨trivial, free, nofun⟩
            · intro _ last hrf
              apply follows_unowned turn_ignores rfl
              intro _
              refine ⟨⟨hrf.stopped, hrf.names⟩, fun _ => ⟨trivial, rfl, ?_⟩⟩
              intro h
              exact .inr (hrf.busy (Except.error.inj h))

theorem follows_prepareRuntimeSession
    {post : Except AgentError (AgentSession × String) → TurnKnowledge → Prop}
    (free : k.held = none) (hfa : ∀ er last, last.held = none → post (.error er) last)
    (hpp : ∀ ses xid last, last.held = some (.configuration ses.id) → post (.ok (ses, xid)) last) :
    turnDiscipline.Follows (prepareRuntimeSession ctx ow sid) post k := by
  apply follows_stored
  · exact ⟨nofun, nofun⟩
  · intro er
    exact hfa _ _ free
  intro ses
  apply follows_stored
  · trivial
  · intro er
    exact hfa _ _ free
  intro dev
  cases executionTarget dev.platform dev.arch with
  | error er => exact hfa _ _ free
  | ok _ =>
    apply follows_unowned turn_ignores rfl
    intro ad
    cases ad with
    | none => exact hfa _ _ free
    | some ad =>
      apply Follows.ite
      · intro _
        exact hfa _ _ free
      intro _
      apply Follows.chain
      refine ⟨free, fun reserved => ?_⟩
      cases reserved with
      | error er => exact hfa _ _ free
      | ok _ =>
        apply Follows.bind
        apply follows_prepareExternalSession.mono
        rintro res last ⟨rfl, _⟩
        cases res with
        | ok xid => exact hpp _ _ _ rfl
        | error er => exact ⟨rfl, fun _ => hfa _ _ rfl⟩

theorem follows_configuring {call : AgentSession × String → ExternalCall} :
    turnDiscipline.Follows (mutation ctx fun ctx =>
        (prepareRuntimeSession ctx ow sid).chain fun hpp =>
        deferring (external (call hpp)) (agent (.releaseSessionConfiguration hpp.1.id)))
      (fun _ last => last.held = none) { requested := sid } := by
  apply follows_mutation turn_ignores trivial
  · intro er
    rfl
  intro ctx
  apply Follows.chain
  apply follows_prepareRuntimeSession rfl
  · intro er last free
    exact ⟨trivial, free⟩
  · intro _ _ last held
    apply follows_deferring
    apply follows_external.mono
    rintro _ k ⟨rfl, _⟩
    exact ⟨held, fun _ => ⟨trivial, rfl⟩⟩

theorem sessionModels_follows :
    turnDiscipline.Follows (sessionModels ctx ow sid) (fun _ last => last.held = none)
      { requested := sid } :=
  follows_configuring

theorem selectSessionModel_follows {selection : ModelSelection} :
    turnDiscipline.Follows (selectSessionModel ctx ow sid selection)
      (fun _ last => last.held = none) { requested := sid } :=
  Follows.ite (fun _ => rfl) (fun _ => follows_configuring)

/-! ## The goroutine of a Turn -/

theorem follows_report {post : Unit → TurnKnowledge → Prop} (hsp : k.running = false)
    (hh : k.Holds sid) (may : k.mayPublish pl)
    (rest : ∀ calling concluded, concluded = (outcome pl).orElse (fun _ => k.concluded) →
      post () { k with calling, concluded }) : turnDiscipline.Follows (publish sid pl) post k := by
  apply follows_publish turn_ignores
  · exact ⟨hsp, hh, may⟩
  · intro id now
    rfl
  · exact rest _ _ rfl
  · intro id now _
    exact rest none _ rfl

structure Running (known : TurnKnowledge) (sessionID : String) (turn : Nat) : Prop where
  held : known.held = some (.turn sessionID turn)
  stopped : known.running = false
  unconcluded : known.concluded = none

section Turn

variable {ses : AgentSession} {turn : Nat} {post : Unit → TurnKnowledge → Prop}

/-- What is left to do at the end: the Turn is still held. -/
def StillHolds (sessionID : String) (turn : Nat) (last : TurnKnowledge) : Prop :=
  last.held = some (.turn sessionID turn) ∧ last.running = false

theorem follows_failTurn {code : String} (hrn : Running k ses.id turn)
    (hh : ∀ last, StillHolds ses.id turn last → post () last) :
    turnDiscipline.Follows (failTurn ses code) post k := by
  have names : k.Names ses.id := Holds.names ⟨turn, hrn.held⟩
  apply follows_unowned turn_ignores rfl
  intro _
  apply Follows.ite
  · intro _
    exact hh _ ⟨hrn.held, hrn.stopped⟩
  intro _
  apply Follows.bind
  apply follows_persistSessionState
  · intro _
    exact ⟨hrn.stopped, names, .inl rfl⟩
  intro res _ _ hack
  cases res with
  | error er =>
    cases er with
    | notFound => exact hh _ ⟨hrn.held, hrn.stopped⟩
    | _ =>
      apply follows_unowned turn_ignores rfl
      intro _
      exact hh _ ⟨hrn.held, hrn.stopped⟩
  | ok _ =>
    apply Follows.bind
    apply follows_report
    · exact hrn.stopped
    · exact ⟨turn, hrn.held⟩
    · exact ⟨hrn.unconcluded, hack rfl⟩
    intro hcg hco h
    apply follows_report
    · exact hrn.stopped
    · exact ⟨turn, hrn.held⟩
    · simp [TurnKnowledge.mayPublish, h, outcome]
    intro hcg hco _
    exact hh _ ⟨hrn.held, hrn.stopped⟩

theorem follows_persistMessage {role : MessageRole} {createdAt : Option Time}
    {post : Except AgentError Unit → TurnKnowledge → Prop}
    (may : ∀ msg : AgentMessage, msg.sessionID = ses.id → msg.role = role →
      msg.content = content → k.mayStore .single (.createAgentMessage ses.userID msg))
    (hfa : ∀ er, post (.error er) k) (hem : content = "" → post (.ok ()) k)
    (saved : post (.ok ()) { k with saved := (role, content) :: k.saved }) :
    turnDiscipline.Follows (persistMessage ses role content createdAt) post k := by
  apply Follows.ite
  · exact hem
  intro _
  apply Follows.chain
  apply follows_freshID.mono
  rintro made last ⟨rfl, _⟩
  cases made with
  | error er => exact hfa er
  | ok mid =>
    have stores (time : Time) : turnDiscipline.Follows (cleanup fun ctx =>
        storedRaw ctx (.createAgentMessage ses.userID
          { id := mid, sessionID := ses.id, role, content, createdAt := time })) post last := by
      apply follows_cleanup turn_ignores
      intro ctx
      refine ⟨may _ rfl rfl rfl, fun r => ?_⟩
      cases r with
      | ok _ => exact saved
      | error er => exact hfa _
    cases createdAt with
    | some time => exact stores time
    | none =>
      apply follows_unowned turn_ignores rfl
      intro now
      exact stores now

def Saved (saved : List (MessageRole × String)) (reasoning text : String) : Prop :=
  (reasoning ≠ "" → (.reasoning, reasoning) ∈ saved) ∧ (text ≠ "" → (.assistant, text) ∈ saved)

theorem follows_persistTurnTranscript {rsn text : String} {startedAt : Option Time}
    {post : Except AgentError Unit → TurnKnowledge → Prop}
    (hrn : Running k ses.id turn) (hw : k.transcript = some (rsn, text))
    (hfa : ∀ er saved, post (.error er) { k with saved })
    (hh : ∀ saved, Saved saved rsn text → post (.ok ()) { k with saved }) :
    turnDiscipline.Follows (persistTurnTranscript ses rsn text startedAt) post k := by
  have names : k.Names ses.id := Holds.names ⟨turn, hrn.held⟩
  -- the second message, after whatever the first has left
  have hb (saved : List (MessageRole × String)) (time : Time)
      (ha : rsn ≠ "" → (.reasoning, rsn) ∈ saved) :
      turnDiscipline.Follows (persistMessage ses .assistant text (some time)) post
        { k with saved } := by
    apply follows_persistMessage
    · intro msg h role content
      refine ⟨h ▸ names, hrn.stopped, ?_⟩
      rw [role, content]
      exact ⟨rsn, hw⟩
    · intro er
      exact hfa er saved
    · intro hem
      exact hh saved ⟨ha, fun hne => absurd hem hne⟩
    · exact hh _ ⟨fun hne => List.mem_cons_of_mem _ (ha hne), fun _ => List.mem_cons_self⟩
  apply follows_unowned turn_ignores rfl
  intro completedAt
  apply Follows.chain
  apply follows_persistMessage
  · intro msg h role content
    refine ⟨h ▸ names, hrn.stopped, ?_⟩
    rw [role, content]
    exact ⟨text, hw⟩
  · intro er
    exact hfa er k.saved
  · intro hem
    exact hb k.saved completedAt fun hne => absurd hem hne
  · exact hb _ completedAt fun _ => List.mem_cons_self

theorem follows_turnOutcome
    {post : Except AgentError Unit → TurnKnowledge → Prop} (hh : ∀ oc, post oc k) :
    turnDiscipline.Follows (turnOutcome ctx res) post k := by
  cases res with
  | error _ => exact hh _
  | ok _ => exact follows_checkContext turn_ignores (fun _ => hh _) (hh _)

theorem follows_reportText {text : String} (hrn : Running k ses.id turn) (may : k.mayPublish pl)
    (plain : outcome pl = none) (hh : ∀ calling, post () { k with calling }) :
    turnDiscipline.Follows (skipIf (text = "") (publish ses.id pl)) post k := by
  apply Follows.ite
  · intro _
    exact hh k.calling
  · intro _
    apply follows_report hrn.stopped ⟨turn, hrn.held⟩ may
    intro calling _ h
    rw [h, plain]
    exact hh calling

theorem follows_concludeTurn (hrn : Running k ses.id turn) (hunr : k.transcript = none)
    (hh : ∀ last, StillHolds ses.id turn last → post () last) :
    turnDiscipline.Follows (concludeTurn ctx turn ses res) post k := by
  apply Follows.bind
  apply follows_turnOutcome
  intro oc
  apply follows_step
  · exact ⟨hrn.stopped, hunr, ses.id, hrn.held⟩
  rintro ⟨rsn, text, _⟩
  have hrd : Running { k with transcript := some (rsn, text) } ses.id turn := { hrn with }
  apply Follows.bind
  apply follows_persistTurnTranscript hrd rfl
  · intro er saved
    exact follows_failTurn { hrd with } hh
  intro saved hw
  apply Follows.bind
  apply follows_reportText
  · exact { hrd with }
  · exact ⟨hrn.unconcluded, text, rfl⟩
  · rfl
  intro hcg
  apply Follows.bind
  apply follows_reportText
  · exact { hrd with }
  · exact ⟨hrn.unconcluded, rsn, rfl⟩
  · rfl
  intro hcg
  cases oc with
  | error er => exact follows_failTurn { hrd with } hh
  | ok _ =>
    apply Follows.bind
    apply follows_persistSessionState
    · intro _
      exact ⟨hrn.stopped, Holds.names ⟨turn, hrn.held⟩, .inr rfl⟩
    intro res _ _ hack
    cases res with
    | error er =>
      cases er with
      | notFound => exact hh _ ⟨hrn.held, hrn.stopped⟩
      | _ => exact follows_failTurn { hrd with } hh
    | ok _ =>
      apply Follows.bind
      apply follows_report
      · exact hrn.stopped
      · exact ⟨turn, hrn.held⟩
      · exact ⟨hrn.unconcluded, hack rfl, rsn, text, rfl, hw⟩
      intro hcg hco h
      apply follows_report
      · exact hrn.stopped
      · exact ⟨turn, hrn.held⟩
      · simp [TurnKnowledge.mayPublish, h, TurnKnowledge.outcome]
      intro hcg hco _
      exact hh _ ⟨hrn.held, hrn.stopped⟩

theorem follows_runTurnBody (hrn : Running k ses.id turn)
    (hbg : k.begun) (open_ : k.ended = false) (hunr : k.transcript = none)
    (hh : ∀ last, StillHolds ses.id turn last → post () last) :
    turnDiscipline.Follows (runTurnBody turn scp ses tg) post k := by
  apply Follows.bind
  apply follows_report hrn.stopped ⟨turn, hrn.held⟩
  · simp [TurnKnowledge.mayPublish, hrn.unconcluded]
  intro calling concluded h
  have going : Running { k with calling, concluded } ses.id turn :=
    { hrn with unconcluded := by rw [h, hrn.unconcluded]; rfl }
  apply follows_unowned turn_ignores rfl
  intro ad
  cases ad with
  | none => exact follows_failTurn going hh
  | some ad =>
    refine ⟨trivial, fun read => ?_⟩
    cases read with
    | error _ =>
      apply follows_unowned turn_ignores rfl
      intro _
      apply Follows.ite
      · intro _
        exact hh _ ⟨going.held, going.stopped⟩
      · intro _
        exact follows_failTurn going hh
    | ok _ =>
      refine ⟨⟨going.held, hbg, open_, going.stopped, hunr⟩, fun _ => ?_⟩
      refine ⟨⟨rfl, ses.id, going.held⟩, fun _ => ?_⟩
      exact follows_concludeTurn { going with stopped := rfl } hunr hh

end Turn

theorem runTurn_follows {turn : Nat} {ses : AgentSession} :
    turnDiscipline.Follows (runTurn turn scp ses tg) (fun _ last => last.held = none)
      { requested := ses.id, held := some (.turn ses.id turn), begun := true } := by
  apply follows_deferring
  apply follows_runTurnBody ⟨rfl, rfl, rfl⟩ rfl rfl rfl
  intro last still
  refine ⟨⟨still.2, .inl (Holds.names ⟨turn, still.1⟩)⟩, fun _ => ?_⟩
  exact ⟨trivial, fun _ => rfl⟩

end Service

/-- Every thread that is looked at keeps to the conduct, and holds nothing when it ends. -/
theorem turn_bodies {g : Goroutine} {k : TurnKnowledge} (hb : turnDiscipline.start g = some k) :
    turnDiscipline.Follows (body g) (fun _ last => last.held = none) k := by
  cases g with
  | startTurn ctx ow sid _ =>
    cases hb
    apply Follows.bind
    apply Service.startTurn_follows.mono
    intro _ last han
    exact ⟨han.busy, fun _ => han.released⟩
  | sessionModels ctx ow sid =>
    cases hb
    apply Follows.bind
    exact Service.sessionModels_follows
  | selectSessionModel ctx ow sid _ =>
    cases hb
    apply Follows.bind
    exact Service.selectSessionModel_follows
  | runTurn _ _ _ _ _ =>
    cases hb
    exact Service.runTurn_follows
  | _ => cases hb

end AISummoner.Agent
