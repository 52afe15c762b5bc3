import AISummoner.App.Roles

/-! # Every program keeps to its role

One lemma per goroutine, and `body_performs` for all of them.
-/

namespace AISummoner.App

open Concurrency Concurrency.Program Store Agent AISummoner.Runtime

abbrev Role.Runs (role : Role) {α : Type} (code : Code α) : Prop :=
  code.performs role.mayPerform role.maySpawn

variable {α : Type} {ad : Adapter} {er : AgentError} {ct : String} {scp : Scope}
  {res : ToolResult} {site : Site} {des : ToolStatus} {exitCode : Option Int}
  {args : RemoteExecArguments} {rq : ToolRequest} {cn : Nat} {hello : Hello}

theorem Role.Runs.ignore {role : Role} {code : Code α} (runs : role.Runs code) :
    role.Runs (ignore code) :=
  performs_bind runs fun _ => trivial

theorem open_any {role : Role} (op : Operation) (hun : performers op = none) :
    role.mayPerform op := mayPerform_of_open hun

variable {role : Role} {ctx : Context} {ses : AgentSession} {ow sid did : String}
  {turn : Nat} {cid : String} {tg : ExecutionTarget} {md : RequestedMode}
  {exc : Bytes}

theorem mutation_runs {code : Context → Code (Except AgentError α)}
    (hct : role.mayPerform (.agent .beginMutation)) (runs : ∀ ctx, role.Runs (code ctx)) :
    role.Runs (Service.mutation ctx code) :=
  performs_chain ⟨hct, fun _ => trivial⟩ fun _ =>
    ⟨rfl, fun _ => performs_deferring (runs _) ⟨rfl, fun _ => ⟨hct, fun _ => trivial⟩⟩⟩

theorem cleanup_runs {code : Context → Code α} (runs : ∀ ctx, role.Runs (code ctx)) :
    role.Runs (Service.cleanup code) :=
  ⟨rfl, fun _ => performs_deferring (runs _) ⟨rfl, fun _ => trivial⟩⟩

theorem publish_runs {pl : Payload} (how : role.mayPerform (.observe (.publishing sid pl))) :
    role.Runs (Service.publish sid pl) :=
  ⟨how, fun _ => ⟨rfl, fun
    | none => trivial
    | some _ => ⟨rfl, fun _ => performs_ite ⟨how, fun _ => trivial⟩ trivial⟩⟩⟩

theorem persistSessionState_runs {st : SessionState} (how : ∀ ctx site now,
      role.mayPerform (.store ctx site (.updateAgentSessionState ow sid st now))) :
    role.Runs (Service.persistSessionState ow sid st) := by
  have loop (rem att : Nat) (lerr : StoreError) : role.Runs
      (Service.persistSessionStateFrom ow sid st att lerr rem) := by
    induction rem generalizing att lerr with
    | zero => trivial
    | succ rem ih =>
      refine performs_bind (cleanup_runs fun _ => ⟨rfl, fun _ => ⟨how _ _ _, fun _ => trivial⟩⟩)
        fun _ => ?_
      split
      · trivial
      · trivial
      · exact ih _ _
  exact loop 2 0 _

theorem prepareExternalSession_runs (updates : ∀ xid now, role.mayPerform (.store ctx .single
      (.updateAgentExternalSessionID ow ses.id xid now))) :
    role.Runs (Service.prepareExternalSession ctx ow ses) :=
  performs_chain ⟨rfl, fun _ => trivial⟩ fun _ =>
    performs_ite trivial <| performs_ite trivial ⟨rfl, fun _ =>
      performs_chain (performs_stored.mpr (updates _ _)) fun _ => trivial⟩

/-! ## Sessions -/

theorem createSession_runs : Role.createSession.Runs (Service.createSession ctx ow did md) := by
  refine mutation_runs rfl fun _ => performs_chain ⟨rfl, fun _ => trivial⟩ fun _ =>
    performs_chain ?_ fun _ => performs_chain (performs_stored.mpr rfl) fun _ =>
      (performs_step rfl fun _ => performs_ite trivial <| performs_chain (performs_freshID.mpr rfl) fun _ =>
        (performs_step rfl fun _ => performs_chain (performs_stored.mpr rfl) fun _ => trivial))
  cases md with
  | default => exact performs_chain (performs_stored.mpr rfl) fun _ => trivial
  | mode _ | unknown => trivial

theorem prepareRuntimeSession_runs :
    Role.configuration.Runs (Service.prepareRuntimeSession ctx ow sid) := by
  refine performs_chain (performs_stored.mpr rfl) fun _ =>
    performs_chain (performs_stored.mpr rfl) fun _ => ?_
  split
  · trivial
  refine (performs_step rfl fun ad => ?_)
  cases ad with
  | none => trivial
  | some ad =>
    refine performs_ite trivial <| performs_chain ⟨rfl, fun _ => trivial⟩ fun _ =>
      performs_bind (prepareExternalSession_runs fun _ _ => rfl) fun pp => ?_
    cases pp with
    | ok _ => trivial
    | error _ => exact ⟨rfl, fun _ => trivial⟩

theorem sessionModels_runs : Role.configuration.Runs (Service.sessionModels ctx ow sid) :=
  mutation_runs rfl fun _ => performs_chain prepareRuntimeSession_runs fun _ =>
    performs_deferring ⟨rfl, fun _ => trivial⟩ ⟨rfl, fun _ => trivial⟩

theorem selectSessionModel_runs {selection : ModelSelection} :
    Role.configuration.Runs (Service.selectSessionModel ctx ow sid selection) :=
  performs_ite trivial <| mutation_runs rfl fun _ =>
    performs_chain prepareRuntimeSession_runs fun _ =>
      performs_deferring ⟨rfl, fun _ => trivial⟩ ⟨rfl, fun _ => trivial⟩

theorem setAdapter_runs {prv : String} : Role.other.Runs (Service.setAdapter prv ad) :=
  performs_ite trivial ⟨rfl, fun _ => trivial⟩

theorem updateSettings_runs : Role.settings.Runs (Service.updateSettings ctx ow md) := by
  refine mutation_runs rfl ?_
  intro ctx
  split
  · trivial
  · exact performs_step rfl fun _ => performs_bind
      (performs_chain ⟨rfl, fun _ => trivial⟩ fun _ => ⟨rfl, fun _ => trivial⟩) fun _ => trivial

theorem updateSessionApprovalMode_runs :
    Role.settings.Runs (Service.updateSessionApprovalMode ctx ow sid md) := by
  refine mutation_runs rfl ?_
  intro ctx
  split
  · trivial
  · exact performs_step rfl fun _ => performs_bind (performs_chain ⟨rfl, fun _ => trivial⟩ fun _ =>
      performs_ite (performs_chain ⟨rfl, fun _ => trivial⟩ fun _ => trivial) ⟨rfl, fun _ => trivial⟩)
        fun _ => trivial

theorem setSessionArchived_runs {archived : Bool} :
    Role.archiveSession.Runs (Service.setSessionArchived ctx ow sid archived) := by
  refine mutation_runs rfl fun ctx => performs_step rfl fun _ => performs_bind
    (performs_chain ⟨rfl, fun _ => trivial⟩ fun _ => performs_ite
      (performs_chain ⟨rfl, fun _ => trivial⟩ fun _ => trivial) ⟨rfl, fun _ => trivial⟩) fun res => ?_
  cases res with
  | error _ => trivial
  | ok _ => exact (performs_step rfl fun _ =>
      performs_bind (performs_skipIf ⟨rfl, fun _ => trivial⟩) fun _ => trivial)

theorem deleteSession_runs : Role.deleteSession.Runs (Service.deleteSession ctx ow sid) := by
  refine mutation_runs rfl fun ctx => (performs_step rfl fun res => ?_)
  cases res with
  | error _ => trivial
  | ok _ => exact (performs_step rfl fun _ => ⟨rfl, fun _ => trivial⟩)

/-! ## Turns -/

theorem failAdmission_runs {releaseID : String} {er : StoreError} :
    Role.startTurn.Runs (Service.failAdmission ow sid er releaseID) :=
  have persists : Role.startTurn.Runs (Service.persistSessionState ow sid .failed) :=
    persistSessionState_runs fun _ _ _ => rfl
  (performs_step rfl fun _ => performs_bind (performs_skipIf (performs_bind persists fun _ => trivial))
    fun _ => trivial)

theorem admitTurn_runs : Role.startTurn.Runs
      (Service.admitTurn ctx ow sid ct ses ad tg turn scp) := by
  refine performs_chain (performs_bind (performs_ite (prepareExternalSession_runs fun _ _ => rfl)
    trivial) fun _ => trivial) fun _ => performs_chain (performs_bind (performs_ite
    ⟨rfl, fun _ => trivial⟩ trivial) fun _ => trivial) fun _ => performs_chain
    (performs_bind (performs_freshID.mpr rfl) fun _ => trivial) fun _ => (performs_step rfl fun _ =>
    performs_bind (performs_chain ⟨rfl, fun _ => trivial⟩ fun _ => performs_ite
      (performs_chain ⟨rfl, fun _ => trivial⟩ fun _ => trivial) trivial) fun _ => ?_)
  split
  · trivial
  · exact failAdmission_runs
  · refine (performs_step rfl fun read => ?_)
    cases read with
    | error err => exact failAdmission_runs
    | ok ses =>
      refine (performs_step rfl fun created => ?_)
      cases created with
      | error err => exact failAdmission_runs
      | ok _ => exact ⟨rfl, trivial⟩

theorem startTurn_runs : Role.startTurn.Runs (Service.startTurn ctx ow sid ct) := by
  refine mutation_runs rfl fun ctx => performs_ite trivial <|
    performs_chain ⟨rfl, fun _ => trivial⟩ fun _ => (performs_step rfl fun ad => ?_)
  cases ad with
  | none => trivial
  | some ad =>
    refine performs_chain (performs_stored.mpr rfl) fun _ => ?_
    split
    · trivial
    refine (performs_step rfl fun _ => (performs_step rfl fun reserved => ?_))
    cases reserved with
    | error err => exact ⟨rfl, fun _ => trivial⟩
    | ok _ =>
      apply performs_bind admitTurn_runs
      intro admitted
      cases admitted with
      | ok _ => trivial
      | error err => exact (performs_step rfl fun _ => ⟨rfl, fun _ => trivial⟩)

theorem persistMessage_runs {speaker : MessageRole} {createdAt : Option Time} :
    Role.runTurn.Runs (Service.persistMessage ses speaker ct createdAt) := by
  refine performs_ite trivial <| performs_chain (performs_freshID.mpr rfl) fun _ =>
    performs_bind ?_ fun _ => cleanup_runs fun _ => performs_storedRaw.mpr rfl
  cases createdAt with
  | none => exact ⟨rfl, fun _ => trivial⟩
  | some _ => trivial

theorem failTurn_runs {code : String} : Role.runTurn.Runs (Service.failTurn ses code) := by
  refine ⟨rfl, fun _ => performs_skipIf (performs_bind (persistSessionState_runs fun _ _ _ => rfl) ?_)⟩
  intro _
  split
  · trivial
  · exact ⟨rfl, fun _ => trivial⟩
  · exact performs_bind (publish_runs rfl) fun _ => publish_runs rfl

theorem concludeTurn_runs {res : Except AgentError Unit} :
    Role.runTurn.Runs (Service.concludeTurn ctx turn ses res) := by
  have transcribes {rsn text : String} {time : Option Time} :
      Role.runTurn.Runs (Service.persistTurnTranscript ses rsn text time) :=
    (performs_step rfl fun _ => performs_chain persistMessage_runs fun _ => persistMessage_runs)
  refine performs_bind ?_ fun oc => (performs_step rfl fun (_, _, _) =>
    performs_bind transcribes fun persisted => ?_)
  · cases res with
    | error err => trivial
    | ok _ => exact performs_checkContext.mpr rfl
  · cases persisted with
    | error err => exact failTurn_runs
    | ok _ =>
      refine performs_bind (performs_skipIf (publish_runs rfl)) fun _ =>
        performs_bind (performs_skipIf (publish_runs rfl)) fun _ => ?_
      cases oc with
      | error err => exact failTurn_runs
      | ok _ =>
        refine performs_bind (persistSessionState_runs fun _ _ _ => rfl) fun _ => ?_
        split
        · trivial
        · exact failTurn_runs
        · exact performs_bind (publish_runs rfl) fun _ => publish_runs rfl

theorem runTurn_runs : Role.runTurn.Runs (Service.runTurn turn scp ses tg) := by
  refine performs_deferring (performs_bind (publish_runs rfl) fun _ =>
    (performs_step rfl fun ad => ?_)) (performs_step rfl fun _ => ⟨rfl, fun _ => trivial⟩)
  cases ad with
  | none => exact failTurn_runs
  | some ad =>
    refine (performs_step rfl fun snap => ?_)
    cases snap with
    | error _ =>
      exact (performs_step rfl fun _ => performs_skipIf (failTurn_runs))
    | ok _ => exact (performs_step rfl fun _ => (performs_step rfl fun _ => concludeTurn_runs))

theorem sink_runs {call : SinkCall} : Role.sink.Runs (Service.sink turn ctx ow sid call) := by
  cases call with
  | reasoningDelta dt =>
    exact performs_chain (performs_checkContext.mpr rfl) fun _ => (performs_step rfl fun _ =>
      performs_chain ⟨rfl, fun _ => trivial⟩ fun _ =>
        performs_bind (publish_runs rfl) fun _ => trivial)
  | textDelta dt =>
    exact performs_chain (performs_checkContext.mpr rfl) fun _ =>
      performs_chain ⟨rfl, fun _ => trivial⟩ fun _ =>
        performs_bind (publish_runs rfl) fun _ => trivial
  | providerState _ =>
    refine performs_chain (performs_checkContext.mpr rfl) fun _ => performs_ite trivial ?_
    split
    · trivial
    · exact performs_bind (publish_runs rfl) fun _ => trivial
  | setExternalSessionID _ =>
    exact performs_chain (performs_checkContext.mpr rfl) fun _ => (performs_step rfl fun _ =>
      performs_storedRaw.mpr rfl)

/-! ## Tool calls -/

theorem lookupTool_runs : Role.invoke.Runs (Service.lookupTool site ow cid) :=
  cleanup_runs fun _ => ⟨rfl, fun _ => trivial⟩

theorem failPending_runs : Role.invoke.Runs (Service.failPending ses cid exc site) := by
  refine cleanup_runs fun _ => ⟨rfl, fun _ => ⟨rfl, fun res => ?_⟩⟩
  cases res with
  | error err => trivial
  | ok _ =>
    refine ⟨rfl, fun lk => ?_⟩
    cases lk with
    | error err => trivial
    | ok _ => exact performs_ite trivial trivial

theorem resolvePendingAbortFrom_runs {cause : AgentError} (rem att : Nat)
    (lerr : Option StoreError) : Role.invoke.Runs
      (Service.resolvePendingAbortFrom ses cid cause att lerr rem) := by
  induction rem generalizing att lerr with
  | zero => trivial
  | succ rem ih =>
    apply performs_bind failPending_runs
    intro _
    split
    · trivial
    · trivial
    · exact ih _ _

theorem abortTool_runs (rem att : Nat) (abortError : Option StoreError) : Role.invoke.Runs
    (Service.abortTool ses cid exc att abortError rem) := by
  induction rem generalizing att abortError with
  | zero => trivial
  | succ rem ih =>
    apply performs_bind failPending_runs
    intro _
    split
    · trivial
    · split
      · trivial
      · trivial
      · exact ih _ _
    · exact ih _ _

theorem reconcile_runs : Role.invoke.Runs (Service.reconcile ses cid) := by
  apply performs_bind lookupTool_runs
  intro res
  cases res with
  | error err | ok tc => trivial

theorem stillUndecided_runs : Role.invoke.Runs (Service.stillUndecided ses cid) := by
  apply performs_bind lookupTool_runs
  intro res
  cases res with
  | error err | ok tc => trivial

theorem finish_runs {att : Nat} {hsts : ToolStatus} {code : Option Int} :
    Role.invoke.Runs (Service.finish ses cid att hsts code exc) :=
  cleanup_runs fun _ => ⟨rfl, fun _ => performs_chain ⟨rfl, fun _ => trivial⟩ fun _ =>
    performs_ite (performs_chain ⟨rfl, fun _ => trivial⟩ fun _ => trivial) trivial⟩

theorem compensate_runs (rem att : Nat) (lerr : Option StoreError) :
    Role.invoke.Runs (Service.compensate ses cid att lerr rem) := by
  induction rem generalizing att lerr with
  | zero => trivial
  | succ rem ih =>
    apply performs_bind finish_runs
    intro res
    cases res with
    | ok _ => trivial
    | error _ =>
      apply performs_bind reconcile_runs
      intro f
      cases f with
      | some _ => trivial
      | none => exact ih _ _

theorem finalize_runs (rem att : Nat) (lerr : Option StoreError) : Role.invoke.Runs
      (Service.finalize ses cid des exitCode exc att lerr rem) := by
  induction rem generalizing att lerr with
  | zero => exact performs_ite (compensate_runs _ _ _) trivial
  | succ rem ih =>
    apply performs_bind finish_runs
    intro res
    cases res with
    | ok _ => trivial
    | error _ =>
      apply performs_bind reconcile_runs
      intro f
      cases f with
      | some _ => trivial
      | none => exact ih _ _

theorem finishTool_runs : Role.invoke.Runs (Service.finishTool ses cid des exitCode exc) := by
  refine performs_bind (performs_ite (performs_bind (abortTool_runs _ _ _) ?_)
    (finalize_runs _ _ _)) fun _ => ⟨rfl, fun _ => trivial⟩
  intro res
  cases res with
  | ok _ => trivial
  | error _ =>
    exact performs_bind stillUndecided_runs fun _ => performs_ite trivial (finalize_runs _ _ _)

theorem announce_runs {dts : CompletionDetails} {sts : Option ToolStatus} :
    Role.invoke.Runs (Service.announce ses cid dts sts) := by
  cases sts with
  | none => trivial
  | some sts => exact publish_runs rfl

theorem abandonTool_runs {exc : String} : Role.invoke.Runs (Service.abandonTool ses cid exc er) :=
  performs_bind finishTool_runs fun _ => performs_bind announce_runs fun _ => trivial

theorem denyTool_runs : Role.invoke.Runs (Service.denyTool ses cid) := by
  refine performs_bind finishTool_runs fun _ => performs_bind announce_runs fun _ => ?_
  split
  · trivial
  · trivial

theorem settleFailure_runs : Role.invoke.Runs (Service.settleFailure ctx ses cid res er) := by
  refine performs_bind finishTool_runs fun _ => performs_bind announce_runs fun _ => ?_
  split
  · trivial
  · exact ⟨rfl, fun _ => trivial⟩

theorem settleSuccess_runs : Role.invoke.Runs (Service.settleSuccess ses cid res) := by
  apply performs_bind finishTool_runs
  intro _
  split
  · exact performs_bind announce_runs fun _ => trivial
  · exact performs_bind (publish_runs rfl) fun _ => performs_bind (publish_runs rfl) fun _ => trivial

theorem awaitDecision_runs : Role.invoke.Runs (Service.awaitDecision ctx ses cid) := by
  have tells {st : SessionState} : Role.invoke.Runs (Service.publish ses.id (.sessionState st)) :=
    publish_runs rfl
  refine ⟨rfl, fun _ => ⟨rfl, fun res => ?_⟩⟩
  cases res with
  | error err => exact resolvePendingAbortFrom_runs _ _ _
  | ok _ =>
    apply performs_bind tells
    refine fun _ => ⟨rfl, fun oc => ?_⟩
    cases oc with
    | error _ => exact resolvePendingAbortFrom_runs _ _ _
    | ok _ =>
      apply performs_bind lookupTool_runs
      intro lk
      cases lk with
      | error err => trivial
      | ok _ =>
        exact performs_ite trivial ⟨rfl, fun _ => performs_chain (performs_storedRaw.mpr rfl) fun _ =>
          performs_bind tells fun _ => trivial⟩

theorem installPending_runs : Role.invoke.Runs (Service.installPending ses cid) := by
  refine performs_chain ⟨rfl, fun _ => trivial⟩ fun _ =>
    performs_bind (cleanup_runs fun _ => ⟨rfl, fun _ => trivial⟩) ?_
  intro res
  cases res with
  | error _ => exact ⟨rfl, fun _ => trivial⟩
  | ok _ =>
    dsimp only
    split
    · trivial
    · exact ⟨rfl, fun _ => trivial⟩

theorem execute_runs : Role.invoke.Runs (Service.execute ctx ses tg args) := by
  have hca : Role.invoke.Runs (Service.executionCanceled ctx ses.id) :=
    performs_executionCanceled open_any
  refine performs_bind hca fun ed => ?_
  cases ed with
  | some er => trivial
  | none =>
    refine ⟨rfl, fun owned => ?_⟩
    cases owned with
    | error err => trivial
    | ok _ =>
      refine ⟨rfl, fun _ => performs_ite trivial (performs_bind hca fun ed => ?_)⟩
      cases ed with
      | some er => trivial
      | none =>
        refine ⟨rfl, fun scp => performs_deferring ⟨rfl, fun _ => ?_⟩ ⟨rfl, fun _ => trivial⟩⟩
        have runs : Role.invoke.Runs (SshClient.exec (scp :: ctx) ses.deviceID tg
            args.command args.cwd) :=
          performs_remoteExec open_any ⟨fun _ => by rfl, fun _ => by rfl, fun _ => by rfl⟩
            fun _ => rfl
        apply performs_bind runs
        intro res
        cases res with
        | error err => exact ⟨rfl, fun _ => trivial⟩
        | ok _ => trivial

theorem approveTool_runs : Role.invoke.Runs (Service.approveTool turn ctx ses cid args) := by
  refine performs_bind installPending_runs fun installed => ?_
  cases installed with
  | error err => exact performs_bind abandonTool_runs fun _ => trivial
  | ok _ =>
    refine performs_bind (publish_runs rfl) fun _ => performs_bind (performs_bind
      (performs_deferring awaitDecision_runs ⟨rfl, fun _ => trivial⟩) fun _ =>
        ⟨rfl, fun _ => trivial⟩) fun _ => ?_
    split
    · exact performs_bind abandonTool_runs fun _ => trivial
    · exact performs_bind denyTool_runs fun _ => trivial
    · refine performs_bind (performs_chain ⟨rfl, fun _ => trivial⟩ fun _ => performs_ite
        (performs_chain ⟨rfl, fun _ => trivial⟩ fun _ => trivial) trivial) fun st => ?_
      cases st with
      | error err => exact performs_bind abandonTool_runs fun _ => trivial
      | ok _ => exact performs_bind (performs_skipIf ⟨rfl, fun _ => trivial⟩) fun _ => trivial

theorem runTool_runs : Role.invoke.Runs (Service.runTool ctx ses tg cid args) := by
  refine performs_bind (publish_runs rfl) fun _ => performs_bind execute_runs fun _ => ?_
  dsimp only
  split
  · exact settleFailure_runs
  · exact settleSuccess_runs

theorem invokeSerialized_runs : Role.invoke.Runs (Service.invokeSerialized turn ctx rq) := by
  refine performs_chain (performs_checkContext.mpr rfl) fun _ => performs_ite trivial ?_
  split
  · trivial
  refine performs_chain (performs_freshID.mpr rfl) fun _ => (performs_step rfl fun _ =>
    (performs_step rfl fun _ => performs_chain (performs_storedRaw.mpr rfl) fun _ =>
      performs_ite (performs_bind approveTool_runs fun ap => ?_) runTool_runs))
  cases ap with
  | error _ => trivial
  | ok _ => exact runTool_runs

theorem invoke_runs : Role.invoke.Runs (Service.invoke turn ctx rq) :=
  performs_chain ⟨rfl, fun _ => trivial⟩ fun _ =>
    performs_deferring invokeSerialized_runs ⟨rfl, fun _ => trivial⟩

theorem decide_runs {dec : Option Decision} : Role.decide.Runs (Service.decide ctx ow cid dec) := by
  refine mutation_runs rfl ?_
  intro ctx
  cases dec with
  | none => trivial
  | some dec =>
    refine (performs_step rfl fun _ => (performs_step rfl fun _ => ?_))
    split
    · trivial
    · trivial
    · trivial
    · exact performs_chain ⟨rfl, fun _ => trivial⟩ fun _ => ⟨rfl, fun _ => trivial⟩

/-! ## Devices and terminals -/

theorem markDeviceRevoked_runs {sids : List String}
    (marks : role.mayPerform (.agent (.markDeviceRevoked did sids))) :
    role.Runs (Service.markDeviceRevoked did sids) :=
  ⟨marks, fun _ => performs_cancelEach fun _ => rfl⟩

theorem closeSessions_runs (sids : List String) : role.Runs (Service.closeSessions sids) := by
  induction sids with
  | nil => trivial
  | cons _ sids ih => exact ⟨rfl, fun _ => ih⟩

theorem awaitTurns_runs (turns : List Nat) : role.Runs (Service.awaitTurns ctx turns) := by
  induction turns with
  | nil => trivial
  | cons _ turns ih =>
    refine ⟨rfl, fun ed => ?_⟩
    cases ed with
    | some _ => trivial
    | none => exact ih

theorem cancelSessions_runs {cause : Cause} (sess : List (Nat × Scope)) :
    role.Runs (Terminal.cancelSessions cause sess) := by
  induction sess with
  | nil => trivial
  | cons _ sess ih => exact ⟨rfl, fun _ => ih⟩

theorem waitSessions_runs (sess : List (Nat × Scope)) : role.Runs (Terminal.waitSessions sess) := by
  induction sess with
  | nil => trivial
  | cons _ sess ih => exact ⟨rfl, fun _ => ih⟩

theorem closeEach_runs (cns : List Nat) : role.Runs (Tunnel.closeEach cns) := by
  induction cns with
  | nil => trivial
  | cons _ cns ih => exact ⟨rfl, fun _ => ih⟩

theorem awaitEach_runs (cns : List Nat) : role.Runs (Tunnel.awaitEach cns) := by
  induction cns with
  | nil => trivial
  | cons _ cns ih => exact ⟨rfl, fun _ => ih⟩

theorem endConnection_runs : role.Runs (Tunnel.endConnection cn) :=
  ⟨rfl, fun _ => ⟨rfl, fun _ => trivial⟩⟩

section Gate

variable (gates : ∀ op, role.mayPerform (.gate op))
include gates

theorem unlock_runs : role.Runs (Device.unlock did) :=
  ⟨gates _, fun _ => ⟨gates _, fun _ => trivial⟩⟩

theorem lockDevice_runs : role.Runs (Device.lockDevice ctx did) := by
  have checks : role.Runs (checkContext ctx) := performs_checkContext.mpr rfl
  refine performs_ite trivial <| performs_chain checks fun _ =>
    ⟨gates _, fun _ => ⟨gates _, fun ed => ?_⟩⟩
  cases ed with
  | some _ => exact ⟨gates _, fun _ => trivial⟩
  | none =>
    apply performs_bind checks
    intro checked
    cases checked with
    | error _ => exact performs_bind (unlock_runs gates) fun _ => trivial
    | ok _ => trivial

end Gate

theorem publishAuthenticated_runs {rg : Device} {now : Time} :
    Role.serveTransport.Runs (Tunnel.publishAuthenticated ctx rg cn now) := by
  have offers : Role.serveTransport.Runs (Tunnel.offer ctx rg.id now) :=
    performs_chain ⟨rfl, fun _ => trivial⟩ fun _ => performs_chain (performs_freshID.mpr rfl)
      fun _ => performs_storedRaw.mpr rfl
  have checks : Role.serveTransport.Runs (checkContext ctx) := performs_checkContext.mpr rfl
  refine performs_chain checks fun _ => performs_chain ⟨rfl, fun _ => trivial⟩ fun _ =>
    performs_chain (performs_ite trivial ?_) fun _ => performs_chain ⟨rfl, fun _ => trivial⟩
      fun _ => performs_chain checks fun _ => performs_chain checks fun _ => (performs_step rfl fun _ =>
        performs_ite ⟨rfl, trivial⟩ trivial)
  exact performs_chain offers fun _ => performs_chain (performs_freshID.mpr rfl) fun _ =>
    performs_chain ⟨rfl, fun _ => trivial⟩ fun _ => trivial

theorem registerConnection_runs {connectionID : String} :
    Role.serveTransport.Runs (Tunnel.registerConnection ctx hello connectionID) := by
  refine (performs_step rfl fun _ => performs_bind (performs_chain
    ⟨rfl, fun _ => trivial⟩ fun _ => ⟨rfl, fun _ => trivial⟩) fun rg => ?_)
  cases rg with
  | error _ => trivial
  | ok rg =>
    exact (performs_step rfl fun _ => performs_bind publishAuthenticated_runs fun _ => trivial)

theorem serveTransport_runs : Role.serveTransport.Runs (Tunnel.serveTransport ctx hello) := by
  refine performs_chain ⟨rfl, fun _ => trivial⟩ fun _ => performs_chain (performs_freshID.mpr rfl)
    fun _ => (performs_step rfl fun _ => performs_chain (performs_deferring (performs_chain
      (lockDevice_runs fun _ => rfl) fun _ => performs_deferring
        registerConnection_runs (unlock_runs fun _ => rfl)) ⟨rfl, fun _ => trivial⟩) fun rg => ?_)
  obtain ⟨_, pu⟩ := rg
  cases pu with
  | error _ => exact ⟨rfl, fun _ => trivial⟩
  | ok _ => exact ⟨.inl rfl, trivial⟩

theorem heartbeatLoop_runs : Role.other.Runs (Tunnel.heartbeatLoop ctx cn did) := by
  refine (performs_step rfl fun heartbeat => ?_)
  cases heartbeat with
  | error err => exact endConnection_runs
  | ok _ =>
    refine (performs_step rfl fun _ => (performs_step rfl fun touched => ?_))
    cases touched with
    | error err => exact endConnection_runs
    | ok _ =>
      refine (performs_step rfl fun ack => ?_)
      cases ack with
      | error err => exact endConnection_runs
      | ok _ => exact ⟨.inr rfl, trivial⟩

theorem unpair_runs : Role.unpair.Runs (Device.unpair ctx ow did) := by
  refine (performs_step rfl fun _ => performs_chain (lockDevice_runs fun _ => rfl) fun _ =>
    (performs_step rfl fun res => ?_))
  cases res with
  | error _ => exact performs_bind (unlock_runs fun _ => rfl) fun _ => trivial
  | ok res =>
    exact performs_bind (markDeviceRevoked_runs rfl) fun _ => (performs_step rfl fun _ =>
      performs_bind (unlock_runs fun _ => rfl) fun _ => performs_bind (performs_step rfl fun _ =>
        ⟨rfl, rfl, rfl, rfl, fun _ => ⟨rfl, fun _ => trivial⟩⟩) fun _ => trivial)

theorem serveHTTP_runs {uid : String} : Role.terminal.Runs (Terminal.serveHTTP ctx uid did) := by
  have serves {ctx : Context} {scp : Scope} :
      Role.terminal.Runs (Terminal.serveAdmitted ctx scp did) := by
    refine (performs_step rfl fun ed => ?_)
    cases ed with
    | some _ => trivial
    | none =>
      refine (performs_step rfl fun a => ?_)
      cases a with
      | error err => trivial
      | ok _ =>
        apply performs_bind
          (performs_openPTY open_any ⟨fun _ => by rfl, fun _ => by rfl, fun _ => by rfl⟩)
        intro op
        cases op with
        | error err => exact ⟨rfl, fun _ => trivial⟩
        | ok _ => exact (performs_step rfl fun _ => ⟨rfl, fun _ => trivial⟩)
  refine (performs_step rfl fun authenticated => ?_)
  cases authenticated with
  | error err => trivial
  | ok _ =>
    refine (performs_step rfl fun _ => (performs_step rfl fun owned => ?_))
    cases owned with
    | error err => trivial
    | ok _ =>
      refine (performs_step rfl fun _ => performs_skipIf (performs_step rfl fun admitted => ?_))
      cases admitted with
      | error err => trivial
      | ok _ => exact performs_deferring serves ⟨rfl, fun _ => trivial⟩

/-- Every goroutine keeps to its role. -/
theorem body_performs (g : Goroutine) : g.role.Runs (body g) := by
  cases g with
  | setAdapter => exact setAdapter_runs.ignore
  | createSession => exact createSession_runs.ignore
  | sessionModels => exact sessionModels_runs.ignore
  | selectSessionModel => exact selectSessionModel_runs.ignore
  | updateSettings => exact updateSettings_runs.ignore
  | updateSessionApprovalMode => exact updateSessionApprovalMode_runs.ignore
  | setSessionArchived => exact setSessionArchived_runs.ignore
  | deleteSession => exact deleteSession_runs.ignore
  | startTurn => exact performs_bind startTurn_runs fun _ => ⟨rfl, fun _ => trivial⟩
  | decide => exact decide_runs.ignore
  | subscribe =>
    exact Role.Runs.ignore (performs_chain (performs_stored.mpr rfl) fun _ => ⟨rfl, fun _ => trivial⟩)
  | unsubscribe | expire => exact ⟨rfl, fun _ => trivial⟩
  | cancelDevice => exact (performs_step rfl fun _ => performs_cancelEach fun _ => rfl)
  | closeAgent =>
    refine performs_step rfl fun a => ?_
    cases a with
    | false => exact ⟨rfl, fun _ => trivial⟩
    | true => exact performs_step rfl fun _ => performs_step rfl fun _ => performs_step rfl fun _ =>
        ⟨rfl, fun _ => trivial⟩
  | runTurn => exact runTurn_runs
  | invoke => exact performs_bind invoke_runs fun _ => ⟨rfl, fun _ => trivial⟩
  | sink => exact performs_bind sink_runs fun _ => ⟨rfl, fun _ => trivial⟩
  | serveTransport => exact serveTransport_runs.ignore
  | heartbeatLoop => exact heartbeatLoop_runs
  | reapConnection => exact (performs_step rfl fun _ => ⟨rfl, fun _ => trivial⟩)
  | closeTunnels =>
    exact (performs_step rfl fun _ => performs_bind (closeEach_runs _) fun _ => awaitEach_runs _)
  | claimPairing => exact Role.Runs.ignore (performs_step rfl fun _ => performs_storedRaw.mpr rfl)
  | unpair => exact unpair_runs.ignore
  | joinTunnel detached =>
    cases detached with
    | none => trivial
    | some _ => exact ⟨rfl, fun _ => trivial⟩
  | cancelTerminals | closeTerminals =>
    exact (performs_step rfl fun _ => performs_bind (cancelSessions_runs _) fun _ =>
      waitSessions_runs _)
  | invalidateAgent =>
    exact performs_bind (markDeviceRevoked_runs rfl) fun _ => (performs_step rfl fun _ =>
      performs_bind (closeSessions_runs _) fun _ =>
        performs_bind (performs_cancelEach fun _ => rfl) fun _ => awaitTurns_runs _)
  | terminal => exact serveHTTP_runs

end AISummoner.App
