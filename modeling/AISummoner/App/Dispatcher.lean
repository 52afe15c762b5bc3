import AISummoner.Store.Schema
import AISummoner.Encoding.Utf8

/-! # Which handler serves a path

`app/dispatcher.go` and `terminal/handler.go` cut a path with tests and trims of
its two ends.  The ends share a slash, so a path in which they overlap passes the
tests as well.  Every other path is chosen by its segment.
-/

namespace AISummoner.App.Dispatcher

open Encoding Store

def slash : UInt8 := 47

def trimPrefix (value start : Bytes) : Bytes :=
  if start.isPrefixOf value then value.drop start.length else value

def trimSuffix (value ending : Bytes) : Bytes :=
  if ending.isSuffixOf value then value.take (value.length - ending.length) else value

/-- `strings.Split` at slashes. -/
def segments (value : Bytes) : List Bytes := value.splitOn slash

/-! ## The dispatcher -/

inductive RouteKind where
  | static
  | tunnel
  | terminal
  | agent
  | health
  | browser
  | denied
  deriving DecidableEq, Repr

def devicesStart : Bytes := utf8 "/api/v1/devices/"
def toolCallsStart : Bytes := utf8 "/api/v1/tool-calls/"
def terminalEnding : Bytes := utf8 "/terminal"
def sessionsEnding : Bytes := utf8 "/agent-sessions"
def decisionEnding : Bytes := utf8 "/decision"

def oneSegmentBetween (value start ending : Bytes) : Bool :=
  if !start.isPrefixOf value || !ending.isSuffixOf value then false
  else
    let middle := trimSuffix (trimPrefix value start) ending
    middle != [] && !middle.contains slash

def agentSessionPath (value : Bytes) : Bool :=
  let start := utf8 "/api/v1/agent-sessions/"
  if !start.isPrefixOf value then false
  else
    let remainder := trimPrefix value start
    if remainder = [] then false
    else
      match segments remainder with
      | [only] => only != []
      | [session, resource] =>
        session != [] &&
          (resource == utf8 "messages" || resource == utf8 "events" || resource == utf8 "models")
      | _ => false

def agentRuntimeProviderPath (value : Bytes) : Bool :=
  let start := utf8 "/api/v1/agent-runtimes/"
  if !start.isPrefixOf value then false
  else
    match segments (trimPrefix value start) with
    | [runtime, providers] => runtime != [] && providers == utf8 "providers"
    | [runtime, providers, provider] =>
      runtime != [] && providers == utf8 "providers" && provider != []
    | _ => false

/-- The conditions of the switch in `classifyPath`, one name for each. -/
inductive Route where
  | tunnel
  | terminal
  | deviceSessions
  | agentFixed
  | runtimeProvider
  | agentSession
  | toolDecision
  | health
  | belowHealth
  | api
  | internal
  | other
  deriving DecidableEq, Repr

def Route.kind : Route → RouteKind
  | .tunnel => .tunnel
  | .terminal => .terminal
  | .deviceSessions | .agentFixed | .runtimeProvider | .agentSession | .toolDecision => .agent
  | .health => .health
  | .belowHealth | .internal => .denied
  | .api => .browser
  | .other => .static

def agentFixedPaths : List Bytes :=
  [utf8 "/api/v1/agent-provider/deepseek", utf8 "/api/v1/agent-provider/dsh",
    utf8 "/api/v1/agent-settings", utf8 "/api/v1/agent-sessions"]

def route (value : Bytes) : Route :=
  if value = utf8 "/api/v1/tunnel" then .tunnel
  else if oneSegmentBetween value devicesStart terminalEnding then .terminal
  else if oneSegmentBetween value devicesStart sessionsEnding then .deviceSessions
  else if agentFixedPaths.contains value then .agentFixed
  else if agentRuntimeProviderPath value then .runtimeProvider
  else if agentSessionPath value then .agentSession
  else if oneSegmentBetween value toolCallsStart decisionEnding then .toolDecision
  else if value = utf8 "/healthz" then .health
  else if (utf8 "/healthz/").isPrefixOf value then .belowHealth
  else if value = utf8 "/api" ∨ (utf8 "/api/").isPrefixOf value then .api
  else if value = utf8 "/internal" ∨ (utf8 "/internal/").isPrefixOf value then .internal
  else .other

def classifyPath (value : Bytes) : RouteKind := (route value).kind

def terminalPrefix : Bytes := utf8 "/api/v1/devices/"
def terminalSuffix : Bytes := utf8 "/terminal"

def terminalDeviceID (path : Bytes) : Option Bytes :=
  if !terminalPrefix.isPrefixOf path || !terminalSuffix.isSuffixOf path then none
  else
    let deviceID := trimSuffix (trimPrefix path terminalPrefix) terminalSuffix
    if deviceID.length < 5 ∨ deviceID.length > 128 ∨ deviceID.contains slash then none
    else some deviceID

/-! ## Paths with one segment -/

/-- The path is the two ends with one segment between them. -/
def Between (value start ending segment : Bytes) : Prop :=
  value = start ++ segment ++ ending ∧ segment ≠ [] ∧ slash ∉ segment

/-- The paths in which the two ends share their slash. -/
def mergedPaths : List Bytes :=
  [utf8 "/api/v1/devices/terminal", utf8 "/api/v1/devices/agent-sessions",
    utf8 "/api/v1/tool-calls/decision"]

variable {v start edg : Bytes}

theorem length_le_of_ends {body rest : Bytes} (hsg : slash ∉ rest)
    (hap : v ≠ body ++ slash :: rest) (hs : body ++ [slash] <+: v)
    (he : slash :: rest <:+ v) : body.length + rest.length + 2 ≤ v.length := by
  obtain ⟨tail, rfl⟩ := hs
  obtain ⟨front, hsp⟩ := he
  by_contra short
  have hwi : tail.length ≤ rest.length := by
    simp only [List.length_append, List.length_cons, List.length_nil] at short
    omega
  have ends : tail <:+ rest :=
    List.suffix_of_suffix_length_le ⟨body ++ [slash], hsp.symm⟩
      ⟨front ++ [slash], by simp⟩ hwi
  obtain ⟨shared, rfl⟩ := ends
  -- what stands before the tail ends with the slash of the first end
  have hs0 : body ++ [slash] = front ++ slash :: shared :=
    List.append_cancel_right (by simp [← hsp] : _ ++ tail = _ ++ tail)
  rcases List.eq_nil_or_concat shared with rfl | ⟨inn, last, rfl⟩
  · simp at hap
  · have h : body ++ [slash] = (front ++ slash :: inn) ++ [last] := by simpa using hs0
    simp [List.head_eq_of_cons_eq (List.append_inj' h rfl).2] at hsg

theorem trim_of_length (hs : start <+: v) (he : edg <:+ v)
    (long : start.length + edg.length ≤ v.length) :
    v = start ++ trimSuffix (trimPrefix v start) edg ++ edg := by
  obtain ⟨tail, rfl⟩ := hs
  have hl : edg.length ≤ tail.length := by
    simp only [List.length_append] at long
    omega
  obtain ⟨_, rfl⟩ := List.suffix_of_suffix_length_le he (List.suffix_append start tail) hl
  simp [trimPrefix, trimSuffix]

theorem ends_iff : ¬(!start.isPrefixOf v || !edg.isSuffixOf v) = true ↔
    start <+: v ∧ edg <:+ v := by
  simp [← List.isPrefixOf_iff_prefix, ← List.isSuffixOf_iff_suffix]

theorem ends_of_oneSegmentBetween (hf : oneSegmentBetween v start edg) :
    start <+: v ∧ edg <:+ v := by
  unfold oneSegmentBetween at hf
  split at hf
  · cases hf
  · next ends => exact ends_iff.mp ends

theorem oneSegmentBetween_iff (body rest : Bytes) (hsg : slash ∉ rest)
    (hap : v ≠ body ++ slash :: rest) : oneSegmentBetween v (body ++ [slash]) (slash :: rest) ↔
      ∃ seg, Between v (body ++ [slash]) (slash :: rest) seg := by
  constructor
  · intro hf
    obtain ⟨hs, he⟩ := ends_of_oneSegmentBetween hf
    have long := length_le_of_ends hsg hap hs he
    refine ⟨_, trim_of_length hs he (by simpa using (by omega)), ?_⟩
    rw [oneSegmentBetween, if_neg (ends_iff.mpr ⟨hs, he⟩)] at hf
    simpa using hf
  · rintro ⟨seg, rfl, hfi, plain⟩
    rw [oneSegmentBetween, if_neg (ends_iff.mpr ⟨by simp, List.suffix_append _ _⟩)]
    simp [trimPrefix, trimSuffix, hfi, plain]

theorem terminalDeviceID_between {did : Bytes} (hap : v ∉ mergedPaths)
    (f : terminalDeviceID v = some did) : Between v devicesStart terminalEnding did := by
  unfold terminalDeviceID at f
  split at f
  · cases f
  next ends =>
  obtain ⟨hs, he⟩ := ends_iff.mp ends
  simp only [Option.ite_none_left_eq_some, not_or, Option.some.injEq] at f
  obtain ⟨⟨long, _, plain⟩, rfl⟩ := f
  have far : (utf8 "/api/v1/devices").length + (utf8 "terminal").length + 2 ≤ v.length :=
    length_le_of_ends (by decide) (fun h => hap (by rw [h]; decide)) hs he
  refine ⟨trim_of_length hs he far, fun hem => ?_, by simpa using plain⟩
  simp [hem] at long

/-! ## No path has two routes -/

theorem not_starts {hb : Bytes} (hs : start <+: v)
    (differ : ¬start <+: hb ∧ ¬hb <+: start) : hb.isPrefixOf v = false := by
  by_contra hst
  simp only [Bool.not_eq_false, List.isPrefixOf_iff_prefix] at hst
  rcases List.prefix_or_prefix_of_prefix hs hst with h | h
  · exact differ.1 h
  · exact differ.2 h

theorem not_ends {hb : Bytes} (he : edg <:+ v)
    (differ : ¬edg <:+ hb ∧ ¬hb <:+ edg) : hb.isSuffixOf v = false := by
  by_contra ends
  simp only [Bool.not_eq_false, List.isSuffixOf_iff_suffix] at ends
  rcases List.suffix_or_suffix_of_suffix he ends with h | h
  · exact differ.1 h
  · exact differ.2 h

theorem ne_of_starts {path : Bytes} (hs : start <+: v) (differ : ¬start <+: path) : v ≠ path := by
  rintro rfl
  exact differ hs

/-- What holds of a path with one of the three routes. -/
def Route.Holds (value : Bytes) : Route → Prop
  | .terminal => oneSegmentBetween value devicesStart terminalEnding
  | .deviceSessions => oneSegmentBetween value devicesStart sessionsEnding
  | .toolDecision => oneSegmentBetween value toolCallsStart decisionEnding
  | _ => True

theorem Route.Holds.ite {hcond : Prop} [Decidable hcond] {chosen hoth : Route}
    (hc : hcond → chosen.Holds v) (ho : hoth.Holds v) :
    (if hcond then chosen else hoth).Holds v := by
  split
  · next h => exact hc h
  · exact ho

theorem route_holds (v : Bytes) : (route v).Holds v := by
  unfold route
  refine .ite (fun _ => trivial) (.ite id (.ite id (.ite (fun _ => trivial) ?_)))
  refine .ite (fun _ => trivial) (.ite (fun _ => trivial) (.ite id ?_))
  exact .ite (fun _ => trivial) (.ite (fun _ => trivial) (.ite (fun _ => trivial)
    (.ite (fun _ => trivial) trivial)))

theorem route_terminal_iff :
    route v = .terminal ↔ oneSegmentBetween v devicesStart terminalEnding := by
  constructor
  · intro chosen
    have := route_holds v
    rwa [chosen] at this
  · intro hf
    have hs := (ends_of_oneSegmentBetween hf).1
    have tunnel : v ≠ utf8 "/api/v1/tunnel" := ne_of_starts hs (by decide)
    simp only [route, tunnel, hf, if_false, if_true]

theorem route_deviceSessions_iff :
    route v = .deviceSessions ↔ oneSegmentBetween v devicesStart sessionsEnding := by
  constructor
  · intro chosen
    have := route_holds v
    rwa [chosen] at this
  · intro hf
    obtain ⟨hs, he⟩ := ends_of_oneSegmentBetween hf
    have tunnel : v ≠ utf8 "/api/v1/tunnel" := ne_of_starts hs (by decide)
    have ends : terminalEnding.isSuffixOf v = false := not_ends he (by decide)
    have htrm : oneSegmentBetween v devicesStart terminalEnding = false := by
      simp [oneSegmentBetween, ends]
    simp only [route, tunnel, htrm, hf, if_false, if_true, Bool.false_eq_true]

theorem route_toolDecision_iff :
    route v = .toolDecision ↔ oneSegmentBetween v toolCallsStart decisionEnding := by
  constructor
  · intro chosen
    have := route_holds v
    rwa [chosen] at this
  · intro hf
    have hs := (ends_of_oneSegmentBetween hf).1
    have tunnel : v ≠ utf8 "/api/v1/tunnel" := ne_of_starts hs (by decide)
    have hou : devicesStart.isPrefixOf v = false := not_starts hs (by decide)
    have devices (edg : Bytes) : oneSegmentBetween v devicesStart edg = false := by
      simp [oneSegmentBetween, hou]
    have fixed : v ∉ agentFixedPaths := by
      simp only [agentFixedPaths, List.mem_cons, List.not_mem_nil, or_false, not_or]
      exact ⟨ne_of_starts hs (by decide), ne_of_starts hs (by decide),
        ne_of_starts hs (by decide), ne_of_starts hs (by decide)⟩
    have runtimes : (utf8 "/api/v1/agent-runtimes/").isPrefixOf v = false :=
      not_starts hs (by decide)
    have hprv : agentRuntimeProviderPath v = false := by
      simp only [agentRuntimeProviderPath, runtimes, Bool.not_false, if_true]
    have hsess : (utf8 "/api/v1/agent-sessions/").isPrefixOf v = false :=
      not_starts hs (by decide)
    have hses : agentSessionPath v = false := by
      simp only [agentSessionPath, hsess, Bool.not_false, if_true]
    simp only [route, tunnel, devices, List.contains_iff_mem, fixed, hprv, hses, hf, if_false, if_true,
      Bool.false_eq_true]

theorem classifyPath_terminal_iff : classifyPath v = .terminal ↔ route v = .terminal := by
  unfold classifyPath
  cases route v <;> simp [Route.kind]

end AISummoner.App.Dispatcher
