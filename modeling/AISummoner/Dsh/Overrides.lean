import AISummoner.Dsh.Configuration

/-! # What an edit of a route does to its settings

The operations of an edit are at most one for each field it may touch, so none
disturbs another; what is left unchanged already was as desired.
-/

namespace AISummoner.Dsh

open Documents

/-! ## The operations, field by field -/

def stringEdit (base : List String) (user effective : RawMessage) (key desired : String) :
    Option (Operation Leaf) :=
  let userValue := rawStringAt user [key]
  if desired = "" then if userValue.isSome then some (.unset (base ++ [key])) else none
  else if userValue = some desired ∨
      userValue = none ∧ (rawStringAt effective [key]).getD "" = desired then none
  else some (.set (base ++ [key]) (.leaf (.string desired)))

theorem appendStringOverride_eq (ops : List (Operation Leaf)) (base : List String)
    (user ef : RawMessage) (key des : String) : appendStringOverride ops base user ef key des =
      ops ++ (stringEdit base user ef key des).toList := by
  simp only [appendStringOverride, stringEdit]
  split
  · split <;> simp
  · split <;> simp

def modelsEdit (base : List String) (user : RawMessage) (mutation : RuntimeProviderMutation) :
    Option (Operation Leaf) :=
  let path := base ++ ["models"]
  if mutation.modelsOverridden then
    if rawEqualValueAt user path (providerModelSettingsValues mutation.models) then none
    else some (.set path (.leaf (providerModelSettingsValues mutation.models)))
  else if (rawAt user path).isSome then some (.unset path)
  else none

theorem appendModels_eq (ops : List (Operation Leaf)) (base : List String) (user : RawMessage)
    (mu : RuntimeProviderMutation) :
    appendModels ops base user mu = ops ++ (modelsEdit base user mu).toList := by
  simp only [appendModels, modelsEdit]
  split
  · split <;> simp
  · split <;> simp

/-- The string fields that can be edited on a route, with what the mutation wants. -/
def curatedStrings (record : ProviderRecord) (mutation : RuntimeProviderMutation) :
    List (String × String) :=
  ("baseURL", mutation.baseURL) ::
    if record.editable then [("displayName", mutation.displayName), ("api", mutation.api)] else []

/-- A key is given, and the route has no reference to keep it under. -/
def NewlyDerived (record : ProviderRecord) (mutation : RuntimeProviderMutation) : Prop :=
  mutation.apiKey ≠ "" ∧ record.credentialRef = ""

instance (record : ProviderRecord) (mutation : RuntimeProviderMutation) :
    Decidable (NewlyDerived record mutation) :=
  inferInstanceAs (Decidable (_ ∧ _))

def edits (namespace' : SettingsNamespace) (record : ProviderRecord)
    (mutation : RuntimeProviderMutation) : List (String × Option (Operation Leaf)) :=
  let path := record.settingsPath
  (curatedStrings record mutation).map (fun field =>
      (field.1, stringEdit path (rawAt namespace'.user path) (rawAt namespace'.value path)
        field.1 field.2)) ++
    ("models", modelsEdit path namespace'.user mutation) ::
    if NewlyDerived record mutation then
      [("apiKeyEnv", some (.set (path ++ ["apiKeyEnv"])
        (.leaf (.string (deriveCredentialReference mutation.provider)))))]
    else []

variable {key des text : String} {doc : RawMessage} {path : List String}

section Edits

variable {namespace' : SettingsNamespace} {rc : ProviderRecord}
  {mu : RuntimeProviderMutation}

theorem editsOf : EditsOf rc.settingsPath (edits namespace' rc mu) where
  distinct := by
    unfold edits curatedStrings
    cases rc.editable <;> by_cases newly : NewlyDerived rc mu <;> simp [newly]
  placed key op hli := by
    rcases List.mem_append.mp hli with string | o
    · obtain ⟨_, _, h⟩ := List.mem_map.mp string
      obtain ⟨rfl, w⟩ := Prod.mk.inj h
      unfold stringEdit at w
      grind [Operation.path]
    · unfold modelsEdit at o
      grind [Operation.path]

def configured (namespace' : SettingsNamespace) (record : ProviderRecord) : Bool :=
  (rawAt namespace'.value record.settingsPath).isSome ||
    record.settingsNS == deepSeekSettingsNamespace

theorem configureOps_eq : configureOps namespace' rc mu = if (!configured namespace' rc) = true ∧
          (edits namespace' rc mu).filterMap Prod.snd = []
        then [.set rc.settingsPath (.object .nil)]
        else (edits namespace' rc mu).filterMap Prod.snd := by
  have curated : curatedOps namespace' rc mu ++
      (if NewlyDerived rc mu then [.set (rc.settingsPath ++ ["apiKeyEnv"])
          (.leaf (.string (deriveCredentialReference mu.provider)))] else []) =
      (edits namespace' rc mu).filterMap Prod.snd := by
    simp only [curatedOps, appendStringOverride_eq, appendModels_eq, edits, curatedStrings]
    rw [List.filterMap_eq_flatMap_toList]
    cases rc.editable <;> by_cases newly : NewlyDerived rc mu <;> simp [newly]
  unfold configureOps
  simp only [configured, ← curated]
  by_cases newly : NewlyDerived rc mu
  · have both : mu.apiKey ≠ "" ∧ rc.credentialRef = "" := newly
    simp [newly, both]
  · have both : ¬(mu.apiKey ≠ "" ∧ rc.credentialRef = "") := newly
    simp only [if_neg newly, if_neg both, List.append_nil]
    simp

theorem mem_edits_string (hli : (key, des) ∈ curatedStrings rc mu) :
    (key, stringEdit rc.settingsPath (rawAt namespace'.user rc.settingsPath)
      (rawAt namespace'.value rc.settingsPath) key des) ∈ edits namespace' rc mu :=
  List.mem_append_left _ (List.mem_map.mpr ⟨(key, des), hli, rfl⟩)

theorem mem_edits_models :
    ("models", modelsEdit rc.settingsPath namespace'.user mu) ∈ edits namespace' rc mu :=
  List.mem_append_right _ (List.mem_cons_self ..)

end Edits

/-! ## Reading values back -/

theorem rawStringAt_eq_some : rawStringAt doc path = some text ↔
      valueAt doc path = some (.leaf (.string text)) := by
  unfold rawStringAt rawAt
  grind

theorem rawAt_eq_none : rawAt doc path = none ↔
      valueAt doc path = none ∨ valueAt doc path = some (.leaf .null) := by
  unfold rawAt
  grind

theorem valueAt_rawAt (doc : RawMessage) (path : List String) (key : String) :
    valueAt (rawAt doc path) [key] = valueAt doc (path ++ [key]) := by
  rw [valueAt_append]
  unfold rawAt
  split
  · rename_i null
    rw [null]
    rfl
  · rfl

theorem rawStringAt_rawAt (doc : RawMessage) (path : List String) (key : String) :
    rawStringAt (rawAt doc path) [key] = rawStringAt doc (path ++ [key]) := by
  unfold rawStringAt
  rw [rawAt, valueAt_rawAt]
  rfl

/-- The user's layer holds a string, or nothing, at a field. -/
def holdsString (user : RawMessage) (path : List String) : Bool :=
  (valueAt user path).isNone || (rawStringAt user path).isSome

theorem valueAt_of_holdsString {user : RawMessage}
    (hh : holdsString user path) (hunr : rawStringAt user path = none) :
    valueAt user path = none := by
  rw [holdsString, hunr, Option.isSome_none, Bool.or_false] at hh
  exact Option.isNone_iff_eq_none.mp hh

/-! ## The document after the operations -/

section After

variable {namespace' : SettingsNamespace} {rc : ProviderRecord}
  {mu : RuntimeProviderMutation}

def after (namespace' : SettingsNamespace) (record : ProviderRecord)
    (mutation : RuntimeProviderMutation) : RawMessage :=
  applyAll namespace'.user (configureOps namespace' record mutation)

theorem after_of_change {op : Operation Leaf} (hw : (key, some op) ∈ edits namespace' rc mu) :
    valueAt (after namespace' rc mu) (rc.settingsPath ++ [key]) = op.result := by
  have hm : op ∈ (edits namespace' rc mu).filterMap Prod.snd := List.mem_filterMap.mpr ⟨_, hw, rfl⟩
  rw [after, configureOps_eq, if_neg fun hnot => List.ne_nil_of_mem hm hnot.2,
    ← editsOf.placed key op hw]
  exact valueAt_applyAll _ editsOf.pairwise hm

variable (ef : namespace'.value = layered namespace'.base namespace'.user)

include ef

theorem valueAt_inside (hab : rawAt namespace'.value rc.settingsPath = none)
    (name : String) (rest : List String) :
    valueAt namespace'.user (rc.settingsPath ++ name :: rest) = none := by
  rw [valueAt_append]
  match found : valueAt namespace'.user rc.settingsPath with
  | none => exact valueAt_none _
  | some (.leaf _) => exact valueAt_none rest
  | some (.object fields) =>
    rw [ef, rawAt_eq_none, valueAt_layered _ (visible_of_found found), found] at hab
    cases hbl : valueAt namespace'.base rc.settingsPath <;>
      simp [hbl, layered, overlay] at hab

theorem after_of_apart {o : List String} (hap : ∀ edit ∈ edits namespace' rc mu,
      Apart (rc.settingsPath ++ [edit.1]) o ∨ edit.2 = none ∧ rc.settingsPath ++ [edit.1] = o) :
    valueAt (after namespace' rc mu) o = valueAt namespace'.user o := by
  rw [after, configureOps_eq]
  split
  · rename_i unconfigured
    obtain ⟨hollow, _⟩ := unconfigured
    have hab : rawAt namespace'.value rc.settingsPath = none := by
      simp only [configured, Bool.not_eq_true', Bool.or_eq_false_iff, Option.isSome_eq_false_iff,
        Option.isNone_iff_eq_none] at hollow
      exact hollow.1
    rcases hap _ mem_edits_models with away | ⟨_, rfl⟩
    · rcases inside_or_apart away with ⟨name, rest, rfl⟩ | hap
      · rw [valueAt_inside ef hab name rest]
        exact valueAt_emptied namespace'.user rc.settingsPath name rest
      · exact Operation.valueAt_apply_apart _ (.set rc.settingsPath (.object .nil)) hap
    · rw [valueAt_inside ef hab "models" []]
      exact valueAt_emptied namespace'.user rc.settingsPath "models" []
  · refine valueAt_applyAll_apart _ fun op hm => ?_
    obtain ⟨⟨key, _⟩, hli, rfl⟩ := List.mem_filterMap.mp hm
    rcases hap _ hli with away | ⟨huc, _⟩
    · rwa [editsOf.placed key op hli]
    · cases huc

theorem after_of_unchanged (huc : (key, none) ∈ edits namespace' rc mu) :
    valueAt (after namespace' rc mu) (rc.settingsPath ++ [key]) =
      valueAt namespace'.user (rc.settingsPath ++ [key]) := by
  refine after_of_apart ef fun edit hli => ?_
  by_cases h : edit.1 = key
  · obtain rfl := List.inj_on_of_nodup_map editsOf.distinct hli huc h
    exact .inr ⟨rfl, rfl⟩
  · exact .inl (apart_of_keys h [] [])

theorem effective_of_unchanged (huc : (key, none) ∈ edits namespace' rc mu)
    (hun : valueAt namespace'.user (rc.settingsPath ++ [key]) = none)
    (seen : valueAt namespace'.value (rc.settingsPath ++ [key]) = some (.leaf (.string text))) :
    valueAt (layered namespace'.base (after namespace' rc mu))
      (rc.settingsPath ++ [key]) = some (.leaf (.string text)) := by
  have hpr : (rawAt namespace'.value rc.settingsPath).isSome := by
    rw [← valueAt_rawAt] at seen
    cases hf : rawAt namespace'.value rc.settingsPath with
    | none =>
      rw [hf] at seen
      cases seen
    | some _ => rfl
  have kept := after_of_unchanged ef huc
  rw [ef] at seen
  have hsh := visible_of_valueAt _ seen
  have hv : Visible (after namespace' rc mu) (rc.settingsPath ++ [key]) := by
    rw [after, configureOps_eq, configured, hpr, Bool.true_or, if_neg (fun both => by cases both.1)]
    exact visible_applyAll _ (editsOf.apart_of_none huc) hsh
  rw [valueAt_layered _ hv, kept, hun, layered_none]
  rw [valueAt_layered _ hsh, hun, layered_none] at seen
  exact seen

theorem string_after (hli : (key, des) ∈ curatedStrings rc mu)
    (hh : holdsString namespace'.user (rc.settingsPath ++ [key])) : if des = "" then
      valueAt (after namespace' rc mu) (rc.settingsPath ++ [key]) = none
    else valueAt (layered namespace'.base (after namespace' rc mu))
      (rc.settingsPath ++ [key]) = some (.leaf (.string des)) := by
  have hm : _ ∈ edits namespace' rc mu := mem_edits_string hli
  simp only [stringEdit, rawStringAt_rawAt] at hm
  split
  · rename_i blank
    rw [if_pos blank] at hm
    split at hm
    · exact after_of_change hm
    · rename_i unr
      rw [after_of_unchanged ef hm]
      exact valueAt_of_holdsString hh (Option.not_isSome_iff_eq_none.mp unr)
  rename_i wanted
  rw [if_neg wanted] at hm
  split at hm
  · rename_i asDesired
    rcases asDesired with own | ⟨unr, seen⟩
    · refine valueAt_layered_leaf _ ?_
      rw [after_of_unchanged ef hm]
      exact rawStringAt_eq_some.mp own
    refine effective_of_unchanged ef hm (valueAt_of_holdsString hh unr) ?_
    refine rawStringAt_eq_some.mp ?_
    cases read : rawStringAt namespace'.value (rc.settingsPath ++ [key]) with
    | none =>
      rw [read] at seen
      exact absurd seen.symm wanted
    | some _ =>
      rw [read] at seen
      exact congrArg some seen
  · exact valueAt_layered_leaf _ (after_of_change hm)

theorem models_after : if mu.modelsOverridden then
      valueAt (after namespace' rc mu) (rc.settingsPath ++ ["models"]) =
        some (.leaf (providerModelSettingsValues mu.models))
    else rawAt (after namespace' rc mu) (rc.settingsPath ++ ["models"]) = none := by
  have hm : _ ∈ edits namespace' rc mu := mem_edits_models
  simp only [modelsEdit] at hm
  split
  · rename_i overridden
    rw [if_pos overridden] at hm
    split at hm
    · rename_i h
      rw [after_of_unchanged ef hm]
      have read := eq_of_beq h
      unfold rawAt at read
      split at read
      · cases read
      · exact read
    · exact after_of_change hm
  · rename_i restored
    rw [if_neg restored] at hm
    split at hm
    · exact rawAt_eq_none.mpr (.inl (after_of_change hm))
    rename_i unr
    have hab := rawAt_eq_none.mp (Option.not_isSome_iff_eq_none.mp unr)
    rw [rawAt_eq_none, after_of_unchanged ef hm]
    exact hab

end After

/-! ## Edits that a host carries out -/

/-- What the host does to the user's layer for a request it accepts. -/
def Request.applied (user : RawMessage) : Request → RawMessage
  | .mutateSettings _ _ ops => applyAll user ops
  | _ => user

def settingsAfter (user : RawMessage) (outcome : Outcome) : RawMessage :=
  outcome.1.foldl Request.applied user

section Accepted

variable {baseURLs : String → Bool} {host : Host} {mu : RuntimeProviderMutation}
  {snap : ConfigurationSnapshot} {rc : ProviderRecord} {user : RawMessage}

theorem andThen_ok {a b : Outcome} (ha : (a.andThen b).2 = .ok ()) :
    settingsAfter user (a.andThen b) = settingsAfter (settingsAfter user a) b := by
  unfold Outcome.andThen at ha ⊢
  split at ha
  · cases ha
  · exact List.foldl_append

theorem settingsAfter_mutateSettings (user : RawMessage) (ns : String) (revision : Int)
    (ops : List (Operation Leaf)) :
    settingsAfter user (mutateSettings host ns revision ops) = applyAll user ops := by
  unfold mutateSettings
  split
  · rename_i hnot
    rw [hnot]
    rfl
  · rfl

theorem settingsAfter_setCredential (ref v : String) :
    settingsAfter user (setCredential host ref v) = user := by
  unfold setCredential
  split <;> rfl

theorem settingsAfter_configureProvider (hvw : configurationSnapshot host = .ok snap)
    (hf : snap.find mu.provider = some rc) (ha : (configureProvider baseURLs host mu).2 = .ok ()) :
    settingsAfter user (configureProvider baseURLs host mu) =
      applyAll user (configureOps ((findNamespace snap.namespaces rc.settingsNS).getD default)
        rc mu) := by
  unfold configureProvider at ha ⊢
  split at ha
  · cases ha
  rw [hvw] at ha ⊢
  dsimp only at ha ⊢
  rw [hf] at ha ⊢
  dsimp only [configureRoute] at ha ⊢
  split at ha
  · cases ha
  split at ha
  · cases ha
  rename_i hcur supported
  rw [if_neg hcur, if_neg supported, andThen_ok ha, settingsAfter_mutateSettings]
  split
  · rfl
  split
  · rfl
  · exact settingsAfter_setCredential _ _

end Accepted

def editedKeys (record : ProviderRecord) (mutation : RuntimeProviderMutation) : List String :=
  (curatedStrings record mutation).map Prod.fst ++
    "models" :: if NewlyDerived record mutation then ["apiKeyEnv"] else []

theorem mem_editedKeys {namespace' : SettingsNamespace} {rc : ProviderRecord}
    {mu : RuntimeProviderMutation} {edit : String × Option (Operation Leaf)}
    (hli : edit ∈ edits namespace' rc mu) : edit.1 ∈ editedKeys rc mu := by
  have keys : (edits namespace' rc mu).map Prod.fst = editedKeys rc mu := by
    unfold edits editedKeys
    by_cases newly : NewlyDerived rc mu <;> simp [newly, Function.comp_def]
  rw [← keys]
  exact List.mem_map_of_mem hli

/-- After an edit that the host carries out, with the user's layer over the base layer:
    each string field that can be edited on the route has the desired effective value,
    or no override where an empty value is desired; the models are the requested ones,
    or not overridden; a newly derived reference is stored; no field apart from these
    changes, and an edit without any operation leaves the document as it is or makes
    an empty profile for a route that has none. -/
theorem edit_takes_effect (baseURLs : String → Bool) (host : Host)
    (mutation : RuntimeProviderMutation) (snapshot : ConfigurationSnapshot)
    (record : ProviderRecord) (namespace' : SettingsNamespace)
    (viewed : configurationSnapshot host = .ok snapshot)
    (found : snapshot.find mutation.provider = some record)
    (named : findNamespace snapshot.namespaces record.settingsNS = some namespace')
    (effective : namespace'.value = layered namespace'.base namespace'.user)
    (strings : ∀ field ∈ curatedStrings record mutation,
      holdsString namespace'.user (record.settingsPath ++ [field.1]) = true)
    (accepted : (configureProvider baseURLs host mutation).2 = .ok ()) :
    let user := settingsAfter namespace'.user (configureProvider baseURLs host mutation)
    let value := layered namespace'.base user
    let place key := record.settingsPath ++ [key]
    (∀ key desired, (key, desired) ∈ curatedStrings record mutation →
        if desired = "" then valueAt user (place key) = none
        else valueAt value (place key) = some (.leaf (.string desired))) ∧
      (if mutation.modelsOverridden then valueAt user (place "models") =
          some (.leaf (providerModelSettingsValues mutation.models))
        else rawAt user (place "models") = none) ∧
      (NewlyDerived record mutation → valueAt user (place "apiKeyEnv") =
        some (.leaf (.string (deriveCredentialReference mutation.provider)))) ∧
      (∀ other, (∀ key ∈ editedKeys record mutation, Apart (place key) other) →
        valueAt user other = valueAt namespace'.user other) ∧
      ((edits namespace' record mutation).filterMap Prod.snd = [] → user =
        if configured namespace' record then namespace'.user
        else some (setAt namespace'.user record.settingsPath (.object .nil))) := by
  have changed : settingsAfter namespace'.user (configureProvider baseURLs host mutation) =
      after namespace' record mutation := by
    rw [settingsAfter_configureProvider viewed found accepted, named]
    rfl
  simp only [changed]
  refine ⟨fun key desired listed => string_after effective listed (strings _ listed),
    models_after effective, fun newly => ?_, fun other apart => ?_, fun nothing => ?_⟩
  · have listed : ("apiKeyEnv", some (.set (record.settingsPath ++ ["apiKeyEnv"])
        (.leaf (.string (deriveCredentialReference mutation.provider))))) ∈
        edits namespace' record mutation := by
      refine List.mem_append_right _ (List.mem_cons_of_mem _ ?_)
      rw [if_pos newly]
      exact List.mem_singleton_self _
    exact after_of_change listed
  · exact after_of_apart effective fun edit listed => .inl (apart _ (mem_editedKeys listed))
  · rw [after, configureOps_eq, nothing]
    cases configured namespace' record <;> rfl

/-! ## A host with one route -/

def piAI (user : RawMessage) : SettingsNamespace :=
  { ns := piAISettingsNamespace, value := user, user, applies := "live", revision := 3 }

def hostOf (user : RawMessage) (rows : List ConfigurableProvider) : Host where
  providers := .ok rows
  settings := .ok ⟨true, [piAI user]⟩
  describe refs := .ok (refs.map fun ref => (ref, ⟨true, true⟩))
  answer _ := .ok ()

def labRow : ConfigurableProvider :=
  ⟨"lab", "Lab", piAISettingsNamespace, ["providers", "lab"], some true⟩

def labUser : RawMessage :=
  some (.object (.cons "providers" (.object (.cons "lab" (.object
    (.cons "baseURL" (.leaf (.string "https://old")) (.cons "displayName" (.leaf (.string "Bench"))
        (.cons "extra" (.leaf (.raw "7")) .nil)))) .nil)) .nil))

def labMutation : RuntimeProviderMutation :=
  { provider := "lab", expectedRevision := 3, baseURL := "https://new", api := "openai-responses",
    models := [⟨"m", "", 0, 0⟩], modelsOverridden := true, apiKey := "key" }

def labRecord : ProviderRecord :=
  ⟨"lab", "Bench", true, true, 3, "", none, "", piAISettingsNamespace, ["providers", "lab"]⟩

/-- The base URL is changed, the display name's override removed, the rest kept. -/
theorem edit_takes_effect_lab :
    let user := settingsAfter labUser (configureProvider (fun _ => true) (hostOf labUser [labRow]) labMutation)
    labRecord.editable = true ∧
      valueAt (layered none user) ["providers", "lab", "baseURL"] =
        some (.leaf (.string "https://new")) ∧
      valueAt user ["providers", "lab", "displayName"] = none ∧
      valueAt user ["providers", "lab", "apiKeyEnv"] = some (.leaf (.string "LAB_API_KEY")) ∧
      valueAt user ["providers", "lab", "extra"] = some (.leaf (.raw "7")) := by
  have effect := edit_takes_effect (fun _ => true) (hostOf labUser [labRow]) labMutation
    ⟨true, [labRecord], [piAI labUser]⟩ labRecord (piAI labUser) (by decide +kernel)
    (by decide +kernel) (by decide +kernel) (by decide +kernel) (by decide +kernel)
    (by decide +kernel)
  refine ⟨rfl, effect.1 "baseURL" "https://new" (by decide), effect.1 "displayName" "" (by decide),
    (effect.2.2.1 (by decide)).trans (by decide +kernel), ?_⟩
  refine (effect.2.2.2.1 _ fun key listed => ?_).trans (by decide +kernel)
  exact apart_of_keys (fun same => absurd (same ▸ listed) (by decide)) [] []

def openAIRow : ConfigurableProvider :=
  ⟨"openai", "OpenAI", piAISettingsNamespace, ["providers", "openai"], none⟩

/-- An edit that desires nothing still changes the document: it makes an empty profile. -/
theorem empty_profile_made :
    let outcome := configureProvider (fun _ => true) (hostOf none [openAIRow])
      { provider := "openai", expectedRevision := 3 }
    outcome.2 = .ok () ∧ valueAt (settingsAfter none outcome) ["providers", "openai"] =
      some (.object .nil) := by
  decide +kernel

end AISummoner.Dsh
