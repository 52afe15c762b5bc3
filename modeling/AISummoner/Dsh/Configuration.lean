import AISummoner.Documents.Layers
import AISummoner.Encoding.Json
import AISummoner.Store.Agent

/-! # Provider configuration of a DSH host

`internal/dsh/configuration.go`.  A settings document is a tree whose leaves keep
the text of what is neither an object nor a string.  `url.Parse` is the parameter
`baseURLs`; the host's answers are a `Host`.
-/

namespace AISummoner.Dsh

open Documents

def deepSeekSettingsNamespace : String := "llm-deepseek"
def piAISettingsNamespace : String := "llm-pi-ai"
def deepSeekProviderRoute : String := "deepseek-official"
def maximumProviderRows : Nat := 256
def maximumCredentialRefs : Nat := 64
def maximumCredentialBytes : Nat := 4096
def credentialReference : String := "DEEPSEEK_API_KEY"
def piAIProtocols : List String := ["openai-completions", "openai-responses", "anthropic-messages"]

def maxProviderIDBytes : Nat := 128
def maxModelIDBytes : Nat := 256
def maxDisplayNameBytes : Nat := 256
def maxBaseURLBytes : Nat := 2048
def maxReasoningIDBytes : Nat := 64
def maxProviderModels : Nat := 256

inductive Leaf where
  | null
  | string (value : String)
  | raw (text : String)
  deriving DecidableEq, Repr

abbrev RawMessage := Option (Document Leaf)

structure ConfigurableProvider where
  provider : String
  displayName : String
  settingsNS : String
  settingsPath : List String
  declared : Option Bool := none
  deriving DecidableEq, Repr

structure SettingsNamespace where
  ns : String
  value : RawMessage
  base : RawMessage := none
  user : RawMessage := none
  applies : String
  revision : Int
  deriving DecidableEq, Inhabited

structure Settings where
  writable : Bool
  namespaces : List SettingsNamespace
  deriving DecidableEq

structure CredentialStatus where
  configured : Bool
  writable : Bool
  deriving DecidableEq, Repr

structure ProviderRecord where
  id : String
  displayName : String
  custom : Bool
  removable : Bool
  revision : Int
  api : String
  credential : Option CredentialStatus := none
  credentialRef : String
  settingsNS : String
  settingsPath : List String
  deriving DecidableEq, Repr

structure ConfigurationSnapshot where
  writable : Bool
  providers : List ProviderRecord
  namespaces : List SettingsNamespace
  deriving DecidableEq

structure RuntimeProviderModel where
  id : String
  name : String := ""
  contextWindow : Int := 0
  maxTokens : Int := 0
  deriving DecidableEq, Repr

structure RuntimeProviderMutation where
  provider : String
  expectedRevision : Int
  displayName : String := ""
  baseURL : String := ""
  api : String := ""
  models : List RuntimeProviderModel := []
  modelsOverridden : Bool := false
  apiKey : String := ""
  deriving DecidableEq, Repr

inductive Failure where
  | invalidRequest
  | notFound
  | adapter (code message : String)
  /-- What a call to the host returned. -/
  | call (error : String)
  deriving DecidableEq, Repr

def protocolError (message : String) : Failure := .adapter "protocol_error" message

inductive Request where
  | mutateSettings (ns : String) (expectedRevision : Int) (ops : List (Operation Leaf))
  | setCredential (ref value : String)
  | unsetCredential (ref : String)
  deriving DecidableEq

structure Host where
  providers : Except String (List ConfigurableProvider)
  settings : Except String Settings
  describe : List String → Except String (List (String × CredentialStatus))
  answer : Request → Except String Unit

/-! ## Checks -/

def isLower (character : Char) : Bool := 'a' ≤ character && character ≤ 'z'
def isUpper (character : Char) : Bool := 'A' ≤ character && character ≤ 'Z'
def isDigit (character : Char) : Bool := '0' ≤ character && character ≤ '9'

/-- `[a-z0-9]*(?:-[a-z0-9]+)*$`. -/
def routeTail : List Char → Bool
  | [] => true
  | '-' :: character :: rest => (isLower character || isDigit character) && routeTail rest
  | character :: rest => (isLower character || isDigit character) && routeTail rest

def providerRoutePattern (value : String) : Bool :=
  match value.toList with
  | [] => false
  | first :: rest => isLower first && routeTail rest

def validProviderText (value : String) (maximum : Nat) : Bool :=
  value ≠ "" && value.utf8ByteSize ≤ maximum && Store.trimSpace value.toList == value.toList

def validOptionalText (value : String) (maximum : Nat) : Bool :=
  value == "" || validProviderText value maximum

def validCredential (value : String) : Bool :=
  value ≠ "" && value.utf8ByteSize ≤ maximumCredentialBytes &&
    Store.trimSpace value.toList == value.toList &&
    value.toList.all fun character => 0x21 ≤ character.toNat && character.toNat ≤ 0x7e

def referenceTail (character : Char) : Bool :=
  isUpper character || isLower character || isDigit character || character == '_'

def validCredentialReference (value : String) : Bool :=
  match value.toList with
  | [] => false
  | first :: rest =>
    value.utf8ByteSize ≤ 128 && (isUpper first || isLower first || first == '_') &&
      rest.all referenceTail

/-- One round of the loop of `deriveCredentialReference`. -/
def deriveCharacter (built : List Char) (character : Char) : List Char :=
  if isUpper character || isDigit character then built ++ [character]
  else if built.isEmpty || built.getLast? ≠ some '_' then built ++ ['_']
  else built

def trimUnderscore (value : List Char) : List Char :=
  if value.getLast? = some '_' then value.dropLast else value

/-- For accepted names, whose letters `strings.ToUpper` takes to those of ASCII. -/
def deriveCredentialReference (provider : String) : String :=
  String.ofList (trimUnderscore ((provider.toList.map Char.toUpper).foldl deriveCharacter []) ++
    "_API_KEY".toList)

def validSettingsAddress (row : ConfigurableProvider) : Bool :=
  if row.settingsNS = deepSeekSettingsNamespace then
    row.provider == deepSeekProviderRoute && row.settingsPath.isEmpty
  else row.settingsNS == piAISettingsNamespace && row.settingsPath == ["providers", row.provider]

def validModel (model : RuntimeProviderModel) : Bool :=
  validProviderText model.id maxModelIDBytes && validOptionalText model.name maxDisplayNameBytes &&
    0 ≤ model.contextWindow && 0 ≤ model.maxTokens

def validateProviderMutation (baseURLs : String → Bool) (mutation : RuntimeProviderMutation) :
    Except Failure Unit :=
  if !providerRoutePattern mutation.provider || maxProviderIDBytes < mutation.provider.utf8ByteSize ||
      mutation.expectedRevision < 0 || !validOptionalText mutation.displayName maxDisplayNameBytes ||
      !validOptionalText mutation.baseURL maxBaseURLBytes ||
      !validOptionalText mutation.api maxReasoningIDBytes ||
      (mutation.apiKey ≠ "" && !validCredential mutation.apiKey) ||
      maxProviderModels < mutation.models.length then
    .error .invalidRequest
  else if mutation.baseURL ≠ "" && !baseURLs mutation.baseURL then .error .invalidRequest
  else if mutation.modelsOverridden then
    if mutation.models.all validModel && decide (mutation.models.map (·.id)).Nodup then .ok ()
    else .error .invalidRequest
  else if mutation.models ≠ [] then .error .invalidRequest
  else .ok ()

def rawAt (document : RawMessage) (path : List String) : RawMessage :=
  match valueAt document path with
  | some (.leaf .null) => none
  | found => found

def rawStringAt (document : RawMessage) (path : List String) : Option String :=
  match rawAt document path with
  | some (.leaf (.string value)) => some value
  | _ => none

/-! ## The view of the host -/

def findNamespace (namespaces : List SettingsNamespace) (ns : String) : Option SettingsNamespace :=
  namespaces.reverse.find? fun namespace' => namespace'.ns = ns

def relevant (ns : String) : Bool := ns == deepSeekSettingsNamespace || ns == piAISettingsNamespace

def readNamespaces (described : List SettingsNamespace) : Except Failure (List SettingsNamespace) :=
  let kept := described.filter fun described => relevant described.ns
  if kept.all fun kept => 0 ≤ kept.revision && (kept.applies == "live" || kept.applies == "restart")
  then .ok kept
  else .error (protocolError "DSH settings description is invalid")

/-- The reference in use by a route, `""` where there is none. -/
def referenceOf (row : ConfigurableProvider) (effective : RawMessage) : String :=
  let stored := (rawStringAt effective ["apiKeyEnv"]).getD ""
  if row.settingsNS = deepSeekSettingsNamespace ∧ stored = "" then credentialReference else stored

def recordOf (row : ConfigurableProvider) (namespace' : SettingsNamespace) : ProviderRecord :=
  let effective := rawAt namespace'.value row.settingsPath
  let configured := effective.isSome || row.settingsNS == deepSeekSettingsNamespace
  let named := (rawStringAt effective ["displayName"]).getD ""
  { id := row.provider
    displayName := if configured && named ≠ "" then named else row.displayName
    custom := row.declared.getD false
    removable := !row.settingsPath.isEmpty && (rawAt namespace'.user row.settingsPath).isSome &&
      (rawAt namespace'.base row.settingsPath).isNone
    revision := namespace'.revision
    api := if configured then (rawStringAt effective ["api"]).getD "" else ""
    credentialRef := referenceOf row effective
    settingsNS := row.settingsNS
    settingsPath := row.settingsPath }

/-- One row of the directory; `none` for one that is passed by. -/
def readRow (namespaces : List SettingsNamespace) (row : ConfigurableProvider) :
    Except Failure (Option ProviderRecord) :=
  if !relevant row.settingsNS then .ok none
  else if !validProviderText row.provider maxProviderIDBytes ||
      !validProviderText row.displayName maxDisplayNameBytes || 4 < row.settingsPath.length then
    .error (protocolError "DSH provider directory is invalid")
  else
    match findNamespace namespaces row.settingsNS with
    | none => .ok none
    | some namespace' =>
      if !validSettingsAddress row then
        .error (protocolError "DSH provider settings address is invalid")
      else
        let record := recordOf row namespace'
        if record.credentialRef ≠ "" && !validCredentialReference record.credentialRef then
          .error (protocolError "DSH provider credential reference is invalid")
        else .ok (some record)

def addRow (namespaces : List SettingsNamespace) (records : List ProviderRecord)
    (row : ConfigurableProvider) : Except Failure (List ProviderRecord) := do
  match ← readRow namespaces row with
  | none => .ok records
  | some record =>
    if records.any fun other => other.id = record.id then
      .error (protocolError "DSH provider directory contains a duplicate route")
    else .ok (records ++ [record])

def call {β : Type} : Except String β → Except Failure β := Except.mapError Failure.call

def describeBatch (host : Host) (views : List (String × CredentialStatus)) (refs : List String) :
    Except Failure (List (String × CredentialStatus)) := do
  let described ← call (host.describe refs)
  if described.all fun view => refs.contains view.1 then .ok (described ++ views)
  else .error (protocolError "DSH credential description contains an unexpected reference")

def describeCredentials (host : Host) (refs : List String) :
    Except Failure (List (String × CredentialStatus)) :=
  (refs.toChunks maximumCredentialRefs).foldlM (describeBatch host) []

def withCredential (views : List (String × CredentialStatus)) (record : ProviderRecord) :
    Except Failure ProviderRecord :=
  if record.credentialRef = "" then .ok record
  else
    match views.lookup record.credentialRef with
    | none => .error (protocolError "DSH credential description is incomplete")
    | some view => .ok { record with credential := some view }

def configurationSnapshot (host : Host) : Except Failure ConfigurationSnapshot := do
  let providers ← call host.providers
  if maximumProviderRows < providers.length then
    .error (protocolError "DSH provider directory exceeds the safe limit")
  else
    let settings ← call host.settings
    let namespaces ← readNamespaces settings.namespaces
    let records ← providers.foldlM (addRow namespaces) []
    let refs := ((records.map (·.credentialRef)).filter (· ≠ "")).eraseDups
    let views ← describeCredentials host refs
    let providers ← records.mapM (withCredential views)
    .ok
      { writable := settings.writable && (findNamespace namespaces piAISettingsNamespace).isSome
        providers
        namespaces }

def ConfigurationSnapshot.find (snapshot : ConfigurationSnapshot) (provider : String) :
    Option ProviderRecord :=
  snapshot.providers.find? fun record => record.id = provider

/-! ## Changes -/

abbrev Outcome := List Request × Except Failure Unit

def Host.send (host : Host) (request : Request) : Outcome := ([request], call (host.answer request))

def Outcome.andThen (first second : Outcome) : Outcome :=
  match first.2 with
  | .error failure => (first.1, .error failure)
  | .ok () => (first.1 ++ second.1, second.2)

def done : Outcome := ([], .ok ())

def fail (failure : Failure) : Outcome := ([], .error failure)

def mutateSettings (host : Host) (ns : String) (expectedRevision : Int)
    (ops : List (Operation Leaf)) : Outcome :=
  if ops = [] then done else host.send (.mutateSettings ns expectedRevision ops)

def setCredential (host : Host) (ref value : String) : Outcome :=
  if !validCredentialReference ref || !validCredential value then fail .invalidRequest
  else host.send (.setCredential ref value)

def quoted (text : String) : String := String.ofList (Encoding.quote text.toList)

/-- `json.Marshal` of a `providerModelSettingsWire`. -/
def marshalModel (model : RuntimeProviderModel) : String :=
  "\x7b\"id\":" ++ quoted model.id ++
    (if model.name = "" then "" else ",\"name\":" ++ quoted model.name) ++
    (if model.contextWindow = 0 then "" else ",\"contextWindow\":" ++ toString model.contextWindow) ++
    (if model.maxTokens = 0 then "" else ",\"maxTokens\":" ++ toString model.maxTokens) ++ "\x7d"

def providerModelSettingsValues (models : List RuntimeProviderModel) : Leaf :=
  .raw ("[" ++ ",".intercalate (models.map marshalModel) ++ "]")

def rawEqualValueAt (document : RawMessage) (path : List String) (value : Leaf) : Bool :=
  rawAt document path == some (.leaf value)

def appendStringOverride (ops : List (Operation Leaf)) (base : List String)
    (user effective : RawMessage) (key desired : String) : List (Operation Leaf) :=
  let path := base ++ [key]
  let userValue := rawStringAt user [key]
  let effectiveValue := (rawStringAt effective [key]).getD ""
  if desired = "" then if userValue.isSome then ops ++ [.unset path] else ops
  else if userValue = some desired ∨ userValue = none ∧ effectiveValue = desired then ops
  else ops ++ [.set path (.leaf (.string desired))]

def appendModels (ops : List (Operation Leaf)) (base : List String) (user : RawMessage)
    (mutation : RuntimeProviderMutation) : List (Operation Leaf) :=
  let path := base ++ ["models"]
  if mutation.modelsOverridden then
    let models := providerModelSettingsValues mutation.models
    if rawEqualValueAt user path models then ops else ops ++ [.set path (.leaf models)]
  else if (rawAt user path).isSome then ops ++ [.unset path]
  else ops

def ProviderRecord.editable (record : ProviderRecord) : Bool :=
  record.settingsNS == piAISettingsNamespace && record.custom

/-- The operations for the curated fields of an existing route. -/
def curatedOps (namespace' : SettingsNamespace) (record : ProviderRecord)
    (mutation : RuntimeProviderMutation) : List (Operation Leaf) :=
  let user := rawAt namespace'.user record.settingsPath
  let effective := rawAt namespace'.value record.settingsPath
  let override ops := appendStringOverride ops record.settingsPath user effective
  let ops := override [] "baseURL" mutation.baseURL
  let ops := if record.editable then
      override (override ops "displayName" mutation.displayName) "api" mutation.api
    else ops
  appendModels ops record.settingsPath namespace'.user mutation

/-- The reference under which the key of an existing route is kept. -/
def routeReference (record : ProviderRecord) (mutation : RuntimeProviderMutation) : String :=
  if mutation.apiKey ≠ "" ∧ record.credentialRef = "" then
    deriveCredentialReference mutation.provider
  else record.credentialRef

def configureOps (namespace' : SettingsNamespace) (record : ProviderRecord)
    (mutation : RuntimeProviderMutation) : List (Operation Leaf) :=
  let ops := curatedOps namespace' record mutation
  let ops := if mutation.apiKey ≠ "" ∧ record.credentialRef = "" then
      ops ++ [.set (record.settingsPath ++ ["apiKeyEnv"])
        (.leaf (.string (deriveCredentialReference mutation.provider)))]
    else ops
  let configured := (rawAt namespace'.value record.settingsPath).isSome ||
    record.settingsNS == deepSeekSettingsNamespace
  if !configured && ops = [] then [.set record.settingsPath (.object .nil)] else ops

def optionalField (key value : String) (rest : Fields Leaf) : Fields Leaf :=
  if value = "" then rest else .cons key (.leaf (.string value)) rest

def createCustomProvider (host : Host) (snapshot : ConfigurationSnapshot)
    (mutation : RuntimeProviderMutation) : Outcome :=
  match findNamespace snapshot.namespaces piAISettingsNamespace with
  | none => fail .invalidRequest
  | some namespace' =>
    if !snapshot.writable || mutation.expectedRevision ≠ namespace'.revision ||
        mutation.baseURL = "" || mutation.api = "" || !piAIProtocols.contains mutation.api ||
        !mutation.modelsOverridden || mutation.models = [] then
      fail .invalidRequest
    else
      let credentialRef :=
        if mutation.apiKey ≠ "" then deriveCredentialReference mutation.provider else ""
      let profile : Document Leaf := .object <|
        .cons "api" (.leaf (.string mutation.api)) <|
        .cons "baseURL" (.leaf (.string mutation.baseURL)) <|
        .cons "models" (.leaf (providerModelSettingsValues mutation.models)) <|
        optionalField "displayName" mutation.displayName <|
        optionalField "apiKeyEnv" credentialRef .nil
      (mutateSettings host piAISettingsNamespace mutation.expectedRevision
        [.set ["providers", mutation.provider] profile]).andThen
        (if mutation.apiKey ≠ "" then setCredential host credentialRef mutation.apiKey else done)

/-- Whether the mutation names a display name or an API that the route cannot take. -/
def unsupported (record : ProviderRecord) (mutation : RuntimeProviderMutation) : Bool :=
  let renames := mutation.displayName ≠ "" && mutation.displayName ≠ record.displayName
  (record.settingsNS == deepSeekSettingsNamespace && (renames || mutation.api ≠ "")) ||
    (record.settingsNS == piAISettingsNamespace && !record.custom &&
      (renames || mutation.api ≠ "" && mutation.api ≠ record.api))

/-- The part of `ConfigureProvider` for a route of the directory. -/
def configureRoute (host : Host) (snapshot : ConfigurationSnapshot) (record : ProviderRecord)
    (mutation : RuntimeProviderMutation) : Outcome :=
  if mutation.expectedRevision ≠ record.revision || !snapshot.writable then
    fail (.adapter "configuration_conflict" "DSH provider configuration changed")
  else if unsupported record mutation then fail .invalidRequest
  else
    let namespace' := (findNamespace snapshot.namespaces record.settingsNS).getD default
    let ref := routeReference record mutation
    (mutateSettings host record.settingsNS mutation.expectedRevision
      (configureOps namespace' record mutation)).andThen
      (if mutation.apiKey = "" then done
        else if ref = "" then fail (protocolError "DSH provider credential route is invalid")
        else setCredential host ref mutation.apiKey)

def configureProvider (baseURLs : String → Bool) (host : Host)
    (mutation : RuntimeProviderMutation) : Outcome :=
  match validateProviderMutation baseURLs mutation with
  | .error failure => fail failure
  | .ok () =>
    match configurationSnapshot host with
    | .error failure => fail failure
    | .ok snapshot =>
      match snapshot.find mutation.provider with
      | none => createCustomProvider host snapshot mutation
      | some record => configureRoute host snapshot record mutation

def removeProvider (host : Host) (provider : String) (expectedRevision : Int) : Outcome :=
  if !providerRoutePattern provider || expectedRevision < 0 then fail .invalidRequest
  else
    match configurationSnapshot host with
    | .error failure => fail failure
    | .ok snapshot =>
      match snapshot.find provider with
      | none => fail .notFound
      | some record =>
        if !record.removable || !record.custom || expectedRevision ≠ record.revision ||
            !snapshot.writable then
          fail (.adapter "configuration_conflict" "DSH provider cannot be removed from this view")
        else
          let derivedRef := deriveCredentialReference provider
          (mutateSettings host record.settingsNS expectedRevision [.unset record.settingsPath]).andThen
            (if record.credentialRef = derivedRef ∧
                record.credential.any (fun status => status.configured && status.writable) then
              host.send (.unsetCredential derivedRef) else done)

end AISummoner.Dsh
