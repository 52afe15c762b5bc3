import AISummoner.Dsh.Overrides

/-! # Credential references

The reference derived from an accepted route name is the name in capitals with
`_` for `-`, followed by `_API_KEY`; so it is well formed unless it is too long,
and no two accepted names share one.
-/

namespace AISummoner.Dsh

open Documents

/-! ## The derived reference -/

def routeCharacter (character : Char) : Bool :=
  isLower character || isDigit character || character == '-'

/-- What becomes of it in the reference. -/
def capital (character : Char) : Char := if character = '-' then '_' else character.toUpper

def uncapital (character : Char) : Char := if character = '_' then '-' else character.toLower

def plain (character : Char) : Bool :=
  uncapital (capital character) == character && referenceTail (capital character) &&
    (capital character).utf8Size == 1 && character.utf8Size == 1 &&
    (character == '-' || ((isUpper character.toUpper || isDigit character.toUpper) &&
      capital character == character.toUpper && character.toUpper != '_')) &&
    (!isLower character || isUpper (capital character))

variable {char : Char} {prv value : String} {α β : Type} {els : List α} {res : β}
  {rc : ProviderRecord} {revision : Int} {baseURLs : String → Bool}

theorem plain_of_route (route : routeCharacter char) : plain char := by
  have ascii : ∀ code < 128, routeCharacter (Char.ofNat code) →
      plain (Char.ofNat code) := by
    decide +kernel
  have small : char.toNat < 128 := by
    simp only [routeCharacter, isLower, isDigit, Bool.or_eq_true, Bool.and_eq_true,
      decide_eq_true_eq, beq_iff_eq, Char.le_def, UInt32.le_iff_toNat_le] at route
    rcases route with (⟨_, bd⟩ | ⟨_, bd⟩) | rfl
    · exact Nat.lt_of_le_of_lt bd (by decide)
    · exact Nat.lt_of_le_of_lt bd (by decide)
    · decide
  have hk := ascii char.toNat small
  rw [Char.ofNat_toNat] at hk
  exact hk route

theorem routeCharacter_of_tail {chs : List Char} (ha : routeTail chs) :
    ∀ char ∈ chs, routeCharacter char := by
  fun_induction routeTail chs with
  | case1 => nofun
  | case2 char rest ih =>
    obtain ⟨here, k'⟩ := Bool.and_eq_true_iff.mp ha
    simp only [List.forall_mem_cons]
    exact ⟨rfl, by simp [routeCharacter, here], ih k'⟩
  | case3 char rest _ ih =>
    obtain ⟨here, k'⟩ := Bool.and_eq_true_iff.mp ha
    simp only [List.forall_mem_cons]
    exact ⟨by simp [routeCharacter, here], ih k'⟩

theorem deriveCharacter_of_alphanumeric
    (alphanumeric : (isLower char || isDigit char)) (built : List Char) :
    deriveCharacter built char.toUpper = built ++ [capital char] ∧ capital char ≠ '_' := by
  have k := plain_of_route
    (show routeCharacter char = true by simp [routeCharacter, alphanumeric])
  have dashless : char ≠ '-' := by
    rintro rfl
    cases alphanumeric
  simp only [plain, Bool.and_eq_true, Bool.or_eq_true, beq_iff_eq, dashless, false_or] at k
  obtain ⟨⟨_, ⟨hta, h⟩, o⟩, _⟩ := k
  refine ⟨?_, ?_⟩
  · rw [deriveCharacter, if_pos (Bool.or_eq_true_iff.mpr hta), h]
  · rw [h]
    exact bne_iff_ne.mp o

theorem foldl_deriveCharacter {chs built : List Char} {last : Char}
    (ha : routeTail chs) (hfi : built.getLast? = some last) (clean : last ≠ '_') :
    (chs.map Char.toUpper).foldl deriveCharacter built = built ++ chs.map capital ∧
      (built ++ chs.map capital).getLast? ≠ some '_' := by
  fun_induction routeTail chs generalizing built last with
  | case1 =>
    refine ⟨(List.append_nil _).symm, ?_⟩
    rw [List.map_nil, List.append_nil, hfi]
    exact fun h => clean (Option.some.inj h)
  | case2 char rest ih =>
    obtain ⟨here, k'⟩ := Bool.and_eq_true_iff.mp ha
    obtain ⟨hta, o⟩ := deriveCharacter_of_alphanumeric here (built ++ ['_'])
    have dash : deriveCharacter built (Char.toUpper '-') = built ++ ['_'] := by
      have hap : built.getLast? ≠ some '_' := by
        rw [hfi]
        exact fun h => clean (Option.some.inj h)
      simp [deriveCharacter, hap, show Char.toUpper '-' = '-' from rfl,
        show isUpper '-' = false from rfl, show isDigit '-' = false from rfl]
    have ends : (built ++ ['_'] ++ [capital char]).getLast? = some (capital char) := by
      simp
    have next := ih k' ends o
    simp only [List.map_cons, List.foldl_cons, dash, hta]
    rw [next.1]
    refine ⟨?_, ?_⟩
    · simp [capital]
    · simpa [capital] using next.2
  | case3 char rest _ ih =>
    obtain ⟨here, k'⟩ := Bool.and_eq_true_iff.mp ha
    obtain ⟨hta, o⟩ := deriveCharacter_of_alphanumeric here built
    have ends : (built ++ [capital char]).getLast? = some (capital char) := by simp
    have next := ih k' ends o
    simp only [List.map_cons, List.foldl_cons, hta]
    rw [next.1]
    refine ⟨by simp, ?_⟩
    simpa using next.2

theorem deriveCredentialReference_eq (ha : providerRoutePattern prv) :
    deriveCredentialReference prv =
      String.ofList (prv.toList.map capital ++ "_API_KEY".toList) := by
  unfold providerRoutePattern at ha
  split at ha
  · cases ha
  rename_i a rest hchs
  obtain ⟨here, k'⟩ := Bool.and_eq_true_iff.mp ha
  have lower : (isLower a || isDigit a) := by rw [here, Bool.true_or]
  obtain ⟨hta, o⟩ := deriveCharacter_of_alphanumeric lower []
  obtain ⟨folded, clean⟩ := foldl_deriveCharacter k'
    (show [capital a].getLast? = some (capital a) from rfl) o
  rw [deriveCredentialReference, hchs, List.map_cons, List.foldl_cons, hta,
    List.nil_append, folded, trimUnderscore, if_neg clean]
  rfl

theorem routeCharacter_of_pattern (ha : providerRoutePattern prv) :
    ∀ char ∈ prv.toList, routeCharacter char := by
  unfold providerRoutePattern at ha
  split at ha
  · cases ha
  rename_i a rest hchs
  obtain ⟨here, k'⟩ := Bool.and_eq_true_iff.mp ha
  rw [hchs, List.forall_mem_cons]
  exact ⟨by simp [routeCharacter, here], routeCharacter_of_tail k'⟩

theorem deriveCredentialReference_injective {o : String}
    (ha : providerRoutePattern prv) (alike : providerRoutePattern o)
    (h : deriveCredentialReference prv = deriveCredentialReference o) : prv = o := by
  have back : ∀ {name : String}, providerRoutePattern name →
      (name.toList.map capital).map uncapital = name.toList := by
    intro name ha
    rw [List.map_map]
    refine (List.map_congr_left fun char hm => ?_).trans (List.map_id _)
    have hk := plain_of_route (routeCharacter_of_pattern ha char hm)
    simp only [plain, Bool.and_eq_true, beq_iff_eq] at hk
    exact hk.1.1.1.1.1
  rw [deriveCredentialReference_eq ha, deriveCredentialReference_eq alike] at h
  have he := List.append_cancel_right (String.ofList_inj.mp h)
  rw [← String.toList_inj, ← back ha, ← back alike, he]

theorem validCredentialReference_derive
    (ha : providerRoutePattern prv) (short : prv.utf8ByteSize ≤ 120) :
    validCredentialReference (deriveCredentialReference prv) := by
  have k : ∀ char ∈ prv.toList, plain char := fun char hm =>
    plain_of_route (routeCharacter_of_pattern ha char hm)
  have size : prv.utf8ByteSize = prv.toList.length := by
    rw [← Encoding.length_encodeRunes_toList]
    refine Encoding.length_encodeRunes_of_single fun char hm => ?_
    have k := k char hm
    simp only [plain, Bool.and_eq_true, beq_iff_eq] at k
    exact k.1.1.2
  have hbs : (deriveCredentialReference prv).utf8ByteSize = prv.toList.length + 8 := by
    rw [deriveCredentialReference_eq ha, ← Encoding.length_encodeRunes_toList,
      String.toList_ofList, Encoding.length_encodeRunes_of_single]
    · simp
    · intro char hm
      rcases List.mem_append.mp hm with hn | fixed
      · obtain ⟨og, hi, rfl⟩ := List.mem_map.mp hn
        have k := k og hi
        simp only [plain, Bool.and_eq_true, beq_iff_eq] at k
        exact k.1.1.1.2
      · have hsg : ∀ char ∈ "_API_KEY".toList, char.utf8Size = 1 := by simp [Char.utf8Size]
        exact hsg char fixed
  have tail : ∀ char ∈ prv.toList.map capital, referenceTail char := by
    intro char hn
    obtain ⟨og, hm, rfl⟩ := List.mem_map.mp hn
    have k := k og hm
    simp only [plain, Bool.and_eq_true] at k
    exact k.1.1.1.1.2
  have hwi : (deriveCredentialReference prv).utf8ByteSize ≤ 128 := by omega
  have hli := congrArg String.toList (deriveCredentialReference_eq ha)
  rw [String.toList_ofList] at hli
  unfold providerRoutePattern at ha
  split at ha
  · cases ha
  rename_i a rest hchs
  have upper : isUpper (capital a) := by
    have k := k a (hchs ▸ List.mem_cons_self)
    simp only [plain, Bool.and_eq_true, Bool.or_eq_true, Bool.not_eq_true'] at k
    exact k.2.resolve_left fun ho => by
      rw [ho] at ha
      cases ha
  rw [hchs, List.map_cons, List.cons_append] at hli
  rw [hchs, List.map_cons, List.forall_mem_cons] at tail
  simp only [validCredentialReference, hli, hwi, upper, decide_true, Bool.true_or,
    Bool.true_and, List.all_append, Bool.and_eq_true]
  exact ⟨List.all_eq_true.mpr tail.2, by decide⟩

/-! ## References of a directory -/

theorem foldlM_ok {ε : Type} {step : β → α → Except ε β} (h : β → Prop)
    (kept : ∀ {st el next}, h st → step st el = .ok next → h next) {st fin : β} (hb : h st)
    (ran : els.foldlM step st = .ok fin) : h fin := by
  induction els generalizing st with
  | nil =>
    cases ran
    exact hb
  | cons el els ih =>
    rw [List.foldlM_cons] at ran
    cases hst : step st el with
    | error _ =>
      rw [hst] at ran
      cases ran
    | ok next =>
      rw [hst] at ran
      exact ih (kept hb hst) ran

theorem mem_of_mapM {ε : Type} {read : α → Except ε β} {results : List β}
    (ran : els.mapM read = .ok results) (hm : res ∈ results) : ∃ el ∈ els, read el = .ok res := by
  induction els generalizing results with
  | nil =>
    cases ran
    cases hm
  | cons el els ih =>
    rw [List.mapM_cons] at ran
    cases here : read el with
    | error err =>
      rw [here] at ran
      cases ran
    | ok a =>
      cases hk' : els.mapM read with
      | error err =>
        rw [here, hk'] at ran
        cases ran
      | ok _ =>
        rw [here, hk'] at ran
        cases ran
        rcases List.mem_cons.mp hm with rfl | hm
        · exact ⟨el, List.mem_cons_self, here⟩
        · obtain ⟨o, hi, read⟩ := ih hk' hm
          exact ⟨o, List.mem_cons_of_mem _ hi, read⟩

theorem bind_ok {ε : Type} {a : Except ε α} {next : α → Except ε β}
    (ran : (a >>= next) = .ok res) : ∃ value, a = .ok value ∧ next value = .ok res := by
  cases a with
  | error _ => cases ran
  | ok value => exact ⟨value, rfl, ran⟩

def ProviderRecord.Sound (record : ProviderRecord) : Prop :=
  record.credentialRef = "" ∨ validCredentialReference record.credentialRef = true

theorem sound_of_readRow {namespaces : List SettingsNamespace} {row : ConfigurableProvider} (read : readRow namespaces row = .ok (some rc)) :
    rc.Sound := by
  unfold readRow at read
  split at read
  · cases read
  split at read
  · cases read
  split at read
  · cases read
  split at read
  · cases read
  dsimp only at read
  split at read
  · cases read
  rename_i ha
  cases read
  simp only [ne_eq, Bool.and_eq_true, decide_eq_true_eq, Bool.not_eq_true', not_and,
    Bool.not_eq_false] at ha
  exact (em _).imp id ha

theorem sound_of_snapshot {host : Host} {snap : ConfigurationSnapshot}
    (hvw : configurationSnapshot host = .ok snap) : ∀ rc ∈ snap.providers, rc.Sound := by
  unfold configurationSnapshot at hvw
  obtain ⟨_, _, hvw⟩ := bind_ok hvw
  dsimp only at hvw
  split at hvw
  · cases hvw
  obtain ⟨_, _, hvw⟩ := bind_ok hvw
  obtain ⟨_, _, hvw⟩ := bind_ok hvw
  obtain ⟨rcs, read, hvw⟩ := bind_ok hvw
  obtain ⟨_, _, hvw⟩ := bind_ok hvw
  obtain ⟨providers, hjo, hvw⟩ := bind_ok hvw
  cases hvw
  have hs : ∀ rc ∈ rcs, rc.Sound := by
    refine foldlM_ok (fun rcs => ∀ rc ∈ rcs, ProviderRecord.Sound rc) ?_
      (List.forall_mem_nil _) read
    intro _ row _ hs added
    obtain ⟨f, row, added⟩ := bind_ok added
    cases f with
    | none =>
      cases added
      exact hs
    | some rc =>
      dsimp only at added
      split at added
      · cases added
      · cases added
        exact List.forall_mem_append.mpr
          ⟨hs, List.forall_mem_singleton.mpr (sound_of_readRow row)⟩
  intro rc hm
  obtain ⟨og, hi, read⟩ := mem_of_mapM hjo hm
  have kept := hs og hi
  unfold withCredential at read
  split at read
  · cases read
    exact kept
  split at read
  · cases read
  · cases read
    exact kept

/-! ## The references a change writes -/

def writtenReferences : Operation Leaf → List String
  | .set path (.leaf (.string ref)) => if path.getLast? = some "apiKeyEnv" then [ref] else []
  | .set _ (.object fields) =>
    match fields.get "apiKeyEnv" with
    | some (.leaf (.string ref)) => [ref]
    | _ => []
  | _ => []

def Request.references : Request → List String
  | .mutateSettings _ _ ops => ops.flatMap writtenReferences
  | _ => []

section Written

variable {host : Host} {mu : RuntimeProviderMutation} {rq : Request} {ref : String}

theorem mem_andThen {a b : Outcome} (sent : rq ∈ (a.andThen b).1) : rq ∈ a.1 ∨ rq ∈ b.1 := by
  unfold Outcome.andThen at sent
  split at sent
  · exact .inl sent
  · exact List.mem_append.mp sent

theorem mem_mutateSettings {ns : String} {ops : List (Operation Leaf)}
    (sent : rq ∈ (mutateSettings host ns revision ops).1) :
    rq = .mutateSettings ns revision ops := by
  unfold mutateSettings at sent
  split at sent
  · cases sent
  · exact List.mem_singleton.mp sent

theorem mem_setCredential (sent : rq ∈ (setCredential host ref value).1) :
    ∃ key, rq = .setCredential key value := by
  unfold setCredential at sent
  split at sent
  · cases sent
  · exact ⟨ref, List.mem_singleton.mp sent⟩

theorem written_configureOps {ns : SettingsNamespace}
    {op : Operation Leaf} (hli : op ∈ configureOps ns rc mu)
    (hw : ref ∈ writtenReferences op) : ref = deriveCredentialReference mu.provider := by
  rw [configureOps_eq] at hli
  split at hli
  · cases List.mem_singleton.mp hli
    cases hw
  obtain ⟨⟨key, _⟩, hm, rfl⟩ := List.mem_filterMap.mp hli
  have placed := editsOf.placed key op hm
  have hn : key = "apiKeyEnv" ∨ key ≠ "apiKeyEnv" := em _
  rcases hn with rfl | o
  · have last : ("apiKeyEnv", some op) ∈ edits ns rc mu := hm
    unfold edits curatedStrings at last
    by_cases newly : NewlyDerived rc mu <;> cases editable : rc.editable <;>
      simp [newly, editable] at last
    all_goals
      subst last
      simpa [writtenReferences] using hw
  cases op with
  | unset => cases hw
  | set path value =>
    have leaf : ∃ leaf, value = .leaf leaf := by
      rcases List.mem_append.mp hm with string | rest
      · obtain ⟨_, _, h⟩ := List.mem_map.mp string
        have edit := (Prod.mk.inj h).2
        unfold stringEdit at edit
        grind
      · unfold modelsEdit at rest
        grind
    obtain ⟨leaf, rfl⟩ := leaf
    cases leaf with
    | string _ =>
      have path_eq : path = rc.settingsPath ++ [key] := placed
      simp [writtenReferences, path_eq, o] at hw
    | null | raw => cases hw

theorem written_configureProvider (sent : rq ∈ (configureProvider baseURLs host mu).1)
    (hw : ref ∈ rq.references) : ref = deriveCredentialReference mu.provider := by
  unfold configureProvider at sent
  split at sent
  · cases sent
  split at sent
  · cases sent
  split at sent
  · unfold createCustomProvider at sent
    split at sent
    · cases sent
    split at sent
    · cases sent
    dsimp only at sent
    rcases mem_andThen sent with stg | cre
    · obtain rfl := mem_mutateSettings stg
      simp only [Request.references, List.flatMap_cons, List.flatMap_nil, List.append_nil,
        writtenReferences] at hw
      by_cases hky : mu.apiKey = ""
      · simp [Fields.get, optionalField, hky] at hw
        grind [Fields.get]
      have hn : deriveCredentialReference mu.provider ≠ "" := by
        intro blank
        have hlen := congrArg (fun text => text.toList.length) blank
        simp [deriveCredentialReference] at hlen
      simp [Fields.get, optionalField, hky, hn] at hw
      grind [Fields.get]
    · split at cre
      · obtain ⟨_, rfl⟩ := mem_setCredential cre
        cases hw
      · cases cre
  · unfold configureRoute at sent
    split at sent
    · cases sent
    split at sent
    · cases sent
    dsimp only at sent
    rcases mem_andThen sent with stg | cre
    · obtain rfl := mem_mutateSettings stg
      obtain ⟨_, hli, hw⟩ := List.mem_flatMap.mp hw
      exact written_configureOps hli hw
    split at cre
    · cases cre
    split at cre
    · cases cre
    · obtain ⟨_, rfl⟩ := mem_setCredential cre
      cases hw

/-! ## Refusals -/

theorem accepted_mutation (ha : validateProviderMutation baseURLs mu = .ok ()) :
    providerRoutePattern mu.provider ∧ (mu.apiKey ≠ "" → validCredential mu.apiKey) := by
  unfold validateProviderMutation at ha
  split at ha
  · cases ha
  rename_i checked
  simp only [Bool.or_eq_true, Bool.not_eq_true', decide_eq_true_eq, Bool.and_eq_true, not_or,
    Bool.not_eq_false, not_and] at checked
  exact ⟨checked.1.1.1.1.1.1.1, checked.1.2⟩

theorem invalid_andThen {a b : Outcome} (hrf : (a.andThen b).2 = .error .invalidRequest) :
    a.2 = .error .invalidRequest ∨ b.2 = .error .invalidRequest := by
  unfold Outcome.andThen at hrf
  split at hrf
  · rename_i hfa
    cases hrf
    exact .inl hfa
  · exact .inr hrf

theorem send_not_invalid (rq : Request) : (host.send rq).2 ≠ .error .invalidRequest := by
  unfold Host.send call
  cases host.answer rq <;> exact nofun

theorem mutateSettings_not_invalid (ns : String) (revision : Int) (ops : List (Operation Leaf)) :
    (mutateSettings host ns revision ops).2 ≠ .error .invalidRequest := by
  unfold mutateSettings
  split
  · exact nofun
  · exact send_not_invalid _

theorem setCredential_not_invalid (hn : validCredentialReference ref)
    (held : validCredential value) : (setCredential host ref value).2 ≠ .error .invalidRequest := by
  rw [setCredential, hn, held, if_neg (by decide)]
  exact send_not_invalid _

theorem refused_unsent (ha : validateProviderMutation baseURLs mu = .ok ()) (hky : mu.apiKey ≠ "")
    (hn : validCredentialReference (deriveCredentialReference mu.provider))
    (hrf : (configureProvider baseURLs host mu).2 = .error .invalidRequest) :
    (configureProvider baseURLs host mu).1 = [] := by
  have held := (accepted_mutation ha).2 hky
  unfold configureProvider at hrf ⊢
  rw [ha] at hrf ⊢
  dsimp only at hrf ⊢
  cases hvw : configurationSnapshot host with
  | error _ => rfl
  | ok snap =>
    rw [hvw] at hrf
    dsimp only at hrf ⊢
    cases hf : snap.find mu.provider with
    | none =>
      rw [hf] at hrf
      dsimp only [createCustomProvider] at hrf ⊢
      split at hrf
      · rfl
      split at hrf
      · rename_i checked
        rw [if_pos checked]
        rfl
      rcases invalid_andThen hrf with stg | cre
      · exact absurd stg (mutateSettings_not_invalid _ _ _)
      · exact absurd cre (setCredential_not_invalid hn held)
    | some rc =>
      rw [hf] at hrf
      dsimp only [configureRoute] at hrf ⊢
      split at hrf
      · rename_i hw
        rw [if_pos hw]
        rfl
      split at hrf
      · rename_i hcur unsupported
        rw [if_neg hcur, if_pos unsupported]
        rfl
      rcases invalid_andThen hrf with stg | cre
      · exact absurd stg (mutateSettings_not_invalid _ _ _)
      split at cre
      · cases cre
      rename_i hfi
      refine absurd cre (setCredential_not_invalid ?_ held)
      have hm := List.mem_of_find?_eq_some hf
      unfold routeReference at hfi ⊢
      split
      · exact hn
      · rename_i hsr
        rw [if_neg hsr] at hfi
        exact (sound_of_snapshot hvw rc hm).resolve_left hfi

end Written

def keyedMutation (provider : String) : RuntimeProviderMutation :=
  { provider, expectedRevision := 3, baseURL := "https://lab", api := "openai-responses",
    models := [⟨"m", "", 0, 0⟩], modelsOverridden := true, apiKey := "key" }

def longName : String := String.ofList (List.replicate 121 'a')

/-! ## References of other routes -/

/-- The route's reference is not the one derived from the name, or the route has it by
    convention of its own accepted name. -/
def ProviderRecord.KeepsApart (record : ProviderRecord) (provider : String) : Prop :=
  record.credentialRef ≠ deriveCredentialReference provider ∨
    (providerRoutePattern record.id = true ∧
      record.credentialRef = deriveCredentialReference record.id)

instance (record : ProviderRecord) (provider : String) : Decidable (record.KeepsApart provider) :=
  inferInstanceAs (Decidable (_ ∨ _))

theorem mem_removeProvider {host : Host} {ref : String}
    (sent : Request.unsetCredential ref ∈ (removeProvider host prv revision).1) :
    ref = deriveCredentialReference prv := by
  unfold removeProvider at sent
  split at sent
  · cases sent
  split at sent
  · cases sent
  split at sent
  · cases sent
  split at sent
  · cases sent
  dsimp only at sent
  rcases mem_andThen sent with stg | cre
  · cases mem_mutateSettings stg
  split at cre
  · cases List.mem_singleton.mp cre
    rfl
  · cases cre

def officialHost (user : RawMessage) (rows : List ConfigurableProvider) : Host :=
  { hostOf user (⟨deepSeekProviderRoute, "DeepSeek", deepSeekSettingsNamespace, [], none⟩ :: rows) with
    settings := .ok ⟨true, [piAI user,
      { ns := deepSeekSettingsNamespace, value := none, applies := "live", revision := 1 }]⟩ }

def officialRecord : ProviderRecord :=
  ⟨deepSeekProviderRoute, "DeepSeek", false, false, 1, "", some ⟨true, true⟩, credentialReference,
    deepSeekSettingsNamespace, []⟩

end AISummoner.Dsh
