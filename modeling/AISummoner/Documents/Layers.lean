import Mathlib

/-! # Layered documents

Trees of named fields, addressed by paths, and the effective value of one document
laid over another: where both have an object the fields are taken together,
elsewhere the upper value hides the lower one.  An absent document is `none`.
-/

namespace AISummoner.Documents

mutual

inductive Document (α : Type) where
  | leaf (value : α)
  | object (fields : Fields α)

inductive Fields (α : Type) where
  | nil
  | cons (key : String) (value : Document α) (rest : Fields α)

end

deriving instance DecidableEq for Document, Fields

variable {α : Type}

namespace Fields

def get : Fields α → String → Option (Document α)
  | .nil, _ => none
  | .cons key value rest, name => if key = name then some value else rest.get name

def erase : Fields α → String → Fields α
  | .nil, _ => .nil
  | .cons key value rest, name =>
    if key = name then rest.erase name else .cons key value (rest.erase name)

def put (fields : Fields α) (key : String) (value : Document α) : Fields α :=
  .cons key value (fields.erase key)

theorem get_erase (flds : Fields α) (key name : String) :
    (flds.erase key).get name = if key = name then none else flds.get name := by
  induction flds using Fields.rec (motive_1 := fun _ => True) with
  | leaf | object => trivial
  | nil => simp [erase, get]
  | cons a v _ _ _ =>
    simp only [erase, get]
    grind [get]

@[simp] theorem get_put (flds : Fields α) (key name : String) (v : Document α) :
    (flds.put key v).get name = if key = name then some v else flds.get name := by
  simp only [put, get, get_erase]
  split <;> rfl

end Fields

def Document.fields : Document α → Fields α
  | .leaf _ => .nil
  | .object fields => fields

def child (layer : Option (Document α)) (key : String) : Option (Document α) :=
  layer.bind fun document => document.fields.get key

def valueAt (layer : Option (Document α)) : List String → Option (Document α)
  | [] => layer
  | key :: path => valueAt (child layer key) path

def fieldsOf (layer : Option (Document α)) : Fields α :=
  match layer with
  | none => .nil
  | some document => document.fields

/-- Set the value at a path; what is on the way becomes an object. -/
def setAt (layer : Option (Document α)) : List String → Document α → Document α
  | [], value => value
  | key :: path, value => .object ((fieldsOf layer).put key (setAt (child layer key) path value))

def unsetAt (layer : Option (Document α)) : List String → Option (Document α)
  | [] => none
  | key :: path =>
    match layer with
    | some (.object fields) =>
      match unsetAt (fields.get key) path with
      | none => some (.object (fields.erase key))
      | some value => some (.object (fields.put key value))
    | other => other

mutual

def overlay (base : Document α) : Document α → Document α
  | .leaf value => .leaf value
  | .object fields => .object (overlayFields base.fields fields)

def overlayFields (base : Fields α) : Fields α → Fields α
  | .nil => base
  | .cons key value rest =>
    (overlayFields base rest).put key
      (match base.get key with
        | none => value
        | some below => overlay below value)

end

def layered (base user : Option (Document α)) : Option (Document α) :=
  match base, user with
  | base, none => base
  | none, some user => some user
  | some base, some user => some (overlay base user)

/-! ## One level -/

section Level

variable (ly : Option (Document α)) (key name : String) (path : List String)

theorem get_fieldsOf : (fieldsOf ly).get name = child ly name := by
  cases ly <;> rfl

theorem child_setAt (v : Document α) : child (some (setAt ly (key :: path) v)) name =
      if key = name then some (setAt (child ly key) path v) else child ly name := by
  simp only [setAt, child, Option.bind_some, Document.fields, Fields.get_put]
  rw [get_fieldsOf]
  rfl

theorem unsetAt_none : unsetAt (none : Option (Document α)) path = none := by
  cases path <;> rfl

theorem child_unsetAt : child (unsetAt ly (key :: path)) name =
      if key = name then unsetAt (child ly key) path else child ly name := by
  match ly with
  | none => simp [unsetAt, child, unsetAt_none]
  | some (.leaf _) => simp [unsetAt, child, Document.fields, Fields.get, unsetAt_none]
  | some (.object fields) =>
    simp only [unsetAt, child, Option.bind_some, Document.fields]
    cases removed : unsetAt (fields.get key) path with
    | none => simp [Fields.get_erase]
    | some v => simp

end Level

@[simp] theorem layered_none (base : Option (Document α)) : layered base none = base := by
  cases base <;> rfl

@[simp] theorem none_layered (user : Option (Document α)) : layered none user = user := by
  cases user <;> rfl

theorem get_overlayFields (base flds : Fields α) (name : String) :
    (overlayFields base flds).get name = layered (base.get name) (flds.get name) := by
  induction flds using Fields.rec (motive_1 := fun _ => True) with
  | leaf | object => trivial
  | nil => exact (layered_none _).symm
  | cons key v _ _ ih =>
    simp only [overlayFields, Fields.get_put, Fields.get]
    by_cases h : key = name
    · subst h
      simp only [if_true]
      cases base.get key <;> rfl
    · simp only [if_neg h]
      exact ih

theorem child_layered (base user : Option (Document α)) (name : String)
    (hv : ∀ v, user ≠ some (.leaf v)) :
    child (layered base user) name = layered (child base name) (child user name) := by
  match base, user with
  | base, none => simp [child]
  | none, some user => simp [child]
  | some base, some (.leaf v) => exact absurd rfl (hv v)
  | some base, some (.object fields) => exact get_overlayFields base.fields fields name

/-! ## Paths -/

/-- Neither path leads through the other. -/
def Apart : List String → List String → Prop
  | key :: path, name :: other => key = name → Apart path other
  | _, _ => False

theorem apart_of_keys {base : List String} {key name : String} (ne : key ≠ name)
    (path other : List String) : Apart (base ++ key :: path) (base ++ name :: other) := by
  induction base with
  | nil => exact fun h => absurd h ne
  | cons a base ih => exact fun _ => ih

theorem Apart.symm {path other : List String} (hap : Apart path other) : Apart other path := by
  induction path generalizing other with
  | nil => exact hap.elim
  | cons _ path ih =>
    cases other with
    | nil => exact hap.elim
    | cons _ other => exact fun h => ih (hap h.symm)

theorem valueAt_append (ly : Option (Document α)) (path other : List String) :
    valueAt ly (path ++ other) = valueAt (valueAt ly path) other := by
  induction path generalizing ly with
  | nil => rfl
  | cons key path ih => exact ih (child ly key)

theorem valueAt_setAt (ly : Option (Document α)) (path : List String) (v : Document α) :
    valueAt (some (setAt ly path v)) path = some v := by
  induction path generalizing ly with
  | nil => rfl
  | cons key path ih =>
    rw [valueAt, child_setAt, if_pos rfl]
    exact ih (child ly key)

theorem valueAt_none (path : List String) : valueAt (none : Option (Document α)) path = none := by
  induction path with
  | nil => rfl
  | cons _ path ih => exact ih

theorem valueAt_unsetAt (ly : Option (Document α)) (path : List String) :
    valueAt (unsetAt ly path) path = none := by
  induction path generalizing ly with
  | nil => rfl
  | cons key path ih =>
    rw [valueAt, child_unsetAt, if_pos rfl]
    exact ih (child ly key)

theorem inside_or_apart {base : List String} {key : String} {path other : List String}
    (hap : Apart (base ++ key :: path) other) :
    (∃ name rest, other = base ++ name :: rest) ∨ Apart base other := by
  induction base generalizing other with
  | nil =>
    cases other with
    | nil => exact hap.elim
    | cons name rest => exact .inl ⟨name, rest, rfl⟩
  | cons a base ih =>
    cases other with
    | nil => exact hap.elim
    | cons name rest =>
      by_cases h : a = name
      · subst h
        refine (ih (hap rfl)).imp ?_ fun away _ => away
        rintro ⟨key, inn, rfl⟩
        exact ⟨key, inn, rfl⟩
      · exact .inr fun he => absurd he h

theorem valueAt_emptied (ly : Option (Document α)) (path : List String) (name : String)
    (rest : List String) :
    valueAt (some (setAt ly path (.object .nil))) (path ++ name :: rest) = none := by
  rw [valueAt_append, valueAt_setAt]
  exact valueAt_none rest

/-- The layer is no leaf before the path's end, so that it hides nothing there. -/
def Visible (layer : Option (Document α)) : List String → Prop
  | [] => True
  | key :: path => (∀ value, layer ≠ some (.leaf value)) ∧ Visible (child layer key) path

theorem visible_of_valueAt (base : Option (Document α)) {user : Option (Document α)}
    {path : List String} {v : Document α} (hf : valueAt (layered base user) path = some v) :
    Visible user path := by
  induction path generalizing base user with
  | nil => trivial
  | cons key path ih =>
    have hv : ∀ hidden, user ≠ some (.leaf hidden) := by
      rintro hidden rfl
      have hmi : child (layered base (some (.leaf hidden))) key = none := by
        cases base <;> rfl
      rw [valueAt, hmi, valueAt_none] at hf
      cases hf
    rw [valueAt, child_layered base user key hv] at hf
    exact ⟨hv, ih (child base key) hf⟩

theorem visible_of_found {ly : Option (Document α)} {path : List String} {v : Document α}
    (hf : valueAt ly path = some v) : Visible ly path :=
  visible_of_valueAt none ((none_layered ly).symm ▸ hf)

theorem valueAt_layered (base : Option (Document α)) {user : Option (Document α)}
    {path : List String} (hv : Visible user path) :
    valueAt (layered base user) path = layered (valueAt base path) (valueAt user path) := by
  induction path generalizing base user with
  | nil => rfl
  | cons key path ih =>
    rw [valueAt, child_layered base user key hv.1]
    exact ih (child base key) hv.2

theorem valueAt_layered_leaf (base : Option (Document α)) {user : Option (Document α)}
    {path : List String} {v : α} (hf : valueAt user path = some (.leaf v)) :
    valueAt (layered base user) path = some (.leaf v) := by
  rw [valueAt_layered base (visible_of_found hf), hf]
  cases valueAt base path <;> rfl

/-! ## Operations -/

inductive Operation (α : Type) where
  | set (path : List String) (value : Document α)
  | unset (path : List String)
  deriving DecidableEq

namespace Operation

def path : Operation α → List String
  | .set path _ => path
  | .unset path => path

def result : Operation α → Option (Document α)
  | .set _ value => some value
  | .unset _ => none

def apply (layer : Option (Document α)) : Operation α → Option (Document α)
  | .set path value => some (setAt layer path value)
  | .unset path => unsetAt layer path

theorem child_apply (ly : Option (Document α)) (op : Operation α) {key : String}
    {path : List String} (into : op.path = key :: path) (name : String) :
    ∃ inn : Operation α, inn.path = path ∧ child (op.apply ly) name =
      if key = name then inn.apply (child ly key) else child ly name := by
  cases op with
  | set =>
    cases into
    exact ⟨.set path _, rfl, child_setAt ly key name path _⟩
  | unset =>
    cases into
    exact ⟨.unset path, rfl, child_unsetAt ly key name path⟩

theorem valueAt_apply (ly : Option (Document α)) (op : Operation α) :
    valueAt (op.apply ly) op.path = op.result := by
  cases op with
  | set path v => exact valueAt_setAt ly path v
  | unset path => exact valueAt_unsetAt ly path

theorem valueAt_apply_apart (ly : Option (Document α)) (op : Operation α)
    {other : List String} (hap : Apart op.path other) :
    valueAt (op.apply ly) other = valueAt ly other := by
  induction other generalizing ly op with
  | nil => cases path : op.path <;> rw [path] at hap <;> exact hap.elim
  | cons name other ih =>
    cases path : op.path with
    | nil =>
      rw [path] at hap
      exact hap.elim
    | cons _ _ =>
      rw [path] at hap
      obtain ⟨inn, rfl, hst⟩ := child_apply ly op path name
      rw [valueAt, hst]
      split
      · rename_i h
        rw [ih _ inn (hap h), h]
        rfl
      · rfl

theorem visible_apply (ly : Option (Document α)) (op : Operation α)
    {other : List String} (hap : Apart op.path other) (vis : Visible ly other) :
    Visible (op.apply ly) other := by
  induction other generalizing ly op with
  | nil => trivial
  | cons name other ih =>
    cases path : op.path with
    | nil =>
      rw [path] at hap
      exact hap.elim
    | cons _ _ =>
      rw [path] at hap
      obtain ⟨inn, rfl, hst⟩ := child_apply ly op path name
      refine ⟨fun v leaf => ?_, ?_⟩
      · cases op with
        | set =>
          cases path
          cases leaf
        | unset =>
          cases path
          obtain ⟨hsh, _⟩ := vis
          match ly with
          | none => cases leaf
          | some (.leaf hidden) => exact hsh hidden rfl
          | some (.object fields) =>
            simp only [apply, unsetAt] at leaf
            split at leaf <;> cases leaf
      · rw [hst]
        split
        · rename_i h
          exact ih _ inn (hap h) (h ▸ vis.2)
        · exact vis.2

end Operation

def applyAll (layer : Option (Document α)) (operations : List (Operation α)) :
    Option (Document α) :=
  operations.foldl Operation.apply layer

section ApplyAll

variable (ly : Option (Document α)) {ops : List (Operation α)} {other : List String}

theorem valueAt_applyAll_apart (hap : ∀ op ∈ ops, Apart op.path other) :
    valueAt (applyAll ly ops) other = valueAt ly other := by
  induction ops generalizing ly with
  | nil => rfl
  | cons a ops ih =>
    obtain ⟨here, k'⟩ := List.forall_mem_cons.mp hap
    exact (ih (a.apply ly) k').trans (a.valueAt_apply_apart ly here)

theorem visible_applyAll (hap : ∀ op ∈ ops, Apart op.path other)
    (hv : Visible ly other) : Visible (applyAll ly ops) other := by
  induction ops generalizing ly with
  | nil => exact hv
  | cons a ops ih =>
    obtain ⟨here, k'⟩ := List.forall_mem_cons.mp hap
    exact ih (a.apply ly) k' (a.visible_apply ly here hv)

theorem valueAt_applyAll (hap : ops.Pairwise fun a b =>
      Apart a.path b.path) {op : Operation α} (hm : op ∈ ops) :
    valueAt (applyAll ly ops) op.path = op.result := by
  induction ops generalizing ly with
  | nil => cases hm
  | cons a ops ih =>
    obtain ⟨here, k'⟩ := List.pairwise_cons.mp hap
    rcases List.mem_cons.mp hm with rfl | hm
    · refine (valueAt_applyAll_apart (op.apply ly) fun b hli => ?_).trans
        (op.valueAt_apply ly)
      exact (here b hli).symm
    · exact ih (a.apply ly) k' hm

end ApplyAll

section Edits

variable {base : List String} {edits : List (String × Option (Operation α))}

/-- Each edit is at most one operation, at the field of its name. -/
structure EditsOf (base : List String) (edits : List (String × Option (Operation α))) : Prop where
  distinct : (edits.map Prod.fst).Nodup
  placed : ∀ key operation, (key, some operation) ∈ edits → operation.path = base ++ [key]

theorem EditsOf.pairwise (edited : EditsOf base edits) :
    (edits.filterMap Prod.snd).Pairwise fun a b => Apart a.path b.path := by
  rw [List.pairwise_filterMap]
  have hdt := List.pairwise_map.mp edited.distinct
  refine hdt.imp_of_mem fun {a b} left right ne => ?_
  rintro op here other ht
  obtain ⟨key, _⟩ := a
  obtain ⟨name, _⟩ := b
  cases here
  cases ht
  rw [edited.placed key op left, edited.placed name other right]
  exact apart_of_keys ne [] []

theorem EditsOf.apart_of_none (edited : EditsOf base edits) {key : String}
    (huc : (key, none) ∈ edits) :
    ∀ op ∈ edits.filterMap Prod.snd, Apart op.path (base ++ [key]) := by
  intro op hm
  obtain ⟨⟨name, _⟩, hli, rfl⟩ := List.mem_filterMap.mp hm
  rw [edited.placed name op hli]
  refine apart_of_keys (fun h => ?_) [] []
  have he := List.inj_on_of_nodup_map edited.distinct hli huc h
  cases he

end Edits

end AISummoner.Documents
