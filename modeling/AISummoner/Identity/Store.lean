import AISummoner.Store.Schema

/-! # The identity of a Device

`internal/identity`: a Device makes its key and some metadata on its first start,
which can be cut off after any operation on the disk.  A file that was cut off in
the middle is not written again, so the starts after it fail.
-/

namespace AISummoner.Identity

open Store

structure Metadata where
  version : Nat
  deviceID : String
  createdAt : Time
  deriving DecidableEq, Repr

def metadataVersion : Nat := 1

/-- `time.Time{}`, which `IsZero`. -/
def zeroTime : Time := -62135596800000000000

/-- How keys and metadata are written: PEM and JSON, files of `β`. -/
structure Format (Key β : Type) where
  encodeKey : Key → List β
  parsePrivateKey : List β → Option Key
  deviceID : Key → String
  encodeMetadata : Metadata → List β
  decodeMetadata : List β → Option Metadata
  parse_encode : ∀ key, parsePrivateKey (encodeKey key) = some key
  decode_encode : ∀ metadata, decodeMetadata (encodeMetadata metadata) = some metadata

structure Disk (β : Type) where
  key : Option (List β) := none
  metadata : Option (List β) := none
  deriving DecidableEq

/-- One operation on a file.  The key is opened with `O_EXCL`, the metadata with `O_TRUNC`. -/
inductive Operation (β : Type) where
  | createKey
  | writeKey (unit : β)
  | truncateMetadata
  | writeMetadata (unit : β)

variable {Key β : Type}

def Operation.apply (disk : Disk β) : Operation β → Disk β
  | .createKey => { disk with key := some [] }
  | .writeKey unit => { disk with key := disk.key.map (· ++ [unit]) }
  | .truncateMetadata => { disk with metadata := some [] }
  | .writeMetadata unit => { disk with metadata := disk.metadata.map (· ++ [unit]) }

def writePrivateFile (contents : List β) : List (Operation β) :=
  .createKey :: contents.map .writeKey

def writeMetadata (contents : List β) : List (Operation β) :=
  .truncateMetadata :: contents.map .writeMetadata

inductive Failure where
  | unreadableKey
  | missingKey
  | inspectMetadata
  | unreadableMetadata
  | mismatch
  deriving DecidableEq, Repr

structure DeviceIdentity where
  deviceID : String
  createdAt : Time
  deriving DecidableEq, Repr

/-- The operations of a start on the two files, and what it returns after them. -/
structure Plan (β : Type) where
  key : List (Operation β) := []
  metadata : List (Operation β) := []
  identity : DeviceIdentity

structure Inputs (Key : Type) where
  generated : Key
  now : Time
  running : now ≠ zeroTime

namespace Format

variable (format : Format Key β)

def metadataFromIdentity (identity : DeviceIdentity) : Metadata :=
  ⟨metadataVersion, identity.deviceID, identity.createdAt⟩

def create (inputs : Inputs Key) : Plan β :=
  let identity : DeviceIdentity := ⟨format.deviceID inputs.generated, inputs.now⟩
  { key := writePrivateFile (format.encodeKey inputs.generated)
    metadata := writeMetadata (format.encodeMetadata (metadataFromIdentity identity))
    identity }

/-- `loadOrCreateFromStorage`. -/
def loadOrCreate (inputs : Inputs Key) (disk : Disk β) : Except Failure (Plan β) :=
  match disk.key with
  | none =>
    match disk.metadata with
    | none => .ok (format.create inputs)
    | some contents =>
      match format.decodeMetadata contents with
      | some _ => .error .missingKey
      | none => .error .inspectMetadata
  | some contents =>
    match format.parsePrivateKey contents with
    | none => .error .unreadableKey
    | some key =>
      match disk.metadata with
      | none =>
        let identity : DeviceIdentity := ⟨format.deviceID key, inputs.now⟩
        .ok { metadata := writeMetadata (format.encodeMetadata (metadataFromIdentity identity))
              identity }
      | some contents =>
        match format.decodeMetadata contents with
        | none => .error .unreadableMetadata
        | some stored =>
          if stored.version ≠ metadataVersion ∨ stored.deviceID ≠ format.deviceID key ∨
              stored.createdAt = zeroTime then
            .error .mismatch
          else .ok { identity := ⟨format.deviceID key, stored.createdAt⟩ }

end Format

/-- A start, which may be cut off after some operations. -/
structure Start (Key : Type) where
  inputs : Inputs Key
  interrupted : Option Nat := none

def applyAll (disk : Disk β) (operations : List (Operation β)) : Disk β :=
  operations.foldl Operation.apply disk

/-- The disk a start leaves, and the identity if it returns one. -/
def Start.run (format : Format Key β) (disk : Disk β) (start : Start Key) :
    Disk β × Option DeviceIdentity :=
  match format.loadOrCreate start.inputs disk with
  | .error _ => (disk, none)
  | .ok plan =>
    match start.interrupted with
    | none => (applyAll disk (plan.key ++ plan.metadata), some plan.identity)
    | some count => (applyAll disk ((plan.key ++ plan.metadata).take count), none)

def runAll (format : Format Key β) (disk : Disk β) (starts : List (Start Key)) : Disk β :=
  starts.foldl (fun disk start => (start.run format disk).1) disk

/-! ## What the operations write -/

variable {format : Format Key β} {disk : Disk β} {inputs : Inputs Key} {start : Start Key}
  {id : String}

theorem applyAll_append (a b : List (Operation β)) :
    applyAll disk (a ++ b) = applyAll (applyAll disk a) b :=
  List.foldl_append

theorem applyAll_writePrivateFile (cts : List β) :
    applyAll disk (writePrivateFile cts) = { disk with key := some cts } := by
  have hw (s : List β) : applyAll { disk with key := some s }
      (cts.map .writeKey) = { disk with key := some (s ++ cts) } := by
    induction cts generalizing s with
    | nil => simp [applyAll]
    | cons unit cts ih => simpa [applyAll, Operation.apply] using ih (s ++ [unit])
  exact hw []

theorem applyAll_writeMetadata (cts : List β) :
    applyAll disk (writeMetadata cts) = { disk with metadata := some cts } := by
  have hw (s : List β) : applyAll { disk with metadata := some s }
      (cts.map .writeMetadata) = { disk with metadata := some (s ++ cts) } := by
    induction cts generalizing s with
    | nil => simp [applyAll]
    | cons unit cts ih => simpa [applyAll, Operation.apply] using ih (s ++ [unit])
  exact hw []

def Operation.onMetadata : Operation β → Prop
  | .truncateMetadata | .writeMetadata _ => True
  | _ => False

theorem onMetadata_of_mem {cts : List β} {op : Operation β}
    (mem : op ∈ writeMetadata cts) : op.onMetadata := by
  simp only [writeMetadata, List.mem_cons, List.mem_map] at mem
  obtain rfl | ⟨_, -, rfl⟩ := mem
  all_goals trivial

theorem key_applyAll {ops : List (Operation β)} (only : ∀ op ∈ ops, op.onMetadata) :
    (applyAll disk ops).key = disk.key := by
  induction ops generalizing disk with
  | nil => rfl
  | cons op ops ih =>
    simp only [List.mem_cons, forall_eq_or_imp] at only
    refine (ih only.2).trans ?_
    cases op with
    | createKey | writeKey => exact only.1.elim
    | truncateMetadata | writeMetadata => rfl

def Holds (format : Format Key β) (id : String) (disk : Disk β) : Prop :=
  ∃ contents key, disk.key = some contents ∧ format.parsePrivateKey contents = some key ∧
    format.deviceID key = id

theorem Holds.plan {plan : Plan β} (h : Holds format id disk)
    (planned : format.loadOrCreate inputs disk = .ok plan) : plan.identity.deviceID = id ∧
      ∀ op ∈ plan.key ++ plan.metadata, op.onMetadata := by
  obtain ⟨_, key, hf, hpa, rfl⟩ := h
  simp only [Format.loadOrCreate, hf, hpa] at planned
  repeat' split at planned
  all_goals cases planned
  · exact ⟨rfl, fun _ => onMetadata_of_mem⟩
  · exact ⟨rfl, by simp⟩

theorem Holds.run (hh : Holds format id disk) (start : Start Key) :
    Holds format id (start.run format disk).1 ∧
      ∀ identity ∈ (start.run format disk).2, identity.deviceID = id := by
  simp only [Start.run]
  cases planned : format.loadOrCreate start.inputs disk with
  | error => exact ⟨hh, by simp⟩
  | ok plan =>
    obtain ⟨hn, only⟩ := hh.plan planned
    cases start.interrupted with
    | none => exact ⟨by rwa [Holds, key_applyAll only], by simpa using hn⟩
    | some _ =>
      refine ⟨?_, by simp⟩
      rwa [Holds, key_applyAll fun op mem => only op (List.mem_of_mem_take mem)]

theorem Holds.runAll (hh : Holds format id disk) (st : List (Start Key)) :
    Holds format id (runAll format disk st) := by
  induction st generalizing disk with
  | nil => exact hh
  | cons start st ih => exact ih (hh.run start).1

theorem holds_of_returned {identity : DeviceIdentity}
    (hrt : (start.run format disk).2 = some identity) :
    Holds format identity.deviceID (start.run format disk).1 := by
  cases hf : disk.key with
  | some cts =>
    cases hpa : format.parsePrivateKey cts with
    | none => simp [Start.run, Format.loadOrCreate, hf, hpa] at hrt
    | some key =>
      obtain ⟨_, hn⟩ := Holds.run ⟨cts, key, hf, hpa, rfl⟩ start
      rwa [hn identity hrt]
  | none =>
    cases hab : disk.metadata with
    | some cts =>
      cases read : format.decodeMetadata cts <;>
        simp [Start.run, Format.loadOrCreate, hf, hab, read] at hrt
    | none =>
      simp only [Start.run, Format.loadOrCreate, hf, hab] at hrt ⊢
      cases cut : start.interrupted with
      | some => simp [cut] at hrt
      | none =>
        simp only [cut, Option.some.injEq] at hrt
        simp only [← hrt, Format.create, applyAll_append, applyAll_writePrivateFile,
          applyAll_writeMetadata]
        exact ⟨_, start.inputs.generated, rfl, format.parse_encode _, rfl⟩

/-! ## Starts after starts that were cut off -/

def Whole (format : Format Key β) (disk : Disk β) : Prop :=
  (disk.key = none ∧ disk.metadata = none) ∨
  ∃ key, disk.key = some (format.encodeKey key) ∧
    ∀ contents ∈ disk.metadata, ∃ createdAt ≠ zeroTime,
      contents = format.encodeMetadata ⟨metadataVersion, format.deviceID key, createdAt⟩

theorem Whole.plan (wh : Whole format disk) (inputs : Inputs Key) :
    ∃ plan, format.loadOrCreate inputs disk = .ok plan ∧ Whole format (applyAll disk plan.key) ∧
      Whole format (applyAll disk (plan.key ++ plan.metadata)) := by
  obtain ⟨hab, none⟩ | ⟨key, hf, sr⟩ := wh
  · refine ⟨format.create inputs, by simp [Format.loadOrCreate, hab, none], ?_, ?_⟩
    · simp only [Format.create, applyAll_writePrivateFile]
      exact .inr ⟨inputs.generated, rfl, by simp [none]⟩
    · simp only [Format.create, applyAll_append, applyAll_writePrivateFile, applyAll_writeMetadata]
      refine .inr ⟨inputs.generated, rfl, ?_⟩
      rintro _ ⟨⟩
      exact ⟨inputs.now, inputs.running, rfl⟩
  · cases hab : disk.metadata with
    | none =>
      simp only [Format.loadOrCreate, hf, hab, format.parse_encode, Except.ok.injEq,
        exists_eq_left', List.nil_append, applyAll_writeMetadata]
      refine ⟨.inr ⟨key, hf, sr⟩, .inr ⟨key, rfl, ?_⟩⟩
      rintro _ ⟨⟩
      exact ⟨inputs.now, inputs.running, rfl⟩
    | some cts =>
      obtain ⟨_, dated, rfl⟩ := sr cts hab
      simp only [Format.loadOrCreate, hf, hab, format.parse_encode, format.decode_encode,
        dated, ne_eq, not_true_eq_false, or_self, if_false, Except.ok.injEq, exists_eq_left']
      exact ⟨.inr ⟨key, hf, sr⟩, .inr ⟨key, hf, sr⟩⟩

/-- No start is cut off while it writes a file. -/
def Apart (format : Format Key β) : Disk β → List (Start Key) → Prop
  | _, [] => True
  | disk, start :: starts =>
    (∀ count ∈ start.interrupted, ∀ plan, format.loadOrCreate start.inputs disk = .ok plan →
      count = 0 ∨ count = plan.key.length ∨ plan.key.length + plan.metadata.length ≤ count) ∧
    Apart format (start.run format disk).1 starts

theorem Whole.runAll {st : List (Start Key)} (ap : Apart format disk st)
    (hwh : Whole format disk) : Whole format (runAll format disk st) := by
  induction st generalizing disk with
  | nil => exact hwh
  | cons start st ih =>
    obtain ⟨between, ap⟩ := ap
    refine ih ap ?_
    obtain ⟨plan, planned, key, both⟩ := hwh.plan start.inputs
    simp only [Start.run, planned]
    cases cut : start.interrupted with
    | none => exact both
    | some cnt =>
      obtain rfl | rfl | all := between cnt cut plan planned
      · exact hwh
      · simpa using key
      · simpa [List.take_of_length_le, all] using both

/-- Starts return one Device; metadata of another Device is refused; and a start
    succeeds unless an earlier one was cut off while it wrote a file. -/
theorem loadOrCreate_stable (format : Format Key β) (earlier : List (Start Key))
    (apart : Apart format {} earlier) :
    (∀ disk start between later first last,
      (Start.run format disk start).2 = some first →
      (Start.run format (runAll format (start.run format disk).1 between) later).2 = some last →
      last.deviceID = first.deviceID) ∧
    (∀ disk contents stored start, disk.metadata = some contents →
      format.decodeMetadata contents = some stored →
      (∀ written key, disk.key = some written → format.parsePrivateKey written = some key →
        stored.deviceID ≠ format.deviceID key) →
      (Start.run format disk start).2 = none) ∧
    ∀ inputs, ((⟨inputs, none⟩ : Start Key).run format (runAll format {} earlier)).2.isSome := by
  refine ⟨?_, ?_, ?_⟩
  · intro disk start between later first last returned again
    have held := (holds_of_returned returned).runAll between
    exact (held.run later).2 last again
  · intro disk contents stored start metadata read other
    cases found : disk.key with
    | none => simp [Start.run, Format.loadOrCreate, found, metadata, read]
    | some written =>
      cases parsed : format.parsePrivateKey written with
      | none => simp [Start.run, Format.loadOrCreate, found, parsed]
      | some key =>
        have := other written key found parsed
        simp [Start.run, Format.loadOrCreate, found, parsed, metadata, read, this]
  · intro inputs
    have whole := Whole.runAll apart (.inl ⟨rfl, rfl⟩)
    obtain ⟨plan, planned, -⟩ := whole.plan inputs
    simp [Start.run, planned]

def plainFormat : Format String (String ⊕ Metadata) where
  encodeKey key := [.inl key]
  parsePrivateKey
    | [.inl key] => some key
    | _ => none
  deviceID key := key
  encodeMetadata metadata := [.inr metadata]
  decodeMetadata
    | [.inr metadata] => some metadata
    | _ => none
  parse_encode _ := rfl
  decode_encode _ := rfl

def atEpoch (generated : String) : Inputs String := ⟨generated, 0, by decide⟩

/-- The first start is cut off after the key was written. -/
theorem loadOrCreate_stable_restart :
    ((⟨atEpoch "dev_2", none⟩ : Start String).run plainFormat
      (runAll plainFormat {} [⟨atEpoch "dev_1", some 2⟩])).2.isSome :=
  (loadOrCreate_stable plainFormat [⟨atEpoch "dev_1", some 2⟩]
    ⟨by rintro _ ⟨⟩ _ ⟨⟩; exact .inr (.inl rfl), trivial⟩).2.2 _

/-- Cut off after the metadata were opened, the first start makes all later ones fail. -/
theorem loadOrCreate_truncated :
    plainFormat.loadOrCreate (atEpoch "dev_1")
      (runAll plainFormat {} [⟨atEpoch "dev_1", some 3⟩]) = .error .unreadableMetadata :=
  rfl

end AISummoner.Identity
