import AISummoner.OpencodeBridge.Bridge
import AISummoner.Encoding.Utf8

/-! # The proof of a callback

A callback carries a MAC over a domain, an external session and a timestamp with NULs between
them.  The validators of the first two leave no NUL in them.
-/

namespace AISummoner.OpencodeBridge

open Encoding

def authorizationScheme : String := "AISummoner-HMAC"
def maximumClockSkew : Int := 120
def maximumDomainSize : Nat := 128

def validProofDomain (value : String) : Bool :=
  value ≠ "" && value.toList.all fun character => 0x21 ≤ character.toNat && character.toNat ≤ 0x7e

structure Subject where
  domain : String
  externalSessionID : String
  timestamp : String
  deriving DecidableEq, Repr

/-- The checks of `New` and `serveHTTP`. -/
def Subject.Valid (subject : Subject) : Prop :=
  subject.domain.utf8ByteSize ≤ maximumDomainSize ∧ validProofDomain subject.domain ∧
    validExternalSessionID subject.externalSessionID

/-- What `signProof` writes to the MAC. -/
def Subject.transcript (subject : Subject) : List UInt8 :=
  utf8 subject.domain ++ [0] ++ utf8 subject.externalSessionID ++ [0] ++ utf8 subject.timestamp

/-- A MAC with tags of any kind, and the tag that a base64 text of the right length stands for. -/
structure Mac (τ : Type) where
  sum : List UInt8 → List UInt8 → τ
  decode : List Char → Option τ

/-- A Unix time, an `int64`. -/
structure Clock where
  unix : Int
  low : -2 ^ 63 ≤ unix
  high : unix < 2 ^ 63

def wrap (value : Int) : Int := value.bmod (2 ^ 64)

def digits (text : List Char) : Option Nat :=
  if text ≠ [] ∧ text.all Char.isDigit then
    some (text.foldl (fun value digit => 10 * value + (digit.toNat - 48)) 0)
  else none

/-- `strconv.ParseInt(text, 10, 64)` -/
def parseInt64 (text : List Char) : Option Int := do
  let value : Int ← match text with
    | '-' :: rest => (digits rest).map fun size => -(size : Int)
    | '+' :: rest => (digits rest).map Int.ofNat
    | rest => (digits rest).map Int.ofNat
  if -2 ^ 63 ≤ value ∧ value < 2 ^ 63 then some value else none

section Verify

variable {τ : Type} [DecidableEq τ]

/-- The tag of an `Authorization` header. -/
def provided (mac : Mac τ) (authorization : List Char) : Option τ :=
  let start := authorizationScheme.toList ++ [' ']
  if !start.isPrefixOf authorization || (authorization.drop start.length).contains ' ' then none
  else mac.decode (authorization.drop start.length)

def validProof (mac : Mac τ) (secret : List UInt8) (clock : Clock) (subject : Subject)
    (authorization : List Char) : Bool :=
  match parseInt64 subject.timestamp.toList with
  | none => false
  | some timestamp =>
    if toString timestamp ≠ subject.timestamp then false
    else if timestamp < wrap (clock.unix - maximumClockSkew) ∨
        timestamp > wrap (clock.unix + maximumClockSkew) then false
    else
      match provided mac authorization with
      | none => false
      | some tag => tag = mac.sum secret subject.transcript

/-! ## The transcript -/

theorem append_cons_inj {α : Type} {mark : α} : ∀ {a b rest rest' : List α},
    mark ∉ a → mark ∉ b → a ++ mark :: rest = b ++ mark :: rest' → a = b ∧ rest = rest'
  | [], [], _, _, _, _, same => ⟨rfl, (List.cons.inj same).2⟩
  | [], _ :: _, _, _, _, absent, same => by
    cases (List.cons.inj same).1
    simp at absent
  | _ :: _, [], _, _, absent, _, same => by
    cases (List.cons.inj same).1
    simp at absent
  | _ :: a, _ :: b, _, _, absent, absent', same => by
    rw [List.cons_append, List.cons_append, List.cons.injEq] at same
    simp only [List.mem_cons, not_or] at absent absent'
    obtain ⟨rfl, rfl⟩ := append_cons_inj absent.2 absent'.2 same.2
    exact ⟨by rw [same.1], rfl⟩

theorem transcript_eq (subject : Subject) : subject.transcript =
    encodeRunes (subject.domain.toList ++ Char.ofNat 0 ::
      (subject.externalSessionID.toList ++ Char.ofNat 0 :: subject.timestamp.toList)) := by
  have nul : String.utf8EncodeChar (Char.ofNat 0) = [0] := by decide
  simp [Subject.transcript, utf8, encodeRunes, nul]

theorem nul_notMem_of_validProofDomain {v : String} (hva : validProofDomain v) :
    Char.ofNat 0 ∉ v.toList := by
  intro mem
  simp only [validProofDomain, Bool.and_eq_true, List.all_eq_true] at hva
  exact absurd (hva.2 _ mem) (by decide)

theorem nul_notMem_of_validExternalSessionID {v : String}
    (va : validExternalSessionID v) : Char.ofNat 0 ∉ v.toList := by
  simp only [validExternalSessionID, Bool.and_eq_true, List.all_eq_true] at va
  obtain ⟨⟨-, start⟩, hal⟩ := va
  obtain ⟨_, hsp⟩ := String.startsWith_string_iff.mp start
  rw [← hsp, List.drop_left' (by decide)] at hal
  rw [← hsp, List.mem_append, not_or]
  exact ⟨by decide, fun mem => absurd (hal _ mem) (by decide)⟩

theorem transcript_inj {made used : Subject} (hva : made.Valid) (valid' : used.Valid)
    (h : made.transcript = used.transcript) : made = used := by
  rw [transcript_eq, transcript_eq] at h
  have hrn := congrArg decodeRunes h
  rw [decodeRunes_encodeRunes, decodeRunes_encodeRunes] at hrn
  obtain ⟨domain, rest⟩ := append_cons_inj (nul_notMem_of_validProofDomain hva.2.1)
    (nul_notMem_of_validProofDomain valid'.2.1) hrn
  obtain ⟨ses, timestamp⟩ := append_cons_inj (nul_notMem_of_validExternalSessionID hva.2.2)
    (nul_notMem_of_validExternalSessionID valid'.2.2) rest
  rw [String.toList_inj] at domain ses timestamp
  cases made
  cases used
  simp_all

theorem within_skew (clock : Clock) {mom : Int} (low : wrap (clock.unix - maximumClockSkew) ≤ mom)
    (high : mom ≤ wrap (clock.unix + maximumClockSkew)) :
    clock.unix - maximumClockSkew ≤ mom ∧ mom ≤ clock.unix + maximumClockSkew := by
  have := clock.low
  have := clock.high
  have : maximumClockSkew = 120 := rfl
  simp only [wrap, Int.bmod_def] at low high
  split at low <;> split at high <;> omega

theorem validProof_spec {mac : Mac τ} {secret : List UInt8} {clock : Clock} {subject : Subject}
    {authorization : List Char} (ha : validProof mac secret clock subject authorization) :
    provided mac authorization = some (mac.sum secret subject.transcript) ∧
      ∃ mom, subject.timestamp = toString mom ∧
        clock.unix - maximumClockSkew ≤ mom ∧ mom ≤ clock.unix + maximumClockSkew := by
  unfold validProof at ha
  split at ha
  case h_1 => cases ha
  case h_2 mom parsed =>
    split_ifs at ha with o hou
    split at ha
    case h_1 => cases ha
    case h_2 tag found =>
      rw [not_or, Int.not_lt, Int.not_lt] at hou
      exact ⟨(of_decide_eq_true ha) ▸ found, mom, (not_not.mp o).symm,
        within_skew clock hou.1 hou.2⟩

/-- A proof is good for the subject it was made for, and near its time. -/
theorem proof_binds {mac : Mac τ} {secret : List UInt8}
    (ideal : Function.Injective (mac.sum secret)) {made used : Subject} (valid : made.Valid)
    (valid' : used.Valid) (clock : Clock) (authorization : List Char) :
    (made.transcript = used.transcript → made = used) ∧
    (validProof mac secret clock used authorization →
      (provided mac authorization = some (mac.sum secret made.transcript) → made = used) ∧
      ∃ moment : Int, used.timestamp = toString moment ∧
        clock.unix - maximumClockSkew ≤ moment ∧ moment ≤ clock.unix + maximumClockSkew) := by
  refine ⟨transcript_inj valid valid', fun accepted => ?_⟩
  obtain ⟨checked, near⟩ := validProof_spec accepted
  refine ⟨fun presented => transcript_inj valid valid' (ideal ?_), near⟩
  exact Option.some.inj (presented.symm.trans checked)

end Verify

/-- A MAC that keeps the whole transcript. -/
def plainMac : Mac (List UInt8) := ⟨fun _ message => message, fun text => some (utf8 (.ofList text))⟩

theorem proof_binds_session :
    let made : Subject := ⟨"a", "ses_1", "100"⟩
    let used : Subject := ⟨"a", "ses_2", "100"⟩
    made.Valid ∧ used.Valid ∧ made.transcript ≠ used.transcript := by
  have valid : Subject.Valid ⟨"a", "ses_1", "100"⟩ := by
    simp only [Subject.Valid, validExternalSessionID, Bool.and_eq_true, String.startsWith_string_iff]
    decide
  have valid' : Subject.Valid ⟨"a", "ses_2", "100"⟩ := by
    simp only [Subject.Valid, validExternalSessionID, Bool.and_eq_true, String.startsWith_string_iff]
    decide
  refine ⟨valid, valid', fun same => ?_⟩
  have ideal : Function.Injective (plainMac.sum []) := fun _ _ => id
  have := (proof_binds ideal valid valid' ⟨100, by decide, by decide⟩ []).1 same
  simp at this

end AISummoner.OpencodeBridge
