import AISummoner.Encoding.Json
import AISummoner.Store.Agent

/-! # Pairing codes

`Normalize` of `pairing/service.go` works on the runes of a string, and one rune beyond ASCII
has its upper case in the alphabet of the codes: the long s.
-/

namespace AISummoner.Pairing

open Encoding
open Store (trimSpace isSpace)

def codeLength : Nat := 8
def codeAlphabet : List Char := "ABCDEFGHJKLMNPQRSTUVWXYZ23456789".toList

/-- `unicode.ToUpper`, of which no more is said than what becomes ASCII. -/
structure UpperCase where
  toUpper : Char → Char
  ascii : ∀ {rune : Char}, rune.toNat < 128 → toUpper rune = rune.toUpper
  beyond : ∀ {rune : Char}, 128 ≤ rune.toNat → rune ≠ 'ı' → rune ≠ 'ſ' →
    128 ≤ (toUpper rune).toNat
  dotless : toUpper 'ı' = 'I'
  long : toUpper 'ſ' = 'S'

variable (upper : UpperCase)

/-- The runes without white space at the ends and without dashes. -/
def stripped (code : List UInt8) : List Char := (trimSpace (decodeRunes code)).filter (· ≠ '-')

/-- `Normalize` -/
def normalize (code : List UInt8) : Option (List UInt8) :=
  let normalized := (stripped code).map upper.toUpper
  if (encodeRunes normalized).length ≠ codeLength then none
  else if !normalized.all codeAlphabet.contains then none
  else some (encodeRunes normalized)

def generateCode (random : Fin codeLength → UInt8) : List Char :=
  List.ofFn fun index => codeAlphabet.getD ((random index).toNat &&& (codeAlphabet.length - 1)) 'A'

/-- The code `Offer` shows, and the digest it stores. -/
def offer {δ : Type} (digest : List UInt8 → δ) (random : Fin codeLength → UInt8) :
    List UInt8 × δ :=
  let code := generateCode random
  (encodeRunes (code.take 4 ++ ['-'] ++ code.drop 4), digest (encodeRunes code))

/-! ## The grammar of codes -/

/-- A character of a code as it may be typed. -/
def Typed (rune : Char) : Prop := rune.toUpper ∈ codeAlphabet ∨ rune = 'ſ'

def upperCase (rune : Char) : Char := if rune = 'ſ' then 'S' else rune.toUpper

theorem alphabet_spec {rune : Char} (mem : rune ∈ codeAlphabet) : rune.toNat < 128 ∧
    rune.utf8Size = 1 ∧ rune.toUpper = rune ∧ isSpace rune = false ∧ rune ≠ '-' := by
  have all : codeAlphabet.all fun rune => rune.toNat < 128 ∧ rune.utf8Size = 1 ∧
      rune.toUpper = rune ∧ isSpace rune = false ∧ rune ≠ '-' := by
    decide +kernel
  exact of_decide_eq_true (List.all_eq_true.mp all rune mem)

theorem toUpper_of_large {rune : Char} (large : 128 ≤ rune.toNat) : rune.toUpper = rune := by
  refine dif_neg fun lower => ?_
  have := UInt32.le_iff_toNat_le.mp lower.2
  simp only [Char.toNat] at large
  exact absurd (this.trans (by decide)) (Nat.not_le.mpr large)

variable {upper}

theorem toUpper_mem_iff {rune : Char} : upper.toUpper rune ∈ codeAlphabet ↔ Typed rune := by
  by_cases small : rune.toNat < 128
  · have ho : rune ≠ 'ſ' := by
      rintro rfl
      exact absurd small (by decide)
    rw [upper.ascii small, Typed, or_iff_left ho]
  rw [Nat.not_lt] at small
  rw [Typed, toUpper_of_large small]
  constructor
  · intro mem
    by_contra none
    rw [not_or] at none
    by_cases dotless : rune = 'ı'
    · rw [dotless, upper.dotless] at mem
      exact absurd mem (by decide)
    · have := upper.beyond small dotless none.2
      have := (alphabet_spec mem).1
      omega
  · rintro (mem | rfl)
    · have := (alphabet_spec mem).1
      omega
    · rw [upper.long]
      decide

theorem toUpper_of_typed {rune : Char} (typed : Typed rune) :
    upper.toUpper rune = upperCase rune := by
  unfold upperCase
  split
  case isTrue long => rw [long, upper.long]
  case isFalse other =>
    have small := (alphabet_spec (typed.resolve_right other)).1
    refine upper.ascii ?_
    by_contra large
    rw [toUpper_of_large (Nat.not_lt.mp large)] at small
    exact large small

theorem normalize_iff {code res : List UInt8} : normalize upper code = some res ↔
    (stripped code).length = codeLength ∧ (∀ rune ∈ stripped code, Typed rune) ∧
      res = encodeRunes ((stripped code).map upperCase) := by
  have fits : (((stripped code).map upper.toUpper).all codeAlphabet.contains) = true ↔
      ∀ rune ∈ stripped code, Typed rune := by
    simp [← @toUpper_mem_iff upper]
  have h (typed : ∀ rune ∈ stripped code, Typed rune) :
      (stripped code).map upper.toUpper = (stripped code).map upperCase :=
    List.map_congr_left fun rune mem => toUpper_of_typed (typed rune mem)
  have size (typed : ∀ rune ∈ stripped code, Typed rune) :
      (encodeRunes ((stripped code).map upper.toUpper)).length = (stripped code).length := by
    rw [length_encodeRunes_of_single, List.length_map]
    intro rune mem
    obtain ⟨src, hf, rfl⟩ := List.mem_map.mp mem
    exact (alphabet_spec (toUpper_mem_iff.mpr (typed src hf))).2.1
  simp only [normalize]
  constructor
  · intro ha
    split_ifs at ha with long ho
    rw [Bool.not_eq_true, Bool.not_eq_false', fits] at ho
    rw [not_not, size ho] at long
    exact ⟨long, ho, h ho ▸ (Option.some.inj ha).symm⟩
  · rintro ⟨long, typed, rfl⟩
    rw [if_neg (by rw [size typed]; simpa using long), if_neg (by simp [fits.mpr typed]), h typed]

theorem trimSpace_of_words {rn : List Char} (hws : ∀ rune ∈ rn, isSpace rune = false) :
    trimSpace rn = rn := by
  have drop {list : List Char} (none : ∀ rune ∈ list, isSpace rune = false) :
      list.dropWhile isSpace = list := by
    cases list with
    | nil => rfl
    | cons rune _ => simp [List.dropWhile, none rune (by simp)]
  rw [trimSpace, drop hws, drop (by simpa using hws), List.reverse_reverse]

theorem normalize_code {code : List Char} {sh : List Char}
    (letters : ∀ rune ∈ code, rune ∈ codeAlphabet) (hlen : code.length = codeLength)
    (dashed : sh.filter (· ≠ '-') = code) :
    normalize upper (encodeRunes sh) = some (encodeRunes code) := by
  have mem {rune : Char} (mem : rune ∈ sh) : rune = '-' ∨ rune ∈ codeAlphabet := by
    by_cases dash : rune = '-'
    · exact .inl dash
    · exact .inr (letters rune (dashed ▸ List.mem_filter.mpr ⟨mem, by simpa using dash⟩))
  have strip : stripped (encodeRunes sh) = code := by
    rw [stripped, decodeRunes_encodeRunes, trimSpace_of_words, dashed]
    intro rune hf
    rcases mem hf with rfl | lt'
    · decide
    · exact (alphabet_spec lt').2.2.2.1
  have typed {rune : Char} (hf : rune ∈ code) : Typed rune ∧ upperCase rune = rune := by
    have spec := alphabet_spec (letters rune hf)
    have ho : rune ≠ 'ſ' := by
      rintro rfl
      exact absurd spec.1 (by decide)
    exact ⟨.inl (spec.2.2.1.symm ▸ letters rune hf), (if_neg ho).trans spec.2.2.1⟩
  rw [normalize_iff, strip]
  refine ⟨hlen, fun rune hf => (typed hf).1, ?_⟩
  rw [List.map_congr_left fun rune hf => (typed hf).2, List.map_id']

theorem generateCode_letters (random : Fin codeLength → UInt8) :
    ∀ rune ∈ generateCode random, rune ∈ codeAlphabet := by
  intro rune mem
  obtain ⟨ix, rfl⟩ := List.mem_ofFn.mp mem
  have hbd : (random ix).toNat &&& (codeAlphabet.length - 1) < codeAlphabet.length :=
    Nat.lt_of_le_of_lt Nat.and_le_right (by decide)
  rw [List.getD_eq_getElem _ _ hbd]
  exact List.getElem_mem hbd

theorem filter_letters {rn : List Char} (letters : ∀ rune ∈ rn, rune ∈ codeAlphabet) :
    rn.filter (· ≠ '-') = rn :=
  List.filter_eq_self.mpr fun rune mem => by
    simpa using (alphabet_spec (letters rune mem)).2.2.2.2

/-- What `Normalize` accepts and returns, that it is idempotent, and that it finds the code
    behind an offer. -/
theorem codes_normalized {δ : Type} (digest : List UInt8 → δ) (upper : UpperCase) :
    (∀ code result, normalize upper code = some result ↔
      (stripped code).length = codeLength ∧ (∀ rune ∈ stripped code, Typed rune) ∧
        result = encodeRunes ((stripped code).map upperCase)) ∧
    (∀ code result, normalize upper code = some result → normalize upper result = some result) ∧
    (∀ random, normalize upper (offer digest random).1 = some (encodeRunes (generateCode random)) ∧
      (offer digest random).2 = digest (encodeRunes (generateCode random))) := by
  refine ⟨fun code result => normalize_iff, ?_, fun random => ⟨?_, rfl⟩⟩
  · intro code result accepted
    obtain ⟨length, typed, rfl⟩ := normalize_iff.mp accepted
    have letters : ∀ rune ∈ (stripped code).map upperCase, rune ∈ codeAlphabet := by
      intro rune mem
      obtain ⟨source, found, rfl⟩ := List.mem_map.mp mem
      rw [← @toUpper_of_typed upper _ (typed source found)]
      exact toUpper_mem_iff.mpr (typed source found)
    exact normalize_code letters (by simpa using length) (filter_letters letters)
  · have letters := generateCode_letters random
    refine normalize_code letters List.length_ofFn ?_
    have dash : ['-'].filter (· ≠ '-') = [] := by decide
    rw [List.filter_append, List.filter_append, dash, List.append_nil, ← List.filter_append,
      List.take_append_drop, filter_letters letters]

/-- The case table of ASCII and the two letters below it. -/
def smallCase : UpperCase where
  toUpper rune := if rune = 'ı' then 'I' else if rune = 'ſ' then 'S' else rune.toUpper
  ascii := by
    intro rune small
    rw [if_neg, if_neg]
    all_goals
      rintro rfl
      exact absurd small (by decide)
  beyond := by
    intro rune large dotless long
    rw [if_neg dotless, if_neg long, toUpper_of_large large]
    exact large
  dotless := rfl
  long := rfl

/-- A code with a long s is accepted, although not all of it is ASCII. -/
theorem normalize_long_s : normalize smallCase (utf8 "ſ2345678") = some (utf8 "S2345678") ∧
    (stripped (utf8 "ſ2345678")).any (128 ≤ ·.toNat) := by
  decide +kernel

end AISummoner.Pairing
