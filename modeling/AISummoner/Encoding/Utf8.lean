import Mathlib

/-! # Lossy UTF-8

A byte string read rune by rune, as text libraries do that never fail: a byte
that starts no well-formed sequence becomes one replacement character.  On
well-formed input this is the ordinary decoding.
-/

namespace AISummoner.Encoding

def replacementChar : Char := Char.ofNat 0xFFFD

/-- The first rune of a nonempty byte string, and the bytes after it. -/
def decodeRune (bytes : List UInt8) : Char × List UInt8 :=
  match bytes.toByteArray.utf8DecodeChar? 0 with
  | some rune => (rune, bytes.drop rune.utf8Size)
  | none => (replacementChar, bytes.tail)

/-- Every rune consumes a byte, so `fuel` need not exceed the length. -/
def decodeRunesWith : Nat → List UInt8 → List Char
  | 0, _ => []
  | _ + 1, [] => []
  | fuel + 1, byte :: bytes =>
    let (rune, rest) := decodeRune (byte :: bytes)
    rune :: decodeRunesWith fuel rest

def decodeRunes (bytes : List UInt8) : List Char := decodeRunesWith bytes.length bytes

def encodeRunes (runes : List Char) : List UInt8 := runes.flatMap String.utf8EncodeChar

@[simp] theorem encodeRunes_nil : encodeRunes [] = [] := rfl

@[simp] theorem encodeRunes_cons (rune : Char) (rn : List Char) :
    encodeRunes (rune :: rn) = String.utf8EncodeChar rune ++ encodeRunes rn := rfl

@[simp] theorem encodeRunes_append (a b : List Char) :
    encodeRunes (a ++ b) = encodeRunes a ++ encodeRunes b := by
  simp [encodeRunes]

theorem decodeRune_encode (rune : Char) (rest : List UInt8) :
    decodeRune (String.utf8EncodeChar rune ++ rest) = (rune, rest) := by
  unfold decodeRune
  rw [List.toByteArray_append, ByteArray.utf8DecodeChar?_utf8EncodeChar_append]
  simp only
  rw [← String.length_utf8EncodeChar, List.drop_left]

theorem utf8EncodeChar_ne_nil (rune : Char) : String.utf8EncodeChar rune ≠ [] := by
  intro hem
  have size := String.length_utf8EncodeChar rune
  rw [hem] at size
  have hpos := Char.utf8Size_pos rune
  simp at size
  omega

theorem decodeRunesWith_encodeRunes (rn : List Char) (fuel : Nat)
    (enough : (encodeRunes rn).length ≤ fuel) : decodeRunesWith fuel (encodeRunes rn) = rn := by
  induction rn generalizing fuel with
  | nil => cases fuel <;> rfl
  | cons rune rn ih =>
    have hpos : 0 < (String.utf8EncodeChar rune).length :=
      List.length_pos_of_ne_nil (utf8EncodeChar_ne_nil rune)
    simp only [encodeRunes_cons, List.length_append] at enough
    cases fuel with
    | zero => omega
    | succ fuel =>
      have hdc := decodeRune_encode rune (encodeRunes rn)
      rw [encodeRunes_cons]
      -- the recursion looks at the first byte before it decodes
      cases hen : String.utf8EncodeChar rune ++ encodeRunes rn with
      | nil => exact absurd (List.append_eq_nil_iff.mp hen).1 (utf8EncodeChar_ne_nil rune)
      | cons _ _ =>
        rw [hen] at hdc
        simp only [decodeRunesWith, hdc]
        rw [ih fuel (by omega)]

theorem decodeRunes_encodeRunes (rn : List Char) : decodeRunes (encodeRunes rn) = rn :=
  decodeRunesWith_encodeRunes rn _ (Nat.le_refl _)

def utf8 (string : String) : List UInt8 := encodeRunes string.toList

def validString (bytes : List UInt8) : Bool := encodeRunes (decodeRunes bytes) == bytes

theorem validString_iff {bs : List UInt8} : validString bs ↔ ∃ rn, bs = encodeRunes rn := by
  constructor
  · intro hva
    exact ⟨decodeRunes bs, (eq_of_beq hva).symm⟩
  · rintro ⟨rn, rfl⟩
    unfold validString
    rw [decodeRunes_encodeRunes, beq_self_eq_true]

theorem validString_utf8 (string : String) : validString (utf8 string) :=
  validString_iff.mpr ⟨string.toList, rfl⟩

theorem validateUTF8_eq_validString (bs : List UInt8) :
    bs.toByteArray.validateUTF8 = validString bs := by
  rw [Bool.eq_iff_iff, ByteArray.validateUTF8_eq_true_iff, validString_iff]
  constructor
  · rintro ⟨rn, hen⟩
    exact ⟨rn, List.toByteArray_inj.mp hen⟩
  · rintro ⟨rn, rfl⟩
    exact ⟨rn, rfl⟩

/-- A text can be cut between two runes at most three bytes before any place. -/
theorem exists_cut (rn : List Char) {pl : Nat} (hwi : pl ≤ (encodeRunes rn).length) :
    ∃ a, a <+: rn ∧ (encodeRunes a).length ≤ pl ∧ pl ≤ (encodeRunes a).length + 3 := by
  induction rn generalizing pl with
  | nil => exact ⟨[], List.prefix_rfl, Nat.zero_le _, Nat.le_add_right_of_le hwi⟩
  | cons rune rn ih =>
    have size := String.length_utf8EncodeChar rune
    have small := Char.utf8Size_le_four rune
    rw [encodeRunes_cons, List.length_append] at hwi
    by_cases fits : (String.utf8EncodeChar rune).length ≤ pl
    · obtain ⟨a, initial, s, _⟩ :=
        @ih (pl - (String.utf8EncodeChar rune).length) (by omega)
      refine ⟨rune :: a, List.cons_prefix_cons.mpr ⟨rfl, initial⟩, ?_, ?_⟩
      · rw [encodeRunes_cons, List.length_append]
        omega
      · rw [encodeRunes_cons, List.length_append]
        omega
    · -- the place lies inside the first rune
      refine ⟨[], List.nil_prefix, Nat.zero_le _, ?_⟩
      rw [encodeRunes_nil, List.length_nil]
      omega

theorem utf8DecodeChar?_invalid (rest : List UInt8) :
    (0xFF :: rest).toByteArray.utf8DecodeChar? 0 = none := by
  have invalid : ByteArray.utf8DecodeChar?.parseFirstByte 0xFF = .invalid := rfl
  have hne : 0 < (0xFF :: rest).toByteArray.size := by simp
  have head : (0xFF :: rest).toByteArray[0] = 0xFF := by simp
  fun_cases ByteArray.utf8DecodeChar? <;> grind

theorem encodeRunes_ne_invalid (rn : List Char) (rest : List UInt8) :
    encodeRunes rn ≠ 0xFF :: rest := by
  intro hst
  cases rn with
  | nil => cases hst
  | cons _ rn =>
    have hrf := utf8DecodeChar?_invalid rest
    rw [← hst, encodeRunes_cons, List.toByteArray_append,
      ByteArray.utf8DecodeChar?_utf8EncodeChar_append] at hrf
    cases hrf

end AISummoner.Encoding
