import Mathlib

/-! # Base64 without padding

The standard alphabet, as bytes.  The strict decoder refuses bits of the last digit that
belong to no byte, but it skips line breaks, so that a text is the encoding of its value only
if it holds none.
-/

namespace AISummoner.Encoding.Base64

def symbol (digit : Nat) : UInt8 :=
  if digit < 26 then .ofNat (65 + digit)
  else if digit < 52 then .ofNat (71 + digit)
  else if digit < 62 then .ofNat (digit - 4)
  else if digit = 62 then 43
  else 47

def digit (byte : UInt8) : Option Nat :=
  let code := byte.toNat
  if 65 ≤ code ∧ code ≤ 90 then some (code - 65)
  else if 97 ≤ code ∧ code ≤ 122 then some (code - 71)
  else if 48 ≤ code ∧ code ≤ 57 then some (code + 4)
  else if code = 43 then some 62
  else if code = 47 then some 63
  else none

def encode : List UInt8 → List UInt8
  | [] => []
  | [a] => [symbol (a.toNat / 4), symbol (a.toNat % 4 * 16)]
  | [a, b] =>
    [symbol (a.toNat / 4), symbol (a.toNat % 4 * 16 + b.toNat / 16), symbol (b.toNat % 16 * 4)]
  | a :: b :: c :: rest =>
    symbol (a.toNat / 4) :: symbol (a.toNat % 4 * 16 + b.toNat / 16) ::
      symbol (b.toNat % 16 * 4 + c.toNat / 64) :: symbol (c.toNat % 64) :: encode rest

def isBreak (byte : UInt8) : Bool := byte == 10 || byte == 13

def decodeDigits : List UInt8 → Option (List UInt8)
  | [] => some []
  | [_] => none
  | [p, q] => do
    let p ← digit p
    let q ← digit q
    if q % 16 = 0 then some [.ofNat (p * 4 + q / 16)] else none
  | [p, q, r] => do
    let p ← digit p
    let q ← digit q
    let r ← digit r
    if r % 4 = 0 then some [.ofNat (p * 4 + q / 16), .ofNat (q % 16 * 16 + r / 4)] else none
  | p :: q :: r :: s :: rest => do
    let p ← digit p
    let q ← digit q
    let r ← digit r
    let s ← digit s
    let rest ← decodeDigits rest
    some (.ofNat (p * 4 + q / 16) :: .ofNat (q % 16 * 16 + r / 4) :: .ofNat (r % 4 * 64 + s) :: rest)

/-- `RawStdEncoding.Strict().DecodeString` -/
def decode (text : List UInt8) : Option (List UInt8) := decodeDigits (text.filter (!isBreak ·))

variable {byte : UInt8} {n : Nat} {bs text : List UInt8}

theorem digit_symbol (small : n < 64) : digit (symbol n) = some n := by
  have all : (List.range 64).all fun n => digit (symbol n) = some n := by
    decide +kernel
  exact of_decide_eq_true (List.all_eq_true.mp all n (List.mem_range.mpr small))

theorem symbol_of_digit (hf : digit byte = some n) : n < 64 ∧ symbol n = byte := by
  have all : (List.range 256).all fun code => match digit (.ofNat code) with
      | none => true
      | some n => decide (n < 64 ∧ symbol n = .ofNat code) := by
    decide +kernel
  have spec := List.all_eq_true.mp all byte.toNat (List.mem_range.mpr byte.toNat_lt)
  rw [UInt8.ofNat_toNat, hf] at spec
  exact of_decide_eq_true spec

theorem digit_of_mem_encode (mem : byte ∈ encode bs) : (digit byte).isSome := by
  have spec {n : Nat} (small : n < 64) : (digit (symbol n)).isSome := by
    simp [digit_symbol small]
  fun_induction encode bs <;> grind [UInt8.toNat_lt]

theorem ofNat_eq (byte : UInt8) (h : n = byte.toNat) : UInt8.ofNat n = byte := by
  rw [h, UInt8.ofNat_toNat]

theorem decodeDigits_encode (bs : List UInt8) : decodeDigits (encode bs) = some bs := by
  have spec := @digit_symbol
  fun_induction encode bs with
  | case1 => rfl
  | case2 a =>
    have := a.toNat_lt
    rw [decodeDigits, spec (by omega), spec (by omega)]
    simp only [Option.bind_eq_bind, Option.bind_some]
    rw [if_pos (by omega), ofNat_eq a (by omega)]
  | case3 a b =>
    have := a.toNat_lt
    have := b.toNat_lt
    rw [decodeDigits, spec (by omega), spec (by omega), spec (by omega)]
    simp only [Option.bind_eq_bind, Option.bind_some]
    rw [if_pos (by omega), ofNat_eq a (by omega), ofNat_eq b (by omega)]
  | case4 a b c _ ih =>
    have := a.toNat_lt
    have := b.toNat_lt
    have := c.toNat_lt
    rw [decodeDigits, spec (by omega), spec (by omega), spec (by omega), spec (by omega), ih]
    simp only [Option.bind_eq_bind, Option.bind_some]
    rw [ofNat_eq a (by omega), ofNat_eq b (by omega), ofNat_eq c (by omega)]

theorem decode_encode (bs : List UInt8) : decode (encode bs) = some bs := by
  have kept : (encode bs).filter (!isBreak ·) = encode bs := by
    refine List.filter_eq_self.mpr fun _ mem => ?_
    have hf := digit_of_mem_encode mem
    simp only [isBreak, Bool.not_eq_true', Bool.or_eq_false_iff, beq_eq_false_iff_ne]
    constructor <;> rintro rfl <;> cases hf
  rw [decode, kept, decodeDigits_encode]

theorem encode_of_decodeDigits (f : decodeDigits text = some bs) : encode bs = text := by
  fun_induction decodeDigits text generalizing bs with
  | case1 =>
    cases f
    rfl
  | case2 => cases f
  | case3 p q =>
    simp only [Option.bind_eq_bind, Option.bind_eq_some_iff] at f
    obtain ⟨p', hp, q', hq, f⟩ := f
    obtain ⟨smallP, rfl⟩ := symbol_of_digit hp
    obtain ⟨smallQ, rfl⟩ := symbol_of_digit hq
    split_ifs at f with clear
    cases f
    simp only [encode, UInt8.toNat_ofNat', List.cons.injEq, and_true]
    exact ⟨congrArg symbol (by omega), congrArg symbol (by omega)⟩
  | case4 p q r =>
    simp only [Option.bind_eq_bind, Option.bind_eq_some_iff] at f
    obtain ⟨p', hp, q', hq, r', hr, f⟩ := f
    obtain ⟨smallP, rfl⟩ := symbol_of_digit hp
    obtain ⟨smallQ, rfl⟩ := symbol_of_digit hq
    obtain ⟨smallR, rfl⟩ := symbol_of_digit hr
    split_ifs at f with clear
    cases f
    simp only [encode, UInt8.toNat_ofNat', List.cons.injEq, and_true]
    exact ⟨congrArg symbol (by omega), congrArg symbol (by omega), congrArg symbol (by omega)⟩
  | case5 p q r s _ ih =>
    simp only [Option.bind_eq_bind, Option.bind_eq_some_iff] at f
    obtain ⟨p', hp, q', hq, r', hr, _, hs, _, read, f⟩ := f
    obtain ⟨smallP, rfl⟩ := symbol_of_digit hp
    obtain ⟨smallQ, rfl⟩ := symbol_of_digit hq
    obtain ⟨smallR, rfl⟩ := symbol_of_digit hr
    obtain ⟨_, rfl⟩ := symbol_of_digit hs
    cases f
    simp only [encode, UInt8.toNat_ofNat', List.cons.injEq, ih read, and_true]
    exact ⟨congrArg symbol (by omega), congrArg symbol (by omega), congrArg symbol (by omega),
      congrArg symbol (by omega)⟩

theorem encode_of_decode (hf : decode text = some bs)
    (unbroken : ∀ byte ∈ text, isBreak byte = false) : encode bs = text := by
  have kept : text.filter (!isBreak ·) = text :=
    List.filter_eq_self.mpr fun byte mem => by simp [unbroken byte mem]
  rw [decode, kept] at hf
  exact encode_of_decodeDigits hf

end AISummoner.Encoding.Base64
