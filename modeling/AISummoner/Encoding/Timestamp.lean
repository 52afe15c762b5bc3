import AISummoner.Encoding.Json

/-! # Moments as texts

RFC 3339 texts of moments in UTC with up to nine digits after the second, whose
last zeros are left out.  Moments are nanoseconds.  The texts are ordered as the
moments are as long as they have the same number of these digits.
-/

namespace AISummoner.Encoding

def padded : Nat → Nat → List Char
  | 0, _ => []
  | width + 1, number => padded width (number / 10) ++ [Nat.digitChar (number % 10)]

/-- Leave out the last zeros of a number with `width` digits. -/
def withoutZeros : Nat → Nat → Nat × Nat
  | 0, number => (0, number)
  | width + 1, number =>
    if number % 10 = 0 then withoutZeros width (number / 10) else (width + 1, number)

/-! ## The calendar -/

def daysBefore (year : Nat) : Nat :=
  365 * year + (year + 3) / 4 - (year + 99) / 100 + (year + 399) / 400

def yearOf (day : Nat) : Nat := Nat.findGreatest (fun year => daysBefore year ≤ day) (day / 365)

def dayOfYear (day : Nat) : Nat := day - daysBefore (yearOf day)

def monthLengths (year : Nat) : List Nat :=
  [31, daysBefore (year + 1) - daysBefore year - 337, 31, 30, 31, 30, 31, 31, 30, 31, 30, 31]

/-- The months that are over, and the days of the next one. -/
def monthDay : List Nat → Nat → Nat × Nat
  | [], day => (0, day)
  | length :: lengths, day =>
    if day < length then (0, day)
    else ((monthDay lengths (day - length)).1 + 1, (monthDay lengths (day - length)).2)

def dateText (day : Nat) : List Char :=
  let year := yearOf day
  let date := monthDay (monthLengths year) (dayOfYear day)
  (if year < 10000 then padded 4 year else Nat.toDigits 10 year) ++
    '-' :: padded 2 (date.1 + 1) ++ '-' :: padded 2 (date.2 + 1)

/-! ## The time of day -/

def fractionText (nanosecond : Nat) : List Char :=
  let (width, digits) := withoutZeros 9 nanosecond
  if width = 0 then [] else '.' :: padded width digits

def clockText (nanosecond : Nat) : List Char :=
  let second := nanosecond / 1000000000
  padded 2 (second / 3600) ++ ':' :: padded 2 (second / 60 % 60) ++ ':' :: padded 2 (second % 60) ++
    fractionText (nanosecond % 1000000000)

def dayLength : Nat := 86400000000000

/-- The nanoseconds since the year zero of a moment given since 1970. -/
def sinceYearZero (moment : Int) : Nat := (moment + 719528 * dayLength).toNat

def rfc3339Nano (moment : Int) : String :=
  let nanosecond := sinceYearZero moment
  String.ofList (dateText (nanosecond / dayLength) ++ 'T' :: clockText (nanosecond % dayLength) ++
    ['Z'])

example : rfc3339Nano 1709210096123400000 = "2024-02-29T12:34:56.1234Z" := by decide +kernel

def fractionWidth (moment : Int) : Nat :=
  (withoutZeros 9 (sinceYearZero moment % dayLength % 1000000000)).1

def Dated (moment : Int) : Prop :=
  0 ≤ moment + 719528 * dayLength ∧ yearOf (sinceYearZero moment / dayLength) < 10000

/-! ## Order of the texts -/

variable {a b width : Nat} {rest rest' : List Char}

theorem digitChar_lt : ∀ b < 10, ∀ a < b, Nat.digitChar a < Nat.digitChar b := by decide

theorem padded_lt (lt : a < b) (hbd : b < 10 ^ width) :
    padded width a ++ rest < padded width b ++ rest' := by
  induction width generalizing a b rest rest' with
  | zero => omega
  | succ width ih =>
    simp only [padded, List.append_assoc, List.singleton_append]
    rw [Nat.pow_succ] at hbd
    by_cases h : a / 10 = b / 10
    · rw [h]
      apply List.append_left_lt
      exact List.cons_lt_cons_iff.mpr (.inl (digitChar_lt _ (by omega) _ (by omega)))
    · exact ih (by omega) (by omega)

theorem padded_le (le : a ≤ b) (hbd : b < 10 ^ width) (tie : a = b → rest < rest') :
    padded width a ++ rest < padded width b ++ rest' := by
  rcases Nat.lt_or_eq_of_le le with lt | h
  · exact padded_lt lt hbd
  · rw [h]
    exact List.append_left_lt (tie h)

theorem withoutZeros_spec (width n : Nat) (hbd : n < 10 ^ width) :
    (withoutZeros width n).1 ≤ width ∧
      n = (withoutZeros width n).2 * 10 ^ (width - (withoutZeros width n).1) ∧
      (withoutZeros width n).2 < 10 ^ (withoutZeros width n).1 := by
  induction width generalizing n with
  | zero => simp [withoutZeros] at hbd ⊢; omega
  | succ width ih =>
    unfold withoutZeros
    split
    · next zero =>
      obtain ⟨hw, hn, hb⟩ := ih (n / 10) (by rw [Nat.pow_succ] at hbd; omega)
      refine ⟨by omega, ?_, hb⟩
      rw [Nat.succ_sub hw, Nat.pow_succ, ← Nat.mul_assoc, ← hn]
      omega
    · simpa using hbd

theorem fractionText_lt (lt : a < b) (hbd : b < 1000000000)
    (h : (withoutZeros 9 a).1 = (withoutZeros 9 b).1) :
    fractionText a ++ rest < fractionText b ++ rest' := by
  obtain ⟨-, ha, ha'⟩ := withoutZeros_spec 9 a (by omega)
  obtain ⟨-, hb, hb'⟩ := withoutZeros_spec 9 b (by omega)
  simp only [h] at ha ha'
  simp only [fractionText, h]
  split
  · next none =>
    simp only [none, Nat.pow_zero] at ha' hb'
    rw [ha, hb, Nat.lt_one_iff.mp ha', Nat.lt_one_iff.mp hb'] at lt
    omega
  · have : (withoutZeros 9 a).2 < (withoutZeros 9 b).2 :=
      Nat.lt_of_mul_lt_mul_right (ha ▸ lt.trans_eq hb)
    exact List.cons_lt_cons_iff.mpr (.inr ⟨rfl, padded_lt this hb'⟩)

theorem clockText_lt (lt : a < b) (hbd : b < dayLength)
    (h : (withoutZeros 9 (a % 1000000000)).1 = (withoutZeros 9 (b % 1000000000)).1) :
    clockText a ++ rest < clockText b ++ rest' := by
  unfold dayLength at hbd
  simp only [clockText, List.append_assoc, List.cons_append]
  refine padded_le (by omega) (by omega) fun _ => List.cons_lt_cons_iff.mpr (.inr ⟨rfl, ?_⟩)
  refine padded_le (by omega) (by omega) fun _ => List.cons_lt_cons_iff.mpr (.inr ⟨rfl, ?_⟩)
  refine padded_le (by omega) (by omega) fun _ => ?_
  exact fractionText_lt (by omega) (by omega) h

theorem daysBefore_mono : Monotone daysBefore := by
  apply monotone_nat_of_le_succ
  intro _
  unfold daysBefore
  omega

theorem yearOf_spec (day : Nat) :
    daysBefore (yearOf day) ≤ day ∧ day < daysBefore (yearOf day + 1) := by
  constructor
  · apply @Nat.findGreatest_spec 0 (fun year => daysBefore year ≤ day) _ _ (Nat.zero_le _)
    simp [daysBefore]
  · by_contra late
    have hk' : yearOf day < yearOf day + 1 := Nat.lt_succ_self _
    refine Nat.findGreatest_is_greatest hk' ?_ (Nat.not_lt.mp late)
    unfold daysBefore at late
    omega

theorem yearOf_mono (lt : a < b) : yearOf a ≤ yearOf b := by
  by_contra before
  have years := daysBefore_mono (Nat.not_le.mp before)
  have ha := (yearOf_spec a).1
  have hb := (yearOf_spec b).2
  simp only [Nat.succ_eq_add_one] at years
  omega

theorem monthDay_lt (lengths : List Nat) (lt : a < b) :
    (monthDay lengths a).1 < (monthDay lengths b).1 ∨
      (monthDay lengths a).1 = (monthDay lengths b).1 ∧
        (monthDay lengths a).2 < (monthDay lengths b).2 := by
  induction lengths generalizing a b with
  | nil => exact .inr ⟨rfl, lt⟩
  | cons len lengths ih =>
    unfold monthDay
    by_cases hb : b < len
    · simp [hb, lt.trans hb, lt]
    by_cases ha : a < len
    · simp [ha, hb]
    · have := ih (a := a - len) (b := b - len) (by omega)
      simp only [ha, hb, if_false]
      omega

theorem monthDay_le {lengths : List Nat} (short : ∀ len ∈ lengths, len ≤ 31)
    (hwi : a < lengths.sum) :
    (monthDay lengths a).1 < lengths.length ∧ (monthDay lengths a).2 < 31 := by
  induction lengths generalizing a with
  | nil => simp at hwi
  | cons len lengths ih =>
    simp only [List.mem_cons, forall_eq_or_imp, List.sum_cons] at short hwi
    unfold monthDay
    split
    · simp
      omega
    · have := ih (a := a - len) short.2 (by omega)
      simp only [List.length_cons]
      omega

theorem dayOfYear_date (day : Nat) : (monthDay (monthLengths (yearOf day)) (dayOfYear day)).1 < 12 ∧
      (monthDay (monthLengths (yearOf day)) (dayOfYear day)).2 < 31 := by
  have spec := yearOf_spec day
  apply monthDay_le
  · simp only [monthLengths, List.mem_cons, List.not_mem_nil, or_false, forall_eq_or_imp, forall_eq]
    unfold daysBefore
    omega
  · simp only [monthLengths, List.sum_cons, List.sum_nil, dayOfYear]
    unfold daysBefore at spec ⊢
    omega

theorem dateText_lt (lt : a < b) (hbd : yearOf b < 10000) :
    dateText a ++ rest < dateText b ++ rest' := by
  have years := yearOf_mono lt
  have date := dayOfYear_date b
  have start := yearOf_spec a
  simp only [dateText, hbd, years.trans_lt hbd, if_true, List.append_assoc, List.cons_append]
  refine padded_le years (by omega) fun year => List.cons_lt_cons_iff.mpr (.inr ⟨rfl, ?_⟩)
  have days : dayOfYear a < dayOfYear b := by
    simp only [dayOfYear, ← year]
    omega
  have next := monthDay_lt (monthLengths (yearOf b)) days
  rw [year]
  refine padded_le (by omega) (by omega) fun _ => List.cons_lt_cons_iff.mpr (.inr ⟨rfl, ?_⟩)
  exact padded_lt (by omega) (by omega)

theorem rfc3339Nano_lt {mom moment' : Int} (dated : Dated mom) (dated' : Dated moment')
    (h : fractionWidth mom = fractionWidth moment') (lt : mom < moment') :
    rfc3339Nano mom < rfc3339Nano moment' := by
  have hk' : sinceYearZero mom < sinceYearZero moment' := by
    have := dated.1
    unfold sinceYearZero
    omega
  simp only [rfc3339Nano, String.lt_iff_toList_lt, String.toList_ofList, List.append_assoc,
    List.cons_append]
  by_cases day : sinceYearZero mom / dayLength = sinceYearZero moment' / dayLength
  · rw [day]
    apply List.append_left_lt
    refine List.cons_lt_cons_iff.mpr (.inr ⟨rfl, clockText_lt ?_ (Nat.mod_lt _ (by decide)) h⟩)
    unfold dayLength at day ⊢
    omega
  · apply dateText_lt _ dated'.2
    unfold dayLength at day ⊢
    omega

theorem rfc3339Nano_lt_iff {mom moment' : Int} (dated : Dated mom) (dated' : Dated moment')
    (h : fractionWidth mom = fractionWidth moment') :
    rfc3339Nano mom < rfc3339Nano moment' ↔ mom < moment' := by
  refine ⟨fun lt => ?_, rfc3339Nano_lt dated dated' h⟩
  rcases lt_trichotomy mom moment' with pre | rfl | k'
  · exact pre
  · exact absurd lt (lt_irrefl _)
  · exact absurd lt (rfc3339Nano_lt dated' dated h.symm k').asymm

theorem length_padded (width n : Nat) : (padded width n).length = width := by
  induction width generalizing n with
  | zero => rfl
  | succ width ih => simp [padded, ih]

theorem single_padded (width n : Nat) : ∀ char ∈ padded width n, char.utf8Size = 1 := by
  have hdgt : ∀ v < 10, (Nat.digitChar v).utf8Size = 1 := by decide
  induction width generalizing n with
  | zero => simp [padded]
  | succ width ih =>
    simp only [padded, List.forall_mem_append, List.forall_mem_singleton]
    exact ⟨ih _, hdgt _ (Nat.mod_lt _ (by decide))⟩

theorem fractionText_spec {nanosecond : Nat} (hbd : nanosecond < 1000000000) :
    (fractionText nanosecond).length ≤ 10 ∧
      ∀ char ∈ fractionText nanosecond, char.utf8Size = 1 := by
  have width := (withoutZeros_spec 9 nanosecond hbd).1
  simp only [fractionText]
  split
  · simp
  · simp only [List.length_cons, length_padded, List.forall_mem_cons]
    exact ⟨by omega, by decide, single_padded _ _⟩

theorem utf8ByteSize_rfc3339Nano {mom : Int} (dated : Dated mom) :
    (rfc3339Nano mom).utf8ByteSize ≤ 30 := by
  obtain ⟨_, _⟩ := fractionText_spec
    (Nat.mod_lt (sinceYearZero mom % dayLength) (by decide : 1000000000 > 0))
  rw [← length_encodeRunes_toList, length_encodeRunes_of_single]
  · simp only [rfc3339Nano, dateText, clockText, dated.2, if_true, String.toList_ofList,
      List.length_append, List.length_cons, List.length_nil, length_padded]
    omega
  · simp only [rfc3339Nano, dateText, clockText, dated.2, if_true, String.toList_ofList,
      List.forall_mem_append, List.forall_mem_cons]
    have marks : '-'.utf8Size = 1 ∧ 'T'.utf8Size = 1 ∧ ':'.utf8Size = 1 ∧ 'Z'.utf8Size = 1 := by
      decide
    grind [single_padded]

end AISummoner.Encoding
