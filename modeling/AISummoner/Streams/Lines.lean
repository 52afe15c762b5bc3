import AISummoner.Streams.Scanner

/-! # Lines

Go's `bufio.ScanLines`, and what a scanner makes of a stream of lines that fit its
buffer: exactly the lines of the stream.
-/

namespace AISummoner.Streams

def newline : UInt8 := 10

def carriageReturn : UInt8 := 13

/-- The bytes before the first newline, or all of them. -/
def firstLine (data : List UInt8) : List UInt8 :=
  data.takeWhile (· ≠ newline)

/-- `dropCR`. -/
def dropReturn (line : List UInt8) : List UInt8 :=
  if line.getLast? = some carriageReturn then line.dropLast else line

/-- `ScanLines`. -/
def scanLines : Split UInt8 (List UInt8) := fun data atEnd =>
  if newline ∈ data then some ((firstLine data).length + 1, dropReturn (firstLine data))
  else if atEnd ∧ data ≠ [] then some (data.length, dropReturn data)
  else none

/-- The lines of a stream, each with whether a newline ends it. -/
def segments : List UInt8 → List (List UInt8 × Bool)
  | [] => []
  | byte :: bytes =>
    if byte = newline then ([], true) :: segments bytes
    else match segments bytes with
      | [] => [([byte], false)]
      | (line, ended) :: rest => (byte :: line, ended) :: rest

/-! ## The first line -/

theorem firstLine_cons {byte : UInt8} (ho : byte ≠ newline) (bs : List UInt8) :
    firstLine (byte :: bs) = byte :: firstLine bs := by
  simp [firstLine, ho]

theorem firstLine_newline (bs : List UInt8) : firstLine (newline :: bs) = [] := by
  simp [firstLine]

variable {data : List UInt8}

theorem firstLine_append (cut : newline ∈ data) (more : List UInt8) :
    firstLine (data ++ more) = firstLine data := by
  induction data with
  | nil => cases cut
  | cons byte bs ih =>
    by_cases last : byte = newline
    · rw [last, List.cons_append, firstLine_newline, firstLine_newline]
    · have hk' : newline ∈ bs :=
        (List.mem_cons.mp cut).resolve_left fun h => last h.symm
      rw [List.cons_append, firstLine_cons last, firstLine_cons last, ih hk']

theorem firstLine_append_of_notMem (uncut : newline ∉ data)
    (more : List UInt8) : firstLine (data ++ more) = data ++ firstLine more := by
  induction data with
  | nil => rfl
  | cons byte _ ih =>
    have ho : byte ≠ newline := fun h => uncut (h ▸ .head _)
    rw [List.cons_append, firstLine_cons ho, ih fun hm => uncut (.tail _ hm), List.cons_append]

theorem length_firstLine_lt (cut : newline ∈ data) : (firstLine data).length < data.length := by
  induction data with
  | nil => cases cut
  | cons byte bs ih =>
    by_cases last : byte = newline
    · rw [last, firstLine_newline]
      exact Nat.zero_lt_succ _
    have hk' : newline ∈ bs :=
      (List.mem_cons.mp cut).resolve_left fun h => last h.symm
    rw [firstLine_cons last]
    exact Nat.succ_lt_succ (ih hk')

theorem segments_of_mem (cut : newline ∈ data) : segments data =
      (firstLine data, true) :: segments (data.drop ((firstLine data).length + 1)) := by
  induction data with
  | nil => cases cut
  | cons byte bs ih =>
    by_cases last : byte = newline
    · rw [last, firstLine_newline]
      simp [segments]
    have hk' : newline ∈ bs :=
      (List.mem_cons.mp cut).resolve_left fun h => last h.symm
    rw [segments, if_neg last, ih hk', firstLine_cons last]
    rfl

theorem segments_of_notMem (uncut : newline ∉ data) (hfi : data ≠ []) :
    segments data = [(data, false)] := by
  induction data with
  | nil => exact absurd rfl hfi
  | cons byte bs ih =>
    have ho : byte ≠ newline := fun h => uncut (h ▸ .head _)
    rw [segments, if_neg ho]
    cases bs with
    | nil => rfl
    | cons _ bs =>
      rw [ih (fun hm => uncut (.tail _ hm)) (List.cons_ne_nil _ _)]

theorem segments_eq_nil (none : segments data = []) : data = [] := by
  by_contra filled
  by_cases cut : newline ∈ data
  · rw [segments_of_mem cut] at none
    cases none
  · rw [segments_of_notMem cut filled] at none
    cases none

theorem exists_segment_of_notMem (uncut : newline ∉ data) (hfi : data ≠ []) (more : List UInt8) :
    ∃ seg ∈ segments (data ++ more), data.length ≤ seg.1.length := by
  by_cases cut : newline ∈ data ++ more
  · rw [segments_of_mem cut, firstLine_append_of_notMem uncut]
    exact ⟨_, .head _, by simp⟩
  · rw [segments_of_notMem cut (by simp [hfi])]
    exact ⟨_, .head _, by simp⟩

theorem segments_append (hed : data = [] ∨ data.getLast? = some newline)
    (more : List UInt8) : segments (data ++ more) = segments data ++ segments more := by
  induction data with
  | nil => rfl
  | cons byte bs ih =>
    cases bs with
    | nil =>
      obtain rfl : byte = newline := by simpa using hed
      simp [segments]
    | cons next bs =>
      have hk' := ih (.inr (by simpa using hed))
      rw [List.cons_append, segments, hk']
      cases hf : segments (next :: bs) with
      | nil => cases segments_eq_nil hf
      | cons _ _ =>
        rw [segments, hf]
        split <;> rfl

theorem scanLines_eq_none {atEnd : Bool} (none : scanLines data atEnd = none) :
    newline ∉ data ∧ (atEnd → data = []) := by
  unfold scanLines at none
  split at none
  · cases none
  rename_i uncut
  split at none
  · cases none
  · rename_i open_
    exact ⟨uncut, fun last => by simpa [last] using open_⟩

/-! ## A scanner for short lines -/

/-- The error a stream's ending leaves. -/
def Ending.err : Ending → Option Stop
  | .endOfFile => none
  | .failure => some (.ended .failure)

namespace Scanner

variable {τ : Type} {split : Split UInt8 τ} {mx bd : Nat} {wrap : List UInt8 → τ}

/-- A scanner whose buffer reaches `bound` by doubling, over lines shorter than that. -/
structure Lined (bound : Nat) (scanner : Scanner UInt8) : Prop where
  sound : scanner.Sound
  grows : ∃ doublings, scanner.size * 2 ^ doublings = bound
  short : ∀ segment ∈ segments scanner.remaining, segment.1.length < bound
  /-- A reader that reports its ending alone is asked once no line is left. -/
  alone : scanner.source.joined = false → scanner.stop ≠ none → newline ∉ scanner.data

variable {sc : Scanner UInt8} {cnt : Nat}

theorem Lined.size_le (lined : sc.Lined bd) : sc.size ≤ bd := by
  obtain ⟨doublings, hr⟩ := lined.grows
  exact hr ▸ Nat.le_mul_of_pos_right _ (Nat.two_pow_pos doublings)

theorem Lined.length_le (lined : sc.Lined bd) : sc.data.length ≤ bd := by
  have hbd := lined.sound.bounded
  have large := lined.size_le
  omega

theorem Lined.uncut_lt (lined : sc.Lined bd) (uncut : newline ∉ sc.data) (hfi : sc.data ≠ []) :
    sc.data.length < bd := by
  obtain ⟨seg, hm, long⟩ := exists_segment_of_notMem uncut hfi sc.source.unread
  exact Nat.lt_of_le_of_lt long (lined.short seg hm)

/-- The split function takes lines, as long as it is offered no more than `bound`. -/
def TakesLines (split : Split UInt8 τ) (bound : Nat) (wrap : List UInt8 → τ) : Prop :=
  ∀ data atEnd, data.length ≤ bound →
    split data atEnd = (scanLines data atEnd).map fun answer => (answer.1, wrap answer.2)

theorem uncut_of_offer (htk : TakesLines split bd wrap)
    (lined : sc.Lined bd) (hof : sc.offer split = none) :
    newline ∉ sc.data ∧ (sc.stop ≠ none → sc.data = []) := by
  unfold offer at hof
  split at hof
  · rw [htk _ _ lined.length_le, Option.map_eq_none_iff] at hof
    obtain ⟨uncut, empty⟩ := scanLines_eq_none hof
    exact ⟨uncut, fun hsp => empty (Option.isSome_iff_ne_none.mpr hsp)⟩
  · rename_i hnot
    rw [not_or, not_not, not_not] at hnot
    exact ⟨by simp [hnot.1], fun _ => hnot.1⟩

theorem Lined.refilled {ro : Scanner UInt8} (large : bd ≤ mx)
    (htk : TakesLines split bd wrap) (lined : sc.Lined bd)
    (hof : sc.offer split = none) (room : Roomy mx sc ro)
    (hrl : Refilled sc ro.fill) : ro.fill.Lined bd := by
  obtain ⟨uncut, -⟩ := uncut_of_offer htk lined hof
  refine ⟨hrl.sound, ?_, ?_, ?_⟩
  · obtain ⟨doublings, hr⟩ := lined.grows
    have kept : ro.fill.size = ro.size := rfl
    rw [kept]
    rcases room.grown with h | ⟨full, _, doubled⟩
    · exact ⟨doublings, by rw [h, hr]⟩
    have hpos := lined.sound.positive
    have hbl : sc.size < bd := full ▸ lined.uncut_lt uncut
      (List.ne_nil_of_length_pos (by omega))
    cases doublings with
    | zero => omega
    | succ doublings =>
      have half : 2 * sc.size * 2 ^ doublings = bd := by
        rw [← hr, Nat.pow_succ', ← Nat.mul_assoc, Nat.mul_comm 2]
      have fits : 2 * sc.size ≤ mx :=
        Nat.le_trans (half ▸ Nat.le_mul_of_pos_right _ (Nat.two_pow_pos doublings)) large
      exact ⟨doublings, by rw [doubled, Nat.min_eq_left fits, half]⟩
  · rw [hrl.remaining]
    exact lined.short
  · intro separate hsp
    rw [hrl.alone separate hsp]
    exact uncut

structure TakesLine (scanner : Scanner UInt8) (line : List UInt8) (ended : Bool)
    (next : Scanner UInt8) : Prop where
  line : segments scanner.remaining = (line, ended) :: segments next.remaining
  shorter : next.remaining.length < scanner.remaining.length
  ending : next.source.ending = scanner.source.ending
  joined : next.source.joined = scanner.source.joined
  /-- If no failure is reported together with bytes, a line that is ended came without one. -/
  err : (scanner.source.joined = true → scanner.source.ending = .endOfFile) →
    next.err = if ended then none else scanner.source.ending.err

theorem err_eq_none (hrd : sc.stop = none) : sc.err = none := by
  simp [err, hrd]

theorem err_of_stop (hs : sc.Sound) (hsp : sc.stop ≠ none) : sc.err = sc.source.ending.err := by
  obtain ⟨stop, hn⟩ := Option.ne_none_iff_exists'.mp hsp
  obtain ⟨h, -⟩ := hs.stopped stop hn
  rw [err, hn, h]
  cases sc.source.ending <;> rfl

theorem Sound.advance (hs : sc.Sound) (hwi : cnt ≤ sc.data.length) : (sc.advance cnt).Sound where
  bounded := by
    have hbd := hs.bounded
    simp only [Scanner.advance, List.length_drop]
    omega
  positive := hs.positive
  stopped := hs.stopped

theorem remaining_advance (hwi : cnt ≤ sc.data.length) :
    (sc.advance cnt).remaining = sc.remaining.drop cnt := by
  simp [remaining, Scanner.advance, List.drop_append_of_le_length hwi]

theorem Lined.advance (lined : sc.Lined bd) (hwi : cnt ≤ sc.data.length)
    (rest : segments (sc.remaining.drop cnt) ⊆ segments sc.remaining) :
    (sc.advance cnt).Lined bd where
  sound := lined.sound.advance hwi
  grows := lined.grows
  short := by
    rw [remaining_advance hwi]
    exact fun seg hm => lined.short seg (rest hm)
  alone := fun separate hsp hm =>
    lined.alone separate hsp (List.mem_of_mem_drop hm)

theorem takesLine_of_offer {tok : τ} (htk : TakesLines split bd wrap) (lined : sc.Lined bd)
    (hof : sc.offer split = some (cnt, tok)) : ∃ hln hed, tok = wrap (dropReturn hln) ∧
      TakesLine sc hln hed (sc.advance cnt) ∧ (sc.advance cnt).Lined bd := by
  have split := offer_eq_some hof
  rw [htk _ _ lined.length_le] at split
  obtain ⟨_, hsc, h⟩ := Option.map_eq_some_iff.mp split
  cases h
  unfold scanLines at hsc
  split at hsc
  · -- A newline is buffered: the bytes before it are the first line of the stream.
    rename_i cut
    cases hsc
    have hwi := length_firstLine_lt cut
    have ha : firstLine sc.remaining = firstLine sc.data := firstLine_append cut _
    have hln := segments_of_mem (List.mem_append_left sc.source.unread cut)
    change segments sc.remaining = _ at hln
    rw [show sc.data ++ sc.source.unread = sc.remaining from rfl, ha] at hln
    refine ⟨firstLine sc.data, true, rfl, ⟨?_, ?_, rfl, rfl, ?_⟩,
      lined.advance hwi fun _ hm => hln ▸ .tail _ hm⟩
    · rw [remaining_advance hwi, hln]
    · rw [remaining_advance hwi, List.length_drop]
      have hct : sc.remaining.length = _ := List.length_append
      omega
    · intro separate
      by_cases hrd : sc.stop = none
      · exact err_eq_none hrd
      rw [err_of_stop (lined.sound.advance hwi) hrd]
      cases alone : sc.source.joined with
      | false => exact absurd cut (lined.alone alone hrd)
      | true =>
        show sc.source.ending.err = none
        rw [separate alone]
        rfl
  · rename_i uncut
    split at hsc
    swap
    · cases hsc
    · -- Without a newline it is the end of the stream.
      rename_i last
      cases hsc
      have hsp : sc.stop ≠ none := Option.isSome_iff_ne_none.mp last.1
      obtain ⟨stop, hn⟩ := Option.ne_none_iff_exists'.mp hsp
      have hwh : sc.remaining = sc.data := by
        rw [remaining, (lined.sound.stopped stop hn).2, List.append_nil]
      have hnot : (sc.advance sc.data.length).remaining = [] := by
        rw [remaining_advance (Nat.le_refl _), hwh, List.drop_length]
      refine ⟨sc.data, false, rfl, ⟨?_, ?_, rfl, rfl, fun _ => ?_⟩,
        lined.advance (Nat.le_refl _) ?_⟩
      · rw [hnot, hwh, segments_of_notMem uncut last.2]
        rfl
      · rw [hnot, hwh]
        exact List.length_pos_of_ne_nil last.2
      · exact err_of_stop (lined.sound.advance (Nat.le_refl _)) hsp
      · rw [hwh, List.drop_length]
        exact List.nil_subset _

theorem scan_lines (large : bd ≤ mx) (htk : TakesLines split bd wrap) (lined : sc.Lined bd) :
    (∃ ln hed next, sc.scan split mx = (some (wrap (dropReturn ln)), next) ∧
      TakesLine sc ln hed next ∧ next.Lined bd) ∨
    ∃ next, sc.scan split mx = (none, next) ∧ segments sc.remaining = [] ∧
      next.err = sc.source.ending.err := by
  obtain ⟨last, hs, lastLined, h, hedg, hjo, scanned⟩ :=
    scan_cases split mx (Lined bd)
      (fun _ _ _ lined hof _ room hrl => lined.refilled large htk hof room hrl)
      lined.sound lined
  generalize sc.scan split mx = result at scanned ⊢
  cases scanned with
  | token hof =>
    obtain ⟨ln, hed, hn, takesLine, nextLined⟩ := takesLine_of_offer htk lastLined hof
    refine .inl ⟨ln, hed, _, by rw [hn], ?_, nextLined⟩
    exact
      { line := h ▸ takesLine.line
        shorter := h ▸ takesLine.shorter
        ending := takesLine.ending.trans hedg
        joined := takesLine.joined.trans hjo
        err := by
          rw [← hedg, ← hjo]
          exact takesLine.err }
  | ended hof hsp =>
    obtain ⟨-, hem⟩ := uncut_of_offer htk lastLined hof
    obtain ⟨stop, hn⟩ := Option.ne_none_iff_exists'.mp hsp
    have hnot : last.remaining = [] := by
      rw [remaining, hem hsp, (hs.stopped stop hn).2]
      rfl
    refine .inr ⟨_, rfl, by rw [← h, hnot]; rfl, ?_⟩
    rw [← hedg]
    show last.err = _
    exact err_of_stop hs hsp
  | tooLong hof _ _ _ =>
    -- A full buffer without a newline would hold a line of `bound` bytes.
    obtain ⟨uncut, -⟩ := uncut_of_offer htk lastLined hof
    have hpos := hs.positive
    have hbl := lastLined.uncut_lt uncut (List.ne_nil_of_length_pos (by omega))
    omega

theorem drain_lines (large : bd ≤ mx) (htk : TakesLines split bd wrap) (lined : sc.Lined bd) :
    (sc.drain split mx).1.map Prod.fst =
        (segments sc.remaining).map (fun seg => wrap (dropReturn seg.1)) ∧
      (sc.drain split mx).2 = sc.source.ending.err ∧
      ((sc.source.joined → sc.source.ending = .endOfFile) → (sc.drain split mx).1.map Prod.snd =
          (segments sc.remaining).map fun seg => if seg.2 then none else sc.source.ending.err) := by
  suffices loop : ∀ scans, ∀ sc : Scanner UInt8, sc.remaining.length < scans →
      sc.Lined bd →
      (sc.drainLoop split mx scans).1.map Prod.fst =
          (segments sc.remaining).map (fun seg => wrap (dropReturn seg.1)) ∧
        (sc.drainLoop split mx scans).2 = sc.source.ending.err ∧
        ((sc.source.joined → sc.source.ending = .endOfFile) →
          (sc.drainLoop split mx scans).1.map Prod.snd = (segments sc.remaining).map fun seg =>
              if seg.2 then none else sc.source.ending.err) from
    loop _ sc (Nat.lt_succ_self _) lined
  intro scans
  induction scans with
  | zero => intro sc few; omega
  | succ scans ih =>
    intro sc few lined
    rcases scan_lines large htk lined with
      ⟨ln, hed, next, hsc, takesLine, nextLined⟩ | ⟨next, hsc, hem, err⟩
    · have shorter := takesLine.shorter
      obtain ⟨htoks, stop, errs⟩ := ih next (by omega) nextLined
      rw [takesLine.ending, takesLine.joined] at errs
      simp only [drainLoop, hsc, takesLine.line, List.map_cons]
      refine ⟨by rw [htoks], by rw [stop, takesLine.ending], fun hsp => ?_⟩
      rw [errs hsp, takesLine.err hsp]
    · simp only [drainLoop, hsc, hem, List.map_nil]
      exact ⟨trivial, err, fun _ => trivial⟩

end Scanner

end AISummoner.Streams
