import AISummoner.Agent.Types
import AISummoner.Encoding.Utf8

/-! # The stored excerpt of a tool call

`outputExcerpt` cuts a long output at 8192 bytes and then takes bytes off its end
until the rest is valid UTF-8.  Bytes that are no text far before the cut make it
give up everything behind them.
-/

namespace AISummoner.Agent

open Encoding
open Store (Bytes)

/-- What `outputExcerpt` excerpts: the failure's code, or else both streams. -/
def ToolResult.contents (result : ToolResult) : Bytes :=
  match result.failure with
  | some failure => failure.code.toUTF8.data.toList
  | none => result.stdout ++ result.stderr

theorem outputExcerpt_eq (res : ToolResult) :
    outputExcerpt res = if res.contents.length > maxOutputExcerpt then
      longestValid res.contents maxOutputExcerpt else res.contents := rfl

section LongestValid

variable {cts : Bytes}

theorem longestValid_succ (cts : Bytes) (cnt : Nat) :
    longestValid cts (cnt + 1) = if validString (cts.take (cnt + 1)) then
      cts.take (cnt + 1) else longestValid cts cnt := by
  rw [← validateUTF8_eq_validString]
  rfl

theorem longestValid_isPrefix (cts : Bytes) (cnt : Nat) : longestValid cts cnt <+: cts := by
  induction cnt with
  | zero => exact List.nil_prefix
  | succ cnt ih =>
    rw [longestValid_succ]
    split
    · exact List.take_prefix _ _
    · exact ih

theorem length_longestValid_le (cts : Bytes) (cnt : Nat) : (longestValid cts cnt).length ≤ cnt := by
  induction cnt with
  | zero => exact Nat.le_refl 0
  | succ cnt ih =>
    rw [longestValid_succ]
    split
    · exact List.length_take_le _ _
    · exact Nat.le_succ_of_le ih

theorem validString_longestValid (cts : Bytes) (cnt : Nat) :
    validString (longestValid cts cnt) := by
  induction cnt with
  | zero => exact validString_utf8 ""
  | succ cnt ih =>
    rw [longestValid_succ]
    split
    · rename_i hva
      exact hva
    · exact ih

theorem le_length_longestValid {text : Bytes} {cnt : Nat} (initial : text <+: cts)
    (hva : validString text) (hwi : text.length ≤ cnt) :
    text.length ≤ (longestValid cts cnt).length := by
  induction cnt with
  | zero => exact hwi
  | succ cnt ih =>
    rw [longestValid_succ]
    split
    · have hbd := initial.length_le
      rw [List.length_take]
      omega
    rename_i invalid
    apply ih
    by_contra longer
    have hwh : cts.take (cnt + 1) = text := by
      rw [List.prefix_iff_eq_take.mp initial, show text.length = cnt + 1 by omega]
    exact invalid (hwh ▸ hva)

end LongestValid

/-! ## What is stored -/

/-- The output is text up to the cut, apart from the last bytes before it: some
    text of at least 8189 bytes starts it.  An output that is valid UTF-8 does. -/
def ToolResult.TextToCut (result : ToolResult) : Prop :=
  ∃ text, encodeRunes text <+: result.contents ∧
    maxOutputExcerpt ≤ (encodeRunes text).length + 3

theorem textToCut_of_valid {res : ToolResult} (hva : validString res.contents)
    (long : maxOutputExcerpt < res.contents.length) : res.TextToCut := by
  obtain ⟨rn, hwh⟩ := validString_iff.mp hva
  refine ⟨rn, hwh ▸ List.prefix_rfl, ?_⟩
  rw [← hwh]
  omega

theorem length_longestValid_near {res : ToolResult} (reaches : res.TextToCut) :
    maxOutputExcerpt ≤ (longestValid res.contents maxOutputExcerpt).length + 3 := by
  obtain ⟨text, initial, long⟩ := reaches
  -- the last place between two runes that is not behind the cut
  have ⟨a, start, before, near⟩ : ∃ a, a <+: text ∧
      (encodeRunes a).length ≤ maxOutputExcerpt ∧
      maxOutputExcerpt ≤ (encodeRunes a).length + 3 := by
    by_cases short : (encodeRunes text).length ≤ maxOutputExcerpt
    · exact ⟨text, List.prefix_rfl, short, long⟩
    · exact exists_cut text (by omega)
  obtain ⟨_, rfl⟩ := start
  rw [encodeRunes_append] at initial
  have hf := le_length_longestValid ((List.prefix_append _ _).trans initial)
    (validString_iff.mpr ⟨a, rfl⟩) before
  omega

def cutRune : ToolResult :=
  { stdout := encodeRunes (List.replicate 8190 'a'), stderr := encodeRunes ['€'] }

def binaryOutput (rest : Bytes) : ToolResult := { stdout := 0xFF :: rest }

theorem contents_binaryOutput (rest : Bytes) : (binaryOutput rest).contents = 0xFF :: rest :=
  List.append_nil _

theorem longestValid_binary (rest : Bytes) (cnt : Nat) : longestValid (0xFF :: rest) cnt = [] := by
  induction cnt with
  | zero => rfl
  | succ cnt ih =>
    have invalid : ¬ validString ((0xFF :: rest).take (cnt + 1)) = true := by
      intro hva
      obtain ⟨rn, hen⟩ := validString_iff.mp hva
      exact encodeRunes_ne_invalid rn (rest.take cnt) hen.symm
    rw [longestValid_succ, if_neg invalid]
    exact ih

end AISummoner.Agent
