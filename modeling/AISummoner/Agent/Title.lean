import AISummoner.Agent.Types

/-! # The title of a session

The index of a Device reads no more than 512 characters of a session's first message and
makes the title of those.  White space at the start of a message, or long runs of it,
can use them up before the title is complete.
-/

namespace AISummoner.Agent

open Store

/-- The words of a text with single spaces between them; `current` as in `fields`. -/
def collapsed (current text : List Char) : List Char := [' '].intercalate (fields current text)

variable {cur text more : List Char} {chr : Char}

theorem fields_ne_nil (cur text : List Char) : [] ∉ fields cur text := by
  fun_induction fields cur text <;> simp_all

theorem collapsed_cons_of_not_space (word : isSpace chr = false) :
    collapsed cur (chr :: text) = collapsed (chr :: cur) text := by
  simp [collapsed, fields, word]

theorem intercalate_cons (word : List Char) {ws : List (List Char)} (hfi : [] ∉ ws) :
    [' '].intercalate (word :: ws) = word ++
      (if [' '].intercalate ws = [] then [] else ' ' :: [' '].intercalate ws) := by
  match ws with
  | [] => simp
  | next :: others =>
    have hfi : [' '].intercalate (next :: others) ≠ [] := by
      cases others <;> simp_all [List.intercalate]
    rw [if_neg hfi]
    simp [List.intercalate]

theorem collapsed_cons_of_space (space : isSpace chr) : collapsed cur (chr :: text) =
      if cur = [] then collapsed [] text
      else cur.reverse ++ (if collapsed [] text = [] then [] else ' ' :: collapsed [] text) := by
  by_cases ha : cur = []
  · simp [collapsed, fields, space, ha]
  · rw [collapsed, fields, if_pos space, if_neg ha, if_neg ha,
      intercalate_cons _ (fields_ne_nil [] text)]
    rfl

theorem collapsed_nil (cur : List Char) : collapsed cur [] = cur.reverse := by
  by_cases a : cur = [] <;> simp [collapsed, fields, a]

theorem reverse_isPrefix_collapsed (cur text : List Char) : cur.reverse <+: collapsed cur text := by
  induction text generalizing cur with
  | nil => rw [collapsed_nil]
  | cons chr text ih =>
    cases word : isSpace chr with
    | true =>
      rw [collapsed_cons_of_space word]
      split
      · simp_all
      · exact List.prefix_append _ _
    | false =>
      rw [collapsed_cons_of_not_space word]
      exact (List.prefix_append _ [chr]).trans (by simpa using ih (chr :: cur))

theorem collapsed_isPrefix_append (cur text more : List Char) :
    collapsed cur text <+: collapsed cur (text ++ more) := by
  induction text generalizing cur with
  | nil => exact collapsed_nil cur ▸ reverse_isPrefix_collapsed cur more
  | cons chr text ih =>
    cases word : isSpace chr with
    | true =>
      rw [List.cons_append, collapsed_cons_of_space word, collapsed_cons_of_space word]
      split
      · exact ih []
      refine (List.prefix_append_right_inj _).mpr ?_
      split
      case isTrue => exact List.nil_prefix
      case isFalse filled =>
        rw [if_neg]
        · exact (List.prefix_cons_inj ' ').mpr (ih [])
        · intro none
          have h := ih []
          rw [none] at h
          exact filled (List.prefix_nil.mp h)
    | false =>
      rw [List.cons_append, collapsed_cons_of_not_space word, collapsed_cons_of_not_space word]
      exact ih _

theorem collapsed_append_of_spaces (cur text : List Char) (hsps : ∀ chr ∈ more, isSpace chr) :
    collapsed cur (text ++ more) = collapsed cur text := by
  have only (cur : List Char) : collapsed cur more = cur.reverse := by
    induction more generalizing cur with
    | nil => exact collapsed_nil cur
    | cons chr more ih =>
      have rest := ih (fun o mem => hsps o (.tail _ mem))
      rw [collapsed_cons_of_space (hsps chr (.head _)), rest []]
      by_cases a : cur = [] <;> simp [a]
  induction text generalizing cur with
  | nil => rw [List.nil_append, only, collapsed_nil]
  | cons chr text ih =>
    cases word : isSpace chr with
    | true =>
      rw [List.cons_append, collapsed_cons_of_space word, collapsed_cons_of_space word, ih]
    | false =>
      rw [List.cons_append, collapsed_cons_of_not_space word, collapsed_cons_of_not_space word, ih]

theorem title_of_isPrefix {v wh : List Char} (hst : collapsed [] v <+: collapsed [] wh)
    (long : agentSessionTitleRunes < (collapsed [] v).length) :
    normalizeAgentSessionTitle v = normalizeAgentSessionTitle wh := by
  have longer := hst.length_le
  have h : (collapsed [] v).take (agentSessionTitleRunes - 1) =
      (collapsed [] wh).take (agentSessionTitleRunes - 1) := by
    rw [List.prefix_iff_eq_take.mp hst, List.take_take, min_eq_left (by omega)]
  have httl {text : List Char} (long : agentSessionTitleRunes < (collapsed [] text).length) :
      normalizeAgentSessionTitle text =
        trimSpace ((collapsed [] text).take (agentSessionTitleRunes - 1)) ++ ['…'] := by
    have hfi : collapsed [] text ≠ [] := List.ne_nil_of_length_pos (by omega)
    exact (if_neg hfi).trans (if_neg (Nat.not_le.mpr long))
  rw [httl long, httl (long.trans_le longer), h]

def indented : String := String.ofList (List.replicate 512 ' ' ++ ['h', 'i'])

end AISummoner.Agent
