import Mathlib

/-! # Consumers that stop

A consumer reads a list element by element.  Each element changes its state and
is answered by an error, by "go on" or by "this was the last one"; what follows
an error or the last element is not read.
-/

namespace AISummoner.Streams

variable {σ α ε : Type}

/-- Read until an element is refused or is the last one. -/
def feed (step : σ → α → σ × Except ε Bool) : σ → List α → σ × Except ε Bool
  | state, [] => (state, .ok false)
  | state, element :: elements =>
    match step state element with
    | (next, .ok false) => feed step next elements
    | (next, .ok true) => (next, .ok true)
    | (next, .error error) => (next, .error error)

def consumed (step : σ → α → σ × Except ε Bool) : σ → List α → List α
  | _, [] => []
  | state, element :: elements =>
    match step state element with
    | (next, .ok false) => element :: consumed step next elements
    | _ => [element]

/-- A consumer that reads on after the last element. -/
def unending (step : σ → α → σ × Except ε Bool) (state : σ) (element : α) : σ × Except ε Bool :=
  ((step state element).1, (step state element).2.map fun _ => false)

variable {step : σ → α → σ × Except ε Bool}

@[simp] theorem feed_nil (state : σ) : feed step state [] = (state, .ok false) := rfl

variable {state next fin : σ} {element : α} {ans : Except ε Bool} {elements : List α}

theorem feed_continue (hgo : step state element = (next, .ok false)) (elements : List α) :
    feed step state (element :: elements) = feed step next elements := by
  simp [feed, hgo]

theorem feed_stop (hst : step state element = (next, ans)) (stops : ans ≠ .ok false)
    (elements : List α) : feed step state (element :: elements) = (next, ans) := by
  match ans with
  | .ok true => simp [feed, hst]
  | .ok false => exact absurd rfl stops
  | .error _ => simp [feed, hst]

theorem feed_append_continue {a : List α}
    (hgo : feed step state a = (next, .ok false)) (b : List α) :
    feed step state (a ++ b) = feed step next b := by
  induction a generalizing state with
  | nil =>
    cases hgo
    rfl
  | cons element _ ih =>
    match stepped : step state element with
    | (mid', .ok false) =>
      rw [feed_continue stepped] at hgo
      rw [List.cons_append, feed_continue stepped, ih hgo]
    | (_, .ok true) | (_, .error _) => simp [feed, stepped] at hgo

theorem feed_insert (idle : ∀ state, step state element = (state, .ok false))
    (state : σ) (s s' : List α) :
    feed step state (s ++ element :: s') = feed step state (s ++ s') := by
  induction s generalizing state with
  | nil => exact feed_continue (idle state) s'
  | cons a s ih => simp only [List.cons_append, feed, ih]

theorem feed_map {β : Type} (view : β → α) (state : σ) (elements : List β) :
    feed step state (elements.map view) =
      feed (fun state element => step state (view element)) state elements := by
  induction elements generalizing state with
  | nil => rfl
  | cons element elements ih =>
    simp only [List.map_cons, feed, ih]

theorem consumed_continue (hgo : step state element = (next, .ok false)) (elements : List α) :
    consumed step state (element :: elements) = element :: consumed step next elements := by
  simp [consumed, hgo]

theorem consumed_cons_of_stop (hst : step state element = (next, ans)) (stops : ans ≠ .ok false)
    (elements : List α) : consumed step state (element :: elements) = [element] := by
  match ans with
  | .ok true => simp [consumed, hst]
  | .ok false => exact absurd rfl stops
  | .error _ => simp [consumed, hst]

theorem consumed_of_continue (hgo : feed step state elements = (next, .ok false)) :
    consumed step state elements = elements := by
  induction elements generalizing state with
  | nil => rfl
  | cons element elements ih =>
    match stepped : step state element with
    | (mid', .ok false) =>
      rw [feed_continue stepped] at hgo
      rw [consumed_continue stepped, ih hgo]
    | (_, .ok true) | (_, .error _) => simp [feed, stepped] at hgo

theorem feed_ok_along (inv : List α → σ → Prop) {a : σ} {all : List α}
    (kept : ∀ p element rest state next ans, all = p ++ element :: rest →
      feed step a p = (state, .ok false) → inv p state →
      step state element = (next, .ok ans) → inv (p ++ [element]) next)
    {p : List α} (hr : feed step a p = (state, .ok false)) (start : inv p state)
    (read : all = p ++ consumed step state elements) {ans : Bool}
    (fed : feed step state elements = (fin, .ok ans)) : inv all fin := by
  induction elements generalizing p state with
  | nil =>
    cases fed
    rw [read]
    simpa [consumed] using start
  | cons element elements ih =>
    match stepped : step state element with
    | (next, .ok false) =>
      rw [feed_continue stepped] at fed
      rw [consumed_continue stepped] at read
      have here := kept _ _ _ _ _ _ read hr start stepped
      refine ih ?_ here (by simp [read]) fed
      rw [feed_append_continue hr, feed_continue stepped]
      rfl
    | (next, .ok true) =>
      rw [feed_stop stepped (by simp)] at fed
      rw [consumed_cons_of_stop stepped (by simp)] at read
      cases fed
      have here := kept _ _ _ _ _ _ read hr start stepped
      rwa [read]
    | (next, .error error) =>
      rw [feed_stop stepped (by simp)] at fed
      cases fed

theorem feed_invariant_ok (inv : List α → σ → Prop) (start : inv [] state)
    (kept : ∀ p state element next ans, inv p state →
      step state element = (next, .ok ans) → inv (p ++ [element]) next) {ans : Bool}
    (fed : feed step state elements = (fin, .ok ans)) : inv (consumed step state elements) fin :=
  feed_ok_along inv (fun _ _ _ _ _ _ _ _ hh => kept _ _ _ _ _ hh) rfl start rfl fed

theorem feed_last (step : σ → α → σ × Except ε Bool) (state : σ) (elements : List α) :
    ∃ p mid', feed step state p = (mid', .ok false) ∧ consumed step state p = p ∧
      (consumed step state elements = p ∧ feed step state elements = (mid', .ok false) ∨
        ∃ last, consumed step state elements = p ++ [last] ∧
          feed step state elements = step mid' last) := by
  induction elements generalizing state with
  | nil => exact ⟨[], state, rfl, rfl, .inl ⟨rfl, rfl⟩⟩
  | cons element elements ih =>
    match stepped : step state element with
    | (next, .ok false) =>
      obtain ⟨p, mid', hgo, all, ends⟩ := ih next
      refine ⟨element :: p, mid', ?_, ?_, ?_⟩
      · rw [feed_continue stepped, hgo]
      · rw [consumed_continue stepped, all]
      · rw [feed_continue stepped, consumed_continue stepped]
        obtain ⟨read, fed⟩ | ⟨last, read, fed⟩ := ends
        · exact .inl ⟨by rw [read], fed⟩
        · exact .inr ⟨last, by rw [read]; rfl, fed⟩
    | (_, .ok true) | (_, .error _) =>
      refine ⟨[], state, rfl, rfl, .inr ⟨element, ?_, ?_⟩⟩
      · exact consumed_cons_of_stop stepped (by simp) elements
      · rw [feed_stop stepped (by simp), stepped]

theorem feed_kept_along (h : σ → Prop) (start : h state)
    (kept : ∀ p element rest next, elements = p ++ element :: rest →
      feed step state p = (next, .ok false) → h next → h (step next element).1) :
    h (feed step state elements).1 := by
  induction elements generalizing state with
  | nil => exact start
  | cons element elements ih =>
    have here := kept [] element elements state rfl rfl start
    match stepped : step state element with
    | (next, .ok false) =>
      rw [stepped] at here
      rw [feed_continue stepped]
      refine ih here fun p k' rest hr hsp hgo => ?_
      refine kept (element :: p) k' rest hr (by rw [hsp]; rfl) ?_
      rw [feed_continue stepped]
      exact hgo
    | (_, .ok true) | (_, .error _) =>
      rw [stepped] at here
      rw [feed_stop stepped (by simp)]
      exact here

theorem feed_kept (h : σ → Prop) (start : h state)
    (kept : ∀ state element, h state → h (step state element).1) (elements : List α) :
    h (feed step state elements).1 :=
  feed_kept_along h start fun _ element _ next _ _ => kept next element

theorem feed_unending (q : σ → Prop) (start : q state)
    (kept : ∀ element ∈ elements, ∀ state, q state →
      q (step state element).1 ∧ (step state element).2 ≠ .ok true) :
    feed (unending step) state elements = feed step state elements := by
  induction elements generalizing state with
  | nil => rfl
  | cons element elements ih =>
    obtain ⟨here, k'⟩ := List.forall_mem_cons.mp kept
    obtain ⟨quietNext, hgo⟩ := here state start
    match stepped : step state element with
    | (next, .ok false) =>
      have h : unending step state element = (next, .ok false) := by
        simp [unending, stepped, Except.map]
      rw [feed_continue stepped, feed_continue h]
      exact ih (by rwa [stepped] at quietNext) k'
    | (next, .ok true) =>
      rw [stepped] at hgo
      exact absurd rfl hgo
    | (next, .error error) =>
      have h : unending step state element = (next, .error error) := by
        simp [unending, stepped, Except.map]
      rw [feed_stop stepped (by simp), feed_stop h (by simp)]

end AISummoner.Streams
