import Mathlib

/-! # Schedules of guarded steps

A schedule is a list of events; an event that is not enabled has no step, and a
schedule with such an event is no run.
-/

namespace AISummoner.Concurrency

variable {σ ε : Type} {step : σ → ε → Option σ} {a last : σ} {evs : List ε}

/-- What every enabled step keeps holds along every run. -/
theorem invariant_of_run {inv : σ → Prop} (hb : inv a)
    (kept : ∀ {state ev after}, inv state → step state ev = some after → inv after)
    (ran : evs.foldlM step a = some last) : inv last := by
  induction evs generalizing a with
  | nil =>
    cases ran
    exact hb
  | cons ev evs ih =>
    obtain ⟨_, hst, rest⟩ := Option.bind_eq_some_iff.mp ran
    exact ih (kept hb hst) rest

end AISummoner.Concurrency
