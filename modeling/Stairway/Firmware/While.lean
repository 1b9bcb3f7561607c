/-!
# While loops

A loop is a partial step on the state that it works on: `none` where its condition fails. `Exits`
relates a state to the one in which the loop ends; a loop that never ends has no such state.
-/

namespace Firmware

variable {σ : Type} {pass : σ → Option σ}

/-- The loop that is in the state `s` ends in `t`. -/
inductive Exits (pass : σ → Option σ) : σ → σ → Prop
  | stop {s : σ} (done : pass s = none) : Exits pass s s
  | next {s t u : σ} (more : pass s = some t) (rest : Exits pass t u) : Exits pass s u

namespace Exits

variable {s t : σ}

/-- A pass that stays where it is repeats for ever. -/
theorem not_of_fixed (fixed : pass s = some s) : ¬ Exits pass s t := by
  intro exits
  induction exits with
  | stop done =>
    rw [fixed] at done
    cases done
  | next more _ ih =>
    rw [fixed] at more
    cases more
    exact ih fixed

end Exits

end Firmware
