/-!
# Runs of a deterministic step machine

A machine is a step function `step : σ → ι → σ`. A run feeds it a stream of inputs, one per
step; `stateAt step s inp n` is the state after the first `n` of them. The rules below are the
only inductions over runs: an invariant that every step preserves, the step at which a property
is lost, and two runs that give the same outputs.
-/

namespace Firmware.Run

section
variable {σ ι : Type} (step : σ → ι → σ)

/-- The state after the first `n` inputs of the stream. -/
def stateAt (s : σ) (inp : Nat → ι) : Nat → σ
  | 0 => s
  | n + 1 => step (stateAt s inp n) (inp n)

variable {step} {s : σ} {inp : Nat → ι}

@[simp] theorem stateAt_zero : stateAt step s inp 0 = s := rfl

theorem stateAt_succ (n : Nat) :
    stateAt step s inp (n + 1) = step (stateAt step s inp n) (inp n) := rfl

/-- **The invariant rule.** A property of the step count and the state that holds initially
and survives each of the first `n` steps holds after `n` steps. -/
theorem invariant_at {P : Nat → σ → Prop} {n : Nat} (init : P 0 s)
    (preserved : ∀ k, k < n → P k (stateAt step s inp k) →
      P (k + 1) (step (stateAt step s inp k) (inp k))) :
    P n (stateAt step s inp n) := by
  have upTo : ∀ k, k ≤ n → P k (stateAt step s inp k) := by
    intro k
    induction k with
    | zero => intro _; exact init
    | succ k ih =>
      intro bound
      exact preserved k (by omega) (ih (by omega))
  exact upTo n (Nat.le_refl n)

end

/-- A property that holds at `a` and fails at a later `b` is lost at some step between. -/
theorem lost_between {Q : Nat → Prop} {a b : Nat} (start : Q a) (stop : ¬ Q b) (order : a ≤ b) :
    ∃ c, a ≤ c ∧ c < b ∧ Q c ∧ ¬ Q (c + 1) := by
  induction b with
  | zero =>
    have same : a = 0 := by omega
    subst same
    exact absurd start stop
  | succ b ih =>
    by_cases before : Q b
    · by_cases here : a ≤ b
      · exact ⟨b, here, by omega, before, stop⟩
      · have same : a = b + 1 := by omega
        subst same
        exact absurd start stop
    · have here : a ≤ b := by
        apply Classical.byContradiction
        intro past
        have same : a = b + 1 := by omega
        subst same
        exact stop start
      obtain ⟨c, low, high, holds, lost⟩ := ih before here
      exact ⟨c, low, by omega, holds, lost⟩

/-- A property that holds at `a` and survives every step before `b` holds at `b`. -/
theorem kept_between {Q : Nat → Prop} {a b : Nat} (start : Q a) (order : a ≤ b)
    (kept : ∀ k, a ≤ k → k < b → Q k → Q (k + 1)) : Q b := by
  apply Classical.byContradiction
  intro stop
  obtain ⟨c, low, high, holds, lost⟩ := lost_between start stop order
  exact lost (kept c low high holds)

/-! ## Outputs -/

section
variable {σ ι ο : Type} (step : σ → ι → ο × σ)

/-- The outputs of a machine over a list of inputs. -/
def outputs (s : σ) : List ι → List ο
  | [] => []
  | i :: inputs => (step s i).1 :: outputs (step s i).2 inputs

variable {step}

/-- **The two-run rule.** States in a relation that every step keeps, with equal outputs, cannot be
told apart by the outputs of any inputs. -/
theorem outputs_eq {R : σ → σ → Prop}
    (kept : ∀ s t i, R s t → (step s i).1 = (step t i).1 ∧ R (step s i).2 (step t i).2)
    {s t : σ} (related : R s t) (inputs : List ι) : outputs step s inputs = outputs step t inputs := by
  induction inputs generalizing s t with
  | nil => rfl
  | cons i inputs ih =>
    obtain ⟨same, next⟩ := kept s t i related
    rw [outputs, outputs, same, ih next]

end

end Firmware.Run
