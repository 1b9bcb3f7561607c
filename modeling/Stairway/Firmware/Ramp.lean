/-!
# Ramps

A value that is stepped towards a target: no step passes the target, and a step changes the value
as long as it is not there. Such a value arrives after as many steps as the range is wide.
-/

namespace Firmware

/-- A step from `a` to `b` towards `target`. -/
def Toward (target a b : Nat) : Prop := a ≤ b ∧ b ≤ target ∨ target ≤ b ∧ b ≤ a

theorem Toward.le {target a b bound : Nat} (toward : Toward target a b) (start : a ≤ bound)
    (goal : target ≤ bound) : b ≤ bound := by
  rcases toward with ⟨-, high⟩ | ⟨-, high⟩
  · exact Nat.le_trans high goal
  · exact Nat.le_trans high start

/-- The values of a ramp, step after step. -/
structure Ramp (target : Nat) (v : Nat → Nat) : Prop where
  toward : ∀ n, Toward target (v n) (v (n + 1))
  moves : ∀ n, v n ≠ target → v (n + 1) ≠ v n

namespace Ramp

variable {target bound : Nat} {v : Nat → Nat}

theorem stays (ramp : Ramp target v) {n : Nat} (there : v n = target) : v (n + 1) = target := by
  rcases ramp.toward n with ⟨low, high⟩ | ⟨low, high⟩
  · omega
  · omega

theorem le (ramp : Ramp target v) (start : v 0 ≤ bound) (goal : target ≤ bound) (n : Nat) :
    v n ≤ bound := by
  induction n with
  | zero => exact start
  | succ n ih => exact (ramp.toward n).le ih goal

/-- Each step brings the value nearer by one at least, until it is there. -/
theorem nearer (ramp : Ramp target v) (n : Nat) :
    v n = target ∨ (v n - target) + (target - v n) + n ≤ (v 0 - target) + (target - v 0) := by
  induction n with
  | zero => exact Or.inr (Nat.le_refl _)
  | succ n ih =>
    rcases ih with there | near
    · exact Or.inl (ramp.stays there)
    · by_cases there : v n = target
      · exact Or.inl (ramp.stays there)
      · have moved := ramp.moves n there
        rcases ramp.toward n with ⟨low, high⟩ | ⟨low, high⟩
        · exact Or.inr (by omega)
        · exact Or.inr (by omega)

/-- **A ramp arrives.** -/
theorem arrives (ramp : Ramp target v) (start : v 0 ≤ bound) (goal : target ≤ bound) {n : Nat}
    (late : bound ≤ n) : v n = target := by
  rcases ramp.nearer n with there | near
  · exact there
  · omega

end Ramp

end Firmware
