import Mathlib.Algebra.Group.Int.Defs
import Mathlib.Data.Nat.Count

/-!
# Smoothing with truncated division

A value moves towards each sample by a fraction `1 / n` of the distance, rounded towards zero. It does
not pass the sample, and stops short of it by less than `n`. While the samples are constant, the value
arrives there after as many samples as it was away, and then rests.
-/

namespace Firmware

/-- The smoothed value after a sample. -/
def smooth (n v sample : Int) : Int := v + (sample - v).tdiv n

section
variable {n v sample : Int}

/-- The part of a distance that a step covers. -/
theorem tdiv_bounds (pos : 0 < n) {d : Int} (up : 0 ≤ d) :
    0 ≤ d.tdiv n ∧ d.tdiv n ≤ d ∧ (d < n → d.tdiv n = 0) ∧ (n ≤ d → 0 < d.tdiv n) := by
  rw [Int.tdiv_eq_ediv_of_nonneg up]
  refine ⟨Int.ediv_nonneg up (Int.le_of_lt pos), Int.ediv_le_self n up, Int.ediv_eq_zero_of_lt up, ?_⟩
  intro far
  have once := Int.ediv_le_ediv pos far
  rw [Int.ediv_self (Int.ne_of_gt pos)] at once
  exact once

/-- What a step does, by the side that the sample is on. -/
theorem smooth_cases (pos : 0 < n) (v sample : Int) :
    (v ≤ sample ∧ v ≤ smooth n v sample ∧ smooth n v sample ≤ sample ∧
        (sample - v < n → smooth n v sample = v) ∧ (n ≤ sample - v → v < smooth n v sample)) ∨
      (sample ≤ v ∧ sample ≤ smooth n v sample ∧ smooth n v sample ≤ v ∧
        (v - sample < n → smooth n v sample = v) ∧ (n ≤ v - sample → smooth n v sample < v)) := by
  unfold smooth
  rcases Int.le_total v sample with up | down
  · obtain ⟨low, high, near, far⟩ := tdiv_bounds pos (Int.sub_nonneg_of_le up)
    exact Or.inl ⟨up, by omega, by omega, by omega, by omega⟩
  · obtain ⟨low, high, near, far⟩ := tdiv_bounds pos (Int.sub_nonneg_of_le down)
    have mirrored : (sample - v).tdiv n = -(v - sample).tdiv n := by
      rw [← Int.neg_tdiv, Int.neg_sub]
    rw [mirrored]
    exact Or.inr ⟨down, by omega, by omega, by omega, by omega⟩

theorem smooth_nearer (pos : 0 < n) : (smooth n v sample - sample).natAbs ≤ (v - sample).natAbs := by
  rcases smooth_cases pos v sample with ⟨_, _, _, _, _⟩ | ⟨_, _, _, _, _⟩ <;> omega

theorem smooth_moves (pos : 0 < n) (far : n ≤ (v - sample).natAbs) :
    (smooth n v sample - sample).natAbs < (v - sample).natAbs := by
  rcases smooth_cases pos v sample with ⟨_, _, _, _, _⟩ | ⟨_, _, _, _, _⟩ <;> omega

/-- Next to the sample the value rests. -/
theorem smooth_rests (pos : 0 < n) (near : (v - sample).natAbs < n) : smooth n v sample = v := by
  rcases smooth_cases pos v sample with ⟨_, _, _, _, _⟩ | ⟨_, _, _, _, _⟩ <;> omega

end

/-- Values that take a constant sample at some of their steps. -/
structure Smoothed (n sample : Int) (due : Nat → Prop) (v : Nat → Int) : Prop where
  taken : ∀ k, due k → v (k + 1) = smooth n (v k) sample
  idle : ∀ k, ¬ due k → v (k + 1) = v k

namespace Smoothed

variable {n sample : Int} {due : Nat → Prop} {v : Nat → Int}

theorem nearer (smoothed : Smoothed n sample due v) (pos : 0 < n) (k : Nat) :
    (v (k + 1) - sample).natAbs ≤ (v k - sample).natAbs := by
  by_cases taken : due k
  · rw [smoothed.taken k taken]
    exact smooth_nearer pos
  · rw [smoothed.idle k taken]

/-- Next to the sample the values are constant. -/
theorem rests (smoothed : Smoothed n sample due v) (pos : 0 < n) {k : Nat} (near : (v k - sample).natAbs < n)
    {j : Nat} (later : k ≤ j) : v j = v k := by
  induction j, later using Nat.le_induction with
  | base => rfl
  | succ j later ih =>
    rw [← ih] at near
    by_cases taken : due j
    · rw [smoothed.taken j taken, smooth_rests pos near, ih]
    · rw [smoothed.idle j taken, ih]

/-- Each sample brings the value nearer by one at least, until it is there. -/
theorem approaches [DecidablePred due] (smoothed : Smoothed n sample due v) (pos : 0 < n) (k : Nat) :
    (v k - sample).natAbs < n ∨ (v k - sample).natAbs + Nat.count due k ≤ (v 0 - sample).natAbs := by
  induction k with
  | zero => exact Or.inr (by simp)
  | succ k ih =>
    by_cases near : (v k - sample).natAbs < n
    · rw [smoothed.rests pos near (Nat.le_succ k)]
      exact Or.inl near
    · have away := ih.resolve_left near
      rw [Nat.count_succ]
      by_cases taken : due k
      · have moved := smooth_moves pos (Int.not_lt.mp near)
        rw [smoothed.taken k taken, if_pos taken]
        exact Or.inr (by omega)
      · rw [smoothed.idle k taken, if_neg taken]
        exact Or.inr away

/-- **Smoothing arrives** after as many samples as the value was away. -/
theorem arrives [DecidablePred due] (smoothed : Smoothed n sample due v) (pos : 0 < n) {k : Nat}
    (enough : (v 0 - sample).natAbs < Nat.count due k + n) : (v k - sample).natAbs < n := by
  rcases smoothed.approaches pos k with there | away
  · exact there
  · omega

end Smoothed

end Firmware
