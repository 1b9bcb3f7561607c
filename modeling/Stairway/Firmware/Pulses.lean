import Mathlib.Data.List.Induction
import Mathlib.Data.Nat.Find

/-!
# Pulses of a sampled signal

A pulse is a maximal run of set samples. `held` counts how long the signal has been set at the end of
a list of samples, and it is `n` exactly at the `n`th sample of a pulse that is as long as that.
-/

namespace Firmware

/-- A maximal run of set samples. -/
structure Pulse (samples : List Bool) (start len : Nat) : Prop where
  nonempty : 0 < len
  inside : ∀ i, start ≤ i → i < start + len → samples[i]? = some true
  before : ∀ i, i + 1 = start → samples[i]? = some false
  after : samples[start + len]? ≠ some true

/-- A pulse is known by where it starts. -/
theorem Pulse.unique {samples : List Bool} {start len len' : Nat} (pulse : Pulse samples start len)
    (pulse' : Pulse samples start len') : len = len' := by
  rcases Nat.lt_trichotomy len len' with less | same | more
  · exact absurd (pulse'.inside (start + len) (by omega) (by omega)) pulse.after
  · exact same
  · exact absurd (pulse.inside (start + len') (by omega) (by omega)) pulse'.after

/-- How long the signal has been set. -/
def held (samples : List Bool) : Nat := samples.foldl (fun n b => if b then n + 1 else 0) 0

@[simp] theorem held_append (samples : List Bool) (b : Bool) :
    held (samples ++ [b]) = if b then held samples + 1 else 0 := by
  simp [held]

/-- What `held` counts: the set samples at the end. -/
theorem held_spec (samples : List Bool) : held samples ≤ samples.length ∧
    (∀ i, samples.length - held samples ≤ i → i < samples.length → samples[i]? = some true) ∧
    ∀ i, i + 1 = samples.length - held samples → samples[i]? = some false := by
  induction samples using List.reverseRecOn with
  | nil => simp [held]
  | append_singleton samples b ih =>
    obtain ⟨short, set, clear⟩ := ih
    rw [held_append, List.length_append, List.length_singleton]
    cases b with
    | false =>
      refine ⟨Nat.zero_le _, by simp; omega, ?_⟩
      intro i last
      have here : i = samples.length := by simpa using last
      rw [here, List.getElem?_append_right (Nat.le_refl _), Nat.sub_self]
      rfl
    | true =>
      simp only [if_true]
      refine ⟨by omega, ?_, ?_⟩
      · intro i low high
        by_cases here : i = samples.length
        · rw [here, List.getElem?_append_right (Nat.le_refl _), Nat.sub_self]
          rfl
        · rw [List.getElem?_append_left (by omega)]
          exact set i (by omega) (by omega)
      · intro i last
        rw [List.getElem?_append_left (by omega)]
        exact clear i (by omega)

/-- Set samples behind a clear one, or from the start on, are all that is counted. -/
theorem held_eq {samples : List Bool} {start : Nat} (order : start ≤ samples.length)
    (set : ∀ i, start ≤ i → i < samples.length → samples[i]? = some true)
    (clear : ∀ i, i + 1 = start → samples[i]? = some false) : held samples = samples.length - start := by
  obtain ⟨short, counted, stopped⟩ := held_spec samples
  rcases Nat.lt_trichotomy (samples.length - held samples) start with less | same | more
  · -- the clear sample would be counted
    have gap := clear (start - 1) (by omega)
    rw [counted (start - 1) (by omega) (by omega)] at gap
    cases gap
  · omega
  · have gap := stopped (samples.length - held samples - 1) (by omega)
    rw [set _ (by omega) (by omega)] at gap
    cases gap

/-- **The `n`th sample of a pulse** is where the signal has been set for `n` samples. -/
theorem held_take_eq_iff {samples : List Bool} {n i : Nat} (positive : 0 < n) (inside : i < samples.length) :
    held (samples.take (i + 1)) = n ↔ ∃ start len, Pulse samples start len ∧ n ≤ len ∧ i + 1 = start + n := by
  have length : (samples.take (i + 1)).length = i + 1 := by
    rw [List.length_take]
    omega
  have front : ∀ k, k < i + 1 → (samples.take (i + 1))[k]? = samples[k]? :=
    fun k less => List.getElem?_take_of_lt less
  constructor
  · rintro rfl
    obtain ⟨short, set, clear⟩ := held_spec (samples.take (i + 1))
    rw [length] at short set clear
    generalize held (samples.take (i + 1)) = n at *
    -- the pulse goes on up to the next sample that is not set
    have ends : ∃ k, i + 1 ≤ k ∧ samples[k]? ≠ some true :=
      ⟨samples.length, inside, by simp⟩
    obtain ⟨past, stop⟩ := Nat.find_spec ends
    have rest : ∀ k, i + 1 ≤ k → k < Nat.find ends → samples[k]? = some true := by
      intro k low high
      by_contra gap
      exact Nat.find_min ends high ⟨low, gap⟩
    refine ⟨i + 1 - n, Nat.find ends - (i + 1 - n), ⟨by omega, ?_, ?_, ?_⟩, by omega, by omega⟩
    · intro k low high
      by_cases seen : k < i + 1
      · rw [← front k seen]
        exact set k (by omega) seen
      · exact rest k (by omega) (by omega)
    · intro k last
      rw [← front k (by omega)]
      exact clear k last
    · rw [Nat.add_sub_cancel' (by omega)]
      exact stop
  · rintro ⟨start, len, pulse, long, place⟩
    have counted : held (samples.take (i + 1)) = (samples.take (i + 1)).length - start := by
      refine held_eq (by omega) ?_ ?_
      · intro k low high
        rw [length] at high
        rw [front k high]
        exact pulse.inside k low (by omega)
      · intro k last
        rw [front k (by omega)]
        exact pulse.before k last
    rw [counted, length]
    omega

end Firmware
