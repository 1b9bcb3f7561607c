import Stairway.Main.Loop
import Stairway.Firmware.Run
import Stairway.Settings.Validate

/-!
# Runs of the main loop

`runAt` is the run of the loop from boot with fixed settings. A clock may stand still between
two calls (`ClockMonotone`) or has to advance from one iteration to the next (`ClockStrict`).
`scripted` is the run whose iterations are `period` milliseconds apart and whose sensors follow
a script; the concrete runs of the development are of this kind.
-/

namespace Stairway
open Firmware

/-- The state at the end of iteration `n - 1` of the run from boot, with settings `cfg`. -/
def runAt (cfg : Settings) (inp : Nat → LoopInput) (n : Nat) : MainState :=
  Run.stateAt (mainLoop cfg) (.boot (cfg.num .ledCount)) inp n

theorem runAt_zero (cfg : Settings) (inp : Nat → LoopInput) :
    runAt cfg inp 0 = .boot (cfg.num .ledCount) := Run.stateAt_zero

theorem runAt_succ (cfg : Settings) (inp : Nat → LoopInput) (n : Nat) :
    runAt cfg inp (n + 1) = mainLoop cfg (runAt cfg inp n) (inp n) := Run.stateAt_succ n

/-- The clock does not decrease over all calls of `get_time_ms` of the run. -/
def ClockMonotone (inp : Nat → LoopInput) : Prop :=
  ∀ k a b, (inp k).clock.now a ≤ (inp (k + 1)).clock.now b

/-- Readings of an earlier iteration are not past those of a later one. -/
theorem ClockMonotone.le_of_lt {inp : Nat → LoopInput} (mono : ClockMonotone inp) {j k : Nat}
    (order : j < k) (a b : TimeCall) : (inp j).clock.now a ≤ (inp k).clock.now b := by
  induction k generalizing b with
  | zero => omega
  | succ k ih =>
    by_cases last : j = k
    · subst last
      exact mono j a b
    · exact Nat.le_trans (ih (by omega) .loop) (mono k .loop b)

/-- The first reading is above 0, and every reading of an iteration is below every reading of
the next one, over the first `n` iterations. -/
structure ClockStrict (inp : Nat → LoopInput) (n : Nat) : Prop where
  positive : 0 < n → 0 < (inp 0).clock.now .loop
  advances : ∀ k, k + 1 < n → ∀ a b, (inp k).clock.now a < (inp (k + 1)).clock.now b

/-! ## Scripted runs -/

/-- A clock that reads `t` throughout the iteration, and stops at its largest value. -/
def LoopClock.reading (t : Nat) : LoopClock := .const (min t (2 ^ 64 - 1)) (by omega)

/-- An iteration in the dark in which exactly the sensors of `on` detect somebody. -/
def LoopInput.sensing (clock : LoopClock) (on : List StairwaySensorType) : LoopInput where
  clock := clock
  sensors := {
    dist := .ofFn fun _ => 0
    signal := .ofFn fun _ => 0
    state := .ofFn fun i => on.contains i
    error := .ofFn fun _ => false }
  lightState := false
  lightValue := 0
  testMode := false
  bootselButton := false
  alloc := ⟨true, true⟩

/-- Iteration `k` takes place at `period * (k + 1)` and follows entry `k` of the script. -/
def scripted (period : Nat) (script : List (List StairwaySensorType)) (k : Nat) : LoopInput :=
  .sensing (.reading (period * (k + 1))) (script.getD k [])

theorem scripted_monotone (period : Nat) (script : List (List StairwaySensorType)) :
    ClockMonotone (scripted period script) := by
  intro k a b
  have later : period * (k + 1) ≤ period * (k + 1 + 1) := Nat.mul_le_mul_left period (by omega)
  change min (period * (k + 1)) (2 ^ 64 - 1) ≤ min (period * (k + 1 + 1)) (2 ^ 64 - 1)
  omega

theorem scripted_strict {period n : Nat} (script : List (List StairwaySensorType))
    (positive : 0 < period) (bound : period * n < 2 ^ 64) : ClockStrict (scripted period script) n where
  positive some := by
    change 0 < min (period * (0 + 1)) (2 ^ 64 - 1)
    omega
  advances k inside a b := by
    have step : period * (k + 1 + 1) = period * (k + 1) + period := Nat.mul_succ _ _
    have last : period * (k + 1 + 1) ≤ period * n := Nat.mul_le_mul_left period (by omega)
    change min (period * (k + 1)) (2 ^ 64 - 1) < min (period * (k + 1 + 1)) (2 ^ 64 - 1)
    omega

end Stairway
