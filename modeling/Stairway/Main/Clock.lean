import Mathlib.Data.List.Chain
import Stairway.Firmware.Run
import Stairway.Firmware.Word

/-!
# The clock (`get_time_ms` of `main.c`)

`to_ms_since_boot` wraps after 49 days. `get_time_ms` adds up the differences of its readings in a
word of 64 bits, and returns the true time as long as it is called once in each 49 days
(`getTimeMs_exact`).
-/

namespace Stairway
open Firmware

/-- The static variables of `get_time_ms`. -/
structure TimeMs where
  lastRawTime : Nat
  totalMs : Nat
  deriving DecidableEq, Repr

/-- The variables at boot. -/
def TimeMs.boot : TimeMs := ⟨0, 0⟩

/-- `to_ms_since_boot(get_absolute_time())` at the true time `t`. -/
def toMsSinceBoot (t : Nat) : Nat := t % 2 ^ 32

/-- `get_time_ms` with the reading `ts`. -/
def getTimeMs (s : TimeMs) (ts : Nat) : Nat × TimeMs :=
  let delta := wordSub 32 ts s.lastRawTime
  let totalMs := (s.totalMs + delta) % 2 ^ 64
  (totalMs, ⟨ts, totalMs⟩)

/-- The true times of the calls: they do not decrease, and none is a whole wrap after the one before
it; the first comes before the first wrap. -/
structure CallTimes (times : List Nat) : Prop where
  early : ∀ t, times.head? = some t → t < 2 ^ 32
  ordered : times.IsChain (· ≤ ·)
  near : times.IsChain fun t t' => t' - t < 2 ^ 32
  fits : ∀ t ∈ times, t < 2 ^ 64

/-- The variables after a call at the true time `t`. -/
def TimeMs.at (t : Nat) : TimeMs := ⟨toMsSinceBoot t, t⟩

/-- A call that comes within a wrap of the last one. -/
theorem getTimeMs_at {t t' : Nat} (order : t ≤ t') (near : t' - t < 2 ^ 32) (fits : t' < 2 ^ 64) :
    getTimeMs (.at t) (toMsSinceBoot t') = (t', .at t') := by
  have delta : wordSub 32 (toMsSinceBoot t') (toMsSinceBoot t) = t' - t := wordSub_mod order near
  have total : (t + (t' - t)) % 2 ^ 64 = t' := by
    rw [Nat.add_sub_cancel' order, Nat.mod_eq_of_lt fits]
  unfold getTimeMs TimeMs.at
  dsimp only
  rw [delta, total]

theorem getTimeMs_from {t : Nat} {times : List Nat} (ordered : (t :: times).IsChain (· ≤ ·))
    (near : (t :: times).IsChain fun t t' => t' - t < 2 ^ 32) (fits : ∀ t' ∈ times, t' < 2 ^ 64) :
    Run.outputs getTimeMs (.at t) (times.map toMsSinceBoot) = times := by
  induction times generalizing t with
  | nil => rfl
  | cons t' times ih =>
    obtain ⟨order, ordered⟩ := List.isChain_cons_cons.mp ordered
    obtain ⟨short, near⟩ := List.isChain_cons_cons.mp near
    have call := getTimeMs_at order short (fits t' List.mem_cons_self)
    rw [List.map_cons, Run.outputs, call, ih ordered near fun t'' member => fits t'' (List.mem_cons_of_mem _ member)]

/-- **Every call returns the true time**, across any number of wraps; what is returned never decreases. -/
theorem getTimeMs_exact {times : List Nat} (calls : CallTimes times) :
    Run.outputs getTimeMs .boot (times.map toMsSinceBoot) = times ∧
      (Run.outputs getTimeMs .boot (times.map toMsSinceBoot)).Pairwise (· ≤ ·) := by
  have exact : Run.outputs getTimeMs .boot (times.map toMsSinceBoot) = times := by
    cases times with
    | nil => rfl
    | cons t times =>
      have early := calls.early t rfl
      refine getTimeMs_from (t := 0) ?_ ?_ calls.fits
      · exact List.isChain_cons_cons.mpr ⟨Nat.zero_le t, calls.ordered⟩
      · exact List.isChain_cons_cons.mpr ⟨early, calls.near⟩
  rw [exact]
  exact ⟨rfl, List.isChain_iff_pairwise.mp calls.ordered⟩

/-- Calls before the first wrap, after it and after the second one. -/
def wrappingTimes : List Nat := [5, 2 ^ 32 - 1, 2 ^ 32 + 7, 2 ^ 33 + 2]

theorem getTimeMs_exact_wrapping :
    Run.outputs getTimeMs .boot (wrappingTimes.map toMsSinceBoot) = wrappingTimes ∧
      (Run.outputs getTimeMs .boot (wrappingTimes.map toMsSinceBoot)).Pairwise (· ≤ ·) :=
  getTimeMs_exact ⟨fun t first => by cases first; decide, by decide, by decide, by decide⟩

end Stairway
