import Stairway.Main.Waves

/-!
# A wave from its start to its end

The ticks of one wave, as long as nothing starts it again: whatever else changes between them, each
tick makes the calls of the next counters, and the last one clears the flag. Together they call every
LED once, from the end at which the wave starts.
-/

namespace Stairway
open Firmware

/-- The states `s` before the ticks of the wave block, with their settings: between two ticks wave `k`
stays as the first one left it, and the number of LEDs does not change. -/
structure Undisturbed (k : WaveName) (n : Nat) (cfg : Nat → Settings) (s : Nat → MainState) : Prop where
  wave : ∀ t, (s (t + 1)).waves.get k = (stepWaves (cfg t) (s t)).waves.get k
  fixed : ∀ t, (cfg t).num .ledCount = n

/-- The calls that wave `k` makes in a tick. -/
def tickCalls (k : WaveName) (cfg : Nat → Settings) (s : Nat → MainState) (t : Nat) : List LedCall :=
  (waveStep (cfg t) k ((s t).waves.get k)).2

/-- The ticks up to number `last`, which clears the flag, from a wave with the timestamp `ts`; `calls`
are made in them. -/
structure Sweep (k : WaveName) (ts : Nat) (cfg : Nat → Settings) (s : Nat → MainState) (last : Nat)
    (calls : List LedCall) : Prop where
  calls : (List.range (last + 1)).flatMap (tickCalls k cfg s) = calls
  on : ∀ t, t ≤ last → ((s t).waves.get k).on = true
  steady : ∀ t, t < last → tickCalls k cfg s t ≠ []
  cleared : (s (last + 1)).waves.get k = ⟨false, ts, 0⟩

/-- Each wave has its part of the calls of the wave block. -/
theorem stepWaves_tickCalls (cfg : Nat → Settings) (s : Nat → MainState) (t : Nat) :
    (stepWaves (cfg t) (s t)).calls = tickCalls .ledOnUp cfg s t ++ tickCalls .ledOffUp cfg s t ++
      tickCalls .ledOnDown cfg s t ++ tickCalls .ledOffDown cfg s t :=
  stepWaves_parts (cfg t) (s t)

section
variable {k : WaveName} {n : Nat} {cfg : Nat → Settings} {s : Nat → MainState}

theorem Undisturbed.step (undisturbed : Undisturbed k n cfg s) (t : Nat) :
    (s (t + 1)).waves.get k = (waveStep (cfg t) k ((s t).waves.get k)).1 := by
  rw [undisturbed.wave, stepWaves_waves]

theorem Undisturbed.tail (undisturbed : Undisturbed k n cfg s) :
    Undisturbed k n (fun t => cfg (t + 1)) (fun t => s (t + 1)) :=
  ⟨fun t => undisturbed.wave (t + 1), fun t => undisturbed.fixed (t + 1)⟩

/-- A tick in front of a sweep. -/
theorem Sweep.cons {ts last : Nat} {calls : List LedCall}
    (sweep : Sweep k ts (fun t => cfg (t + 1)) (fun t => s (t + 1)) last calls)
    (on : ((s 0).waves.get k).on = true) (some : tickCalls k cfg s 0 ≠ []) :
    Sweep k ts cfg s (last + 1) (tickCalls k cfg s 0 ++ calls) := by
  refine ⟨?_, ?_, ?_, sweep.cleared⟩
  · rw [List.range_succ_eq_map, List.flatMap_cons, List.flatMap_map]
    exact congrArg (tickCalls k cfg s 0 ++ ·) sweep.calls
  · intro t inside
    cases t with
    | zero => exact on
    | succ t => exact sweep.on t (by omega)
  · intro t inside
    cases t with
    | zero => exact some
    | succ t => exact sweep.steady t (by omega)

/-- From counter `c` on, the wave makes the calls that are left and clears its flag; by induction on
their number. -/
theorem sweep_from (left : Nat) {c : Nat} (undisturbed : Undisturbed k n cfg s)
    (on : ((s 0).waves.get k).on = true) (cnt : ((s 0).waves.get k).cnt = c) (inside : c + left = n) :
    ∃ last, last ≤ left ∧ Sweep k ((s 0).waves.get k).ts cfg s last
      (waveCalls k n ((s 0).waves.get k).ts c n) := by
  induction left using Nat.strongRecOn generalizing c cfg s with
  | ind left ih =>
    have move := waveStep_move (cfg 0) k ((s 0).waves.get k)
    have next := undisturbed.step 0
    rw [undisturbed.fixed 0] at move
    generalize result : waveStep (cfg 0) k ((s 0).waves.get k) = r at move next
    have made : tickCalls k cfg s 0 = r.2 := by rw [tickCalls, result]
    cases move with
    | still off =>
      rw [on] at off
      cases off
    | finish _ done =>
      have whole : c = n := by omega
      refine ⟨0, Nat.zero_le _, ?_, ?_, ?_, next⟩
      · rw [whole, waveCalls_self]
        simpa using made
      · intro t first
        rw [Nat.le_zero.mp first]
        exact on
      · intro t none
        omega
    | run _ later lower upper =>
      rw [cnt] at lower made
      obtain ⟨last, short, sweep⟩ := ih (n - later) (by omega) (c := later)
        undisturbed.tail (by rw [next]; exact on) (by rw [next]) (by omega)
      have some : tickCalls k cfg s 0 ≠ [] := by
        rw [made, waveCalls_cons lower]
        exact List.cons_ne_nil _ _
      have whole := sweep.cons on some
      rw [made, next, waveCalls_append (Nat.le_of_lt lower) upper] at whole
      exact ⟨last + 1, by omega, whole⟩

end

/-- The LEDs of all calls of a wave, in order. -/
theorem waveCalls_index (k : WaveName) {n : Nat} (ts : Nat) (fits : n < 2 ^ 32) :
    (waveCalls k n ts 0 n).map LedCall.index =
      if k.fromTop then (List.range n).reverse else List.range n := by
  have index : ∀ c, c ∈ List.range n →
      (waveCall k.fromTop k.target n ts c).index = if k.fromTop then n - 1 - c else c :=
    fun c inside => waveIndex_eq k.fromTop fits (List.mem_range.mp inside)
  rw [waveCalls, Nat.sub_zero, ← List.range_eq_range', List.map_map]
  refine (List.map_congr_left index).trans ?_
  split
  · have reversed : (List.range n).reverse = (List.range n).map (0 + n - 1 - ·) := by
      rw [← List.reverse_range', ← List.range_eq_range']
    rw [reversed, Nat.zero_add]
  · rw [List.map_id']

/-- **An undisturbed wave covers the staircase exactly once**: in at most `n + 1` ticks, without a
pause, from the end at which it starts to the other one. `run_undisturbed` says which runs of the main
loop leave a wave undisturbed; `stepWaves_tickCalls` and `mainLoop_tickCalls`, that they make its calls. -/
theorem wave_covers_once {k : WaveName} {n : Nat} {cfg : Nat → Settings} {s : Nat → MainState}
    (undisturbed : Undisturbed k n cfg s) (on : ((s 0).waves.get k).on = true)
    (start : ((s 0).waves.get k).cnt = 0) :
    ∃ last calls, last + 1 ≤ n + 1 ∧ Sweep k ((s 0).waves.get k).ts cfg s last calls ∧
      calls.map LedCall.index = (if k.fromTop then (List.range n).reverse else List.range n) ∧
      ∀ c ∈ calls, c.state = k.target ∧ c.ts = ((s 0).waves.get k).ts := by
  have fits : n < 2 ^ 32 := by
    rw [← undisturbed.fixed 0]
    exact (cfg 0).num_lt .ledCount
  obtain ⟨last, short, sweep⟩ := sweep_from n undisturbed on start (Nat.zero_add n)
  refine ⟨last, _, Nat.succ_le_succ short, sweep, waveCalls_index k _ fits, ?_⟩
  intro c member
  obtain ⟨cnt, -, call⟩ := List.mem_map.mp member
  subst call
  exact ⟨rfl, rfl⟩

/-- The first wave of the default strip, and an emergency zone whose length changes at every tick. -/
def restlessZone (t : Nat) : Settings :=
  (defaultSettings.setNum (.emergencyCnt .up) (t % 4)).setFlag .useEmergency true

def sweepStart : MainState :=
  { MainState.boot 18 with waves.ledOnUp := ⟨true, 5, 0⟩ }

def restless (t : Nat) : MainState := Run.stateAt (fun s cfg => stepWaves cfg s) sweepStart restlessZone t

theorem wave_covers_once_restless :
    ∃ last calls, last + 1 ≤ 18 + 1 ∧ Sweep .ledOnUp 5 restlessZone restless last calls ∧
      calls.map LedCall.index = (List.range 18).reverse ∧
      ∀ c ∈ calls, c.state = true ∧ c.ts = 5 := by
  have undisturbed : Undisturbed .ledOnUp 18 restlessZone restless := by
    refine ⟨fun t => rfl, fun t => ?_⟩
    have other : SettingsField.ledCount ≠ .useEmergency ∧ SettingsField.ledCount ≠ .emergencyCnt .up := by
      decide
    rw [restlessZone, Settings.setFlag, Settings.num_setNum_other _ other.1,
      Settings.num_setNum_other _ other.2]
    decide +kernel
  exact wave_covers_once undisturbed rfl rfl

/-! ## The ticks of the main loop -/

section
variable (cfg : Settings) (inp : LoopInput) (s : MainState)

/-- The guard of the wave block in an iteration. -/
def Ticks : Prop :=
  wordSub 64 (inp.clock.now .loop) (alarmed cfg inp s).prevTs > cfg.num .ledsTimeInterval

/-- The state that is stepped in an iteration that ticks. -/
def ticking : MainState :=
  emergencyOff (emergencyOff { alarmed cfg inp s with prevTs := inp.clock.now .loop } .up) .down

theorem ticking_waves : (ticking cfg inp s).waves = (reacted cfg inp s).waves := by
  obtain ⟨_, _, _, alarm, -⟩ := alarmed_cases cfg inp s
  obtain ⟨_, _, off, -⟩ :=
    emergencyOff_cases { alarmed cfg inp s with prevTs := inp.clock.now .loop } .up
  obtain ⟨_, _, off', -⟩ := emergencyOff_cases
    (emergencyOff { alarmed cfg inp s with prevTs := inp.clock.now .loop } .up) .down
  rw [ticking, off', off, alarm]

variable {cfg inp s}

theorem mainLoop_ticks (due : Ticks cfg inp s) :
    (mainLoop cfg s inp).waves = (stepWaves cfg (ticking cfg inp s)).waves := by
  rw [Ticks] at due
  rw [(mainLoop_tail cfg inp s).2.1, waveInterval, if_pos due]
  rfl

/-- An iteration that ticks makes the calls of the wave block, and after them those of test mode. -/
theorem mainLoop_tickCalls (due : Ticks cfg inp s) :
    (stepWaves cfg (ticking cfg inp s)).calls <+: (mainLoop cfg s inp).calls := by
  have wave : waveInterval cfg inp (alarmed cfg inp s) = stepWaves cfg (ticking cfg inp s) := if_pos due
  have test (s' : MainState) : s'.calls <+: (testModeStep cfg inp s').calls := by
    unfold testModeStep
    split
    · exact List.prefix_append _ _
    · exact List.prefix_refl _
  rw [mainLoop_eq, wave]
  rcases refreshStep_cases cfg inp (testModeStep cfg inp (stepWaves cfg (ticking cfg inp s))) with same | refresh
  · rw [same]
    exact test _
  · rw [refresh]
    exact test _

theorem mainLoop_idle (early : ¬ Ticks cfg inp s) :
    (mainLoop cfg s inp).waves = (reacted cfg inp s).waves := by
  obtain ⟨_, _, _, alarm, -⟩ := alarmed_cases cfg inp s
  rw [Ticks] at early
  rw [(mainLoop_tail cfg inp s).2.1, waveInterval, if_neg early, alarm]

end

/-- **What the ticks of a run find is undisturbed**: `tick` numbers the iterations of a run in which the
wave block is due, no iteration triggers wave `k`, and the settings change only in between. -/
theorem run_undisturbed {k : WaveName} {n : Nat} {cfg : Nat → Settings} {inp : Nat → LoopInput}
    {s : Nat → MainState} {tick : Nat → Nat} (run : ∀ i, s (i + 1) = mainLoop (cfg i) (s i) (inp i))
    (quiet : ∀ i, (reacted (cfg i) (inp i) (s i)).waves.get k = (s i).waves.get k)
    (fixed : ∀ i, (cfg i).num .ledCount = n) (order : ∀ t, tick t < tick (t + 1))
    (due : ∀ t, Ticks (cfg (tick t)) (inp (tick t)) (s (tick t)))
    (early : ∀ t i, tick t < i → i < tick (t + 1) → ¬ Ticks (cfg i) (inp i) (s i)) :
    Undisturbed k n (fun t => cfg (tick t))
      (fun t => ticking (cfg (tick t)) (inp (tick t)) (s (tick t))) := by
  refine ⟨fun t => ?_, fun t => fixed (tick t)⟩
  have stays : (s (tick (t + 1))).waves.get k = (s (tick t + 1)).waves.get k := by
    refine Run.kept_between (Q := fun i => (s i).waves.get k = (s (tick t + 1)).waves.get k) rfl
      (order t) ?_
    intro i low high same
    rw [run, mainLoop_idle (early t i low high), quiet, same]
  rw [ticking_waves, quiet, stays, run, mainLoop_ticks (due t)]

end Stairway
