import Stairway.Main.Waves

/-!
# The invariant of the main loop

`LedInvariant` ties the waves, the emergency flags and the LED module together and needs nothing
but the loop body; `LoopInvariant` adds the people count, which stays in range as long as fewer
than `2 ^ 31` entries have been counted.
-/

namespace Stairway
open Firmware

/-! ## Waves, emergency flags and LEDs -/

/-- The LED module has the size of the settings, the two copies of the emergency flags agree,
and every wave counter is in range. -/
structure LedInvariant (cfg : Settings) (s : MainState) : Prop where
  ledCount : s.leds.ws2812.ledCount = cfg.num .ledCount
  sized : s.leds.stamps.length = cfg.num .ledCount
  emergency : s.emergencyOn = s.leds.emergencyState
  waves : ∀ k, (s.waves.get k).InRange (cfg.num .ledCount)

/-- What the sections after the triggers keep, whatever they do to the LEDs' states. -/
structure LedShape (s t : MainState) : Prop where
  ledCount : t.leds.ws2812.ledCount = s.leds.ws2812.ledCount
  sized : t.leds.stamps.length = s.leds.stamps.length
  emergency : s.emergencyOn = s.leds.emergencyState → t.emergencyOn = t.leds.emergencyState

theorem LedShape.trans {s t u : MainState} (first : LedShape s t) (second : LedShape t u) :
    LedShape s u :=
  ⟨second.ledCount.trans first.ledCount, second.sized.trans first.sized,
    fun sync => second.emergency (first.emergency sync)⟩

section
variable (cfg : Settings) (inp : LoopInput) (s : MainState)

theorem emergencyStep_shape (i : EmergencyType) : LedShape s (emergencyStep cfg inp s i) := by
  unfold emergencyStep
  dsimp only
  split
  · refine ⟨rfl, rfl, fun sync => ?_⟩
    change s.emergencyOn.set i true = s.leds.emergencyState.set i true
    rw [sync]
  · exact ⟨rfl, rfl, id⟩

theorem emergencyOff_shape (i : EmergencyType) : LedShape s (emergencyOff s i) := by
  unfold emergencyOff
  split
  · refine ⟨rfl, rfl, fun sync => ?_⟩
    change s.emergencyOn.set i false = s.leds.emergencyState.set i false
    rw [sync]
  · exact ⟨rfl, rfl, id⟩

theorem stepWaves_shape : LedShape s (stepWaves cfg s) := by
  obtain ⟨ws2812, emergency, count⟩ := applyCalls_frame s.leds (stepWaves cfg s).calls
  exact ⟨congrArg Ws2812.ledCount ws2812, count, fun sync => sync.trans emergency.symm⟩

theorem waveInterval_shape : LedShape s (waveInterval cfg inp s) := by
  rcases waveInterval_cases cfg inp s with skip | step
  · rw [skip]
    exact ⟨rfl, rfl, id⟩
  · rw [step]
    have started : LedShape s { s with prevTs := inp.clock.now .loop } := ⟨rfl, rfl, id⟩
    have up := emergencyOff_shape { s with prevTs := inp.clock.now .loop } .up
    have down := emergencyOff_shape (emergencyOff { s with prevTs := inp.clock.now .loop } .up) .down
    exact ((started.trans up).trans down).trans (stepWaves_shape cfg _)

theorem testModeStep_shape : LedShape s (testModeStep cfg inp s) := by
  unfold testModeStep
  split
  · obtain ⟨ws2812, emergency, count⟩ := applyCalls_frame s.leds
      ((List.range (cfg.num .ledCount)).map fun i =>
        ⟨i, s.status.testMode, inp.clock.now (.test i), i⟩)
    exact ⟨congrArg Ws2812.ledCount ws2812, count, fun sync => sync.trans emergency.symm⟩
  · exact ⟨rfl, rfl, id⟩

theorem refreshStep_shape (agree : s.leds.ws2812.ledCount = cfg.num .ledCount) :
    LedShape s (refreshStep cfg inp s) := by
  rcases refreshStep_cases cfg inp s with skip | refresh
  · rw [skip]
    exact ⟨rfl, rfl, id⟩
  · have same := s.leds.refresh_frame cfg inp.alloc agree.symm
    rw [refresh]
    exact ⟨same.ledCount, congrArg List.length same.stamps,
      fun sync => sync.trans same.emergencyState.symm⟩

/-- **One iteration keeps the LED invariant.** -/
theorem mainLoop_ledInvariant (h : LedInvariant cfg s) : LedInvariant cfg (mainLoop cfg s inp) := by
  obtain ⟨-, leds, -⟩ := reacted_prev cfg inp s
  have start : LedShape s (reacted cfg inp s) := by
    refine ⟨by rw [leds], by rw [leds], fun sync => ?_⟩
    rw [leds, ← sync, reacted, stampBlocks]
    rcases reactToCount_cases cfg inp (senseStep cfg inp s) with stands | ⟨-, cleared⟩
    · rw [stands]
      rfl
    · rw [cleared]
      rfl
  have alarm : LedShape (reacted cfg inp s) (alarmed cfg inp s) :=
    (emergencyStep_shape cfg inp _ .up).trans (emergencyStep_shape cfg inp _ .down)
  have waves := (start.trans alarm).trans (waveInterval_shape cfg inp (alarmed cfg inp s))
  have tested := waves.trans (testModeStep_shape cfg inp (waveInterval cfg inp (alarmed cfg inp s)))
  have final := tested.trans (refreshStep_shape cfg inp _ (tested.ledCount.trans h.ledCount))
  rw [← mainLoop_eq] at final
  exact ⟨final.ledCount.trans h.ledCount, final.sized.trans h.sized, final.emergency h.emergency,
    mainLoop_inRange cfg inp s h.waves⟩

end

theorem boot_ledInvariant (cfg : Settings) : LedInvariant cfg (.boot (cfg.num .ledCount)) where
  ledCount := rfl
  sized := by
    change (StairwayLeds.initial (cfg.num .ledCount)).stamps.length = _
    rw [StairwayLeds.length_stamps]
    exact List.length_replicate
  emergency := rfl
  waves k := by cases k <;> exact ⟨Nat.zero_le _, fun _ => rfl⟩

theorem runAt_ledInvariant (cfg : Settings) (inp : Nat → LoopInput) (n : Nat) :
    LedInvariant cfg (runAt cfg inp n) :=
  Run.invariant_at (P := fun _ => LedInvariant cfg) (boot_ledInvariant cfg)
    (fun k _ h => mainLoop_ledInvariant cfg (inp k) _ h)

/-! ## The calls of an iteration -/

theorem waveInterval_calls (cfg : Settings) (inp : LoopInput) (s : MainState) :
    ∀ c ∈ (waveInterval cfg inp s).calls, c.Inside (cfg.num .ledCount) := by
  intro c member
  rcases waveInterval_cases cfg inp s with skip | step
  · rw [skip] at member
    cases member
  · rw [step, stepWaves_calls] at member
    obtain ⟨k, call⟩ := member
    exact (waveStep_move cfg k _).inside (cfg.num_lt .ledCount) c call

theorem testModeStep_calls {cfg : Settings} {s : MainState} (inp : LoopInput)
    (h : ∀ c ∈ s.calls, c.Inside (cfg.num .ledCount)) :
    ∀ c ∈ (testModeStep cfg inp s).calls, c.Inside (cfg.num .ledCount) := by
  intro c member
  unfold testModeStep at member
  split at member
  · rcases List.mem_append.mp member with call | call
    · exact h c call
    · obtain ⟨i, inside, same⟩ := List.mem_map.mp call
      have below := List.mem_range.mp inside
      subst same
      exact ⟨below, below⟩
  · exact h c member

theorem refreshStep_calls (cfg : Settings) (inp : LoopInput) (s : MainState) :
    (refreshStep cfg inp s).calls = s.calls := by
  rcases refreshStep_cases cfg inp s with skip | refresh
  · rw [skip]
  · rw [refresh]

/-- Every call of an iteration is for a LED that exists, at a counter in range. -/
theorem mainLoop_calls (cfg : Settings) (inp : LoopInput) (s : MainState) :
    ∀ c ∈ (mainLoop cfg s inp).calls, c.Inside (cfg.num .ledCount) := by
  rw [mainLoop_eq, refreshStep_calls]
  exact testModeStep_calls inp (waveInterval_calls cfg inp _)

/-! ## Counting people -/

/-- One if a detector enters `DETECTOR_STATE_INC`. -/
def entryCount (before after : DetectorState) : Nat :=
  if before ≠ .inc ∧ after = .inc then 1 else 0

/-- The entries counted in the first `n` iterations of the run. -/
def entries (cfg : Settings) (inp : Nat → LoopInput) : Nat → Nat
  | 0 => 0
  | n + 1 => entries cfg inp n +
      entryCount (runAt cfg inp n).status.detector.up.state
        (runAt cfg inp (n + 1)).status.detector.up.state +
      entryCount (runAt cfg inp n).status.detector.down.state
        (runAt cfg inp (n + 1)).status.detector.down.state

section
variable {cfg : Settings} {inp : LoopInput} {s t : Status} {d : DetectorType}

/-- A move counts at most one entry, and nobody leaves an empty staircase. -/
theorem DetectorMove.people (move : DetectorMove cfg inp s d t) (low : 0 ≤ s.peopleCount)
    (room : s.peopleCount + entryCount (s.detector.get d).state (t.detector.get d).state < 2 ^ 31) :
    0 ≤ t.peopleCount ∧
      t.peopleCount ≤ s.peopleCount + entryCount (s.detector.get d).state (t.detector.get d).state := by
  cases move with
  | blocked | lock | release =>
    change 0 ≤ s.peopleCount ∧ s.peopleCount ≤ _
    omega
  | stay => omega
  | entry _ _ locked =>
    have counted : entryCount (s.detector.get d).state
        ((countIn inp (enter inp s d .inc) d).detector.get d).state = 1 := by
      rw [locked]
      simp [entryCount, countIn, enter]
    rw [counted] at room ⊢
    change 0 ≤ wrapInt32 (s.peopleCount + 1) ∧ wrapInt32 (s.peopleCount + 1) ≤ _
    rw [wrapInt32_of_range (by omega) (by omega)]
    omega
  | exit =>
    unfold countOut
    split
    · change 0 ≤ wrapInt32 (s.peopleCount - 1) ∧ wrapInt32 (s.peopleCount - 1) ≤ _
      rename_i some
      have positive : s.peopleCount ≠ 0 := some
      rw [wrapInt32_of_range (by omega) (by omega)]
      omega
    · change 0 ≤ s.peopleCount ∧ s.peopleCount ≤ _
      omega

/-- While the light blocks, a detector goes to `IDLE` and counts nobody. -/
theorem DetectorMove.of_blocked (move : DetectorMove cfg inp s d t) (block : s.blockByLight = true) :
    t.peopleCount = s.peopleCount ∧ (t.detector.get d).state = .idle := by
  cases move with
  | blocked => exact ⟨rfl, by simp [enter]⟩
  | stay unblocked | lock unblocked | release unblocked | entry unblocked | exit unblocked =>
    rw [block] at unblocked
    cases unblocked

end

section
variable (cfg : Settings) (inp : LoopInput) (prevError : PerSensor Bool) (s : Status)

/-- The two evaluations of an iteration, with the states they lead from and to. -/
theorem sense_moves : ∃ m t, DetectorMove cfg inp m .up t ∧
    DetectorMove cfg inp t .down (sense cfg inp prevError s) ∧ m.peopleCount = s.peopleCount ∧
    (m.detector.get .up = s.detector.get .up ∧
      t.detector.get .up = (sense cfg inp prevError s).detector.get .up) ∧
    t.detector.get .down = s.detector.get .down ∧
    (m.blockByLight = (sense cfg inp prevError s).blockByLight ∧
      t.blockByLight = (sense cfg inp prevError s).blockByLight) := by
  obtain ⟨detector, people, -⟩ := sampled_frame cfg inp prevError s
  rw [sense_eq]
  have up := detectorStep_move cfg inp (sampled cfg inp prevError s) .up
  have down := detectorStep_move cfg inp (detectorStep cfg inp (sampled cfg inp prevError s) .up) .down
  obtain ⟨others, -, block, -⟩ := up.frame
  obtain ⟨others', -, block', -⟩ := down.frame
  refine ⟨_, _, up, down, people, ⟨?_, ?_⟩, ?_, ⟨?_, ?_⟩⟩
  · rw [detector]
  · exact (others' .up (by decide)).symm
  · rw [others .down (by decide), detector]
  · exact (block'.trans block).symm
  · exact block'.symm

/-- The count after an iteration's evaluations exceeds the one before by at most the entries. -/
theorem sense_people (low : 0 ≤ s.peopleCount)
    (room : s.peopleCount +
      (entryCount s.detector.up.state (sense cfg inp prevError s).detector.up.state +
        entryCount s.detector.down.state (sense cfg inp prevError s).detector.down.state : Nat) <
      2 ^ 31) :
    0 ≤ (sense cfg inp prevError s).peopleCount ∧
      (sense cfg inp prevError s).peopleCount ≤ s.peopleCount +
        (entryCount s.detector.up.state (sense cfg inp prevError s).detector.up.state +
          entryCount s.detector.down.state (sense cfg inp prevError s).detector.down.state : Nat) := by
  obtain ⟨m, t, up, down, people, ⟨before, after⟩, before', -⟩ := sense_moves cfg inp prevError s
  have upPeople := up.people
  have downPeople := down.people
  rw [before, after, people] at upPeople
  rw [before'] at downPeople
  simp only [PerDetector.get] at upPeople downPeople
  obtain ⟨low', high'⟩ := upPeople low (by omega)
  obtain ⟨low'', high''⟩ := downPeople low' (by omega)
  omega

/-- Under the light block nobody is counted and both detectors are `IDLE`. -/
theorem sense_blocked (block : (sense cfg inp prevError s).blockByLight = true) :
    (sense cfg inp prevError s).peopleCount = s.peopleCount ∧
      ∀ d, ((sense cfg inp prevError s).detector.get d).state = .idle := by
  obtain ⟨m, t, up, down, people, ⟨-, after⟩, -, blocked, blocked'⟩ :=
    sense_moves cfg inp prevError s
  obtain ⟨people', idle⟩ := up.of_blocked (blocked.trans block)
  obtain ⟨people'', idle'⟩ := down.of_blocked (blocked'.trans block)
  refine ⟨people''.trans (people'.trans people), ?_⟩
  intro d
  cases d with
  | up => rw [← after]; exact idle
  | down => exact idle'

end

/-! ## The invariant -/

/-- What holds at the end of every iteration. -/
structure LoopInvariant (cfg : Settings) (s : MainState) : Prop where
  people : 0 ≤ s.status.peopleCount
  prev : s.status.prevPeopleCount = s.status.peopleCount
  blocked : s.status.blockByLight = true →
    s.status.peopleCount = 0 ∧ ∀ d, (s.status.detector.get d).state = .idle
  waves : ∀ k, (s.waves.get k).cnt ≤ cfg.num .ledCount ∧
    ((s.waves.get k).on = false → (s.waves.get k).cnt = 0)
  emergency : ∀ i, s.emergencyOn.get i = s.leds.emergencyState.get i
  calls : ∀ c ∈ s.calls, c.index < cfg.num .ledCount ∧ c.cnt + 1 ≤ cfg.num .ledCount
  ledCount : 1 ≤ cfg.num .ledCount

/-- The part of the invariant that counts, with the bound that carries it. -/
structure PeopleInvariant (bound : Nat) (s : Status) : Prop where
  low : 0 ≤ s.peopleCount
  high : s.peopleCount ≤ bound
  prev : s.prevPeopleCount = s.peopleCount
  blocked : s.blockByLight = true → s.peopleCount = 0 ∧ ∀ d, (s.detector.get d).state = .idle

/-- One iteration keeps the count between zero and the entries so far. -/
theorem mainLoop_people {cfg : Settings} {inp : LoopInput} {s : MainState} {bound : Nat}
    (h : PeopleInvariant bound s.status)
    (room : bound + entryCount s.status.detector.up.state (mainLoop cfg s inp).status.detector.up.state
      + entryCount s.status.detector.down.state (mainLoop cfg s inp).status.detector.down.state < 2 ^ 31) :
    PeopleInvariant (bound +
      entryCount s.status.detector.up.state (mainLoop cfg s inp).status.detector.up.state +
      entryCount s.status.detector.down.state (mainLoop cfg s inp).status.detector.down.state)
      (mainLoop cfg s inp).status := by
  obtain ⟨prev, -⟩ := reacted_prev cfg inp s
  obtain ⟨detector, -, block, -⟩ := reacted_status cfg inp s
  have low := h.low
  have high := h.high
  rw [mainLoop_detector] at room ⊢
  rw [mainLoop_status]
  obtain ⟨low', high'⟩ := sense_people cfg inp s.senPrevError s.status low (by omega)
  have counted : (reacted cfg inp s).status.peopleCount =
      (sense cfg inp s.senPrevError s.status).peopleCount ∨
      (reacted cfg inp s).status.peopleCount = 0 := by
    rcases reacted_waves cfg inp s with ⟨stands, -⟩ | ⟨-, cleared, -⟩
    · exact Or.inl stands
    · exact Or.inr cleared
  refine ⟨?_, ?_, prev, ?_⟩
  · rcases counted with same | zero <;> omega
  · rcases counted with same | zero <;> omega
  · intro blocked
    rw [block] at blocked
    obtain ⟨people, idle⟩ := sense_blocked cfg inp s.senPrevError s.status blocked
    refine ⟨?_, fun d => by rw [detector]; exact idle d⟩
    -- the block is set only over an empty staircase, and was empty if it was set before
    have empty : s.status.peopleCount = 0 := by
      obtain ⟨-, -, nobody | before⟩ := (sense_blockByLight cfg inp s.senPrevError s.status).mp blocked
      · exact nobody
      · exact (h.blocked before).1
    rcases counted with same | zero
    · rw [same, people, empty]
    · exact zero

theorem runAt_people (cfg : Settings) (inp : Nat → LoopInput) (n : Nat)
    (few : entries cfg inp n < 2 ^ 31) :
    PeopleInvariant (entries cfg inp n) (runAt cfg inp n).status := by
  induction n with
  | zero =>
    rw [runAt_zero]
    exact ⟨Int.le_refl 0, Int.le_refl 0, rfl, fun block => by cases block⟩
  | succ n ih =>
    rw [entries, runAt_succ] at few ⊢
    exact mainLoop_people (ih (by omega)) few

/-- **The main-loop state invariant.** -/
theorem runAt_invariant (cfg : Settings) (valid : settingsValidate cfg = .success)
    (inp : Nat → LoopInput) (n : Nat) (few : entries cfg inp n < 2 ^ 31) :
    LoopInvariant cfg (runAt cfg inp n) := by
  have people := runAt_people cfg inp n few
  have leds := runAt_ledInvariant cfg inp n
  have calls : ∀ c ∈ (runAt cfg inp n).calls, c.Inside (cfg.num .ledCount) := by
    cases n with
    | zero =>
      rw [runAt_zero]
      intro c member
      cases member
    | succ n =>
      rw [runAt_succ]
      exact mainLoop_calls cfg (inp n) _
  exact {
    people := people.low
    prev := people.prev
    blocked := people.blocked
    waves := fun k => ⟨(leds.waves k).le, (leds.waves k).rest⟩
    emergency := fun i => by rw [leds.emergency]
    calls := fun c member => ⟨(calls c member).index, (calls c member).counter⟩
    ledCount := ((settingsValidate_iff cfg).mp valid).ledCountPos }

theorem runAt_invariant_twoEntries : LoopInvariant defaultSettings (runAt defaultSettings twoEntries 5) :=
  runAt_invariant defaultSettings (by decide) twoEntries 5 (by decide)

end Stairway
