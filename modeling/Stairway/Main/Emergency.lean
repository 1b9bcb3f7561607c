import Stairway.Main.Detector

/-!
# Emergency lights: confirmation and blocking times

`detector_block_ts` is sampled after the loop timestamp it is compared with. As long as the
clock has not moved between the two, the subtraction is exact and an emergency light comes on
only after its sensor has been current for `EMERGENCY_CONFIRM_MS` and `emergency_block_ms` after
the last `SECOND_LOCK`; a later sample makes the subtraction wrap (`LateLock`).
`emergency_times_iff` says that nothing else can go wrong.
-/

namespace Stairway
open Firmware

/-! ## What an iteration does to an emergency light -/

/-- The condition under which the emergency loop switches `i` on in state `s`. -/
def switchCondition (cfg : Settings) (inp : LoopInput) (s : MainState) (i : EmergencyType) : Bool :=
  (s.status.sensorState.get (emergencySensor i)).current && !s.status.blockByLight
    && cfg.flag .useEmergency && !s.emergencyOn.get i
    && decide (wordSub 64 (inp.clock.now .loop) (emergencySensorTs inp s i) ≥ emergencyConfirmMs)
    && decide (wordSub 64 (inp.clock.now .loop) (s.detectorBlockTs.get (emergencyDetector i)) >
      cfg.num .emergencyBlockMs)

section
variable (cfg : Settings) (inp : LoopInput) (s : MainState)

theorem emergencyStep_on (i : EmergencyType) : (emergencyStep cfg inp s i).emergencyOn.get i =
    (s.emergencyOn.get i || switchCondition cfg inp s i) := by
  unfold emergencyStep switchCondition emergencyDue
  simp only [PerEmergency.get_set_same, Bool.and_assoc]
  split
  · rename_i due
    rw [due, PerEmergency.get_set_same, Bool.or_true]
  · rename_i due
    rw [Bool.eq_false_iff.mpr due, Bool.or_false]

theorem emergencyStep_other {i j : EmergencyType} (other : j ≠ i) :
    (emergencyStep cfg inp s i).emergencyOn.get j = s.emergencyOn.get j ∧
      (emergencyStep cfg inp s i).emergencySensorOnTs.get j = s.emergencySensorOnTs.get j := by
  unfold emergencyStep
  dsimp only
  split
  · exact ⟨PerEmergency.get_set_other _ _ other, PerEmergency.get_set_other _ _ other⟩
  · exact ⟨rfl, PerEmergency.get_set_other _ _ other⟩

theorem emergencyStep_sensorTs (i : EmergencyType) :
    (emergencyStep cfg inp s i).emergencySensorOnTs.get i = emergencySensorTs inp s i := by
  unfold emergencyStep
  dsimp only
  split <;> exact PerEmergency.get_set_same _ _ _

/-- The emergency loop as a whole: each light looks only at its own sensor and detector. -/
theorem alarmed_emergency (i : EmergencyType) :
    (alarmed cfg inp s).emergencyOn.get i =
      ((reacted cfg inp s).emergencyOn.get i || switchCondition cfg inp (reacted cfg inp s) i) ∧
    (alarmed cfg inp s).emergencySensorOnTs.get i = emergencySensorTs inp (reacted cfg inp s) i := by
  unfold alarmed
  generalize reacted cfg inp s = r
  obtain ⟨on, leds, first, -⟩ := emergencyStep_cases cfg inp r .up
  cases i with
  | up =>
    obtain ⟨same, same'⟩ := emergencyStep_other cfg inp (emergencyStep cfg inp r .up)
      (i := .down) (j := .up) (by decide)
    rw [same, same']
    exact ⟨emergencyStep_on cfg inp r .up, emergencyStep_sensorTs cfg inp r .up⟩
  | down =>
    obtain ⟨same, same'⟩ := emergencyStep_other cfg inp r (i := .up) (j := .down) (by decide)
    rw [emergencyStep_on, emergencyStep_sensorTs]
    unfold switchCondition emergencySensorTs
    rw [same, same', first]
    exact ⟨rfl, rfl⟩

/-- A light that is on before the wave block stays on while its sensor is current, and none
comes on in it. -/
theorem waveInterval_emergency (i : EmergencyType) :
    ((waveInterval cfg inp s).emergencyOn.get i = true → s.emergencyOn.get i = true) ∧
    ((s.status.sensorState.get (emergencySensor i)).current = true →
      (waveInterval cfg inp s).emergencyOn.get i = s.emergencyOn.get i) := by
  have off : ∀ (t : MainState) j,
      ((emergencyOff t j).emergencyOn.get i = true → t.emergencyOn.get i = true) ∧
      ((t.status.sensorState.get (emergencySensor i)).current = true →
        (emergencyOff t j).emergencyOn.get i = t.emergencyOn.get i) := by
    intro t j
    unfold emergencyOff
    split
    · rename_i released
      by_cases same : i = j
      · subst same
        refine ⟨fun on => ?_, fun current => ?_⟩
        · rw [PerEmergency.get_set_same] at on
          cases on
        · rw [released.2] at current
          cases current
      · have other := PerEmergency.get_set_other t.emergencyOn false same
        exact ⟨fun on => other ▸ on, fun _ => other⟩
    · exact ⟨id, fun _ => rfl⟩
  rcases waveInterval_cases cfg inp s with skip | step
  · rw [skip]
    exact ⟨id, fun _ => rfl⟩
  · rw [step]
    obtain ⟨on, leds, up, -⟩ := emergencyOff_cases { s with prevTs := inp.clock.now .loop } .up
    have first := off { s with prevTs := inp.clock.now .loop } .up
    have second := off (emergencyOff { s with prevTs := inp.clock.now .loop } .up) .down
    refine ⟨fun on => first.1 (second.1 on), fun current => ?_⟩
    have unchanged := second.2 (by rw [up]; exact current)
    exact unchanged.trans (first.2 current)

/-- The settled status, sensors and locks that the emergency loop reads. -/
theorem reacted_emergency :
    (reacted cfg inp s).emergencyOn = s.emergencyOn ∧
      (reacted cfg inp s).emergencySensorOnTs = s.emergencySensorOnTs ∧
      ∀ d, (reacted cfg inp s).detectorBlockTs.get d =
        if ((sense cfg inp s.senPrevError s.status).detector.get d).state = .secondLock
        then inp.clock.now (.block d) else s.detectorBlockTs.get d := by
  have detector := (reacted_status cfg inp s).1
  rw [reacted, stampBlocks] at detector ⊢
  rcases reactToCount_cases cfg inp (senseStep cfg inp s) with stands | ⟨-, cleared⟩
  · rw [stands] at detector ⊢
    refine ⟨rfl, rfl, fun d => ?_⟩
    rw [← detector, PerDetector.get_ofFn]
    rfl
  · rw [cleared] at detector ⊢
    refine ⟨rfl, rfl, fun d => ?_⟩
    rw [← detector, PerDetector.get_ofFn]
    rfl

/-- An iteration that finds the light off leaves it on exactly if the switch condition holds. -/
theorem mainLoop_switches {i : EmergencyType} (off : s.emergencyOn.get i = false) :
    (mainLoop cfg s inp).emergencyOn.get i = true ↔
      switchCondition cfg inp (reacted cfg inp s) i = true := by
  have on := (alarmed_emergency cfg inp s i).1
  rw [(reacted_emergency cfg inp s).1, off, Bool.false_or] at on
  obtain ⟨ts, on', leds, alarm, -⟩ := alarmed_cases cfg inp s
  have status : (alarmed cfg inp s).status = (reacted cfg inp s).status := by rw [alarm]
  obtain ⟨kept, current⟩ := waveInterval_emergency cfg inp (alarmed cfg inp s) i
  rw [(mainLoop_tail cfg inp s).2.2.1]
  constructor
  · intro final
    rw [← on]
    exact kept final
  · intro condition
    rw [current, on, condition]
    rw [status]
    simp only [switchCondition, Bool.and_eq_true] at condition
    exact condition.1.1.1.1.1

end

/-! ## The two times over a run -/

section
variable (cfg : Settings) (inp : Nat → LoopInput) (i : EmergencyType)

/-- Iteration `n` switches emergency `i` on. -/
def SwitchesOn (n : Nat) : Prop :=
  (runAt cfg inp n).emergencyOn.get i = false ∧ (runAt cfg inp (n + 1)).emergencyOn.get i = true

/-- The `FIRST` sensor of `i` is current in iteration `k`. -/
def FirstCurrentAt (k : Nat) : Prop :=
  ((runAt cfg inp (k + 1)).status.sensorState.get (emergencySensor i)).current = true

/-- Iteration `k` leaves the detector of `i` in `SECOND_LOCK`. -/
def LockedAt (k : Nat) : Prop :=
  ((runAt cfg inp (k + 1)).status.detector.get (emergencyDetector i)).state = .secondLock

/-- The sensor of `i` has been current in every iteration since one that is
`EMERGENCY_CONFIRM_MS` old by iteration `n`. -/
def Confirmed (n : Nat) : Prop :=
  ∃ m, m ≤ n ∧ (inp m).clock.now .loop + emergencyConfirmMs ≤ (inp n).clock.now .loop ∧
    ∀ k, m ≤ k → k ≤ n → FirstCurrentAt cfg inp i k

/-- No `SECOND_LOCK` up to iteration `n` is less than `emergency_block_ms` old. -/
def Unblocked (n : Nat) : Prop :=
  ∀ k, k ≤ n → LockedAt cfg inp i k →
    ¬ (inp n).clock.now .loop ≤
      (inp k).clock.now (.block (emergencyDetector i)) + cfg.num .emergencyBlockMs

/-- If iteration `n` switches emergency `i` on, both times are respected. -/
def EmergencyTimes (n : Nat) : Prop :=
  SwitchesOn cfg inp i n → Confirmed cfg inp i n ∧ Unblocked cfg inp i n

end

/-- The iteration finds the detector of `i` in `SECOND_LOCK` and holds it there because its second
sensor fails while the first one detects; the emergency may come on in every other respect; and
`detector_block_ts` is sampled later than the loop timestamp, so that `ts - detector_block_ts`
wraps past `emergency_block_ms`. -/
structure LateLock (cfg : Settings) (s : MainState) (inp : LoopInput) (i : EmergencyType) : Prop where
  locked : (s.status.detector.get (emergencyDetector i)).state = .secondLock
  failing : inp.sensors.error.get (sensSecond (emergencyDetector i)) = true
  current : sampleCurrent inp (emergencySensor i) = true
  unblocked : ¬ LightBlocks cfg inp s.status
  enabled : cfg.flag .useEmergency = true
  off : s.emergencyOn.get i = false
  confirmed : emergencyConfirmMs ≤ wordSub 64 (inp.clock.now .loop)
    (if s.emergencySensorOnTs.get i = 0 then inp.clock.now .loop else s.emergencySensorOnTs.get i)
  late : inp.clock.now .loop < inp.clock.now (.block (emergencyDetector i))
  wraps : cfg.num .emergencyBlockMs <
    wordSub 64 (inp.clock.now .loop) (inp.clock.now (.block (emergencyDetector i)))

/-- While the first sensor detects and the light does not block, the iteration ends in
`SECOND_LOCK` only if the detector is frozen there by its failing second sensor. -/
theorem sense_secondLock {cfg : Settings} {inp : LoopInput} (prevError : PerSensor Bool) {s : Status}
    {i : EmergencyType} (current : sampleCurrent inp (emergencySensor i) = true)
    (unblocked : ¬ LightBlocks cfg inp s) :
    ((sense cfg inp prevError s).detector.get (emergencyDetector i)).state = .secondLock ↔
      (s.detector.get (emergencyDetector i)).state = .secondLock ∧
        inp.sensors.error.get (sensSecond (emergencyDetector i)) = true := by
  obtain ⟨u, t, move, before, after, sensors, block⟩ :=
    sense_detector cfg inp prevError s (emergencyDetector i)
  have first : firstCurrent u (emergencyDetector i) = true := by
    rw [firstCurrent, sensors]
    cases i <;> exact current
  have works : inp.sensors.error.get (sensFirst (emergencyDetector i)) = false := by
    cases error : inp.sensors.error.get (sensFirst (emergencyDetector i)) with
    | false => rfl
    | true =>
      have silent : sampleCurrent inp (emergencySensor i) = false := by
        rw [sampleCurrent]
        cases i <;> exact if_pos error
      rw [silent] at current
      cases current
  have ok : sensorsOk inp (emergencyDetector i) = false ↔
      inp.sensors.error.get (sensSecond (emergencyDetector i)) = true := by
    rw [sensorsOk, works]
    simp
  rw [← after, ← before]
  cases move with
  | blocked blocked =>
    rw [block, sense_blockByLight] at blocked
    exact absurd blocked unblocked
  | stay _ waits =>
    rw [← ok]
    constructor
    · intro locked
      refine ⟨locked, Bool.eq_false_iff.mpr fun works => ?_⟩
      have silent := waits works
      rw [Waits, locked] at silent
      rw [first] at silent
      cases silent
    · exact fun frozen => frozen.1
  | lock _ works idle state locked =>
    refine iff_of_false ?_ (fun frozen => by rw [idle] at frozen; cases frozen.1)
    rcases locked with ⟨lock, -⟩ | ⟨-, silent, -⟩
    · subst lock
      simp [enter]
    · rw [first] at silent
      cases silent
  | release _ works =>
    refine iff_of_false (by simp [enter]) (fun frozen => ?_)
    rw [ok.mpr frozen.2] at works
    cases works
  | entry _ works locked =>
    exact iff_of_false (by simp [countIn, enter]) (fun frozen => by rw [locked] at frozen; cases frozen.1)
  | exit _ works =>
    refine iff_of_false (by simp [enter]) (fun frozen => ?_)
    rw [ok.mpr frozen.2] at works
    cases works

section
variable {cfg : Settings} {inp : Nat → LoopInput} {i : EmergencyType} {n : Nat}

theorem firstCurrentAt_iff (cfg : Settings) (inp : Nat → LoopInput) (i : EmergencyType) (k : Nat) :
    FirstCurrentAt cfg inp i k ↔ sampleCurrent (inp k) (emergencySensor i) = true := by
  rw [FirstCurrentAt, runAt_succ, mainLoop_sensorState, sense_current]

theorem lockedAt_iff (cfg : Settings) (inp : Nat → LoopInput) (i : EmergencyType) (k : Nat) :
    LockedAt cfg inp i k ↔ ((sense cfg (inp k) (runAt cfg inp k).senPrevError
      (runAt cfg inp k).status).detector.get (emergencyDetector i)).state = .secondLock := by
  rw [LockedAt, runAt_succ, mainLoop_detector]

/-- The current reading of a sensor in the state the emergency loop finds. -/
theorem reacted_current (cfg : Settings) (inp : LoopInput) (s : MainState) (j : StairwaySensorType) :
    ((reacted cfg inp s).status.sensorState.get j).current = sampleCurrent inp j := by
  rw [(reacted_status cfg inp s).2.1, sense_current]

/-- `emergency_sensor_on_ts` after an iteration. -/
theorem mainLoop_sensorTs (cfg : Settings) (inp : LoopInput) (s : MainState) (i : EmergencyType) :
    (mainLoop cfg s inp).emergencySensorOnTs.get i =
      if sampleCurrent inp (emergencySensor i) = true then
        (if s.emergencySensorOnTs.get i = 0 then inp.clock.now .loop else s.emergencySensorOnTs.get i)
      else 0 := by
  rw [(mainLoop_tail cfg inp s).2.2.2.1, (alarmed_emergency cfg inp s i).2, emergencySensorTs,
    reacted_current, (reacted_emergency cfg inp s).2.1]

/-- `detector_block_ts` after an iteration. -/
theorem mainLoop_blockTs (cfg : Settings) (inp : LoopInput) (s : MainState) (d : DetectorType) :
    (mainLoop cfg s inp).detectorBlockTs.get d =
      if ((sense cfg inp s.senPrevError s.status).detector.get d).state = .secondLock
      then inp.clock.now (.block d) else s.detectorBlockTs.get d := by
  obtain ⟨ts, on, leds, alarm, -⟩ := alarmed_cases cfg inp s
  rw [(mainLoop_tail cfg inp s).2.2.2.2, alarm]
  exact (reacted_emergency cfg inp s).2.2 d

/-- A non-zero `emergency_sensor_on_ts` is the loop timestamp of an iteration since which the
sensor has been current. -/
theorem sensorTs_since (n : Nat) (nonzero : (runAt cfg inp n).emergencySensorOnTs.get i ≠ 0) :
    ∃ m, m < n ∧ (inp m).clock.now .loop = (runAt cfg inp n).emergencySensorOnTs.get i ∧
      ∀ k, m ≤ k → k < n → FirstCurrentAt cfg inp i k := by
  induction n with
  | zero => exact absurd (by rw [runAt_zero]; cases i <;> rfl) nonzero
  | succ n ih =>
    have value := mainLoop_sensorTs cfg (inp n) (runAt cfg inp n) i
    rw [← runAt_succ] at value
    rw [value] at nonzero ⊢
    by_cases current : sampleCurrent (inp n) (emergencySensor i) = true
    · rw [if_pos current] at nonzero ⊢
      by_cases zero : (runAt cfg inp n).emergencySensorOnTs.get i = 0
      · rw [if_pos zero]
        refine ⟨n, by omega, rfl, fun k low high => ?_⟩
        have here : k = n := by omega
        subst here
        exact (firstCurrentAt_iff cfg inp i k).mpr current
      · rw [if_neg zero]
        obtain ⟨m, before, stamp, since⟩ := ih zero
        refine ⟨m, by omega, stamp, fun k low high => ?_⟩
        by_cases last : k = n
        · subst last
          exact (firstCurrentAt_iff cfg inp i k).mpr current
        · exact since k low (by omega)
    · rw [if_neg current] at nonzero
      exact absurd rfl nonzero

/-- `detector_block_ts` is not older than any `SECOND_LOCK` so far, and not past the next
iteration. -/
theorem blockTs_bounds (cfg : Settings) (i : EmergencyType) (mono : ClockMonotone inp) (n : Nat) :
    (∀ k, k < n → LockedAt cfg inp i k → (inp k).clock.now (.block (emergencyDetector i)) ≤
      (runAt cfg inp n).detectorBlockTs.get (emergencyDetector i)) ∧
    (runAt cfg inp n).detectorBlockTs.get (emergencyDetector i) ≤ (inp n).clock.now .loop := by
  induction n with
  | zero =>
    refine ⟨fun k before => by omega, ?_⟩
    rw [runAt_zero]
    cases i <;> exact Nat.zero_le _
  | succ n ih =>
    have value := mainLoop_blockTs cfg (inp n) (runAt cfg inp n) (emergencyDetector i)
    rw [← runAt_succ] at value
    rw [value]
    by_cases locked : LockedAt cfg inp i n
    · rw [if_pos ((lockedAt_iff cfg inp i n).mp locked)]
      refine ⟨fun k before _ => ?_, mono n _ _⟩
      by_cases last : k = n
      · subst last
        exact Nat.le_refl _
      · exact mono.le_of_lt (by omega) _ _
    · rw [if_neg (fun lock => locked ((lockedAt_iff cfg inp i n).mpr lock))]
      refine ⟨fun k before lock => ?_, Nat.le_trans ih.2 (mono n _ _)⟩
      by_cases last : k = n
      · subst last
        exact absurd lock locked
      · exact ih.1 k (by omega) lock

/-- Switching on means that the sensor is confirmed: the timestamp it is compared with belongs
to an iteration since which it has been current. -/
theorem confirmed_of_switch (mono : ClockMonotone inp)
    (current : sampleCurrent (inp n) (emergencySensor i) = true)
    (waited : emergencyConfirmMs ≤ wordSub 64 ((inp n).clock.now .loop)
      (if (runAt cfg inp n).emergencySensorOnTs.get i = 0 then (inp n).clock.now .loop
        else (runAt cfg inp n).emergencySensorOnTs.get i)) : Confirmed cfg inp i n := by
  by_cases zero : (runAt cfg inp n).emergencySensorOnTs.get i = 0
  · rw [if_pos zero, wordSub_self ((inp n).clock.fits _)] at waited
    simp [emergencyConfirmMs] at waited
  · rw [if_neg zero] at waited
    obtain ⟨m, before, stamp, since⟩ := sensorTs_since n zero
    have earlier : (runAt cfg inp n).emergencySensorOnTs.get i ≤ (inp n).clock.now .loop := by
      rw [← stamp]
      exact mono.le_of_lt before _ _
    rw [wordSub_of_le earlier ((inp n).clock.fits _), ← stamp] at waited
    have confirm : 0 < emergencyConfirmMs := by decide
    refine ⟨m, by omega, by omega, fun k low high => ?_⟩
    by_cases last : k = n
    · subst last
      exact (firstCurrentAt_iff cfg inp i k).mpr current
    · exact since k low (by omega)

/-- **Emergency lights respect their times exactly when no late lock switches one on.** -/
theorem emergency_times_iff (cfg : Settings) (inp : Nat → LoopInput) (mono : ClockMonotone inp)
    (i : EmergencyType) (n : Nat) :
    EmergencyTimes cfg inp i n ↔ ¬ LateLock cfg (runAt cfg inp n) (inp n) i := by
  have block := (reacted_emergency cfg (inp n) (runAt cfg inp n)).2.2 (emergencyDetector i)
  have light := (reacted_status cfg (inp n) (runAt cfg inp n)).2.2.1
  have on := (reacted_emergency cfg (inp n) (runAt cfg inp n)).1
  have sensorTs := (reacted_emergency cfg (inp n) (runAt cfg inp n)).2.1
  -- the switch condition of the iteration, read off its inputs and the state before it
  have condition : switchCondition cfg (inp n) (reacted cfg (inp n) (runAt cfg inp n)) i = true ↔
      (sampleCurrent (inp n) (emergencySensor i) = true ∧
        ¬ LightBlocks cfg (inp n) (runAt cfg inp n).status ∧
        cfg.flag .useEmergency = true ∧ (runAt cfg inp n).emergencyOn.get i = false ∧
        emergencyConfirmMs ≤ wordSub 64 ((inp n).clock.now .loop)
          (if (runAt cfg inp n).emergencySensorOnTs.get i = 0 then (inp n).clock.now .loop
            else (runAt cfg inp n).emergencySensorOnTs.get i) ∧
        cfg.num .emergencyBlockMs < wordSub 64 ((inp n).clock.now .loop)
          ((reacted cfg (inp n) (runAt cfg inp n)).detectorBlockTs.get (emergencyDetector i))) := by
    unfold switchCondition emergencySensorTs
    rw [reacted_current, light, on, sensorTs, ← sense_blockByLight cfg (inp n)
      (runAt cfg inp n).senPrevError, Bool.not_eq_true]
    constructor
    · intro holds
      simp only [Bool.and_eq_true, Bool.not_eq_true', decide_eq_true_eq] at holds
      obtain ⟨⟨⟨⟨⟨current, unblocked⟩, enabled⟩, off⟩, waited⟩, apart⟩ := holds
      rw [if_pos current] at waited
      exact ⟨current, unblocked, enabled, off, waited, apart⟩
    · rintro ⟨current, unblocked, enabled, off, waited, apart⟩
      simp only [current, unblocked, enabled, off, if_true, Bool.and_eq_true, Bool.not_false,
        decide_eq_true_eq, true_and]
      exact ⟨waited, apart⟩
  constructor
  · intro times late
    have locked := (sense_secondLock (runAt cfg inp n).senPrevError late.current
      late.unblocked).mpr ⟨late.locked, late.failing⟩
    have switches : SwitchesOn cfg inp i n := by
      refine ⟨late.off, ?_⟩
      rw [runAt_succ, mainLoop_switches cfg (inp n) _ late.off, condition, block, if_pos locked]
      exact ⟨late.current, late.unblocked, late.enabled, late.off, late.confirmed, late.wraps⟩
    have fresh := (times switches).2 n (Nat.le_refl n) ((lockedAt_iff cfg inp i n).mpr locked)
    exact fresh (by have := late.late; omega)
  · intro inTime switches
    have holds := switches.2
    rw [runAt_succ, mainLoop_switches cfg (inp n) _ switches.1, condition] at holds
    obtain ⟨current, unblocked, enabled, off, waited, apart⟩ := holds
    refine ⟨confirmed_of_switch mono current waited, ?_⟩
    have unlocked : ¬ LockedAt cfg inp i n := by
      intro locked
      have lock := (lockedAt_iff cfg inp i n).mp locked
      rw [block, if_pos lock] at apart
      obtain ⟨held, failing⟩ := (sense_secondLock _ current unblocked).mp lock
      by_cases late : (inp n).clock.now .loop < (inp n).clock.now (.block (emergencyDetector i))
      · exact inTime ⟨held, failing, current, unblocked, enabled, off, waited, late, apart⟩
      · have same : (inp n).clock.now (.block (emergencyDetector i)) = (inp n).clock.now .loop := by
          have := (inp n).clock.loop_le (.block (emergencyDetector i))
          omega
        rw [same, wordSub_self ((inp n).clock.fits _)] at apart
        omega
    rw [block, if_neg (fun lock => unlocked ((lockedAt_iff cfg inp i n).mpr lock))] at apart
    obtain ⟨newest, bound⟩ := blockTs_bounds cfg i mono n
    rw [wordSub_of_le bound ((inp n).clock.fits _)] at apart
    intro k inside lock
    by_cases last : k = n
    · subst last
      exact absurd lock unlocked
    · have := newest k (by omega) lock
      omega

end

theorem emergency_times_iff_twoEntries : EmergencyTimes defaultSettings twoEntries .up 1 ↔
    ¬ LateLock defaultSettings (runAt defaultSettings twoEntries 1) (twoEntries 1) .up :=
  emergency_times_iff defaultSettings twoEntries (scripted_monotone _ _) .up 1

/-! ## A late lock -/

theorem TimeCall.before.position_le {a b : TimeCall} (order : a.before b) :
    a.position ≤ b.position := by
  unfold before at order
  split at order
  · exact Nat.le_refl _
  · exact order

/-- The clock moves on by one millisecond after the off timeout. -/
def LoopClock.drifting (t : Nat) (fits : t + 1 < 2 ^ 64) : LoopClock where
  now a := if a.position ≤ TimeCall.offStamp.position then t else t + 1
  ordered a b order := by
    have position := order.position_le
    split <;> split <;> omega
  fits a := by
    split <;> omega

/-- Somebody steps on the second sensor at the upper end; then that sensor fails while the first
one detects, and in the third iteration the clock moves before `detector_block_ts` is sampled. -/
def lateLockRun (k : Nat) : LoopInput :=
  let failing := fun i => i == .upSecond && (k == 1 || k == 2)
  let inp := scripted 1000 [[.upSecond], [.upFirst], [.upFirst]] k
  { inp with
    clock := if k = 2 then .drifting 3000 (by omega) else inp.clock
    sensors := { inp.sensors with error := .ofFn failing } }

theorem lateLockRun_monotone : ClockMonotone lateLockRun := by
  have readings : ∀ k a, min (1000 * (k + 1)) (2 ^ 64 - 1) ≤ (lateLockRun k).clock.now a ∧
      (lateLockRun k).clock.now a ≤ min (1000 * (k + 1) + 1) (2 ^ 64 - 1) := by
    intro k a
    by_cases third : k = 2
    · subst third
      change _ ≤ (if a.position ≤ TimeCall.offStamp.position then 3000 else 3001) ∧
        (if a.position ≤ TimeCall.offStamp.position then 3000 else 3001) ≤ _
      split <;> omega
    · have clock : (lateLockRun k).clock = .reading (1000 * (k + 1)) := if_neg third
      rw [clock]
      change _ ≤ min (1000 * (k + 1)) (2 ^ 64 - 1) ∧ min (1000 * (k + 1)) (2 ^ 64 - 1) ≤ _
      omega
  intro k a b
  have high := (readings k a).2
  have low := (readings (k + 1) b).1
  omega

/-- The times are not respected in every run: in `lateLockRun` the third iteration switches the
upper emergency light on while the upper detector is in `SECOND_LOCK`. -/
theorem emergency_times_fail : ¬ ∀ (cfg : Settings) (inp : Nat → LoopInput), ClockMonotone inp →
    ∀ i n, EmergencyTimes cfg inp i n := by
  intro respected
  have times := respected defaultSettings lateLockRun lateLockRun_monotone .up 2
  have switches : SwitchesOn defaultSettings lateLockRun .up 2 := ⟨by decide, by decide⟩
  have locked : LockedAt defaultSettings lateLockRun .up 2 := by unfold LockedAt; decide
  exact (times switches).2 2 (Nat.le_refl 2) locked (by decide)

end Stairway
