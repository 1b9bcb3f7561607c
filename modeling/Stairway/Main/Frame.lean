import Stairway.Main.Run

/-!
# What the sections of the main loop leave alone

The status is settled by the detectors and the off timeout; the later sections only read it.
`mainLoop_status` says so once, and every fact about detectors, sensors or the light block of a
run goes through it.
-/

namespace Stairway
open Firmware

section
variable (cfg : Settings) (inp : LoopInput) (s : MainState)

/-! ## What each section does -/

theorem emergencyStep_cases (i : EmergencyType) :
    ∃ on leds, emergencyStep cfg inp s i = { s with
        emergencySensorOnTs := s.emergencySensorOnTs.set i (emergencySensorTs inp s i)
        emergencyOn := on, leds := leds } ∧
      leds.buf = s.leds.buf ∧ leds.ws2812 = s.leds.ws2812 := by
  unfold emergencyStep
  dsimp only
  split
  · exact ⟨_, _, rfl, rfl, rfl⟩
  · exact ⟨_, _, rfl, rfl, rfl⟩

theorem emergencyOff_cases (i : EmergencyType) :
    ∃ on leds, emergencyOff s i = { s with emergencyOn := on, leds := leds } ∧
      leds.buf = s.leds.buf ∧ leds.ws2812 = s.leds.ws2812 := by
  unfold emergencyOff
  split
  · exact ⟨_, _, rfl, rfl, rfl⟩
  · exact ⟨_, _, rfl, rfl, rfl⟩

/-- The wave block is skipped until the interval has passed. -/
theorem waveInterval_cases : waveInterval cfg inp s = { s with calls := [] } ∨
    waveInterval cfg inp s = stepWaves cfg
      (emergencyOff (emergencyOff { s with prevTs := inp.clock.now .loop } .up) .down) := by
  unfold waveInterval
  dsimp only
  split
  · exact Or.inr rfl
  · exact Or.inl rfl

theorem testModeStep_cases : testModeStep cfg inp s = s ∨
    ∃ leds calls, testModeStep cfg inp s =
      { s with leds := leds, calls := calls, testMode := s.status.testMode } := by
  unfold testModeStep
  split
  · exact Or.inr ⟨_, _, rfl⟩
  · exact Or.inl rfl

theorem refreshStep_cases : refreshStep cfg inp s = s ∨
    refreshStep cfg inp s =
      { s with rdt := inp.clock.now .rdtStamp, leds := (s.leds.refresh cfg inp.alloc).2 } := by
  unfold refreshStep
  split
  · exact Or.inr rfl
  · exact Or.inl rfl

/-- Without the off timeout the count stands and the triggers decide the waves; with it the
count is cleared and the off wave started on top of them. -/
theorem reactToCount_cases :
    (reactToCount cfg inp s =
      { s with
        status := { s.status with prevPeopleCount := s.status.peopleCount }
        waves := triggerWaves cfg inp.clock s.status s.waves
        lastDet := triggerLastDet s.status s.lastDet }) ∨
    (offTimeoutDue cfg inp.clock { s.status with prevPeopleCount := s.status.peopleCount }
        (triggerWaves cfg inp.clock s.status s.waves) = true ∧
      reactToCount cfg inp s =
      { s with
        status := { s.status with peopleCount := 0, prevPeopleCount := 0 }
        waves := offTimeoutWaves inp.clock (triggerLastDet s.status s.lastDet)
          (triggerWaves cfg inp.clock s.status s.waves)
        lastDet := triggerLastDet s.status s.lastDet }) := by
  unfold reactToCount
  dsimp only
  split
  · rename_i due
    exact Or.inr ⟨due, rfl⟩
  · exact Or.inl rfl

/-! ## The whole iteration -/

/-- The state after the sections that settle the status. -/
def reacted : MainState := stampBlocks inp (reactToCount cfg inp (senseStep cfg inp s))

/-- The state that the wave block finds. -/
def alarmed : MainState :=
  emergencyStep cfg inp (emergencyStep cfg inp (reacted cfg inp s) .up) .down

theorem mainLoop_eq : mainLoop cfg s inp =
    refreshStep cfg inp (testModeStep cfg inp (waveInterval cfg inp (alarmed cfg inp s))) := by
  rw [mainLoop, alarmed, reacted]

/-- The emergency loop writes only its timestamps, its flags and the LED module's flags. -/
theorem alarmed_cases : ∃ ts on leds, alarmed cfg inp s = { reacted cfg inp s with
      emergencySensorOnTs := ts, emergencyOn := on, leds := leds } ∧
    leds.buf = (reacted cfg inp s).leds.buf ∧ leds.ws2812 = (reacted cfg inp s).leds.ws2812 := by
  obtain ⟨on, leds, first, buf, ws2812⟩ := emergencyStep_cases cfg inp (reacted cfg inp s) .up
  obtain ⟨on', leds', second, buf', ws2812'⟩ :=
    emergencyStep_cases cfg inp (emergencyStep cfg inp (reacted cfg inp s) .up) .down
  rw [first] at second buf' ws2812'
  exact ⟨_, on', leds', by rw [alarmed, first, second], buf'.trans buf, ws2812'.trans ws2812⟩

/-- The wave block leaves alone what it does not step. -/
theorem waveInterval_frame : (waveInterval cfg inp s).status = s.status ∧
    (waveInterval cfg inp s).emergencySensorOnTs = s.emergencySensorOnTs ∧
    (waveInterval cfg inp s).detectorBlockTs = s.detectorBlockTs ∧
    (waveInterval cfg inp s).testMode = s.testMode := by
  rcases waveInterval_cases cfg inp s with skip | step
  · rw [skip]
    exact ⟨rfl, rfl, rfl, rfl⟩
  · obtain ⟨on, leds, off, -⟩ := emergencyOff_cases { s with prevTs := inp.clock.now .loop } .up
    obtain ⟨on', leds', off', -⟩ := emergencyOff_cases
      (emergencyOff { s with prevTs := inp.clock.now .loop } .up) .down
    rw [off] at off'
    rw [step, off, off']
    exact ⟨rfl, rfl, rfl, rfl⟩

/-- Test mode and refresh write the LED module, the calls and their own variables. -/
theorem afterWaves_frame :
    (refreshStep cfg inp (testModeStep cfg inp s)).status = s.status ∧
      (refreshStep cfg inp (testModeStep cfg inp s)).waves = s.waves ∧
      (refreshStep cfg inp (testModeStep cfg inp s)).emergencyOn = s.emergencyOn ∧
      (refreshStep cfg inp (testModeStep cfg inp s)).emergencySensorOnTs = s.emergencySensorOnTs ∧
      (refreshStep cfg inp (testModeStep cfg inp s)).detectorBlockTs = s.detectorBlockTs := by
  rcases refreshStep_cases cfg inp (testModeStep cfg inp s) with refresh | refresh <;>
    rcases testModeStep_cases cfg inp s with test | ⟨leds, calls, test⟩ <;>
    rw [refresh, test] <;>
    exact ⟨rfl, rfl, rfl, rfl, rfl⟩

/-- What the wave block, test mode and the refresh leave alone. -/
theorem mainLoop_tail :
    (mainLoop cfg s inp).status = (alarmed cfg inp s).status ∧
      (mainLoop cfg s inp).waves = (waveInterval cfg inp (alarmed cfg inp s)).waves ∧
      (mainLoop cfg s inp).emergencyOn = (waveInterval cfg inp (alarmed cfg inp s)).emergencyOn ∧
      (mainLoop cfg s inp).emergencySensorOnTs = (alarmed cfg inp s).emergencySensorOnTs ∧
      (mainLoop cfg s inp).detectorBlockTs = (alarmed cfg inp s).detectorBlockTs := by
  obtain ⟨status, sensorTs, blockTs, -⟩ := waveInterval_frame cfg inp (alarmed cfg inp s)
  obtain ⟨status', waves, on, sensorTs', blockTs'⟩ :=
    afterWaves_frame cfg inp (waveInterval cfg inp (alarmed cfg inp s))
  rw [mainLoop_eq]
  exact ⟨status'.trans status, waves, on, sensorTs'.trans sensorTs, blockTs'.trans blockTs⟩

/-- The status at the end of the iteration is settled before the emergency lights. -/
theorem mainLoop_status : (mainLoop cfg s inp).status = (reacted cfg inp s).status := by
  obtain ⟨ts, on, leds, alarm, -⟩ := alarmed_cases cfg inp s
  rw [(mainLoop_tail cfg inp s).1, alarm]

/-- The off timeout and the bookkeeping of the previous count change only the two counts. -/
theorem reacted_status :
    (reacted cfg inp s).status.detector = (sense cfg inp s.senPrevError s.status).detector ∧
      (reacted cfg inp s).status.sensorState = (sense cfg inp s.senPrevError s.status).sensorState ∧
      (reacted cfg inp s).status.blockByLight =
        (sense cfg inp s.senPrevError s.status).blockByLight ∧
      (reacted cfg inp s).status.testMode = (sense cfg inp s.senPrevError s.status).testMode := by
  rw [reacted, stampBlocks]
  rcases reactToCount_cases cfg inp (senseStep cfg inp s) with stands | ⟨-, cleared⟩
  · rw [stands]; exact ⟨rfl, rfl, rfl, rfl⟩
  · rw [cleared]; exact ⟨rfl, rfl, rfl, rfl⟩

theorem mainLoop_detector :
    (mainLoop cfg s inp).status.detector = (sense cfg inp s.senPrevError s.status).detector := by
  rw [mainLoop_status, (reacted_status cfg inp s).1]

theorem mainLoop_sensorState :
    (mainLoop cfg s inp).status.sensorState = (sense cfg inp s.senPrevError s.status).sensorState := by
  rw [mainLoop_status, (reacted_status cfg inp s).2.1]

theorem mainLoop_blockByLight :
    (mainLoop cfg s inp).status.blockByLight =
      (sense cfg inp s.senPrevError s.status).blockByLight := by
  rw [mainLoop_status, (reacted_status cfg inp s).2.2.1]

end

end Stairway
