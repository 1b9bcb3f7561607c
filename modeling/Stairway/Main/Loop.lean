import Stairway.Main.State

/-!
# One iteration of the main loop (`main.c`)

The body of `while (1)`, cut at its sections. The settings `cfg` are those of the iteration.
Printing, the status LED and the network are left out: nothing below reads what they write.
-/

namespace Stairway
open Firmware

def buttonPollPeriod : Nat := 500
def buttonDebounceCnt : Nat := 3

/-- `EMERGENCY_CONFIRM_MS` -/
def emergencyConfirmMs : Nat := 150

/-- The button debounce at the top of the loop. -/
def pollButton (inp : LoopInput) (b : Button) : Button :=
  let ts := inp.clock.now .loop
  if wordSub 64 ts b.prevTs > buttonPollPeriod then
    if inp.bootselButton then
      if b.debounce < buttonDebounceCnt then ⟨ts, b.debounce + 1, b.state, false⟩
      else if !b.state then ⟨ts, 0, true, true⟩
      else ⟨ts, b.debounce, b.state, false⟩
    else ⟨ts, 0, false, false⟩
  else { b with pressEvent := false }

/-! ## Sensors and light -/

/-- The reading of sensor `i` that the iteration works with: an error counts as no detection. -/
def sampleCurrent (inp : LoopInput) (i : StairwaySensorType) : Bool :=
  if inp.sensors.error.get i then false else inp.sensors.state.get i

/-- The sensor sampling loop. -/
def sampleSensors (inp : LoopInput) (prevError : PerSensor Bool) (s : Status) : Status :=
  { s with
    sensorState := .ofFn fun i =>
      { current := sampleCurrent inp i
        trigger := (s.sensorState.get i).trigger || sampleCurrent inp i
        ts := inp.clock.now (.sensor i) }
    sensorDistance := .ofFn fun i =>
      if inp.sensors.error.get i then s.sensorDistance.get i else inp.sensors.dist.get i
    sensorErrorCnt := .ofFn fun i =>
      if inp.sensors.error.get i && !prevError.get i then (s.sensorErrorCnt.get i + 1) % 2 ^ 32
      else s.sensorErrorCnt.get i }

/-- The light block: set only while nobody is counted, cleared in the dark. -/
def lightBlock (cfg : Settings) (s : Status) : Status :=
  if s.lightState && cfg.flag .useLightSensor then
    if s.peopleCount = 0 ∧ s.blockByLight = false then { s with blockByLight := true } else s
  else { s with blockByLight := false }

/-! ## Detectors -/

def sensFirst : DetectorType → StairwaySensorType
  | .up => .upFirst
  | .down => .downFirst

def sensSecond : DetectorType → StairwaySensorType
  | .up => .upSecond
  | .down => .downSecond

/-- Neither of the two sensors of `d` reports an error. -/
def sensorsOk (inp : LoopInput) (d : DetectorType) : Bool :=
  !(inp.sensors.error.get (sensFirst d) || inp.sensors.error.get (sensSecond d))

/-- `status.sensor_state[sens_first].current` -/
def firstCurrent (s : Status) (d : DetectorType) : Bool := (s.sensorState.get (sensFirst d)).current

/-- `status.sensor_state[sens_second].current` -/
def secondCurrent (s : Status) (d : DetectorType) : Bool := (s.sensorState.get (sensSecond d)).current

/-- `status.detector[d].state = state; status.detector[d].ts = get_time_ms();` -/
def enter (inp : LoopInput) (s : Status) (d : DetectorType) (state : DetectorState) : Status :=
  { s with detector := s.detector.set d ⟨state, inp.clock.now (.stamp d)⟩ }

/-- `status.people_count++; status.people_ts = status.detector[d].ts;` -/
def countIn (inp : LoopInput) (s : Status) (d : DetectorType) : Status :=
  { s with peopleCount := wrapInt32 (s.peopleCount + 1), peopleTs := inp.clock.now (.stamp d) }

/-- The decrement with its floor at zero. -/
def countOut (inp : LoopInput) (s : Status) (d : DetectorType) : Status :=
  if s.peopleCount ≠ 0 then
    { s with peopleCount := wrapInt32 (s.peopleCount - 1), peopleTs := inp.clock.now (.stamp d) }
  else s

/-- One evaluation of detector `d`. -/
def detectorStep (cfg : Settings) (inp : LoopInput) (s : Status) (d : DetectorType) : Status :=
  let first := firstCurrent s d
  let second := secondCurrent s d
  let released := wordSub 64 (inp.clock.now (.guard d)) (s.detector.get d).ts > cfg.num .sensorDebouceTime
  if s.blockByLight then enter inp s d .idle
  -- only the detector with the faulty sensor is frozen
  else if !sensorsOk inp d then s
  else match (s.detector.get d).state with
    | .idle =>
      if first then enter inp s d .firstLock
      else if second then enter inp s d .secondLock
      else s
    | .firstLock =>
      if !first ∧ released then enter inp s d .idle
      else if second then countIn inp (enter inp s d .inc) d
      else s
    | .secondLock =>
      if !second ∧ released then enter inp s d .idle
      else if first then countOut inp (enter inp s d .dec) d
      else s
    | .inc | .dec =>
      if !first ∧ !second ∧ released then enter inp s d .idle
      else s

/-- The sensing half of an iteration: sampling, light block and the two detectors in order. -/
def sense (cfg : Settings) (inp : LoopInput) (prevError : PerSensor Bool) (s : Status) : Status :=
  let s := { s with lightState := inp.lightState, lightValue := inp.lightValue, testMode := inp.testMode }
  let s := lightBlock cfg (sampleSensors inp prevError s)
  detectorStep cfg inp (detectorStep cfg inp s .up) .down

/-! ## Waves -/

/-- Start a wave, or restamp a running one; an event is skipped while its counter is at
`led_count`. -/
def startWave (ledCount ts : Nat) (w : Wave) : Wave :=
  if w.cnt ≠ ledCount then { w with on := true, ts := ts } else w

/-- The on waves of the detectors in `DETECTOR_STATE_INC`. -/
def onTriggers (cfg : Settings) (clock : LoopClock) (s : Status) (ws : Waves) : Waves :=
  { ws with
    ledOnUp := if s.detector.up.state = .inc
      then startWave (cfg.num .ledCount) (clock.now (.trigger .up)) ws.ledOnUp else ws.ledOnUp
    ledOnDown := if s.detector.down.state = .inc
      then startWave (cfg.num .ledCount) (clock.now (.trigger .down)) ws.ledOnDown else ws.ledOnDown }

/-- The off waves of the detectors in `DETECTOR_STATE_DEC`, when nobody is left. -/
def offTriggers (cfg : Settings) (clock : LoopClock) (s : Status) (ws : Waves) : Waves :=
  { ws with
    ledOffUp := if s.detector.up.state = .dec ∧ s.peopleCount = 0
      then startWave (cfg.num .ledCount) (clock.now (.trigger .up)) ws.ledOffUp else ws.ledOffUp
    ledOffDown := if s.detector.down.state = .dec ∧ s.peopleCount = 0
      then startWave (cfg.num .ledCount) (clock.now (.trigger .down)) ws.ledOffDown else ws.ledOffDown }

/-- The waves after a change of `people_count`. -/
def triggerWaves (cfg : Settings) (clock : LoopClock) (s : Status) (ws : Waves) : Waves :=
  if s.peopleCount > s.prevPeopleCount then onTriggers cfg clock s ws
  else if s.peopleCount < s.prevPeopleCount then offTriggers cfg clock s ws
  else ws

/-- `last_det` after a change of `people_count`. -/
def triggerLastDet (s : Status) (lastDet : DetectorType) : DetectorType :=
  if s.peopleCount > s.prevPeopleCount then
    if s.detector.down.state = .inc then .down
    else if s.detector.up.state = .inc then .up
    else lastDet
  else lastDet

/-- The guard of the off timeout. -/
def offTimeoutDue (cfg : Settings) (clock : LoopClock) (s : Status) (ws : Waves) : Bool :=
  s.peopleCount > 0 && !ws.ledOnUp.on && !ws.ledOnDown.on && !ws.ledOffUp.on && !ws.ledOffDown.on
    && wordSub 64 (clock.now .offGuard) s.peopleTs > cfg.num .ledsOffTimeout

/-- The off timeout starts the off wave of the end opposite to the last entry. -/
def offTimeoutWaves (clock : LoopClock) (lastDet : DetectorType) (ws : Waves) : Waves :=
  match lastDet with
  | .up => { ws with ledOffDown := { ws.ledOffDown with on := true, ts := clock.now .offStamp } }
  | .down => { ws with ledOffUp := { ws.ledOffUp with on := true, ts := clock.now .offStamp } }

/-- Wave triggers and off timeout. -/
def reactToCount (cfg : Settings) (inp : LoopInput) (s : MainState) : MainState :=
  let waves := triggerWaves cfg inp.clock s.status s.waves
  let lastDet := triggerLastDet s.status s.lastDet
  let status := { s.status with prevPeopleCount := s.status.peopleCount }
  if offTimeoutDue cfg inp.clock status waves then
    { s with
      status := { status with peopleCount := 0, prevPeopleCount := 0 }
      waves := offTimeoutWaves inp.clock lastDet waves
      lastDet := lastDet }
  else { s with status := status, waves := waves, lastDet := lastDet }

/-! ## Emergency lights -/

/-- `emergency_map[i].sensor` -/
def emergencySensor : EmergencyType → StairwaySensorType
  | .up => .upFirst
  | .down => .downFirst

/-- `emergency_map[i].detector` -/
def emergencyDetector : EmergencyType → DetectorType
  | .up => .up
  | .down => .down

/-- `detector_block_ts` remembers when a detector was last seen in `SECOND_LOCK`. -/
def stampBlocks (inp : LoopInput) (s : MainState) : MainState :=
  { s with detectorBlockTs := .ofFn fun d =>
      if (s.status.detector.get d).state = .secondLock then inp.clock.now (.block d)
      else s.detectorBlockTs.get d }

/-- `emergency_sensor_on_ts[i]` after the iteration: the loop timestamp since which the sensor has
been current, 0 while it is not. -/
def emergencySensorTs (inp : LoopInput) (s : MainState) (i : EmergencyType) : Nat :=
  if (s.status.sensorState.get (emergencySensor i)).current then
    if s.emergencySensorOnTs.get i = 0 then inp.clock.now .loop else s.emergencySensorOnTs.get i
  else 0

/-- The guard that switches emergency `i` on while its sensor is current. -/
def emergencyDue (cfg : Settings) (inp : LoopInput) (s : MainState) (i : EmergencyType) : Bool :=
  let ts := inp.clock.now .loop
  !s.status.blockByLight && cfg.flag .useEmergency && !s.emergencyOn.get i
    && decide (wordSub 64 ts (s.emergencySensorOnTs.get i) ≥ emergencyConfirmMs)
    && decide (wordSub 64 ts (s.detectorBlockTs.get (emergencyDetector i)) > cfg.num .emergencyBlockMs)

/-- The emergency loop for one index. -/
def emergencyStep (cfg : Settings) (inp : LoopInput) (s : MainState) (i : EmergencyType) : MainState :=
  let s := { s with emergencySensorOnTs := s.emergencySensorOnTs.set i (emergencySensorTs inp s i) }
  if (s.status.sensorState.get (emergencySensor i)).current && emergencyDue cfg inp s i then
    { s with emergencyOn := s.emergencyOn.set i true, leds := (s.leds.emergencyLeds i true).2 }
  else s

/-- An emergency light goes off at the next wave step after its sensor is released. -/
def emergencyOff (s : MainState) (i : EmergencyType) : MainState :=
  if s.emergencyOn.get i ∧ (s.status.sensorState.get (emergencySensor i)).current = false then
    { s with emergencyOn := s.emergencyOn.set i false, leds := (s.leds.emergencyLeds i false).2 }
  else s

/-! ## Wave steps -/

/-- The LED a wave sets at counter `cnt`: counted from the top (`led_count - cnt - 1`) or from
the bottom. -/
def waveIndex (fromTop : Bool) (ledCount cnt : Nat) : Nat :=
  if fromTop then wordSub 32 (wordSub 32 ledCount cnt) 1 else cnt

/-- The call a wave makes at counter `cnt`. -/
def waveCall (fromTop target : Bool) (ledCount ts cnt : Nat) : LedCall :=
  ⟨waveIndex fromTop ledCount cnt, target, ts, cnt⟩

/-- The skip-ahead loop of an on wave: `for (; cnt < emergency_cnt && cnt < led_count - 1; cnt++)`.
The fuel `led_count - cnt` is never used up. -/
def skipAhead (fromTop : Bool) (ledCount emergencyCnt ts : Nat) : Nat → Nat → Nat × List LedCall
  | 0, cnt => (cnt, [])
  | fuel + 1, cnt =>
    if cnt < emergencyCnt ∧ cnt < wordSub 32 ledCount 1 then
      let (last, calls) := skipAhead fromTop ledCount emergencyCnt ts fuel (cnt + 1)
      (last, waveCall fromTop true ledCount ts cnt :: calls)
    else (cnt, [])

/-- One step of an on wave. -/
def onWaveStep (fromTop : Bool) (cfg : Settings) (emergencyCnt : Nat) (w : Wave) :
    Wave × List LedCall :=
  let ledCount := cfg.num .ledCount
  if w.on then
    if w.cnt < ledCount then
      let (cnt, calls) := if cfg.flag .useEmergency
        then skipAhead fromTop ledCount emergencyCnt w.ts (ledCount - w.cnt) w.cnt else (w.cnt, [])
      ({ w with cnt := cnt + 1 }, calls ++ [waveCall fromTop true ledCount w.ts cnt])
    else ({ w with cnt := 0, on := false }, [])
  else (w, [])

/-- One step of an off wave. -/
def offWaveStep (fromTop : Bool) (cfg : Settings) (w : Wave) : Wave × List LedCall :=
  let ledCount := cfg.num .ledCount
  if w.on then
    if w.cnt < ledCount then
      ({ w with cnt := w.cnt + 1 }, [waveCall fromTop false ledCount w.ts w.cnt])
    else ({ w with cnt := 0, on := false }, [])
  else (w, [])

def ledOnUpStep (cfg : Settings) (w : Wave) : Wave × List LedCall :=
  onWaveStep true cfg (cfg.num (.emergencyCnt .up)) w

def ledOffUpStep (cfg : Settings) (w : Wave) : Wave × List LedCall := offWaveStep false cfg w

def ledOnDownStep (cfg : Settings) (w : Wave) : Wave × List LedCall :=
  onWaveStep false cfg (cfg.num (.emergencyCnt .down)) w

def ledOffDownStep (cfg : Settings) (w : Wave) : Wave × List LedCall := offWaveStep true cfg w

/-- The calls of `stairway_leds_set_state`, in order. -/
def applyCalls (l : StairwayLeds) (calls : List LedCall) : StairwayLeds :=
  calls.foldl (fun l c => (l.setState c.index c.state c.ts).2) l

/-- The four waves, in program order. -/
def stepWaves (cfg : Settings) (s : MainState) : MainState :=
  let onUp := ledOnUpStep cfg s.waves.ledOnUp
  let offUp := ledOffUpStep cfg s.waves.ledOffUp
  let onDown := ledOnDownStep cfg s.waves.ledOnDown
  let offDown := ledOffDownStep cfg s.waves.ledOffDown
  let calls := onUp.2 ++ offUp.2 ++ onDown.2 ++ offDown.2
  { s with
    waves := { ledOnUp := onUp.1, ledOnDown := onDown.1, ledOffUp := offUp.1, ledOffDown := offDown.1 }
    leds := applyCalls s.leds calls
    calls := calls }

/-- The block run once every `leds_time_interval`. -/
def waveInterval (cfg : Settings) (inp : LoopInput) (s : MainState) : MainState :=
  let ts := inp.clock.now .loop
  if wordSub 64 ts s.prevTs > cfg.num .ledsTimeInterval then
    stepWaves cfg (emergencyOff (emergencyOff { s with prevTs := ts } .up) .down)
  else { s with calls := [] }

/-! ## Test mode and refresh -/

/-- A change of `test_mode` sets every LED. -/
def testModeStep (cfg : Settings) (inp : LoopInput) (s : MainState) : MainState :=
  if s.testMode ≠ s.status.testMode then
    let calls := (List.range (cfg.num .ledCount)).map fun i =>
      ⟨i, s.status.testMode, inp.clock.now (.test i), i⟩
    { s with leds := applyCalls s.leds calls, calls := s.calls ++ calls, testMode := s.status.testMode }
  else s

/-- The periodic call of `stairway_leds_refresh`. -/
def refreshStep (cfg : Settings) (inp : LoopInput) (s : MainState) : MainState :=
  if wordSub 64 (inp.clock.now .rdtGuard) s.rdt > 2 then
    { s with rdt := inp.clock.now .rdtStamp, leds := (s.leds.refresh cfg inp.alloc).2 }
  else s

/-- Button, sensors, light block and detectors. -/
def senseStep (cfg : Settings) (inp : LoopInput) (s : MainState) : MainState :=
  { s with
    button := pollButton inp s.button
    status := sense cfg inp s.senPrevError s.status
    senPrevError := inp.sensors.error }

/-- One iteration of the main loop. -/
def mainLoop (cfg : Settings) (s : MainState) (inp : LoopInput) : MainState :=
  let s := stampBlocks inp (reactToCount cfg inp (senseStep cfg inp s))
  let s := emergencyStep cfg inp (emergencyStep cfg inp s .up) .down
  refreshStep cfg inp (testModeStep cfg inp (waveInterval cfg inp s))

end Stairway
