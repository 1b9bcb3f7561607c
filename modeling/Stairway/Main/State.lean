import Stairway.Leds.StairwayLeds
import Stairway.Firmware.Word

/-!
# State, inputs and clock of the main loop (`main.h`, `main.c`)

One iteration of `while (1)` reads the sensors, the light sensor, the button, `test_mode` and
the clock. `get_time_ms` is called many times in an iteration and may return a different value
each time; `TimeCall` names the calls whose value is used, in program order, and a `LoopClock`
carries the proof that its readings do not decrease in that order.
-/

namespace Stairway
open Firmware

/-- `SensorState` of `main.h`. -/
structure SensorState where
  current : Bool
  trigger : Bool
  ts : Nat
  deriving DecidableEq, Repr

/-- `Detector` of `main.h`. -/
@[ext] structure Detector where
  state : DetectorState
  ts : Nat
  deriving DecidableEq, Repr

/-- `Status` of `main.h`. -/
structure Status where
  detector : PerDetector Detector
  sensorState : PerSensor SensorState
  sensorDistance : PerSensor Nat
  sensorErrorCnt : PerSensor Nat
  peopleCount : Int
  prevPeopleCount : Int
  peopleTs : Nat
  lightValue : Nat
  blockByLight : Bool
  lightState : Bool
  testMode : Bool
  deriving DecidableEq, Repr

/-- `StairwaySensorsGet`: what `stairway_sensors_get` reports. -/
structure StairwaySensorsGet where
  dist : PerSensor Nat
  signal : PerSensor Nat
  state : PerSensor Bool
  error : PerSensor Bool
  deriving DecidableEq, Repr

/-- The calls of `get_time_ms` in one iteration whose value is used. -/
inductive TimeCall
  /-- `ts`, taken at the top of the iteration -/
  | loop
  | sensor (i : StairwaySensorType)
  /-- the debounce comparison of a detector -/
  | guard (d : DetectorType)
  /-- the timestamp stored when a detector changes state -/
  | stamp (d : DetectorType)
  /-- the timestamp of the wave started for a detector -/
  | trigger (d : DetectorType)
  | offGuard
  | offStamp
  /-- `detector_block_ts` -/
  | block (d : DetectorType)
  /-- the call of the test mode loop for LED `i` -/
  | test (i : Nat)
  | rdtGuard
  | rdtStamp
  deriving DecidableEq, Repr

namespace TimeCall

/-- Position of a call in the loop body; the calls of the test mode loop share one. -/
def position : TimeCall → Nat
  | loop => 0
  | sensor .upFirst => 1
  | sensor .upSecond => 2
  | sensor .downFirst => 3
  | sensor .downSecond => 4
  | guard .up => 5
  | stamp .up => 6
  | guard .down => 7
  | stamp .down => 8
  | trigger .up => 9
  | trigger .down => 10
  | offGuard => 11
  | offStamp => 12
  | block .up => 13
  | block .down => 14
  | test _ => 15
  | rdtGuard => 16
  | rdtStamp => 17

/-- `a` is made before `b`, or is the same call. -/
def before : TimeCall → TimeCall → Prop
  | test i, test j => i ≤ j
  | a, b => a.position ≤ b.position

instance (a b : TimeCall) : Decidable (a.before b) := by
  unfold before
  split <;> infer_instance

end TimeCall

/-- The readings of `get_time_ms` in one iteration (`uint64_t` milliseconds). -/
structure LoopClock where
  now : TimeCall → Nat
  ordered : ∀ a b, a.before b → now a ≤ now b
  fits : ∀ a, now a < 2 ^ 64

namespace LoopClock

/-- An iteration that takes no measurable time. -/
def const (t : Nat) (fits : t < 2 ^ 64) : LoopClock where
  now _ := t
  ordered _ _ _ := Nat.le_refl t
  fits _ := fits

/-- The loop timestamp is the earliest reading. -/
theorem loop_le (clock : LoopClock) (a : TimeCall) : clock.now .loop ≤ clock.now a :=
  clock.ordered _ _ (by cases a <;> exact Nat.zero_le _)

end LoopClock

/-- Everything one iteration reads from outside. -/
structure LoopInput where
  clock : LoopClock
  sensors : StairwaySensorsGet
  lightState : Bool
  lightValue : Nat
  /-- `status.test_mode` as the HTTP server left it -/
  testMode : Bool
  bootselButton : Bool
  alloc : StairwayLeds.Alloc

/-- The flag, timestamp and counter of one wave: `led_on_up`, `led_on_up_ts`, `led_on_up_cnt`
and so on. -/
structure Wave where
  on : Bool
  ts : Nat
  cnt : Nat
  deriving DecidableEq, Repr

/-- The four waves. -/
structure Waves where
  ledOnUp : Wave
  ledOnDown : Wave
  ledOffUp : Wave
  ledOffDown : Wave
  deriving DecidableEq, Repr

/-- A call of `stairway_leds_set_state`, with the counter that its index was computed from. -/
structure LedCall where
  index : Nat
  state : Bool
  ts : Nat
  cnt : Nat
  deriving DecidableEq, Repr

/-- `button_prev_ts`, `button_debounce`, `button_state` and the event of this iteration. -/
structure Button where
  prevTs : Nat
  debounce : Nat
  state : Bool
  pressEvent : Bool
  deriving DecidableEq, Repr

/-- The static and local variables of `main.c` that outlive an iteration, the LED module's
state, and the calls of `stairway_leds_set_state` made in the last iteration. -/
structure MainState where
  status : Status
  senPrevError : PerSensor Bool
  prevTs : Nat
  detectorBlockTs : PerDetector Nat
  emergencySensorOnTs : PerEmergency Nat
  emergencyOn : PerEmergency Bool
  waves : Waves
  lastDet : DetectorType
  testMode : Bool
  rdt : Nat
  leds : StairwayLeds
  button : Button
  calls : List LedCall
  deriving DecidableEq, Repr

namespace MainState

/-- The state before the first iteration: statics zero, the LED buffer sized to `ledCount`. -/
def boot (ledCount : Nat) : MainState where
  status := {
    detector := ⟨⟨.idle, 0⟩, ⟨.idle, 0⟩⟩
    sensorState := .ofFn fun _ => ⟨false, false, 0⟩
    sensorDistance := .ofFn fun _ => 0
    sensorErrorCnt := .ofFn fun _ => 0
    peopleCount := 0
    prevPeopleCount := 0
    peopleTs := 0
    lightValue := 0
    blockByLight := false
    lightState := false
    testMode := false }
  senPrevError := .ofFn fun _ => false
  prevTs := 0
  detectorBlockTs := ⟨0, 0⟩
  emergencySensorOnTs := ⟨0, 0⟩
  emergencyOn := ⟨false, false⟩
  waves := ⟨⟨false, 0, 0⟩, ⟨false, 0, 0⟩, ⟨false, 0, 0⟩, ⟨false, 0, 0⟩⟩
  lastDet := .up
  testMode := false
  rdt := 0
  leds := .initial ledCount
  button := ⟨0, 0, false, false⟩
  calls := []

end MainState

end Stairway
