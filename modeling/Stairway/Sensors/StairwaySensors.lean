import Stairway.Modbus.ModbusMaster
import Stairway.Settings.Layout
import Stairway.Main.State

/-!
# Sensors of the stairway (`stairway_sensors.c`)

Two devices with two sensors each are polled in turn through the Modbus master, whose callbacks
store the values. `stairwaySensorsGet` reports them under the settings of its call.
-/

namespace Stairway
open Firmware

/-- `MAX_RANGE` -/
def maxRange : Nat := 4000
/-- `SIGNAL_THRESHOLD` -/
def signalThreshold : Nat := 15
/-- `SENSOR_PAYLOAD_LEN`, 6 registers -/
def sensorPayloadLen : Nat := 12
/-- `POLL_INTERVAL_MS` -/
def pollIntervalMs : Nat := 40

inductive DevId
  | up | down
  deriving DecidableEq, Repr

/-- `dev_first_sensor[dev]`, and the sensor after it. -/
def DevId.sensor : DevId → Bool → StairwaySensorType
  | .up, false => .upFirst
  | .up, true => .upSecond
  | .down, false => .downFirst
  | .down, true => .downSecond

/-- The request to a device. -/
def DevId.request (d : DevId) : ModbusMasterRequest DevId where
  id := match d with
    | .up => 2
    | .down => 1
  func := 3
  regAddr := 0
  regLength := 6
  data := []
  timeout := 100
  cb := some d

/-- `(next_dev + 1) % DEV_ID_MAX` -/
def DevId.next : DevId → DevId
  | .up => .down
  | .down => .up

/-- Set an element. -/
def PerSensor.set {α : Type} (a : PerSensor α) (i : StairwaySensorType) (x : α) : PerSensor α :=
  match i with
  | .upFirst => { a with upFirst := x }
  | .upSecond => { a with upSecond := x }
  | .downFirst => { a with downFirst := x }
  | .downSecond => { a with downSecond := x }

@[simp] theorem PerSensor.get_set_same {α : Type} (a : PerSensor α) (i : StairwaySensorType) (x : α) :
    (a.set i x).get i = x := by
  cases i <;> rfl

theorem PerSensor.get_set_other {α : Type} (a : PerSensor α) {i j : StairwaySensorType} (x : α)
    (other : j ≠ i) : (a.set i x).get j = a.get j := by
  cases i <;> cases j <;> first | rfl | exact absurd rfl other

/-- `(hi << 8) | lo` -/
def be16 (hi lo : UInt8) : Nat := hi.toNat <<< 8 ||| lo.toNat

/-- The variables of the module, with the Modbus master that it polls through. -/
structure StairwaySensors where
  /-- `sensors_values`, of the physical sensors -/
  values : StairwaySensorsGet
  devError : DevId → Bool
  requestTs : Nat
  nextDev : DevId
  modbus : ModbusMaster DevId

namespace StairwaySensors

def boot : StairwaySensors where
  values := ⟨.ofFn fun _ => 0, .ofFn fun _ => 0, .ofFn fun _ => false, .ofFn fun _ => false⟩
  devError := fun _ => false
  requestTs := 0
  nextDev := .up
  modbus := .boot

/-! ## Polling -/

/-- `dev_error[dev] = error` -/
def setError (s : StairwaySensors) (d : DevId) (error : Bool) : StairwaySensors :=
  { s with devError := fun e => if e = d then error else s.devError e }

/-- The values of a payload. -/
def setValues (s : StairwaySensors) (d : DevId) (payload : List UInt8) : StairwaySensors :=
  let at16 k := be16 (payload.getD k 0) (payload.getD (k + 1) 0)
  let first := d.sensor false
  let second := d.sensor true
  let error := at16 10
  { s with values := { s.values with
      dist := (s.values.dist.set first (at16 2)).set second (at16 4)
      signal := (s.values.signal.set first (at16 6)).set second (at16 8)
      error := (s.values.error.set first (error &&& 1 == 1)).set second (error &&& 2 == 2) } }

/-- `sensor_parse` for a device. -/
def sensorParse (s : StairwaySensors) (d : DevId) (status : ModbusError)
    (rawAnswer payload : Option (List UInt8)) (payloadLen : Nat) : ErrCode × StairwaySensors :=
  if status ≠ .success then (.fail, s.setError d true)
  else
    let func := (rawAnswer.getD []).getD 1 0
    if func = 3 ∨ func = 4 then
      if payloadLen < sensorPayloadLen then (.fail, s)
      else (.success, (s.setError d false).setValues d (payload.getD []))
    else (.success, s)

/-- The call of a callback: `sensor_up_cb` or `sensor_down_cb`. -/
def callback (s : StairwaySensors) (call : CallbackCall DevId) : StairwaySensors :=
  (s.sensorParse call.cb call.status call.rawAnswer call.payload call.payloadLen).2

/-- The callback of a poll, if it was completed. -/
def afterPoll (s : StairwaySensors) (call : Option (CallbackCall DevId)) : StairwaySensors :=
  match call with
  | none => s
  | some call => s.callback call

/-- What happens during `stairway_sensors_routine`: the time in `modbus_master_routine`, that of the
poll and that at the end of `modbus_master_send`, and the bytes that arrive. -/
structure PollInput where
  routineNow : Nat
  routineRx : ModbusMaster.RoutineRx
  ts : Nat
  sendRx : ModbusMaster.SendRx
  sendNow : Nat

/-- `stairway_sensors_routine` -/
def stairwaySensorsRoutine (s : StairwaySensors) (inp : PollInput) : Except Stuck StairwaySensors := do
  let (call, modbus) ← s.modbus.routine inp.routineNow inp.routineRx []
  let s := s.afterPoll call
  if !modbus.busy ∧ (inp.ts + 2 ^ 64 - s.requestTs) % 2 ^ 64 ≥ pollIntervalMs then do
    let modbus ← modbus.sendCall (some s.nextDev.request) inp.sendRx inp.sendNow
    .ok { s with requestTs := inp.ts, nextDev := s.nextDev.next, modbus := modbus }
  else .ok { s with modbus := modbus }

inductive Event
  | poll (inp : PollInput)
  | byte (b : UInt8)

def step (s : StairwaySensors) (e : Event) : Except Stuck StairwaySensors :=
  match e with
  | .poll inp => s.stairwaySensorsRoutine inp
  | .byte b => do
    let modbus ← s.modbus.uartRxIrq b
    .ok { s with modbus := modbus }

def run (s : StairwaySensors) (events : List Event) : Except Stuck StairwaySensors :=
  events.foldlM step s

/-! ## Reporting -/

/-- The loop body of `fill_device_values`. -/
def fillValue (s : StairwaySensors) (cfg : Settings) (d : DevId) (swap : Bool)
    (value : StairwaySensorsGet) (i : Bool) : StairwaySensorsGet :=
  let dst := d.sensor i
  let src := if swap then d.sensor !i else dst
  if s.devError d then
    { error := value.error.set dst true
      state := value.state.set dst false
      dist := value.dist.set dst 0
      signal := value.signal.set dst 0 }
  else
    -- a weak signal is not reliable: nothing is in range
    let dist := if s.values.signal.get src ≥ signalThreshold then s.values.dist.get src else maxRange
    { error := value.error.set dst (s.values.error.get src)
      signal := value.signal.set dst (s.values.signal.get src)
      dist := value.dist.set dst dist
      -- the trigger distance is that of the logical sensor
      state := value.state.set dst (dist < cfg.num (.distTrigger dst)) }

/-- `fill_device_values` -/
def fillDeviceValues (s : StairwaySensors) (cfg : Settings) (value : StairwaySensorsGet) (d : DevId)
    (swap : Bool) : StairwaySensorsGet :=
  [false, true].foldl (s.fillValue cfg d swap) value

/-- `stairway_sensors_get` -/
def stairwaySensorsGet (s : StairwaySensors) (cfg : Settings) (value : StairwaySensorsGet) :
    StairwaySensorsGet :=
  s.fillDeviceValues cfg (s.fillDeviceValues cfg value .up (cfg.flag .sensorUpSwap)) .down
    (cfg.flag .sensorDownSwap)

end StairwaySensors

end Stairway
