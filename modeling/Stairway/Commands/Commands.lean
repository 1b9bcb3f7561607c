import Stairway.Settings.Store

/-!
# Settings over the command line (`commands.c`)

The handlers that change settings; `set_default` is `settings_default`. The command line splits the
arguments into tokens before it calls a handler; `args` is the list of them. Help texts and the printing
of values are left out.
-/

namespace Stairway
open Firmware

inductive CommandType
  | uint32 | uint16 | uint8 | bool | string
  deriving DecidableEq, Repr

/-- `SettingCommand`; `offset` is the member it belongs to. -/
structure SettingCommand where
  name : List UInt8
  type : CommandType
  offset : SettingsField
  size : Nat
  secret : Bool
  deriving DecidableEq, Repr

/-- A command that does not set a string. -/
def SettingCommand.scalar (name : String) (type : CommandType) (offset : SettingsField) :
    SettingCommand :=
  ⟨ascii name, type, offset, 0, false⟩

/-- `setting_commands` -/
def settingCommands : List SettingCommand := [
  .scalar "light_state" .bool .useLightSensor,
  .scalar "light_day" .uint32 .lightSensorDayValue,
  .scalar "light_night" .uint32 .lightSensorNightValue,
  .scalar "dist_up_first" .uint16 (.distTrigger .upFirst),
  .scalar "dist_up_second" .uint16 (.distTrigger .upSecond),
  .scalar "dist_down_first" .uint16 (.distTrigger .downFirst),
  .scalar "dist_down_second" .uint16 (.distTrigger .downSecond),
  .scalar "sens_debouce" .uint32 .sensorDebouceTime,
  .scalar "sens_up_swap" .bool .sensorUpSwap,
  .scalar "sens_down_swap" .bool .sensorDownSwap,
  .scalar "leds_count" .uint32 .ledCount,
  .scalar "leds_time_interval" .uint32 .ledsTimeInterval,
  .scalar "leds_off_timeout" .uint32 .ledsOffTimeout,
  .scalar "leds_on_value" .uint8 .ledOnValue,
  .scalar "leds_off_value" .uint8 .ledOffValue,
  .scalar "leds_on_step" .uint8 .ledOnStep,
  .scalar "leds_off_step" .uint8 .ledOffStep,
  .scalar "em_state" .bool .useEmergency,
  .scalar "em_block_time" .uint32 .emergencyBlockMs,
  .scalar "em_up_cnt" .uint32 (.emergencyCnt .up),
  .scalar "em_down_cnt" .uint32 (.emergencyCnt .down),
  ⟨ascii "ssid", .string, .ssid, ssidMaxLen, false⟩,
  ⟨ascii "pass", .string, .pass, passMaxLen, true⟩]

/-- `parse_uint`: the whole string has to be a number; an overflow of `strtoul` is not checked
for. -/
def parseUint (str : List UInt8) (max : Nat) : Except ErrCode Nat :=
  if !digitFirst str then .error .paramInvalid
  else if (strtoul str).rest ≠ [] ∨ (strtoul str).value > max then .error .paramInvalid
  else .ok (strtoul str).value

/-- The `switch` of `set_setting`, working on `new_settings`. -/
def readArgument (cmd : SettingCommand) (arg : List UInt8) (s : Settings) : Except ErrCode Settings :=
  match cmd.type with
  | .uint32 => (parseUint arg (2 ^ 32 - 1)).map (s.setNum cmd.offset)
  | .uint16 => (parseUint arg (2 ^ 16 - 1)).map (s.setNum cmd.offset)
  | .uint8 => (parseUint arg (2 ^ 8 - 1)).map (s.setNum cmd.offset)
  | .bool => (parseUint arg 1).map (s.setNum cmd.offset)
  | .string => if arg.length ≥ cmd.size then .error .paramInvalid else .ok (s.strcpy cmd.offset arg)

/-- `set_setting`, with the error it ends with. -/
def setSetting (ctl : FlashCtl) (cmd : SettingCommand) (args : List (List UInt8)) (st : Store) :
    ErrCode × Store :=
  match args with
  | [arg] =>
    match readArgument cmd arg st.settings with
    | .error err => (err, st)
    | .ok newSettings =>
      if settingsValidate newSettings ≠ .success then (settingsValidate newSettings, st)
      else settingsApply ctl (some newSettings) st
  | _ => (.paramInvalid, st)

/-- `set_wifi_state`, with the error it ends with. -/
def setWifiState (ctl : FlashCtl) (args : List (List UInt8)) (st : Store) : ErrCode × Store :=
  match args with
  | [arg] =>
    match parseUint arg 1 with
    | .error err => (err, st)
    | .ok val => settingsWrite ctl { st with settings := st.settings.setNum .apState val }
  | _ => (.paramInvalid, st)

end Stairway
