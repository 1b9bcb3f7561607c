import Stairway.Global
import Stairway.Firmware.Memory
import Stairway.Firmware.CString

/-!
# The `Settings` structure

`Settings` (`settings_api.h`) is kept as the bytes of the C object, because the CRC, the flash
image and the JSON and CLI tables all work on them. `SettingsField` names its members;
`offset` and `size` are their places under the natural alignment of the target (ARM, `bool` one
byte), padding included.
-/

namespace Stairway
open Firmware

/-- The scalar members, array elements and strings of `Settings`. -/
inductive SettingsField
  | magic | version | size | useLightSensor | lightSensorDayValue | lightSensorNightValue
  | distTrigger (i : StairwaySensorType) | sensorDebouceTime | sensorUpSwap | sensorDownSwap
  | ledsTimeInterval | ledsOffTimeout | ledOnValue | ledOffValue | ledOnStep | ledOffStep
  | ledCount | useEmergency | emergencyBlockMs | emergencyCnt (i : EmergencyType)
  | ssid | pass | apState | crc
  deriving DecidableEq, Repr

def ssidMaxLen : Nat := 33
def passMinLen : Nat := 8
def passMaxLen : Nat := 64
def ledCountMax : Nat := 1000

namespace SettingsField

/-- `offsetof(Settings, f)`. -/
def offset : SettingsField → Nat
  | magic => 0
  | version => 4
  | size => 6
  | useLightSensor => 8
  | lightSensorDayValue => 12
  | lightSensorNightValue => 16
  | distTrigger .upFirst => 20
  | distTrigger .upSecond => 22
  | distTrigger .downFirst => 24
  | distTrigger .downSecond => 26
  | sensorDebouceTime => 28
  | sensorUpSwap => 32
  | sensorDownSwap => 33
  | ledsTimeInterval => 36
  | ledsOffTimeout => 40
  | ledOnValue => 44
  | ledOffValue => 45
  | ledOnStep => 46
  | ledOffStep => 47
  | ledCount => 48
  | useEmergency => 52
  | emergencyBlockMs => 56
  | emergencyCnt .up => 60
  | emergencyCnt .down => 64
  | ssid => 68
  | pass => 101
  | apState => 165
  | crc => 168

/-- `sizeof` of the member. -/
def width : SettingsField → Nat
  | magic | lightSensorDayValue | lightSensorNightValue | sensorDebouceTime => 4
  | ledsTimeInterval | ledsOffTimeout | ledCount | emergencyBlockMs | emergencyCnt _ | crc => 4
  | version | size | distTrigger _ => 2
  | useLightSensor | sensorUpSwap | sensorDownSwap | useEmergency | apState => 1
  | ledOnValue | ledOffValue | ledOnStep | ledOffStep => 1
  | ssid => ssidMaxLen
  | pass => passMaxLen

end SettingsField

/-- `sizeof(Settings)`. -/
def sizeofSettings : Nat := 172

/-- The bytes of a `Settings` object. -/
@[ext] structure Settings where
  bytes : List UInt8
  sized : bytes.length = sizeofSettings
  deriving DecidableEq

/-- Every member lies inside the object. -/
theorem SettingsField.inside (f : SettingsField) : f.offset + f.width ≤ sizeofSettings := by
  cases f with
  | distTrigger i => cases i <;> decide
  | emergencyCnt i => cases i <;> decide
  | _ => decide

/-- Two members do not overlap. -/
theorem SettingsField.apart {f g : SettingsField} (other : f ≠ g) :
    f.offset + f.width ≤ g.offset ∨ g.offset + g.width ≤ f.offset := by
  cases f with
  | distTrigger i => cases i <;> (cases g with
    | distTrigger j => cases j <;> first | exact absurd rfl other | decide
    | emergencyCnt j => cases j <;> decide
    | _ => decide)
  | emergencyCnt i => cases i <;> (cases g with
    | distTrigger j => cases j <;> decide
    | emergencyCnt j => cases j <;> first | exact absurd rfl other | decide
    | _ => decide)
  | _ => (cases g with
    | distTrigger j => cases j <;> decide
    | emergencyCnt j => cases j <;> decide
    | _ => first | exact absurd rfl other | decide)

namespace Settings

/-- The bytes of a member. -/
def raw (s : Settings) (f : SettingsField) : List UInt8 := load s.bytes f.offset f.width

/-- The value of an integer member, `*(uintN_t *)field`. -/
def num (s : Settings) (f : SettingsField) : Nat := leNat (s.raw f)

/-- The value of a `bool` member. -/
def flag (s : Settings) (f : SettingsField) : Bool := s.num f != 0

/-- Store bytes at the beginning of a member. -/
def put (s : Settings) (f : SettingsField) (data : List UInt8) : Settings :=
  ⟨store s.bytes f.offset data, by rw [length_store, s.sized]⟩

/-- Assign an integer member; the value is truncated to its width. -/
def setNum (s : Settings) (f : SettingsField) (v : Nat) : Settings := s.put f (leBytes f.width v)

/-- Assign a `bool` member. -/
def setFlag (s : Settings) (f : SettingsField) (b : Bool) : Settings := s.setNum f b.toNat

/-- `strcpy(s->f, str)`: the string and its terminator, the rest of the array is kept. -/
def strcpy (s : Settings) (f : SettingsField) (str : List UInt8) : Settings := s.put f (str ++ [0])

@[simp] theorem length_raw (s : Settings) (f : SettingsField) : (s.raw f).length = f.width := by
  rw [raw, length_load (by rw [s.sized]; exact f.inside)]

/-- Writing one member leaves the others alone. -/
theorem raw_put_other {s : Settings} {f g : SettingsField} {data : List UInt8} (other : g ≠ f)
    (fits : data.length ≤ f.width) : (s.put f data).raw g = s.raw g := by
  have apart := SettingsField.apart other
  exact load_store_apart (by omega)

/-- A member written in full reads back. -/
theorem raw_put_same {s : Settings} {f : SettingsField} {data : List UInt8}
    (full : data.length = f.width) : (s.put f data).raw f = data := by
  have inside := f.inside
  rw [raw, ← full]
  exact load_store_same (by rw [s.sized]; omega)

/-- Writing the bytes a member already has changes nothing. -/
theorem put_raw (s : Settings) (f : SettingsField) : s.put f (s.raw f) = s := by
  apply Settings.ext
  exact store_load (by rw [s.sized]; exact f.inside)

theorem num_lt (s : Settings) (f : SettingsField) : s.num f < 256 ^ f.width := by
  have bound := leNat_lt (s.raw f)
  rwa [length_raw] at bound

theorem num_setNum_other {s : Settings} {f g : SettingsField} (v : Nat) (other : g ≠ f) :
    (s.setNum f v).num g = s.num g := by
  rw [num, num, setNum, raw_put_other other (by simp)]

theorem num_setNum_same {s : Settings} {f : SettingsField} {v : Nat} (fits : v < 256 ^ f.width) :
    (s.setNum f v).num f = v := by
  rw [num, setNum, raw_put_same (length_leBytes _ _), leNat_leBytes_of_lt fits]

theorem raw_setNum_other {s : Settings} {f g : SettingsField} (v : Nat) (other : g ≠ f) :
    (s.setNum f v).raw g = s.raw g := by
  rw [setNum, raw_put_other other (by simp)]

/-- Assigning the value a member already has changes nothing. -/
theorem setNum_num (s : Settings) (f : SettingsField) : s.setNum f (s.num f) = s := by
  have bytes := leBytes_leNat (s.raw f)
  rw [length_raw] at bytes
  rw [setNum, num, bytes, put_raw]

/-- A member written in part keeps its other bytes. -/
theorem raw_put_front {s : Settings} {f : SettingsField} {data : List UInt8}
    (fits : data.length ≤ f.width) : (s.put f data).raw f = data ++ (s.raw f).drop data.length :=
  load_store_front fits (by rw [s.sized]; exact f.inside)

/-- Writing the first bytes that a member already has changes nothing. -/
theorem put_front {s : Settings} {f : SettingsField} {data : List UInt8}
    (same : data ++ (s.raw f).drop data.length = s.raw f) : s.put f data = s := by
  have inside := f.inside
  have length := congrArg List.length same
  rw [List.length_append, List.length_drop, length_raw] at length
  have front : load s.bytes f.offset data.length = data := by
    have take : (s.raw f).take data.length = data := by
      rw [← same, List.take_left]
    have short : min data.length f.width = data.length := by omega
    rw [← take, List.length_take, length_raw, raw, load, load, List.take_take, short]
  apply Settings.ext
  change store s.bytes f.offset data = s.bytes
  rw [← front]
  exact store_load (by rw [s.sized]; omega)

end Settings

end Stairway
