import Stairway.Settings.Layout

/-!
# Default settings and `settings_validate`

`Settings.Valid` is what the rest of the firmware relies on without checking it again;
`settingsValidate_iff` says that `settings_validate` accepts exactly such settings.
-/

namespace Stairway
open Firmware

def settingsMagic : Nat := 0xDEADBEED
def settingsVersion : Nat := 2

/-- An object of zero bytes. -/
def Settings.zero : Settings := ⟨List.replicate sizeofSettings 0, List.length_replicate⟩

/-- `default_settings` of `settings_list.h`; members not listed there are zero. -/
def defaultSettings : Settings :=
  Settings.zero
    |>.setNum .magic settingsMagic
    |>.setNum .version settingsVersion
    |>.setNum .size sizeofSettings
    |>.setFlag .useLightSensor true
    |>.setNum .lightSensorDayValue 1400
    |>.setNum .lightSensorNightValue 1000
    |>.setFlag .useEmergency true
    |>.setNum (.distTrigger .upFirst) 800
    |>.setNum (.distTrigger .upSecond) 1000
    |>.setNum (.distTrigger .downFirst) 1000
    |>.setNum (.distTrigger .downSecond) 1000
    |>.setNum .ledsTimeInterval 400
    |>.setNum .ledsOffTimeout 20000
    |>.setNum .sensorDebouceTime 2000
    |>.setNum .emergencyBlockMs 1000
    |>.setNum (.emergencyCnt .up) 2
    |>.setNum (.emergencyCnt .down) 2
    |>.setNum .ledOnValue 150
    |>.setNum .ledOffValue 0
    |>.setNum .ledOnStep 25
    |>.setNum .ledOffStep 25
    |>.setNum .ledCount 18
    |>.setFlag .sensorUpSwap true
    |>.setFlag .sensorDownSwap false
    |>.strcpy .ssid (ascii "Stairway")
    |>.strcpy .pass (ascii "12345678")
    |>.setFlag .apState true

/-- `settings_validate` on a non-null pointer. -/
def settingsValidate (s : Settings) : ErrCode :=
  if s.num .ledCount = 0 ∨ s.num .ledCount > ledCountMax then .paramInvalid
  else if s.num (.emergencyCnt .up) > s.num .ledCount then .paramInvalid
  else if s.num (.emergencyCnt .down) > s.num .ledCount then .paramInvalid
  else if s.num .ledOnStep = 0 ∨ s.num .ledOffStep = 0 then .paramInvalid
  else if s.num .lightSensorDayValue < s.num .lightSensorNightValue then .paramInvalid
  else if strnlen (s.raw .ssid) = 0 ∨ strnlen (s.raw .ssid) ≥ ssidMaxLen then .paramInvalid
  else if strnlen (s.raw .pass) < passMinLen ∨ strnlen (s.raw .pass) ≥ passMaxLen then .paramInvalid
  else .success

/-- What `settings_validate` promises. A string shorter than its array is NUL-terminated in it. -/
structure Settings.Valid (s : Settings) : Prop where
  ledCountPos : 1 ≤ s.num .ledCount
  ledCountMax : s.num .ledCount ≤ ledCountMax
  emergencyCnt : ∀ i, s.num (.emergencyCnt i) ≤ s.num .ledCount
  ledOnStep : s.num .ledOnStep ≠ 0
  ledOffStep : s.num .ledOffStep ≠ 0
  hysteresis : s.num .lightSensorNightValue ≤ s.num .lightSensorDayValue
  ssidPos : 1 ≤ strnlen (s.raw .ssid)
  ssidMax : strnlen (s.raw .ssid) < ssidMaxLen
  passMin : passMinLen ≤ strnlen (s.raw .pass)
  passMax : strnlen (s.raw .pass) < passMaxLen

theorem settingsValidate_iff (s : Settings) : settingsValidate s = .success ↔ s.Valid := by
  constructor
  · intro accepted
    unfold settingsValidate at accepted
    repeat' split at accepted
    all_goals try cases accepted
    rename_i count up down step light ssid pass
    simp only [not_or, Nat.not_lt, Nat.not_le, ge_iff_le, gt_iff_lt] at count up down step light ssid pass
    refine ⟨by omega, by omega, ?_, by omega, by omega, light, by omega, ssid.2, pass.1, pass.2⟩
    intro i
    cases i
    · exact up
    · exact down
  · intro h
    have up := h.emergencyCnt .up
    have down := h.emergencyCnt .down
    have count := h.ledCountPos
    have countMax := h.ledCountMax
    have onStep := h.ledOnStep
    have offStep := h.ledOffStep
    have light := h.hysteresis
    have ssid := h.ssidPos
    have ssidMax := h.ssidMax
    have pass := h.passMin
    have passMax := h.passMax
    unfold settingsValidate
    rw [if_neg (by omega), if_neg (by omega), if_neg (by omega), if_neg (by omega),
      if_neg (by omega), if_neg (by omega), if_neg (by omega)]

theorem defaultSettings_valid : defaultSettings.Valid := by
  rw [← settingsValidate_iff]
  decide

end Stairway
