import Stairway.Firmware.Run
import Stairway.Firmware.Smoothing
import Stairway.Firmware.Word
import Stairway.Settings.Validate

/-!
# The light sensor (`light_sensor.c`)

The ADC is read every 10 ms and smoothed; the smoothed value is scaled to millivolts, and two thresholds
decide between day and night. A constant sample that is clear of a threshold by the dead zone of the
filter decides for good (`light_sensor_settles`).
-/

namespace Stairway
open Firmware

def filterN : Int := 32
def samplePeriodMs : Nat := 10
def int32Max : Int := 2 ^ 31 - 1

/-- The static variables of `light_sensor.c`; `INT32_MAX` stands for no sample yet. -/
structure LightSensor where
  filteredAdc : Int
  trigger : Bool
  sampleTs : Nat
  deriving DecidableEq, Repr

def LightSensor.boot : LightSensor := ⟨int32Max, false, 0⟩

/-- What a call reads: `get_time_ms`, and the ADC if a sample is due. -/
structure LightReading where
  now : Nat
  adc : Nat
  deriving DecidableEq, Repr

/-- A sample is due. -/
def LightSensor.Due (s : LightSensor) (r : LightReading) : Prop :=
  s.filteredAdc = int32Max ∨ wordSub 64 r.now s.sampleTs ≥ samplePeriodMs

instance (s : LightSensor) (r : LightReading) : Decidable (s.Due r) := by
  unfold LightSensor.Due
  infer_instance

/-- The filter of `light_sensor_get_data`. -/
def LightSensor.sample (s : LightSensor) (r : LightReading) : LightSensor :=
  if s.Due r then
    { s with
      sampleTs := r.now
      filteredAdc := if s.filteredAdc ≠ int32Max then s.filteredAdc + ((r.adc : Int) - s.filteredAdc).tdiv filterN
        else r.adc }
  else s

/-- `3300 * filtered_adc / (1 << 12)` -/
def adcVoltage (filteredAdc : Int) : Int := (3300 * filteredAdc).tdiv (2 ^ 12)

/-- `uint32_t voltage` -/
def LightSensor.voltage (s : LightSensor) : Nat := (adcVoltage s.filteredAdc % 2 ^ 32).toNat

/-- The thresholds of `light_sensor_get_data`. -/
def lightTrigger (cfg : Settings) (voltage : Nat) (trigger : Bool) : Bool :=
  if voltage > cfg.num .lightSensorDayValue then true
  else if voltage < cfg.num .lightSensorNightValue then false
  else trigger

/-- What a call returns: the error code, `*state` and `*raw`. -/
structure LightData where
  err : ErrCode
  state : Bool
  raw : Nat
  deriving DecidableEq, Repr

/-- `light_sensor_get_data` -/
def lightSensorGetData (cfg : Settings) (s : LightSensor) (r : LightReading) : LightData × LightSensor :=
  let s := s.sample r
  let s := { s with trigger := lightTrigger cfg s.voltage s.trigger }
  (⟨.success, s.trigger, s.voltage⟩, s)

/-- The variables after `n` calls since boot. -/
def lightRun (cfg : Settings) (readings : Nat → LightReading) (n : Nat) : LightSensor :=
  Run.stateAt (fun s r => (lightSensorGetData cfg s r).2) .boot readings n

/-- The samples among the first `n` calls from call `m` on. -/
def samplesFrom (cfg : Settings) (readings : Nat → LightReading) (m n : Nat) : Nat :=
  Nat.count (fun k => (lightRun cfg readings (m + k)).Due (readings (m + k))) n

/-! ## One call -/

/-- A value of the ADC, or no sample yet. -/
def LightSensor.InRange (s : LightSensor) : Prop :=
  s.filteredAdc = int32Max ∨ 0 ≤ s.filteredAdc ∧ s.filteredAdc ≤ 4095

/-- What a call does. -/
structure LightStep (cfg : Settings) (r : LightReading) (s s' : LightSensor) : Prop where
  range : 0 ≤ s'.filteredAdc ∧ s'.filteredAdc ≤ 4095
  first : s.filteredAdc = int32Max → s'.filteredAdc = r.adc
  toward : s.filteredAdc ≠ int32Max → s.Due r → s.filteredAdc ≤ s'.filteredAdc ∧ s'.filteredAdc ≤ r.adc ∨
    (r.adc : Int) ≤ s'.filteredAdc ∧ s'.filteredAdc ≤ s.filteredAdc
  idle : ¬ s.Due r → s'.filteredAdc = s.filteredAdc
  fits : -2 ^ 31 ≤ 3300 * s'.filteredAdc ∧ 3300 * s'.filteredAdc < 2 ^ 31
  voltage : (s'.voltage : Int) = adcVoltage s'.filteredAdc
  dawn : s.trigger = false → s'.trigger = true → cfg.num .lightSensorDayValue < s'.voltage
  dusk : s.trigger = true → s'.trigger = false → s'.voltage < cfg.num .lightSensorNightValue

section
variable {cfg : Settings} {s : LightSensor} {r : LightReading}

theorem sample_first (fresh : s.filteredAdc = int32Max) : (s.sample r).filteredAdc = r.adc := by
  have due : s.Due r := Or.inl fresh
  rw [LightSensor.sample, if_pos due]
  exact if_neg (not_not.mpr fresh)

/-- A later sample is smoothed. -/
theorem sample_due (later : s.filteredAdc ≠ int32Max) (due : s.Due r) :
    (s.sample r).filteredAdc = smooth filterN s.filteredAdc r.adc := by
  rw [LightSensor.sample, if_pos due]
  exact if_pos later

theorem sample_idle (idle : ¬ s.Due r) : s.sample r = s := if_neg idle

theorem sample_range (inRange : s.InRange) (adc : r.adc ≤ 4095) :
    0 ≤ (s.sample r).filteredAdc ∧ (s.sample r).filteredAdc ≤ 4095 := by
  by_cases fresh : s.filteredAdc = int32Max
  · rw [sample_first fresh]
    omega
  · obtain ⟨low, high⟩ := inRange.resolve_left fresh
    by_cases due : s.Due r
    · rw [sample_due fresh due]
      rcases smooth_cases (n := filterN) (by decide) s.filteredAdc r.adc with ⟨_, _, _, _, _⟩ | ⟨_, _, _, _, _⟩ <;> omega
    · rw [sample_idle due]
      exact ⟨low, high⟩

theorem adcVoltage_mono {x y : Int} (le : x ≤ y) : adcVoltage x ≤ adcVoltage y :=
  Int.tdiv_le_tdiv (by decide) (by omega)

/-- The voltage of a value of the ADC is at most 3300 mV. -/
theorem adcVoltage_range {x : Int} (low : 0 ≤ x) (high : x ≤ 4095) : 0 ≤ adcVoltage x ∧ adcVoltage x < 3300 := by
  have least := adcVoltage_mono low
  have most := adcVoltage_mono high
  have zero : adcVoltage 0 = 0 := by decide
  have full : adcVoltage 4095 = 3299 := by decide
  omega

theorem lightTrigger_dawn {voltage : Nat} (after : lightTrigger cfg voltage false = true) :
    cfg.num .lightSensorDayValue < voltage := by
  unfold lightTrigger at after
  split at after
  · assumption
  · split at after <;> cases after

theorem lightTrigger_dusk {voltage : Nat} (after : lightTrigger cfg voltage true = false) :
    voltage < cfg.num .lightSensorNightValue := by
  unfold lightTrigger at after
  split at after
  · cases after
  · split at after
    · assumption
    · cases after

theorem LightSensor.voltage_eq (low : 0 ≤ s.filteredAdc) (high : s.filteredAdc ≤ 4095) :
    (s.voltage : Int) = adcVoltage s.filteredAdc := by
  obtain ⟨positive, small⟩ := adcVoltage_range low high
  rw [LightSensor.voltage, Int.emod_eq_of_lt positive (by omega), Int.toNat_of_nonneg positive]

theorem lightSensorGetData_filteredAdc (cfg : Settings) (s : LightSensor) (r : LightReading) :
    (lightSensorGetData cfg s r).2.filteredAdc = (s.sample r).filteredAdc := rfl

theorem lightSensorGetData_step (cfg : Settings) (inRange : s.InRange) (adc : r.adc ≤ 4095) :
    LightStep cfg r s (lightSensorGetData cfg s r).2 := by
  have range := sample_range inRange adc
  have trigger : (s.sample r).trigger = s.trigger := by
    unfold LightSensor.sample
    split <;> rfl
  refine ⟨range, sample_first, ?_, ?_, ?_, ?_, ?_, ?_⟩
  · intro later due
    rw [lightSensorGetData_filteredAdc, sample_due later due]
    rcases smooth_cases (n := filterN) (by decide) s.filteredAdc r.adc with
      ⟨_, low, high, _, _⟩ | ⟨_, low, high, _, _⟩
    · exact Or.inl ⟨low, high⟩
    · exact Or.inr ⟨low, high⟩
  · intro idle
    rw [lightSensorGetData_filteredAdc, sample_idle idle]
  · show -2 ^ 31 ≤ 3300 * (s.sample r).filteredAdc ∧ 3300 * (s.sample r).filteredAdc < 2 ^ 31
    omega
  · exact LightSensor.voltage_eq range.1 range.2
  · intro before after
    rw [← trigger] at before
    refine lightTrigger_dawn ?_
    rw [← before]
    exact after
  · intro before after
    rw [← trigger] at before
    refine lightTrigger_dusk ?_
    rw [← before]
    exact after

end

/-! ## A run -/

/-- What a constant sample makes of the states `v`, of which `taken` counts the samples before them. -/
structure LightSettles (cfg : Settings) (adc : Nat) (v : Nat → LightSensor) (taken : Nat → Nat) : Prop where
  nearer : ∀ k, ((v (k + 1)).filteredAdc - adc).natAbs ≤ ((v k).filteredAdc - adc).natAbs
  arrives : ∀ k, 4064 ≤ taken k → ((v k).filteredAdc - adc).natAbs ≤ 31
  rests : ∀ k, ((v k).filteredAdc - adc).natAbs ≤ 31 → ∀ j, k ≤ j → (v j).filteredAdc = (v k).filteredAdc
  day : cfg.num .lightSensorDayValue < adcVoltage (adc - 31) → ∀ k, 4064 ≤ taken k → (v k).trigger = true
  night : adcVoltage (adc + 31) < cfg.num .lightSensorNightValue → ∀ k, 4064 ≤ taken k → (v k).trigger = false

section
variable {cfg : Settings} {readings : Nat → LightReading}

theorem lightRun_range (adc12 : ∀ n, (readings n).adc ≤ 4095) (n : Nat) : (lightRun cfg readings n).InRange := by
  induction n with
  | zero => exact Or.inl rfl
  | succ n ih => exact Or.inr (lightSensorGetData_step cfg ih (adc12 n)).range

variable (cfg) in
theorem lightRun_step (adc12 : ∀ n, (readings n).adc ≤ 4095) (n : Nat) :
    LightStep cfg (readings n) (lightRun cfg readings n) (lightRun cfg readings (n + 1)) :=
  lightSensorGetData_step cfg (lightRun_range adc12 n) (adc12 n)

theorem lightRun_filteredAdc (n : Nat) : (lightRun cfg readings (n + 1)).filteredAdc =
    ((lightRun cfg readings n).sample (readings n)).filteredAdc := rfl

theorem lightRun_trigger (n : Nat) : (lightRun cfg readings (n + 1)).trigger =
    lightTrigger cfg (lightRun cfg readings (n + 1)).voltage ((lightRun cfg readings n).sample (readings n)).trigger :=
  rfl

variable (cfg) in
/-- After the first call the sentinel does not come back. -/
theorem lightRun_sampled (adc12 : ∀ n, (readings n).adc ≤ 4095) {n : Nat} (called : 0 < n) :
    0 ≤ (lightRun cfg readings n).filteredAdc ∧ (lightRun cfg readings n).filteredAdc ≤ 4095 ∧
      (lightRun cfg readings n).filteredAdc ≠ int32Max := by
  obtain ⟨n, rfl⟩ : ∃ k, n = k + 1 := ⟨n - 1, by omega⟩
  have range := (lightRun_step cfg adc12 n).range
  have sentinel : int32Max = 2147483647 := rfl
  omega

/-- While the sample is constant the filter smooths toward it. -/
theorem lightRun_smoothed (adc12 : ∀ n, (readings n).adc ≤ 4095) {m adc : Nat} (called : 0 < m)
    (constant : ∀ k, m ≤ k → (lightRun cfg readings k).Due (readings k) → (readings k).adc = adc) :
    Smoothed filterN adc (fun k => (lightRun cfg readings (m + k)).Due (readings (m + k)))
      fun k => (lightRun cfg readings (m + k)).filteredAdc := by
  constructor
  · intro k due
    have after : 0 < m + k := by omega
    have later := (lightRun_sampled cfg adc12 after).2.2
    rw [← constant (m + k) (by omega) due, ← Nat.add_assoc, lightRun_filteredAdc]
    exact sample_due later due
  · intro k idle
    rw [← Nat.add_assoc, lightRun_filteredAdc, sample_idle idle]

theorem lightRun_settles (hysteresis : cfg.num .lightSensorNightValue ≤ cfg.num .lightSensorDayValue)
    (adc12 : ∀ n, (readings n).adc ≤ 4095) {m adc : Nat} (called : 0 < m) (value : adc ≤ 4095)
    (constant : ∀ k, m ≤ k → (lightRun cfg readings k).Due (readings k) → (readings k).adc = adc) :
    LightSettles cfg adc (fun k => lightRun cfg readings (m + k)) (samplesFrom cfg readings m) := by
  have smoothed := lightRun_smoothed adc12 called constant
  have positive : 0 < filterN := by decide
  have width : filterN = 32 := rfl
  have start := lightRun_sampled cfg adc12 called
  have arrives : ∀ k, 4064 ≤ samplesFrom cfg readings m k →
      ((lightRun cfg readings (m + k)).filteredAdc - adc).natAbs ≤ 31 := by
    intro k enough
    have there := smoothed.arrives positive (k := k) (by
      change ((((lightRun cfg readings m).filteredAdc - adc).natAbs : Nat) : Int) < samplesFrom cfg readings m k + filterN
      omega)
    omega
  -- the threshold is compared with the smoothed value of the same call
  have triggered : ∀ k, 4064 ≤ samplesFrom cfg readings m k → ∃ before,
      (lightRun cfg readings (m + k)).trigger = lightTrigger cfg (lightRun cfg readings (m + k)).voltage before ∧
        ((lightRun cfg readings (m + k)).voltage : Int) = adcVoltage (lightRun cfg readings (m + k)).filteredAdc := by
    intro k _
    obtain ⟨n, same⟩ : ∃ n, m + k = n + 1 := ⟨m + k - 1, by omega⟩
    rw [same]
    exact ⟨_, lightRun_trigger n, (lightRun_step cfg adc12 n).voltage⟩
  refine ⟨smoothed.nearer positive, arrives, ?_, ?_, ?_⟩
  · intro k near j later
    exact smoothed.rests positive (by omega) later
  · intro clear k enough
    obtain ⟨before, trigger, voltage⟩ := triggered k enough
    have near := arrives k enough
    have least := adcVoltage_mono (x := adc - 31) (y := (lightRun cfg readings (m + k)).filteredAdc) (by omega)
    rw [trigger, lightTrigger, if_pos (by omega)]
  · intro clear k enough
    obtain ⟨before, trigger, voltage⟩ := triggered k enough
    have near := arrives k enough
    have most := adcVoltage_mono (x := (lightRun cfg readings (m + k)).filteredAdc) (y := adc + 31) (by omega)
    rw [trigger, lightTrigger, if_neg (by omega), if_pos (by omega)]

/-- **The light sensor settles.** Every call keeps the filter in range and the decision with its thresholds;
from any call on, a constant sample ends the decision where it is clear of both by the dead zone. -/
theorem light_sensor_settles (hysteresis : cfg.num .lightSensorNightValue ≤ cfg.num .lightSensorDayValue)
    (adc12 : ∀ n, (readings n).adc ≤ 4095) :
    (∀ n, LightStep cfg (readings n) (lightRun cfg readings n) (lightRun cfg readings (n + 1))) ∧
      ∀ m adc, 0 < m → adc ≤ 4095 →
        (∀ k, m ≤ k → (lightRun cfg readings k).Due (readings k) → (readings k).adc = adc) →
        LightSettles cfg adc (fun k => lightRun cfg readings (m + k)) (samplesFrom cfg readings m) :=
  ⟨lightRun_step cfg adc12, fun _ _ called value constant => lightRun_settles hysteresis adc12 called value constant⟩

end

/-- A lamp goes off after the first sample; samples come every 10 ms. -/
def dusk (n : Nat) : LightReading := ⟨10 * n, if n = 0 then 3000 else 1000⟩

theorem light_sensor_settles_dusk :
    (∀ n, LightStep defaultSettings (dusk n) (lightRun defaultSettings dusk n) (lightRun defaultSettings dusk (n + 1))) ∧
      LightSettles defaultSettings 1000 (fun k => lightRun defaultSettings dusk (1 + k))
        (samplesFrom defaultSettings dusk 1) := by
  have adc12 : ∀ n, (dusk n).adc ≤ 4095 := by
    intro n
    unfold dusk
    dsimp only
    split <;> decide
  obtain ⟨steps, settles⟩ := light_sensor_settles defaultSettings_valid.hysteresis adc12
  exact ⟨steps, settles 1 1000 (by decide) (by decide) fun k later _ => if_neg (by omega)⟩

end Stairway
