import Mathlib.Algebra.Group.Int.Defs
import Stairway.Firmware.Ramp
import Stairway.Firmware.Run
import Stairway.Leds.Strip

/-!
# The brightness of a LED

A refresh steps every LED towards its target: the on value while it is switched on or lies in the
zone of an active emergency, the off value otherwise. With the settings, the on/off states and the
emergencies held, every LED is a ramp.
-/

namespace Stairway.StairwayLeds
open Firmware

/-- The buffer and the driver have the LED count of the settings. -/
structure Driven (cfg : Settings) (l : StairwayLeds) : Prop where
  ready : l.ws2812.Ready
  sized : l.buf.length = l.ws2812.ledCount
  agree : cfg.num .ledCount = l.ws2812.ledCount
  byte : ∀ led ∈ l.buf, led.ledValue < 2 ^ 8

/-- LED `i` lies in the zone of an active emergency: the first LEDs are DOWN's, the last ones UP's. -/
def Covered (cfg : Settings) (l : StairwayLeds) (i : Nat) : Prop :=
  (l.emergencyState.down = true ∧ i < cfg.num (.emergencyCnt .down)) ∨
    (l.emergencyState.up = true ∧ cfg.num .ledCount - cfg.num (.emergencyCnt .up) ≤ i)

instance (cfg : Settings) (l : StairwayLeds) (i : Nat) : Decidable (Covered cfg l i) :=
  inferInstanceAs (Decidable (_ ∨ _))

/-- Where LED `i` goes. -/
def target (cfg : Settings) (l : StairwayLeds) (i : Nat) (led : LedState) : Nat :=
  if led.state = true ∨ Covered cfg l i then cfg.num .ledOnValue else cfg.num .ledOffValue

/-- The two values of `temp` fit an `int16_t`. -/
structure TempFits (cfg : Settings) (v : Nat) : Prop where
  on : v + cfg.num .ledOnStep < 2 ^ 15
  off : -2 ^ 15 ≤ (v : Int) - cfg.num .ledOffStep

/-- The state after the first `n` refreshes. -/
def refreshes (cfg : Settings) (alloc : Nat → Alloc) (l : StairwayLeds) (n : Nat) : StairwayLeds :=
  Run.stateAt (fun l a => (l.refresh cfg a).2) l alloc n

section
variable {cfg : Settings} {l : StairwayLeds}

/-- The index arithmetic of the zones does not wrap. -/
theorem inEmergency_iff (valid : cfg.Valid) (agree : cfg.num .ledCount = l.ws2812.ledCount) {i : Nat}
    (inside : i < cfg.num .ledCount) : inEmergency cfg l i = true ↔ Covered cfg l i := by
  have up := valid.emergencyCnt .up
  have max := valid.ledCountMax
  have small : i + cfg.num (.emergencyCnt .up) < 2 ^ 32 := by
    rw [ledCountMax] at max
    omega
  rw [inEmergency, Nat.mod_eq_of_lt small, ← agree]
  simp only [Covered, Bool.or_eq_true, Bool.and_eq_true, decide_eq_true_eq]
  refine or_congr Iff.rfl (and_congr_right fun _ => ?_)
  omega

theorem target_lt (cfg : Settings) (l : StairwayLeds) (i : Nat) (led : LedState) : l.target cfg i led < 2 ^ 8 := by
  have on : cfg.num .ledOnValue < 2 ^ 8 := cfg.num_lt .ledOnValue
  have off : cfg.num .ledOffValue < 2 ^ 8 := cfg.num_lt .ledOffValue
  unfold target
  split
  · exact on
  · exact off

theorem tempFits {v : Nat} (byte : v < 2 ^ 8) : TempFits cfg v := by
  have on : cfg.num .ledOnStep < 2 ^ 8 := cfg.num_lt .ledOnStep
  have off : cfg.num .ledOffStep < 2 ^ 8 := cfg.num_lt .ledOffStep
  constructor
  · omega
  · omega

/-- One step of a LED that is lit, by its state or by an emergency. -/
theorem rampLed_lit (valid : cfg.Valid) {emergency : Bool} {led : LedState}
    (lit : led.state = true ∨ emergency = true) :
    Toward (cfg.num .ledOnValue) led.ledValue (rampLed cfg emergency led).1.ledValue ∧
      (led.ledValue ≠ cfg.num .ledOnValue →
        (rampLed cfg emergency led).1.ledValue ≠ led.ledValue) := by
  have step := valid.ledOnStep
  unfold rampLed Toward
  split
  · dsimp only
    split
    · exact ⟨by omega, fun differs => Ne.symm differs⟩
    · exact ⟨by omega, fun _ => by omega⟩
  case isFalse still =>
    -- no emergency, and a LED that is on has arrived
    simp only [Bool.or_eq_true, Bool.and_eq_true, bne_iff_ne, ne_eq, not_or, not_and, not_not] at still
    have on : led.state = true := lit.resolve_right still.2
    have there := still.1 on
    rw [if_neg (by simp [on])]
    exact ⟨Or.inl ⟨Nat.le_refl _, Nat.le_of_eq there⟩, fun differs => absurd there differs⟩

/-- One step of a LED that is not lit. -/
theorem rampLed_dark (valid : cfg.Valid) {led : LedState} (dark : led.state = false) :
    Toward (cfg.num .ledOffValue) led.ledValue (rampLed cfg false led).1.ledValue ∧
      (led.ledValue ≠ cfg.num .ledOffValue →
        (rampLed cfg false led).1.ledValue ≠ led.ledValue) := by
  have step := valid.ledOffStep
  unfold rampLed Toward
  rw [if_neg (by simp [dark])]
  split
  · dsimp only
    split
    · exact ⟨by omega, fun differs => Ne.symm differs⟩
    · exact ⟨by omega, fun _ => by omega⟩
  case isFalse still =>
    have there : led.ledValue = cfg.num .ledOffValue := by simpa [dark] using still
    exact ⟨Or.inl ⟨Nat.le_refl _, Nat.le_of_eq there⟩, fun differs => absurd there differs⟩

/-- **One step of a LED** goes towards its target, and somewhere unless it is there. -/
theorem ramped_toward (valid : cfg.Valid) (driven : Driven cfg l) {i : Nat}
    (inside : i < cfg.num .ledCount) (led : LedState) :
    Toward (l.target cfg i led) led.ledValue (l.ramped cfg i led).ledValue ∧
      (led.ledValue ≠ l.target cfg i led → (l.ramped cfg i led).ledValue ≠ led.ledValue) := by
  have zone := inEmergency_iff valid driven.agree inside
  unfold target ramped
  split
  case isTrue lit =>
    rw [← zone] at lit
    exact rampLed_lit valid lit
  case isFalse dark =>
    rw [← zone, not_or, Bool.not_eq_true, Bool.not_eq_true] at dark
    rw [dark.2]
    exact rampLed_dark valid dark.1

theorem ramped_state (cfg : Settings) (l : StairwayLeds) (i : Nat) (led : LedState) :
    (l.ramped cfg i led).state = led.state ∧ (l.ramped cfg i led).ts = led.ts := by
  have stamp := rampLed_stamp cfg (inEmergency cfg l i) led
  exact ⟨congrArg Stamped.value stamp, congrArg Stamped.ts stamp⟩

/-- A refresh steps every LED and leaves everything else in order. -/
theorem refresh_driven (driven : Driven cfg l) (alloc : Alloc) :
    (l.refresh cfg alloc).1 = .success ∧ Driven cfg (l.refresh cfg alloc).2 ∧
      (l.refresh cfg alloc).2.ws2812.ledCount = l.ws2812.ledCount ∧
      (l.refresh cfg alloc).2.emergencyState = l.emergencyState ∧
      ∀ i, (l.refresh cfg alloc).2.buf[i]? = l.buf[i]?.map (l.ramped cfg i) := by
  obtain ⟨success, ramps⟩ :=
    rampFrom_ramps (RampedTo.start driven.ready : RampedTo cfg l l 0 false) driven.sized (Nat.add_zero _)
  obtain ⟨mem, some', length, -⟩ := ramps.mem
  have buf := fun i => ramps.buf driven.sized i
  have sized := ramps.sized.trans (driven.sized.trans ramps.ledCount.symm)
  have agree := driven.agree.trans ramps.ledCount.symm
  have byte : ∀ led ∈ (rampFrom cfg l false l.ws2812.ledCount 0).2.1.buf, led.ledValue < 2 ^ 8 := by
    intro led member
    obtain ⟨i, at'⟩ := List.getElem?_of_mem member
    rw [buf] at at'
    obtain ⟨before, here, rfl⟩ := Option.map_eq_some_iff.mp at'
    exact rampLed_byte (driven.byte before (List.mem_of_getElem? here))
  unfold refresh
  rw [if_neg (fun differs => differs driven.agree)]
  dsimp only
  rw [if_neg (fun fails => fails rfl), if_neg (fun fails => fails success)]
  have sent : (rampFrom cfg l false l.ws2812.ledCount 0).2.1.ws2812.refresh.1 = .success ∧
      (rampFrom cfg l false l.ws2812.ledCount 0).2.1.ws2812.refresh.2.mem = some mem := by
    simp only [Ws2812.refresh, some', and_self]
  split
  · refine ⟨sent.1, ⟨⟨mem, sent.2, ?_⟩, ?_, ?_, byte⟩, ?_, ramps.emergencyState, buf⟩
    · rw [Ws2812.refresh_ledCount]
      exact length.trans ramps.ledCount.symm
    · rw [Ws2812.refresh_ledCount]
      exact sized
    · rw [Ws2812.refresh_ledCount]
      exact agree
    · rw [Ws2812.refresh_ledCount]
      exact ramps.ledCount
  · exact ⟨rfl, ⟨⟨mem, some', length.trans ramps.ledCount.symm⟩, sized, agree, byte⟩, ramps.ledCount,
      ramps.emergencyState, buf⟩

/-! ## Refresh after refresh -/

/-- LED `i` after the first `n` refreshes. -/
def rampedTo (cfg : Settings) (alloc : Nat → Alloc) (l : StairwayLeds) (i : Nat) (led : LedState)
    (n : Nat) : LedState :=
  Run.stateAt (fun led _ => l.ramped cfg i led) led alloc n

theorem rampedTo_same (cfg : Settings) (l : StairwayLeds) (alloc : Nat → Alloc) (i : Nat) (led : LedState) (n : Nat) :
    (l.rampedTo cfg alloc i led n).state = led.state ∧ (l.rampedTo cfg alloc i led n).ts = led.ts := by
  induction n with
  | zero => exact ⟨rfl, rfl⟩
  | succ n ih =>
    rw [rampedTo, Run.stateAt_succ]
    obtain ⟨state, ts⟩ := ramped_state cfg l i (l.rampedTo cfg alloc i led n)
    exact ⟨state.trans ih.1, ts.trans ih.2⟩

theorem refreshes_driven (driven : Driven cfg l) (alloc : Nat → Alloc) (n : Nat) :
    Driven cfg (refreshes cfg alloc l n) ∧
      (refreshes cfg alloc l n).ws2812.ledCount = l.ws2812.ledCount ∧
      (refreshes cfg alloc l n).emergencyState = l.emergencyState ∧
      ∀ i, (refreshes cfg alloc l n).buf[i]? = l.buf[i]?.map fun led => l.rampedTo cfg alloc i led n := by
  induction n with
  | zero =>
    refine ⟨driven, rfl, rfl, fun i => ?_⟩
    cases at' : l.buf[i]? <;> exact at'
  | succ n ih =>
    obtain ⟨driven', count, emergency, buf⟩ := ih
    obtain ⟨-, driven'', count', emergency', buf'⟩ := refresh_driven driven' (alloc n)
    have next : refreshes cfg alloc l (n + 1) = ((refreshes cfg alloc l n).refresh cfg (alloc n)).2 := rfl
    have same : ∀ i, (refreshes cfg alloc l n).ramped cfg i = l.ramped cfg i := by
      intro i
      unfold ramped inEmergency
      rw [emergency, count]
    rw [next]
    refine ⟨driven'', count'.trans count, emergency'.trans emergency, fun i => ?_⟩
    rw [buf', buf, same, Option.map_map]
    rfl

/-- The brightness of LED `i` is a ramp to its target. -/
theorem rampedTo_ramp (valid : cfg.Valid) (driven : Driven cfg l) (alloc : Nat → Alloc) {i : Nat}
    (inside : i < cfg.num .ledCount) (led : LedState) :
    Ramp (l.target cfg i led) fun n => (l.rampedTo cfg alloc i led n).ledValue := by
  have step := fun n => ramped_toward valid driven inside (l.rampedTo cfg alloc i led n)
  have same : ∀ n, l.target cfg i (l.rampedTo cfg alloc i led n) = l.target cfg i led := by
    intro n
    rw [target, (rampedTo_same cfg l alloc i led n).1, target]
  constructor
  · intro n
    rw [← same n]
    exact (step n).1
  · intro n differs
    rw [← same n] at differs
    exact (step n).2 differs

/-- **Every LED ramps to its target exactly**: step after step without passing it and without a wrap,
and after 255 refreshes the buffer stands. -/
theorem brightness_converges (valid : cfg.Valid) (driven : Driven cfg l) (alloc : Nat → Alloc) :
    (∀ n, ((refreshes cfg alloc l n).refresh cfg (alloc n)).1 = .success) ∧
      (∀ i led, l.buf[i]? = some led → ∃ v, Ramp (l.target cfg i led) v ∧ ∀ n,
        (refreshes cfg alloc l n).buf[i]? = some { led with ledValue := v n } ∧ v n < 2 ^ 8 ∧
          TempFits cfg (v n)) ∧
      ∀ n, 255 ≤ n → (refreshes cfg alloc l n).buf =
        l.buf.mapIdx fun i led => { led with ledValue := l.target cfg i led } := by
  have inside : ∀ {i : Nat} {led : LedState}, l.buf[i]? = some led → i < cfg.num .ledCount := by
    intro i led here
    obtain ⟨bound, -⟩ := List.getElem?_eq_some_iff.mp here
    rw [driven.agree, ← driven.sized]
    exact bound
  have run := fun n => refreshes_driven driven alloc n
  have value : ∀ i led n, l.rampedTo cfg alloc i led n =
      { led with ledValue := (l.rampedTo cfg alloc i led n).ledValue } := by
    intro i led n
    obtain ⟨state, ts⟩ := rampedTo_same cfg l alloc i led n
    exact LedState.ext rfl state ts
  refine ⟨fun n => (refresh_driven (run n).1 (alloc n)).1, ?_, ?_⟩
  · intro i led here
    have ramp := rampedTo_ramp valid driven alloc (inside here) led
    refine ⟨_, ramp, fun n => ?_⟩
    have byte : (l.rampedTo cfg alloc i led n).ledValue < 2 ^ 8 := by
      have start : led.ledValue ≤ 255 := Nat.le_of_lt_succ (driven.byte led (List.mem_of_getElem? here))
      have goal := Nat.le_of_lt_succ (target_lt cfg l i led)
      exact Nat.lt_succ_of_le (ramp.le start goal n)
    refine ⟨?_, byte, tempFits byte⟩
    rw [(run n).2.2.2, here, Option.map_some, value]
  · intro n late
    apply List.ext_getElem?
    intro i
    rw [(run n).2.2.2, List.getElem?_mapIdx]
    cases here : l.buf[i]? with
    | none => rfl
    | some led =>
      have start := driven.byte led (List.mem_of_getElem? here)
      have goal := target_lt cfg l i led
      have there := (rampedTo_ramp valid driven alloc (inside here) led).arrives
        (Nat.le_of_lt_succ start) (Nat.le_of_lt_succ goal) late
      rw [Option.map_some, Option.map_some, value, there]

end

/-- The on value is below the off value, and every LED starts above both. -/
def inverted : Settings := (defaultSettings.setNum .ledOnValue 40).setNum .ledOffValue 200

def glaring : StairwayLeds :=
  { initial 18 with
    buf := (List.range 18).map fun i => ⟨255, i % 3 == 0, 0⟩
    emergencyState := ⟨true, false⟩ }

theorem brightness_converges_glaring :
    (refreshes inverted (fun _ => .done) glaring 255).buf =
      glaring.buf.mapIdx fun i led => { led with ledValue := glaring.target inverted i led } := by
  have valid : inverted.Valid := (settingsValidate_iff _).mp (by decide +kernel)
  have driven : Driven inverted glaring := by
    refine ⟨⟨List.replicate 18 0, rfl, rfl⟩, rfl, by decide +kernel, ?_⟩
    intro led member
    obtain ⟨i, -, rfl⟩ := List.mem_map.mp member
    show 255 < 2 ^ 8
    decide
  exact (brightness_converges valid driven fun _ => .done).2.2 255 (Nat.le_refl _)

end Stairway.StairwayLeds
