import Stairway.Leds.Ws2812
import Stairway.Settings.Layout
import Stairway.Firmware.LastWriter

/-!
# The staircase LEDs (`stairway_leds.c`)

The module's static state, its setters and the periodic refresh that ramps every LED towards
its target. `refresh_frame` says what a refresh leaves alone: as long as the LED count of the
settings is that of the driver, neither the on/off states nor their timestamps change.
-/

namespace Stairway
open Firmware

/-- `LedState`: brightness, wanted state and the timestamp of the event that set it. -/
@[ext] structure LedState where
  ledValue : Nat
  state : Bool
  ts : Nat
  deriving DecidableEq, Repr

/-- The on/off state of a LED as a timestamped register. -/
def LedState.stamp (led : LedState) : Stamped Bool Nat := ⟨led.state, led.ts⟩

/-- The static variables of `stairway_leds.c`; `buf = []` is the null pointer. -/
structure StairwayLeds where
  ws2812 : Ws2812
  buf : List LedState
  emergencyState : PerEmergency Bool
  deriving DecidableEq, Repr

namespace StairwayLeds

/-- `memset(buf, 0, sizeof(LedState) * led_count)`. -/
def zeroBuf (ledCount : Nat) : List LedState := List.replicate ledCount ⟨0, false, 0⟩

/-- The state that a successful `stairway_leds_init` leaves: pixels dark, buffer zeroed. -/
def initial (ledCount : Nat) : StairwayLeds where
  ws2812 := { ledCount, mem := some (List.replicate ledCount 0), strip := List.replicate ledCount 0 }
  buf := zeroBuf ledCount
  emergencyState := ⟨false, false⟩

/-- `stairway_leds_init`, with the outcomes of `ws2812_init` and of its own `malloc`. -/
def init (ledCount : Nat) (claimed allocated bufAllocated : Bool) : ErrCode × StairwayLeds :=
  let (err, ws2812) := Ws2812.init ledCount claimed allocated
  if err ≠ .success then (err, ⟨ws2812, [], ⟨false, false⟩⟩)
  -- `ws2812_deinit`
  else if !bufAllocated then
    (.memAllocFail, ⟨{ ws2812 with ledCount := 0, mem := none }, [], ⟨false, false⟩⟩)
  else (.success, ⟨ws2812, zeroBuf ledCount, ⟨false, false⟩⟩)

/-- `stairway_emergency_leds`; an index outside the enumeration cannot be passed. -/
def emergencyLeds (l : StairwayLeds) (type : EmergencyType) (state : Bool) : ErrCode × StairwayLeds :=
  (.success, { l with emergencyState := l.emergencyState.set type state })

/-- The update of one LED in `stairway_leds_set_state`. -/
def writeLed (state : Bool) (eventTs : Nat) (led : LedState) : LedState :=
  if led.ts < eventTs then { led with state := state, ts := eventTs } else led

/-- `stairway_leds_set_state`. -/
def setState (l : StairwayLeds) (index : Nat) (state : Bool) (eventTs : Nat) :
    ErrCode × StairwayLeds :=
  if index ≥ l.ws2812.ledCount then (.paramInvalid, l)
  else (.success, { l with buf := l.buf.modify index (writeLed state eventTs) })

/-- The outcomes of the two `realloc` calls of a resize. -/
structure Alloc where
  buf : Bool
  mem : Bool
  deriving DecidableEq, Repr

/-- `stairway_leds_resize`. -/
def resize (l : StairwayLeds) (ledCount : Nat) (alloc : Alloc) : ErrCode × StairwayLeds :=
  if alloc.buf then
    let (err, ws2812) := l.ws2812.setLedCount ledCount alloc.mem
    (err, { l with buf := zeroBuf ledCount, ws2812 })
  else (.memAllocFail, l)

/-- LED `i` is switched on by an active emergency zone. -/
def inEmergency (cfg : Settings) (l : StairwayLeds) (i : Nat) : Bool :=
  (l.emergencyState.down && i < cfg.num (.emergencyCnt .down)) ||
    (l.emergencyState.up && (i + cfg.num (.emergencyCnt .up)) % 2 ^ 32 ≥ l.ws2812.ledCount)

/-- One brightness step of LED `i`, and whether it set `leds_updated`. -/
def rampLed (cfg : Settings) (emergency : Bool) (led : LedState) : LedState × Bool :=
  if (led.state && led.ledValue != cfg.num .ledOnValue) || emergency then
    let temp := led.ledValue + cfg.num .ledOnStep
    ({ led with ledValue := if temp > cfg.num .ledOnValue then cfg.num .ledOnValue else temp }, true)
  else if !led.state && led.ledValue != cfg.num .ledOffValue then
    let temp : Int := led.ledValue - cfg.num .ledOffStep
    ({ led with ledValue := if temp < cfg.num .ledOffValue then cfg.num .ledOffValue else temp.toNat },
      true)
  else (led, false)

/-- The loop of `stairway_leds_refresh` from LED `i`, with `leds_updated` so far. -/
def rampFrom (cfg : Settings) (l : StairwayLeds) (updated : Bool) :
    Nat → Nat → ErrCode × StairwayLeds × Bool
  | 0, _ => (.success, l, updated)
  | n + 1, i =>
    match l.buf[i]? with
    | none => (.success, l, updated)
    | some led =>
      let (led, changed) := rampLed cfg (inEmergency cfg l i) led
      let buf := l.buf.set i led
      let (err, ws2812) := l.ws2812.setColor i led.ledValue led.ledValue led.ledValue
      if err = .success then rampFrom cfg { l with buf, ws2812 } (updated || changed) n (i + 1)
      else (err, { l with buf, ws2812 }, updated || changed)

/-- `stairway_leds_refresh`. -/
def refresh (cfg : Settings) (alloc : Alloc) (l : StairwayLeds) : ErrCode × StairwayLeds :=
  let (err, l) := if cfg.num .ledCount ≠ l.ws2812.ledCount then l.resize (cfg.num .ledCount) alloc
    else (.success, l)
  if err ≠ .success then (err, l)
  else
    let (err, l, updated) := rampFrom cfg l false l.ws2812.ledCount 0
    if err ≠ .success then (err, l)
    else if updated then
      let (err, ws2812) := l.ws2812.refresh
      (err, { l with ws2812 })
    else (.success, l)

/-- The timestamped on/off states of the buffer. -/
def stamps (l : StairwayLeds) : List (Stamped Bool Nat) := l.buf.map LedState.stamp

/-! ## What the operations leave alone -/

/-- `l'` has the on/off states, timestamps, LED count and emergency flags of `l`. -/
structure SameStates (l l' : StairwayLeds) : Prop where
  stamps : l'.stamps = l.stamps
  ledCount : l'.ws2812.ledCount = l.ws2812.ledCount
  emergencyState : l'.emergencyState = l.emergencyState

theorem SameStates.refl (l : StairwayLeds) : SameStates l l := ⟨rfl, rfl, rfl⟩

theorem SameStates.trans {a b c : StairwayLeds} (first : SameStates a b) (second : SameStates b c) :
    SameStates a c :=
  ⟨second.stamps.trans first.stamps, second.ledCount.trans first.ledCount,
    second.emergencyState.trans first.emergencyState⟩

@[simp] theorem length_stamps (l : StairwayLeds) : l.stamps.length = l.buf.length := by
  simp [stamps]

/-- A brightness step changes the brightness only. -/
theorem rampLed_stamp (cfg : Settings) (emergency : Bool) (led : LedState) :
    (rampLed cfg emergency led).1.stamp = led.stamp := by
  unfold rampLed
  split
  · rfl
  · split <;> rfl

theorem rampFrom_same (cfg : Settings) (l : StairwayLeds) (updated : Bool) (n i : Nat) :
    SameStates l (rampFrom cfg l updated n i).2.1 := by
  induction n generalizing l updated i with
  | zero => exact .refl l
  | succ n ih =>
    rw [rampFrom]
    cases here : l.buf[i]? with
    | none => exact .refl l
    | some led =>
      dsimp only
      -- the LED is written back with the state and the timestamp it had
      have written : SameStates l { l with
          buf := l.buf.set i (rampLed cfg (inEmergency cfg l i) led).1
          ws2812 := (l.ws2812.setColor i (rampLed cfg (inEmergency cfg l i) led).1.ledValue
            (rampLed cfg (inEmergency cfg l i) led).1.ledValue
            (rampLed cfg (inEmergency cfg l i) led).1.ledValue).2 } := by
        refine ⟨?_, Ws2812.setColor_ledCount _ _ _ _ _, rfl⟩
        apply List.ext_getElem?
        intro j
        rw [stamps, stamps, List.getElem?_map, List.getElem?_map, List.getElem?_set]
        split
        · rename_i same
          subst same
          obtain ⟨inside, -⟩ := List.getElem?_eq_some_iff.mp here
          rw [if_pos inside, here, Option.map_some, Option.map_some, rampLed_stamp]
        · rfl
      split
      · exact written.trans (ih _ _ _)
      · exact written

/-- While the settings and the driver agree on the LED count, a refresh changes brightness and
pixels only. -/
theorem refresh_frame (cfg : Settings) (alloc : Alloc) (l : StairwayLeds)
    (agree : cfg.num .ledCount = l.ws2812.ledCount) : SameStates l (l.refresh cfg alloc).2 := by
  have ramped := rampFrom_same cfg l false l.ws2812.ledCount 0
  unfold refresh
  rw [if_neg (fun differs => differs agree)]
  dsimp only
  rw [if_neg (fun fails => fails rfl)]
  split
  · exact ramped
  · split
    · refine ramped.trans ⟨rfl, ?_, rfl⟩
      exact Ws2812.refresh_ledCount _
    · exact ramped

/-- A call changes the on/off state of one LED, and only when it is newer. -/
theorem setState_frame (l : StairwayLeds) (index : Nat) (state : Bool) (eventTs : Nat) :
    (l.setState index state eventTs).2.ws2812 = l.ws2812 ∧
      (l.setState index state eventTs).2.emergencyState = l.emergencyState ∧
      (l.setState index state eventTs).2.stamps.length = l.stamps.length := by
  unfold setState
  split
  · exact ⟨rfl, rfl, rfl⟩
  · exact ⟨rfl, rfl, by simp⟩

/-- For a LED that exists a call is a timestamped write to its register. -/
theorem setState_stamps {l : StairwayLeds} {index : Nat} (state : Bool) (eventTs : Nat)
    (inside : index < l.ws2812.ledCount) :
    (l.setState index state eventTs).2.stamps =
      l.stamps.modify index (fun r => r.put ⟨state, eventTs⟩) := by
  have write : ∀ led, (writeLed state eventTs led).stamp = led.stamp.put ⟨state, eventTs⟩ := by
    intro led
    unfold writeLed Stamped.put LedState.stamp
    dsimp only
    split <;> rfl
  rw [setState, if_neg (by omega)]
  apply List.ext_getElem?
  intro j
  rw [stamps, stamps, List.getElem?_map, List.getElem?_modify, List.getElem?_modify,
    List.getElem?_map]
  cases l.buf[j]? with
  | none => rfl
  | some led =>
    simp only [Option.map_some, Functor.map]
    split
    · rw [write]
    · rfl

end StairwayLeds

end Stairway
