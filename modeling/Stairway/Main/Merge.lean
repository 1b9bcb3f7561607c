import Stairway.Main.Waves

/-!
# Merging the calls of the waves

Four waves and the test mode set the same LEDs. Each LED is a register of its own that takes the
newest call, so the order in which the calls are made does not matter (`calls_merge`).
-/

namespace Stairway
open Firmware

/-- The writes of the calls for LED `i`. -/
def writesTo (i : Nat) (calls : List LedCall) : List (Stamped Bool Nat) :=
  (calls.filter fun c => c.index = i).map fun c => ⟨c.state, c.ts⟩

/-- The calls for one LED of the strip with one timestamp carry one state. -/
def CallsAgree (ledCount : Nat) (calls : List LedCall) : Prop :=
  ∀ c ∈ calls, ∀ c' ∈ calls, c.index < ledCount → c.index = c'.index → c.ts = c'.ts → c.state = c'.state

/-- What is left of LED `i`: the newest call for it if that is newer than what the LED had. -/
structure Settled (calls : List LedCall) (i : Nat) (led led' : LedState) : Prop where
  old : (∀ c ∈ calls, c.index = i → c.ts ≤ led.ts) → led' = led
  newest : ∀ c ∈ calls, c.index = i → led.ts < c.ts → (∀ c' ∈ calls, c'.index = i → c'.ts ≤ c.ts) →
    led' = { led with state := c.state, ts := c.ts }

/-- The LED with another state of its register. -/
def LedState.restamp (led : LedState) (r : Stamped Bool Nat) : LedState := { led with state := r.value, ts := r.ts }

theorem mem_writesTo {i : Nat} {calls : List LedCall} {w : Stamped Bool Nat} :
    w ∈ writesTo i calls ↔ ∃ c ∈ calls, c.index = i ∧ (⟨c.state, c.ts⟩ : Stamped Bool Nat) = w := by
  simp [writesTo, and_assoc]

theorem CallsAgree.writes {ledCount i : Nat} {calls : List LedCall} (agree : CallsAgree ledCount calls)
    (inside : i < ledCount) : Agree (writesTo i calls) := by
  intro w member w' member' same
  obtain ⟨c, called, here, rfl⟩ := mem_writesTo.mp member
  obtain ⟨c', called', here', rfl⟩ := mem_writesTo.mp member'
  have state := agree c called c' called' (by omega) (here.trans here'.symm) same
  rw [Stamped.mk.injEq]
  exact ⟨state, same⟩

/-! ## Each LED is a register -/

theorem writeLed_restamp (state : Bool) (eventTs : Nat) (led : LedState) :
    StairwayLeds.writeLed state eventTs led = led.restamp (led.stamp.put ⟨state, eventTs⟩) := by
  unfold StairwayLeds.writeLed Stamped.put LedState.stamp
  dsimp only
  split <;> rfl

/-- A call outside of the strip changes nothing. -/
theorem setState_outside (l : StairwayLeds) {index : Nat} (outside : l.ws2812.ledCount ≤ index) (state : Bool)
    (eventTs : Nat) : l.setState index state eventTs = (.paramInvalid, l) := if_pos outside

/-- One call, seen from LED `i`. -/
theorem setState_getElem? (l : StairwayLeds) (c : LedCall) (i : Nat) :
    (l.setState c.index c.state c.ts).2.buf[i]? =
      if i < l.ws2812.ledCount ∧ c.index = i then
        l.buf[i]?.map fun led => led.restamp (led.stamp.put ⟨c.state, c.ts⟩)
      else l.buf[i]? := by
  by_cases inside : c.index < l.ws2812.ledCount
  · rw [StairwayLeds.setState, if_neg (by omega)]
    show (l.buf.modify c.index (StairwayLeds.writeLed c.state c.ts))[i]? = _
    rw [List.getElem?_modify]
    by_cases here : c.index = i
    · rw [if_pos ⟨by omega, here⟩]
      simp [here, writeLed_restamp]
    · rw [if_neg (by omega)]
      simp [here]
  · rw [setState_outside l (by omega), if_neg (by omega)]

/-- **The calls leave in a LED what their writes leave in its register.** -/
theorem applyCalls_getElem? (l : StairwayLeds) (calls : List LedCall) {i : Nat} (inside : i < l.ws2812.ledCount) :
    (applyCalls l calls).buf[i]? =
      l.buf[i]?.map fun led => led.restamp (led.stamp.puts (writesTo i calls)) := by
  induction calls generalizing l with
  | nil =>
    show l.buf[i]? = l.buf[i]?.map fun led => led
    simp
  | cons c calls ih =>
    have strip := (l.setState_frame c.index c.state c.ts).1
    show (applyCalls (l.setState c.index c.state c.ts).2 calls).buf[i]? = _
    rw [ih _ (by rw [strip]; exact inside), setState_getElem?]
    by_cases here : c.index = i
    · have writes : writesTo i (c :: calls) = ⟨c.state, c.ts⟩ :: writesTo i calls := by simp [writesTo, here]
      rw [if_pos ⟨inside, here⟩, writes, Option.map_map]
      rfl
    · have writes : writesTo i (c :: calls) = writesTo i calls := by simp [writesTo, here]
      rw [if_neg (fun both => here both.2), writes]

theorem applyCalls_outside (l : StairwayLeds) (calls : List LedCall) {i : Nat} (outside : l.ws2812.ledCount ≤ i) :
    (applyCalls l calls).buf[i]? = l.buf[i]? := by
  induction calls generalizing l with
  | nil => rfl
  | cons c calls ih =>
    have strip := (l.setState_frame c.index c.state c.ts).1
    show (applyCalls (l.setState c.index c.state c.ts).2 calls).buf[i]? = _
    rw [ih _ (by rw [strip]; exact outside), setState_getElem?, if_neg (by omega)]

/-- Calls that make the same writes to every LED of the strip leave the same. -/
theorem applyCalls_congr {l : StairwayLeds} {calls calls' : List LedCall}
    (same : ∀ i < l.ws2812.ledCount, ∀ r : Stamped Bool Nat, r.puts (writesTo i calls) = r.puts (writesTo i calls')) :
    applyCalls l calls = applyCalls l calls' := by
  obtain ⟨strip, emergency, -⟩ := applyCalls_frame l calls
  obtain ⟨strip', emergency', -⟩ := applyCalls_frame l calls'
  have buf : (applyCalls l calls).buf = (applyCalls l calls').buf := by
    apply List.ext_getElem?
    intro i
    by_cases inside : i < l.ws2812.ledCount
    · rw [applyCalls_getElem? l calls inside, applyCalls_getElem? l calls' inside]
      simp only [same i inside]
    · rw [applyCalls_outside l calls (by omega), applyCalls_outside l calls' (by omega)]
  rw [StairwayLeds.mk.injEq]
  exact ⟨strip.trans strip'.symm, buf, emergency.trans emergency'.symm⟩

theorem applyCalls_perm {l : StairwayLeds} {calls calls' : List LedCall} (agree : CallsAgree l.ws2812.ledCount calls)
    (same : calls.Perm calls') : applyCalls l calls' = applyCalls l calls := by
  refine applyCalls_congr fun i inside r => ?_
  exact (r.puts_perm (agree.writes inside) ((same.filter _).map _)).symm

/-- Calls outside of the strip may be left out. -/
theorem applyCalls_inside (l : StairwayLeds) (calls : List LedCall) :
    applyCalls l (calls.filter fun c => c.index < l.ws2812.ledCount) = applyCalls l calls := by
  refine applyCalls_congr fun i inside r => ?_
  have writes : writesTo i (calls.filter fun c => c.index < l.ws2812.ledCount) = writesTo i calls := by
    unfold writesTo
    rw [List.filter_filter]
    congr 1
    apply List.filter_congr
    intro c _
    grind
  rw [writes]

theorem applyCalls_settled {l : StairwayLeds} {calls : List LedCall} (agree : CallsAgree l.ws2812.ledCount calls)
    {i : Nat} (inside : i < l.ws2812.ledCount) (led : LedState) :
    Settled calls i led (led.restamp (led.stamp.puts (writesTo i calls))) := by
  constructor
  · intro old
    have ignored : led.stamp.puts (writesTo i calls) = led.stamp := by
      refine Stamped.puts_old fun w member => ?_
      obtain ⟨c, called, here, rfl⟩ := mem_writesTo.mp member
      exact old c called here
    rw [ignored]
    rfl
  · intro c called here newer newest
    have wins : led.stamp.puts (writesTo i calls) = ⟨c.state, c.ts⟩ := by
      refine Stamped.puts_newest (agree.writes inside) (mem_writesTo.mpr ⟨c, called, here, rfl⟩) newer ?_
      intro w member
      obtain ⟨c', called', here', rfl⟩ := mem_writesTo.mp member
      exact newest c' called' here'
    rw [wins]
    rfl

/-- **The calls merge**: whatever their order, each LED of the strip ends with the newest call for it, and
keeps its brightness; calls outside of the strip change nothing. -/
theorem calls_merge {l : StairwayLeds} {calls : List LedCall} (agree : CallsAgree l.ws2812.ledCount calls) :
    (∀ calls', calls.Perm calls' → applyCalls l calls' = applyCalls l calls) ∧
      (∀ i led, i < l.ws2812.ledCount → l.buf[i]? = some led → ∃ led',
        (applyCalls l calls).buf[i]? = some led' ∧ led'.ledValue = led.ledValue ∧ Settled calls i led led') ∧
      (∀ i, l.ws2812.ledCount ≤ i → (applyCalls l calls).buf[i]? = l.buf[i]?) ∧
      (applyCalls l calls).ws2812 = l.ws2812 ∧ (applyCalls l calls).emergencyState = l.emergencyState ∧
      applyCalls l (calls.filter fun c => c.index < l.ws2812.ledCount) = applyCalls l calls := by
  obtain ⟨strip, emergency, -⟩ := applyCalls_frame l calls
  refine ⟨fun calls' same => applyCalls_perm agree same, ?_, fun i => applyCalls_outside l calls, strip, emergency,
    applyCalls_inside l calls⟩
  intro i led inside stored
  refine ⟨led.restamp (led.stamp.puts (writesTo i calls)), ?_, rfl, applyCalls_settled agree inside led⟩
  rw [applyCalls_getElem? l calls inside, stored, Option.map_some]

/-- Two waves meet at LED 1; a call for LED 7 is outside of the strip. -/
def meetingCalls : List LedCall := [⟨1, true, 5, 0⟩, ⟨1, false, 3, 0⟩, ⟨0, true, 3, 0⟩, ⟨7, true, 9, 0⟩]

theorem calls_merge_meeting :
    (∀ calls', meetingCalls.Perm calls' →
        applyCalls (.initial 3) calls' = applyCalls (.initial 3) meetingCalls) ∧
      (applyCalls (.initial 3) meetingCalls).buf = [⟨0, true, 3⟩, ⟨0, true, 5⟩, ⟨0, false, 0⟩] := by
  have agree : CallsAgree 3 meetingCalls := by
    unfold CallsAgree
    decide
  exact ⟨(calls_merge (l := .initial 3) agree).1, by decide⟩

end Stairway
