import Stairway.Leds.StairwayLeds
import Stairway.Settings.Validate

/-!
# What the strip shows

The strip shows the buffer after every refresh (`Shown`), although a refresh transmits only when a
LED has changed. Between refreshes the buffer keeps its brightness, so the last transmission is
still the right one; a resize clears the strip with the old count before it changes the count.
-/

namespace Stairway

/-- The word of a pixel that has one value in all three channels. -/
def gray (v : Nat) : Nat := v * 2 ^ 16 + v * 2 ^ 8 + v

/-- The colour that a pixel shows; one that nothing was transmitted to is dark. -/
def Ws2812.pixel (h : Ws2812) (i : Nat) : Nat := h.strip.getD i 0

/-! ## The driver -/

namespace Ws2812

/-- A handle in use: the frame memory has a word for each pixel. -/
def Ready (h : Ws2812) : Prop := ∃ mem, h.mem = some mem ∧ mem.length = h.ledCount

/-- A transmission shows the frame memory and leaves the pixels past it. -/
theorem refresh_pixel {h : Ws2812} {mem : List Nat} (some' : h.mem = some mem)
    (sized : mem.length = h.ledCount) (i : Nat) :
    h.refresh.2.pixel i = if i < h.ledCount then mem.getD i 0 else h.pixel i := by
  simp only [refresh, some', pixel]
  rw [List.take_of_length_le (by omega)]
  simp only [List.getD_eq_getElem?_getD]
  by_cases inside : i < h.ledCount
  · rw [if_pos inside, List.getElem?_append_left (by omega)]
  · rw [if_neg inside, List.getElem?_append_right (by omega), List.getElem?_drop]
    congr 2
    omega

/-- The pixels of the strip that a loop has set to black, in the frame memory. -/
theorem clearFrom_mem {h : Ws2812} {mem : List Nat} (some' : h.mem = some mem)
    (sized : mem.length = h.ledCount) {n i : Nat} (rest : n + i = h.ledCount)
    (black : ∀ j, j < i → mem.getD j 0 = 0) :
    ∃ mem', h.clearFrom n i = { h with mem := some mem' } ∧ mem'.length = h.ledCount ∧
      ∀ j, mem'.getD j 0 = 0 := by
  induction n generalizing h mem i with
  | zero =>
    refine ⟨mem, by rw [← some']; rfl, sized, fun j => ?_⟩
    by_cases inside : j < i
    · exact black j inside
    · rw [List.getD_eq_getElem?_getD, List.getElem?_eq_none (by omega)]
      rfl
  | succ n ih =>
    have one : (h.setColor i 0 0 0).2 = { h with mem := some (mem.set i 0) } := by
      have inside : ¬ h.ledCount ≤ i := by omega
      simp [setColor, some', inside]
    rw [clearFrom, one]
    apply ih (h := { h with mem := some (mem.set i 0) }) rfl
    · rw [List.length_set]
      exact sized
    · show n + (i + 1) = h.ledCount
      omega
    · intro j before
      rw [List.getD_eq_getElem?_getD, List.getElem?_set]
      by_cases here : i = j
      · subst here
        rw [if_pos rfl, if_pos (by omega)]
        rfl
      · rw [if_neg here, ← List.getD_eq_getElem?_getD]
        exact black j (by omega)

/-- `ws2812_clear` switches off the pixels of the count. -/
theorem clear_pixel {h : Ws2812} (ready : h.Ready) :
    h.clear.2.Ready ∧ h.clear.2.ledCount = h.ledCount ∧
      ∀ i, h.clear.2.pixel i = if i < h.ledCount then 0 else h.pixel i := by
  obtain ⟨mem, some', sized⟩ := ready
  obtain ⟨mem', cleared, sized', black⟩ := clearFrom_mem some' sized (n := h.ledCount) (i := 0) rfl
    (by intro j inside; omega)
  have shown : h.clear.2 = ({ h with mem := some mem' } : Ws2812).refresh.2 := by
    rw [clear, cleared]
  rw [shown]
  refine ⟨⟨mem', rfl, sized'⟩, rfl, fun i => ?_⟩
  rw [refresh_pixel (h := { h with mem := some mem' }) rfl sized', black]
  rfl

end Ws2812

/-! ## The buffer -/

namespace StairwayLeds

/-- The invariant: the sizes agree, and the strip shows the buffer. -/
structure Shows (l : StairwayLeds) : Prop where
  ready : l.ws2812.Ready
  sized : l.buf.length = l.ws2812.ledCount
  byte : ∀ (i : Nat) (led : LedState), l.buf[i]? = some led → led.ledValue < 2 ^ 8
  lit : ∀ (i : Nat) (led : LedState), l.buf[i]? = some led → l.ws2812.pixel i = gray led.ledValue
  dark : ∀ i, l.ws2812.ledCount ≤ i → l.ws2812.pixel i = 0

/-- LED `i` after a step of its brightness. -/
def ramped (cfg : Settings) (l : StairwayLeds) (i : Nat) (led : LedState) : LedState :=
  (rampLed cfg (inEmergency cfg l i) led).1

/-- A step that does not report a change makes none. -/
theorem rampLed_idle {cfg : Settings} {emergency : Bool} {led : LedState}
    (idle : (rampLed cfg emergency led).2 = false) : (rampLed cfg emergency led).1 = led := by
  unfold rampLed at idle ⊢
  split at idle
  · cases idle
  split at idle
  · cases idle
  case isFalse.isFalse on off => rw [if_neg on, if_neg off]

/-- The brightness stays a byte. -/
theorem rampLed_byte {cfg : Settings} {emergency : Bool} {led : LedState} (byte : led.ledValue < 2 ^ 8) :
    (rampLed cfg emergency led).1.ledValue < 2 ^ 8 := by
  have on : cfg.num .ledOnValue < 2 ^ 8 := cfg.num_lt .ledOnValue
  have off : cfg.num .ledOffValue < 2 ^ 8 := cfg.num_lt .ledOffValue
  unfold rampLed
  split
  · dsimp only
    split <;> omega
  split
  · dsimp only
    split <;> omega
  · exact byte

/-- The loop of a refresh after the LEDs below `i`. -/
structure RampedTo (cfg : Settings) (l l' : StairwayLeds) (i : Nat) (updated : Bool) : Prop where
  ledCount : l'.ws2812.ledCount = l.ws2812.ledCount
  strip : l'.ws2812.strip = l.ws2812.strip
  emergencyState : l'.emergencyState = l.emergencyState
  sized : l'.buf.length = l.buf.length
  mem : ∃ mem, l'.ws2812.mem = some mem ∧ mem.length = l.ws2812.ledCount ∧
    ∀ j led, j < i → l'.buf[j]? = some led → mem.getD j 0 = gray led.ledValue
  done : ∀ j, j < i → l'.buf[j]? = l.buf[j]?.map (l.ramped cfg j)
  todo : ∀ j, i ≤ j → l'.buf[j]? = l.buf[j]?
  idle : updated = false → l'.buf = l.buf

/-- One pass of the loop. -/
theorem RampedTo.step {cfg : Settings} {l l' : StairwayLeds} {i : Nat} {updated : Bool}
    (so : RampedTo cfg l l' i updated) {led : LedState} (here : l'.buf[i]? = some led)
    (inside : i < l'.ws2812.ledCount) :
    ∃ ws2812, l'.ws2812.setColor i (l'.ramped cfg i led).ledValue (l'.ramped cfg i led).ledValue
        (l'.ramped cfg i led).ledValue = (.success, ws2812) ∧
      RampedTo cfg l { l' with buf := l'.buf.set i (l'.ramped cfg i led), ws2812 := ws2812 } (i + 1)
        (updated || (rampLed cfg (inEmergency cfg l' i) led).2) := by
  obtain ⟨mem, some', length, shown⟩ := so.mem
  have same : l'.ramped cfg i = l.ramped cfg i := by
    unfold ramped inEmergency
    rw [so.emergencyState, so.ledCount]
  obtain ⟨bound, value⟩ := List.getElem?_eq_some_iff.mp here
  have before : l.buf[i]? = some led := (so.todo i (Nat.le_refl i)).symm.trans here
  refine ⟨{ l'.ws2812 with mem := some (mem.set i (gray (l'.ramped cfg i led).ledValue)) }, ?_, ?_⟩
  · simp only [Ws2812.setColor, some']
    rw [if_neg (by omega)]
    rfl
  refine ⟨so.ledCount, so.strip, so.emergencyState, ?_, ?_, ?_, ?_, ?_⟩
  · rw [List.length_set]
    exact so.sized
  · refine ⟨_, rfl, by rw [List.length_set]; exact length, ?_⟩
    intro j led' low at'
    rw [List.getD_eq_getElem?_getD, List.getElem?_set]
    rw [List.getElem?_set] at at'
    by_cases last : i = j
    · subst last
      rw [if_pos rfl, if_pos bound] at at'
      cases at'
      rw [if_pos rfl, if_pos (by rw [length, ← so.ledCount]; exact inside)]
      rfl
    · rw [if_neg last] at at' ⊢
      rw [← List.getD_eq_getElem?_getD]
      exact shown j led' (by omega) at'
  · intro j low
    rw [List.getElem?_set]
    by_cases last : i = j
    · subst last
      rw [if_pos rfl, if_pos bound, before, same]
      rfl
    · rw [if_neg last]
      exact so.done j (by omega)
  · intro j high
    rw [List.getElem?_set, if_neg (by omega)]
    exact so.todo j (by omega)
  · intro unchanged
    rw [Bool.or_eq_false_iff] at unchanged
    have led' : l'.ramped cfg i led = led := rampLed_idle unchanged.2
    rw [led', ← value, List.set_getElem_self]
    exact so.idle unchanged.1

/-- The whole loop. -/
theorem rampFrom_ramps {cfg : Settings} {l l' : StairwayLeds} {n i : Nat} {updated : Bool}
    (so : RampedTo cfg l l' i updated) (sized : l.buf.length = l.ws2812.ledCount)
    (rest : n + i = l.ws2812.ledCount) :
    (rampFrom cfg l' updated n i).1 = .success ∧
      RampedTo cfg l (rampFrom cfg l' updated n i).2.1 l.ws2812.ledCount
        (rampFrom cfg l' updated n i).2.2 := by
  induction n generalizing l' i updated with
  | zero =>
    rw [Nat.zero_add] at rest
    rw [← rest]
    exact ⟨rfl, so⟩
  | succ n ih =>
    have bound : i < l'.buf.length := by rw [so.sized, sized]; omega
    have here : l'.buf[i]? = some l'.buf[i] := List.getElem?_eq_getElem bound
    obtain ⟨ws2812, colored, next⟩ := so.step here (by rw [so.ledCount]; omega)
    rw [rampFrom, here]
    unfold ramped at colored next
    simp only [colored, if_true]
    exact ih next (by omega)

/-- The buffer after the loop. -/
theorem RampedTo.buf {cfg : Settings} {l l' : StairwayLeds} {updated : Bool}
    (sized : l.buf.length = l.ws2812.ledCount) (so : RampedTo cfg l l' l.ws2812.ledCount updated)
    (j : Nat) :
    l'.buf[j]? = l.buf[j]?.map (l.ramped cfg j) := by
  by_cases inside : j < l.ws2812.ledCount
  · exact so.done j inside
  · rw [so.todo j (by omega), List.getElem?_eq_none (by omega)]
    rfl

/-- A transmission after the loop shows the new buffer. -/
theorem RampedTo.sent {cfg : Settings} {l l' : StairwayLeds} {updated : Bool} (shows : Shows l)
    (so : RampedTo cfg l l' l.ws2812.ledCount updated) :
    l'.ws2812.refresh.1 = .success ∧ Shows { l' with ws2812 := l'.ws2812.refresh.2 } := by
  obtain ⟨mem, some', length, shown⟩ := so.mem
  have length' : mem.length = l'.ws2812.ledCount := length.trans so.ledCount.symm
  have sent : l'.ws2812.refresh.2.mem = some mem := by simp only [Ws2812.refresh, some']
  have success : l'.ws2812.refresh.1 = .success := by simp only [Ws2812.refresh, some']
  have sized : l'.buf.length = l'.ws2812.ledCount := by rw [so.sized, so.ledCount, shows.sized]
  have pixels := Ws2812.refresh_pixel some' length'
  refine ⟨success, ⟨mem, sent, ?_⟩, ?_, ?_, ?_, ?_⟩
  · rw [Ws2812.refresh_ledCount]
    exact length'
  · rw [Ws2812.refresh_ledCount]
    exact sized
  · intro i led at'
    have at'' : l'.buf[i]? = some led := at'
    rw [so.buf shows.sized] at at''
    obtain ⟨led', before, rfl⟩ := Option.map_eq_some_iff.mp at''
    exact rampLed_byte (shows.byte i led' before)
  · intro i led at'
    have at'' : l'.buf[i]? = some led := at'
    obtain ⟨inside, -⟩ := List.getElem?_eq_some_iff.mp at''
    rw [sized] at inside
    rw [pixels, if_pos inside]
    exact shown i led (by rw [← so.ledCount]; exact inside) at''
  · intro i outside
    rw [Ws2812.refresh_ledCount] at outside
    rw [pixels, if_neg (by omega), Ws2812.pixel, so.strip]
    exact shows.dark i (by rw [← so.ledCount]; exact outside)

/-- Without a change the strip shows the new buffer already. -/
theorem RampedTo.skipped {cfg : Settings} {l l' : StairwayLeds} (shows : Shows l)
    (so : RampedTo cfg l l' l.ws2812.ledCount false) : Shows l' := by
  obtain ⟨mem, some', length, -⟩ := so.mem
  have strip : ∀ i, l'.ws2812.pixel i = l.ws2812.pixel i := by
    intro i
    rw [Ws2812.pixel, Ws2812.pixel, so.strip]
  refine ⟨⟨mem, some', length.trans so.ledCount.symm⟩, ?_, ?_, ?_, ?_⟩
  · rw [so.idle rfl, so.ledCount, shows.sized]
  · rw [so.idle rfl]
    exact shows.byte
  · rw [so.idle rfl]
    exact fun i led at' => (strip i).trans (shows.lit i led at')
  · rw [so.ledCount]
    exact fun i outside => (strip i).trans (shows.dark i outside)

/-! ## Operations -/

/-- Both allocations of a resize succeed. -/
def Alloc.done : Alloc := ⟨true, true⟩

/-- A buffer of zeros on a dark strip. -/
theorem shows_zeroBuf {ws2812 : Ws2812} (emergencyState : PerEmergency Bool) (ready : ws2812.Ready)
    (dark : ∀ i, ws2812.pixel i = 0) : Shows ⟨ws2812, zeroBuf ws2812.ledCount, emergencyState⟩ := by
  have zero : ∀ (i : Nat) (led : LedState), (zeroBuf ws2812.ledCount)[i]? = some led →
      led = ⟨0, false, 0⟩ := by
    intro i led at'
    exact List.eq_of_mem_replicate (List.mem_of_getElem? at')
  refine ⟨ready, List.length_replicate, ?_, ?_, fun i _ => dark i⟩
  · intro i led at'
    rw [zero i led at']
    decide
  · intro i led at'
    rw [zero i led at']
    exact dark i

/-- A resize shows its new buffer: everything is dark. -/
theorem resize_shows {l : StairwayLeds} (shows : Shows l) {ledCount : Nat} (positive : 1 ≤ ledCount) :
    (l.resize ledCount .done).1 = .success ∧ Shows (l.resize ledCount .done).2 ∧
      (l.resize ledCount .done).2.ws2812.ledCount = ledCount ∧
      (l.resize ledCount .done).2.buf = zeroBuf ledCount ∧
      (l.resize ledCount .done).2.emergencyState = l.emergencyState := by
  obtain ⟨mem, some', sized⟩ := shows.ready
  obtain ⟨-, -, pixels⟩ := Ws2812.clear_pixel shows.ready
  have resized : l.resize ledCount .done = (.success,
      { l with
        buf := zeroBuf ledCount
        ws2812 := { l.ws2812.clear.2 with
          mem := some (List.replicate ledCount 0), ledCount := ledCount } }) := by
    simp only [resize, Alloc.done, Ws2812.setLedCount, some', if_true]
    rw [if_neg (by simp), if_neg (by omega)]
  have dark : ∀ i, l.ws2812.clear.2.pixel i = 0 := by
    intro i
    rw [pixels]
    split
    · rfl
    case isFalse outside => exact shows.dark i (by omega)
  rw [resized]
  exact ⟨rfl, shows_zeroBuf l.emergencyState ⟨_, rfl, List.length_replicate⟩ dark,
    rfl, rfl, rfl⟩

/-- The LEDs that a refresh ramps: resized to the count of the settings where it differs. -/
def adjusted (cfg : Settings) (l : StairwayLeds) : StairwayLeds :=
  if cfg.num .ledCount ≠ l.ws2812.ledCount then (l.resize (cfg.num .ledCount) .done).2 else l

/-- `l'` shows the buffer of `l` after a step of every LED. -/
structure Refreshed (cfg : Settings) (l l' : StairwayLeds) : Prop where
  shows : Shows l'
  ledCount : l'.ws2812.ledCount = cfg.num .ledCount
  emergencyState : l'.emergencyState = l.emergencyState
  buf : ∀ j, l'.buf[j]? = (l.adjusted cfg).buf[j]?.map ((l.adjusted cfg).ramped cfg j)

/-- `stairway_leds_refresh` as it would be if it transmitted every time. -/
def refreshAlways (cfg : Settings) (alloc : Alloc) (l : StairwayLeds) : ErrCode × StairwayLeds :=
  let (err, l) := if cfg.num .ledCount ≠ l.ws2812.ledCount then l.resize (cfg.num .ledCount) alloc
    else (.success, l)
  if err ≠ .success then (err, l)
  else
    let (err, l, _) := rampFrom cfg l false l.ws2812.ledCount 0
    if err ≠ .success then (err, l)
    else
      let (err, ws2812) := l.ws2812.refresh
      (err, { l with ws2812 })

section
variable {cfg : Settings} {l : StairwayLeds}

/-- What a refresh ramps is in order, and the resize before it has succeeded. -/
theorem adjusted_shows (shows : Shows l) (positive : 1 ≤ cfg.num .ledCount) :
    Shows (l.adjusted cfg) ∧ (l.adjusted cfg).ws2812.ledCount = cfg.num .ledCount ∧
      (l.adjusted cfg).emergencyState = l.emergencyState ∧
      (if cfg.num .ledCount ≠ l.ws2812.ledCount then l.resize (cfg.num .ledCount) .done
        else (.success, l)) = (.success, l.adjusted cfg) := by
  unfold adjusted
  split
  · obtain ⟨success, shows', ledCount, -, emergency⟩ := resize_shows shows positive
    exact ⟨shows', ledCount, emergency, Prod.ext success rfl⟩
  case isFalse same => exact ⟨shows, by omega, rfl, rfl⟩

/-- The loop starts with nothing done. -/
theorem RampedTo.start (ready : l.ws2812.Ready) : RampedTo cfg l l 0 false := by
  obtain ⟨mem, some', sized⟩ := ready
  exact ⟨rfl, rfl, rfl, rfl, ⟨mem, some', sized, fun j led low => by omega⟩, fun j low => by omega,
    fun j _ => rfl, fun _ => rfl⟩

theorem adjusted_ramps (shows : Shows l) (positive : 1 ≤ cfg.num .ledCount) :
    (rampFrom cfg (l.adjusted cfg) false (l.adjusted cfg).ws2812.ledCount 0).1 = .success ∧
      RampedTo cfg (l.adjusted cfg)
        (rampFrom cfg (l.adjusted cfg) false (l.adjusted cfg).ws2812.ledCount 0).2.1
        (l.adjusted cfg).ws2812.ledCount
        (rampFrom cfg (l.adjusted cfg) false (l.adjusted cfg).ws2812.ledCount 0).2.2 := by
  obtain ⟨shows', -, -, -⟩ := adjusted_shows shows positive
  exact rampFrom_ramps (.start shows'.ready) shows'.sized (Nat.add_zero _)

theorem refreshAlways_refreshed (shows : Shows l) (positive : 1 ≤ cfg.num .ledCount) :
    (l.refreshAlways cfg .done).1 = .success ∧ Refreshed cfg l (l.refreshAlways cfg .done).2 := by
  obtain ⟨shows', ledCount, emergency, resized⟩ := adjusted_shows shows positive
  obtain ⟨success, ramps⟩ := adjusted_ramps shows positive
  obtain ⟨sent, shown⟩ := ramps.sent shows'
  have buf := fun j => ramps.buf shows'.sized j
  unfold refreshAlways
  rw [resized]
  dsimp only
  rw [if_neg (by simp), if_neg (by simp [success])]
  exact ⟨sent, shown, by rw [Ws2812.refresh_ledCount, ramps.ledCount, ledCount],
    ramps.emergencyState.trans emergency, buf⟩

theorem refresh_refreshed (shows : Shows l) (positive : 1 ≤ cfg.num .ledCount) :
    (l.refresh cfg .done).1 = .success ∧ Refreshed cfg l (l.refresh cfg .done).2 := by
  obtain ⟨shows', ledCount, emergency, resized⟩ := adjusted_shows shows positive
  obtain ⟨success, ramps⟩ := adjusted_ramps shows positive
  have buf := fun j => ramps.buf shows'.sized j
  unfold refresh
  rw [resized]
  dsimp only
  rw [if_neg (by simp), if_neg (by simp [success])]
  split
  · obtain ⟨sent, shown⟩ := ramps.sent shows'
    exact ⟨sent, shown, by rw [Ws2812.refresh_ledCount, ramps.ledCount, ledCount],
      ramps.emergencyState.trans emergency, buf⟩
  case isFalse idle =>
    rw [Bool.not_eq_true] at idle
    rw [idle] at ramps
    exact ⟨rfl, ramps.skipped shows', by rw [ramps.ledCount, ledCount],
      ramps.emergencyState.trans emergency, buf⟩

end

/-! ## Histories -/

/-- The settings and the LEDs. -/
structure Panel where
  settings : Settings
  leds : StairwayLeds

inductive LedsOp
  | setState (index : Nat) (state : Bool) (eventTs : Nat)
  | emergency (type : EmergencyType) (state : Bool)
  | change (settings : Settings) (valid : settings.Valid)
  | refresh

/-- After `stairway_leds_init` on a dark strip. -/
def Panel.init (settings : Settings) : Panel :=
  ⟨settings, (StairwayLeds.init (settings.num .ledCount) true true true).2⟩

/-- One operation; `refresh` is the refresh that is used. -/
def Panel.step (refresh : Settings → Alloc → StairwayLeds → ErrCode × StairwayLeds) (p : Panel) :
    LedsOp → Panel
  | .setState index state eventTs => { p with leds := (p.leds.setState index state eventTs).2 }
  | .emergency type state => { p with leds := (p.leds.emergencyLeds type state).2 }
  | .change settings _ => { p with settings := settings }
  | .refresh => { p with leds := (refresh p.settings .done p.leds).2 }

def Panel.run (refresh : Settings → Alloc → StairwayLeds → ErrCode × StairwayLeds) (p : Panel)
    (ops : List LedsOp) : Panel :=
  ops.foldl (Panel.step refresh) p

/-- The invariant of histories. -/
structure Panel.Ok (p : Panel) : Prop where
  valid : p.settings.Valid
  shows : Shows p.leds

theorem init_shows {ledCount : Nat} : Shows (StairwayLeds.init ledCount true true true).2 := by
  have ready : Ws2812.Ready ⟨ledCount, some (List.replicate ledCount 0), []⟩ :=
    ⟨_, rfl, List.length_replicate⟩
  obtain ⟨ready', ledCount', pixels⟩ := Ws2812.clear_pixel ready
  have dark : ∀ i, (Ws2812.clear ⟨ledCount, some (List.replicate ledCount 0), []⟩).2.pixel i = 0 := by
    intro i
    rw [pixels]
    split
    · rfl
    · rfl
  have shows := shows_zeroBuf ⟨false, false⟩ ready' dark
  rw [ledCount'] at shows
  exact shows

theorem setState_shows {l : StairwayLeds} (shows : Shows l) (index : Nat) (state : Bool) (eventTs : Nat) :
    Shows (l.setState index state eventTs).2 := by
  unfold setState
  split
  · exact shows
  have value : ∀ (i : Nat) (led : LedState), (l.buf.modify index (writeLed state eventTs))[i]? = some led →
      ∃ led' : LedState, l.buf[i]? = some led' ∧ led.ledValue = led'.ledValue := by
    intro i led at'
    rw [List.getElem?_modify] at at'
    obtain ⟨led', before, after⟩ := Option.map_eq_some_iff.mp at'
    refine ⟨led', before, ?_⟩
    rw [← after]
    split
    · unfold writeLed
      split <;> rfl
    · rfl
  refine ⟨shows.ready, ?_, ?_, ?_, shows.dark⟩
  · rw [List.length_modify]
    exact shows.sized
  · intro i led at'
    obtain ⟨led', before, same⟩ := value i led at'
    rw [same]
    exact shows.byte i led' before
  · intro i led at'
    obtain ⟨led', before, same⟩ := value i led at'
    rw [same]
    exact shows.lit i led' before

/-- A refresh that does its part; both of them do. -/
def Refreshes (refresh : Settings → Alloc → StairwayLeds → ErrCode × StairwayLeds) : Prop :=
  ∀ (cfg : Settings) (l : StairwayLeds), Shows l → 1 ≤ cfg.num .ledCount →
    Refreshed cfg l (refresh cfg .done l).2

theorem Panel.Ok.step {refresh : Settings → Alloc → StairwayLeds → ErrCode × StairwayLeds}
    (refreshes : Refreshes refresh) {p : Panel} (ok : p.Ok) (op : LedsOp) : (p.step refresh op).Ok := by
  cases op with
  | setState index state eventTs => exact ⟨ok.valid, setState_shows ok.shows index state eventTs⟩
  | emergency type state =>
    obtain ⟨ready, sized, byte, lit, dark⟩ := ok.shows
    exact ⟨ok.valid, ready, sized, byte, lit, dark⟩
  | change settings valid => exact ⟨valid, ok.shows⟩
  | refresh => exact ⟨ok.valid, (refreshes p.settings p.leds ok.shows ok.valid.ledCountPos).shows⟩

/-- The same settings, count, emergency flags and buffer; the strip and the frame memory are not
compared. -/
structure Panel.Alike (p q : Panel) : Prop where
  settings : p.settings = q.settings
  ledCount : p.leds.ws2812.ledCount = q.leds.ws2812.ledCount
  emergencyState : p.leds.emergencyState = q.leds.emergencyState
  buf : p.leds.buf = q.leds.buf

/-- Panels that are alike show the same. -/
theorem Panel.Alike.pixel {p q : Panel} (alike : p.Alike q) (ok : p.Ok) (ok' : q.Ok) (i : Nat) :
    p.leds.ws2812.pixel i = q.leds.ws2812.pixel i := by
  cases at' : p.leds.buf[i]? with
  | some led =>
    rw [ok.shows.lit i led at']
    rw [alike.buf] at at'
    rw [ok'.shows.lit i led at']
  | none =>
    have outside := List.getElem?_eq_none_iff.mp at'
    rw [ok.shows.sized] at outside
    rw [ok.shows.dark i outside, ok'.shows.dark i (by rw [← alike.ledCount]; exact outside)]

/-- What a refresh ramps is the same for both. -/
theorem Panel.Alike.adjusted {p q : Panel} (alike : p.Alike q) (ok : p.Ok) (ok' : q.Ok) (j : Nat) :
    (p.leds.adjusted p.settings).buf[j]?.map ((p.leds.adjusted p.settings).ramped p.settings j) =
      (q.leds.adjusted q.settings).buf[j]?.map ((q.leds.adjusted q.settings).ramped q.settings j) := by
  obtain ⟨-, count, emergency, -⟩ := adjusted_shows ok.shows ok.valid.ledCountPos
  obtain ⟨-, count', emergency', -⟩ := adjusted_shows ok'.shows ok'.valid.ledCountPos
  have buf : (p.leds.adjusted p.settings).buf = (q.leds.adjusted q.settings).buf := by
    unfold StairwayLeds.adjusted
    rw [alike.settings, alike.ledCount]
    split
    · obtain ⟨-, -, -, zero, -⟩ := resize_shows ok.shows ok'.valid.ledCountPos
      obtain ⟨-, -, -, zero', -⟩ := resize_shows ok'.shows ok'.valid.ledCountPos
      rw [zero, zero']
    · exact alike.buf
  have step : (p.leds.adjusted p.settings).ramped p.settings j =
      (q.leds.adjusted q.settings).ramped q.settings j := by
    unfold ramped inEmergency
    rw [count, count', emergency, emergency', alike.settings, alike.emergencyState]
  rw [buf, step]

theorem Panel.Alike.step {refresh refresh' : Settings → Alloc → StairwayLeds → ErrCode × StairwayLeds}
    (refreshes : Refreshes refresh) (refreshes' : Refreshes refresh') {p q : Panel} (alike : p.Alike q)
    (ok : p.Ok) (ok' : q.Ok) (op : LedsOp) : (p.step refresh op).Alike (q.step refresh' op) := by
  cases op with
  | setState index state eventTs =>
    simp only [Panel.step, setState, alike.ledCount, alike.buf]
    split
    · exact alike
    · exact ⟨alike.settings, alike.ledCount, alike.emergencyState, rfl⟩
  | emergency type state =>
    refine ⟨alike.settings, alike.ledCount, ?_, alike.buf⟩
    show p.leds.emergencyState.set type state = q.leds.emergencyState.set type state
    rw [alike.emergencyState]
  | change settings valid => exact ⟨rfl, alike.ledCount, alike.emergencyState, alike.buf⟩
  | refresh =>
    have after := refreshes p.settings p.leds ok.shows ok.valid.ledCountPos
    have after' := refreshes' q.settings q.leds ok'.shows ok'.valid.ledCountPos
    refine ⟨alike.settings, ?_, ?_, List.ext_getElem? fun j => ?_⟩
    · exact after.ledCount.trans ((congrArg (·.num .ledCount) alike.settings).trans after'.ledCount.symm)
    · exact after.emergencyState.trans (alike.emergencyState.trans after'.emergencyState.symm)
    · exact (after.buf j).trans ((alike.adjusted ok ok' j).trans (after'.buf j).symm)

/-- The word has the value in all three channels: green, red and blue. -/
def InAllChannels (word v : Nat) : Prop :=
  word / 2 ^ 16 = v ∧ word / 2 ^ 8 % 2 ^ 8 = v ∧ word % 2 ^ 8 = v

theorem gray_channels {v : Nat} (byte : v < 2 ^ 8) : InAllChannels (gray v) v := by
  unfold InAllChannels gray
  have middle : (v * 2 ^ 16 + v * 2 ^ 8 + v) / 2 ^ 8 = v * 2 ^ 8 + v := by omega
  refine ⟨?_, ?_, ?_⟩
  · omega
  · rw [middle]
    omega
  · omega

/-- The strip shows the brightness of the LEDs of the settings, and nothing past them. -/
structure Panel.Shown (p : Panel) : Prop where
  lit : ∀ i, i < p.settings.num .ledCount →
    ∃ led, p.leds.buf[i]? = some led ∧ InAllChannels (p.leds.ws2812.pixel i) led.ledValue
  dark : ∀ i, p.settings.num .ledCount ≤ i → p.leds.ws2812.pixel i = 0

theorem Refreshed.shown {cfg : Settings} {l l' : StairwayLeds} (after : Refreshed cfg l l') :
    Panel.Shown ⟨cfg, l'⟩ := by
  constructor
  · intro i inside
    have bound : i < l'.buf.length := by
      rw [after.shows.sized, after.ledCount]
      exact inside
    have at' := List.getElem?_eq_getElem bound
    refine ⟨_, at', ?_⟩
    rw [after.shows.lit i _ at']
    exact gray_channels (after.shows.byte i _ at')
  · intro i outside
    apply after.shows.dark
    rw [after.ledCount]
    exact outside

/-- After a refresh the strip shows the buffer, and it is at all times what it would be if every
refresh transmitted. -/
theorem strip_shows_buffer {settings : Settings} (valid : settings.Valid) (ops : List LedsOp) :
    let p := (Panel.init settings).run refresh ops
    ((refresh p.settings .done p.leds).1 = .success → (p.step refresh .refresh).Shown) ∧
      ∀ i, p.leds.ws2812.pixel i =
        ((Panel.init settings).run refreshAlways ops).leds.ws2812.pixel i := by
  have sometimes : Refreshes refresh := fun cfg l shows positive => (refresh_refreshed shows positive).2
  have always : Refreshes refreshAlways :=
    fun cfg l shows positive => (refreshAlways_refreshed shows positive).2
  have start : (Panel.init settings).Ok := ⟨valid, init_shows⟩
  have both : ∀ (ops : List LedsOp) (p q : Panel), p.Ok → q.Ok → p.Alike q →
      (p.run refresh ops).Ok ∧ (q.run refreshAlways ops).Ok ∧
        (p.run refresh ops).Alike (q.run refreshAlways ops) := by
    intro ops
    induction ops with
    | nil => exact fun p q ok ok' alike => ⟨ok, ok', alike⟩
    | cons op ops ih =>
      intro p q ok ok' alike
      exact ih _ _ (ok.step sometimes op) (ok'.step always op) (alike.step sometimes always ok ok' op)
  obtain ⟨ok, ok', alike⟩ := both ops _ _ start start ⟨rfl, rfl, rfl, rfl⟩
  refine ⟨fun _ => ?_, fun i => alike.pixel ok ok' i⟩
  exact (sometimes _ _ ok.shows ok.valid.ledCountPos).shown

/-- The first LEDs are switched on, then half of the strip is given up. -/
def shorten : List LedsOp :=
  [.setState 0 true 1, .setState 1 true 2, .refresh, .emergency .up true, .refresh,
    .change (defaultSettings.setNum .ledCount 8)
      ((settingsValidate_iff _).mp (by decide +kernel))]

theorem strip_shows_buffer_shorten :
    let p := (Panel.init defaultSettings).run refresh shorten
    ((refresh p.settings .done p.leds).1 = .success → (p.step refresh .refresh).Shown) ∧
      ∀ i, p.leds.ws2812.pixel i =
        ((Panel.init defaultSettings).run refreshAlways shorten).leds.ws2812.pixel i :=
  strip_shows_buffer defaultSettings_valid shorten

end StairwayLeds

end Stairway
