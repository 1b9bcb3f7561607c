import Stairway.Main.Pending

/-!
# Light while somebody is on the stairs, dark afterwards

When every wave is through, the LEDs are lit over a counted person and dark over an empty
staircase, in every run in which the events that change between the two reach every LED
(`EntryReaches`, `ExitReaches`). An event misses a LED when it restamps a wave that has already
passed it, and all of them when the wave's counter is at `led_count`: the timestamp of a
running wave is renewed, its counter is not.
-/

namespace Stairway
open Firmware

/-! ## The LEDs over an iteration -/

section
variable (cfg : Settings) (inp : LoopInput) (s : MainState)

/-- The emergency loop changes neither the waves nor the LEDs' states. -/
theorem alarmed_lights : (alarmed cfg inp s).waves = (reacted cfg inp s).waves ∧
    (alarmed cfg inp s).leds.stamps = s.leds.stamps ∧
    (alarmed cfg inp s).leds.ws2812 = s.leds.ws2812 ∧
    (alarmed cfg inp s).testMode = s.testMode ∧
    (alarmed cfg inp s).status.testMode = inp.testMode := by
  obtain ⟨-, before, test⟩ := reacted_prev cfg inp s
  obtain ⟨ts, on, leds, alarm, buf, ws2812⟩ := alarmed_cases cfg inp s
  have mode := (reacted_status cfg inp s).2.2.2
  rw [sense_testMode] at mode
  rw [before] at buf ws2812
  rw [alarm]
  refine ⟨rfl, ?_, ws2812, test, mode⟩
  rw [StairwayLeds.stamps, buf, ← StairwayLeds.stamps]

/-- The wave block advances some of the waves. -/
theorem waveInterval_lights : ∃ l : StairwayLeds, l.stamps = s.leds.stamps ∧
    l.ws2812 = s.leds.ws2812 ∧ ∃ order : List WaveName,
    (waveInterval cfg inp s).waves = (order.foldl (advance cfg) (s.waves, l)).1 ∧
    (waveInterval cfg inp s).leds = (order.foldl (advance cfg) (s.waves, l)).2 := by
  rcases waveInterval_cases cfg inp s with skip | step
  · rw [skip]
    exact ⟨s.leds, rfl, rfl, [], rfl, rfl⟩
  · obtain ⟨on, leds, off, buf, ws2812⟩ :=
      emergencyOff_cases { s with prevTs := inp.clock.now .loop } .up
    obtain ⟨on', leds', off', buf', ws2812'⟩ := emergencyOff_cases
      (emergencyOff { s with prevTs := inp.clock.now .loop } .up) .down
    have stepped := stepWaves_eq cfg
      (emergencyOff (emergencyOff { s with prevTs := inp.clock.now .loop } .up) .down)
    rw [off] at off' buf' ws2812' stepped
    rw [step, off]
    rw [off'] at stepped ⊢
    refine ⟨leds', ?_, ws2812'.trans ws2812, waveOrder, congrArg Prod.fst stepped,
      congrArg Prod.snd stepped⟩
    rw [StairwayLeds.stamps, buf', buf, ← StairwayLeds.stamps]

/-- While test mode does not change, test mode and refresh leave the LEDs' states alone. -/
theorem afterWaves_lights (mode : s.testMode = s.status.testMode)
    (agree : cfg.num .ledCount = s.leds.ws2812.ledCount) :
    (refreshStep cfg inp (testModeStep cfg inp s)).leds.stamps = s.leds.stamps ∧
      (refreshStep cfg inp (testModeStep cfg inp s)).testMode = s.testMode := by
  rw [testModeStep, if_neg (fun differs => differs mode)]
  rcases refreshStep_cases cfg inp s with skip | refresh
  · rw [skip]
    exact ⟨rfl, rfl⟩
  · rw [refresh]
    exact ⟨(s.leds.refresh_frame cfg inp.alloc agree).stamps, rfl⟩

/-- Outside of test mode the LEDs' states and the waves change in the triggers and in the wave
block only. -/
theorem mainLoop_lights (h : LedInvariant cfg s) (manual : s.testMode = false)
    (normal : inp.testMode = false) : ∃ l : StairwayLeds, l.stamps = s.leds.stamps ∧
      l.ws2812.ledCount = cfg.num .ledCount ∧ ∃ order : List WaveName,
      (mainLoop cfg s inp).waves = (order.foldl (advance cfg) ((reacted cfg inp s).waves, l)).1 ∧
      (mainLoop cfg s inp).leds.stamps =
        (order.foldl (advance cfg) ((reacted cfg inp s).waves, l)).2.stamps ∧
      (mainLoop cfg s inp).testMode = false := by
  obtain ⟨waves, stamps, ws2812, test, mode⟩ := alarmed_lights cfg inp s
  obtain ⟨l, stamps', ws2812', order, waves', leds⟩ := waveInterval_lights cfg inp (alarmed cfg inp s)
  obtain ⟨status, -, -, test'⟩ := waveInterval_frame cfg inp (alarmed cfg inp s)
  have agree : l.ws2812.ledCount = cfg.num .ledCount := by
    rw [ws2812', ws2812, h.ledCount]
  have agree' : (waveInterval cfg inp (alarmed cfg inp s)).leds.ws2812.ledCount =
      cfg.num .ledCount := by
    rw [(waveInterval_shape cfg inp (alarmed cfg inp s)).ledCount, ws2812, h.ledCount]
  have off : (waveInterval cfg inp (alarmed cfg inp s)).testMode = false := by
    rw [test', test, manual]
  obtain ⟨lit, test''⟩ := afterWaves_lights cfg inp (waveInterval cfg inp (alarmed cfg inp s))
    (by rw [off, status, mode, normal]) agree'.symm
  rw [waves] at waves' leds
  refine ⟨l, stamps'.trans stamps, agree, order, ?_, ?_, ?_⟩
  · rw [(mainLoop_tail cfg inp s).2.1, waves']
  · rw [mainLoop_eq, lit, leds]
  · rw [mainLoop_eq, test'', off]

end

/-! ## Timestamps -/

/-- Every timestamp of a LED or a wave satisfies `P`. -/
structure TimesIn (P : Nat → Prop) (ws : Waves) (stamps : List (Stamped Bool Nat)) : Prop where
  stamps : ∀ e ∈ stamps, P e.ts
  waves : ∀ k, P (ws.get k).ts

section
variable {P : Nat → Prop}

theorem setState_times {l : StairwayLeds} {index : Nat} {state : Bool} {eventTs : Nat}
    (h : ∀ e ∈ l.stamps, P e.ts) (event : P eventTs) :
    ∀ e ∈ (l.setState index state eventTs).2.stamps, P e.ts := by
  by_cases inside : index < l.ws2812.ledCount
  · intro e member
    rw [StairwayLeds.setState_stamps state eventTs inside] at member
    obtain ⟨j, found⟩ := List.mem_iff_getElem?.mp member
    rw [List.getElem?_modify] at found
    cases stored : l.stamps[j]? with
    | none =>
      rw [stored] at found
      cases found
    | some r =>
      have known := h r (List.mem_iff_getElem?.mpr ⟨j, stored⟩)
      rw [stored] at found
      have result := Option.some.inj found
      rw [← result]
      dsimp only
      split
      · rcases r.put_choice ⟨state, eventTs⟩ with same | same
        · rw [same]
          exact known
        · rw [same]
          exact event
      · exact known
  · rw [StairwayLeds.setState, if_pos (by omega)]
    exact h

theorem applyCalls_times {l : StairwayLeds} {calls : List LedCall} (h : ∀ e ∈ l.stamps, P e.ts)
    (events : ∀ c ∈ calls, P c.ts) : ∀ e ∈ (applyCalls l calls).stamps, P e.ts := by
  induction calls generalizing l with
  | nil => exact h
  | cons c calls ih =>
    exact ih (setState_times h (events c (List.mem_cons_self ..)))
      (fun c member => events c (List.mem_cons_of_mem _ member))

/-- A move keeps the timestamp of its wave, and its calls carry it. -/
theorem WaveMove.ts {ledCount : Nat} {k : WaveName} {w : Wave} {r : Wave × List LedCall}
    (move : WaveMove ledCount k w r) : r.1.ts = w.ts ∧ ∀ c ∈ r.2, c.ts = w.ts := by
  cases move with
  | still | finish =>
    refine ⟨rfl, ?_⟩
    intro c member
    cases member
  | run =>
    refine ⟨rfl, ?_⟩
    intro c member
    obtain ⟨cnt, -, call⟩ := List.mem_map.mp member
    rw [← call]
    rfl

theorem TimesIn.advance {cfg : Settings} {p : Waves × StairwayLeds} (h : TimesIn P p.1 p.2.stamps)
    (k : WaveName) : TimesIn P (advance cfg p k).1 (advance cfg p k).2.stamps := by
  obtain ⟨ts, calls⟩ := (waveStep_move cfg k (p.1.get k)).ts
  constructor
  · refine applyCalls_times h.stamps ?_
    intro c member
    rw [calls c member]
    exact h.waves k
  · intro j
    by_cases here : j = k
    · subst here
      rw [Stairway.advance, Waves.get_set_same, ts]
      exact h.waves j
    · rw [Stairway.advance, Waves.get_set_other _ _ here]
      exact h.waves j

theorem TimesIn.fold {cfg : Settings} (order : List WaveName) {p : Waves × StairwayLeds}
    (h : TimesIn P p.1 p.2.stamps) :
    TimesIn P (order.foldl (Stairway.advance cfg) p).1
      (order.foldl (Stairway.advance cfg) p).2.stamps := by
  induction order generalizing p with
  | nil => exact h
  | cons k order ih => exact ih (h.advance k)

theorem Restarted.times {v : Bool} {clock : LoopClock} {ws ws' : Waves}
    (restarted : Restarted v clock ws ws') (readings : ∀ a, P (clock.now a))
    (h : ∀ k, P (ws.get k).ts) (k : WaveName) : P (ws'.get k).ts := by
  rcases restarted k with same | ⟨-, a, started⟩
  · rw [same]
    exact h k
  · rw [started]
    exact readings a

/-- An iteration adds no timestamp but its own readings. -/
theorem mainLoop_times {cfg : Settings} {inp : LoopInput} {s : MainState} (inv : LedInvariant cfg s)
    (manual : s.testMode = false) (normal : inp.testMode = false)
    (readings : ∀ a, P (inp.clock.now a)) (h : TimesIn P s.waves s.leds.stamps) :
    TimesIn P (mainLoop cfg s inp).waves (mainLoop cfg s inp).leds.stamps := by
  obtain ⟨l, stamps, -, order, waves, leds, -⟩ := mainLoop_lights cfg inp s inv manual normal
  have reacted : ∀ k, P ((reacted cfg inp s).waves.get k).ts := by
    obtain ⟨v, triggers⟩ := triggerWaves_restarted cfg inp.clock
      (sense cfg inp s.senPrevError s.status) s.waves
    rcases reacted_waves cfg inp s with ⟨-, same⟩ | ⟨-, -, last, same⟩
    · rw [same]
      exact triggers.times readings h.waves
    · rw [same]
      exact (offTimeoutWaves_restarted inp.clock last _).times readings
        (triggers.times readings h.waves)
  rw [waves, leds]
  exact TimesIn.fold order ⟨by rw [stamps]; exact h.stamps, reacted⟩

end

/-- A strict clock and no test mode over the first `n` iterations. -/
structure LightRun (inp : Nat → LoopInput) (n : Nat) : Prop where
  strict : ClockStrict inp n
  normal : ∀ k, k < n → (inp k).testMode = false

section
variable {cfg : Settings} {inp : Nat → LoopInput} {n k : Nat}

theorem LightRun.manual (run : LightRun inp n) (inside : k ≤ n) : (runAt cfg inp k).testMode = false := by
  induction k with
  | zero =>
    rw [runAt_zero]
    rfl
  | succ k ih =>
    obtain ⟨-, -, -, -, -, -, off⟩ := mainLoop_lights cfg (inp k) (runAt cfg inp k)
      (runAt_ledInvariant cfg inp k) (ih (by omega)) (run.normal k (by omega))
    rw [runAt_succ]
    exact off

/-- Everything stored or under way at the start of an iteration is older than its readings. -/
theorem LightRun.older (cfg : Settings) (run : LightRun inp n) (inside : k < n) :
    TimesIn (· < (inp k).clock.now .loop) (runAt cfg inp k).waves (runAt cfg inp k).leds.stamps := by
  induction k with
  | zero =>
    have positive := run.strict.positive (by omega)
    rw [runAt_zero]
    refine ⟨?_, fun k => by cases k <;> exact positive⟩
    intro e member
    obtain ⟨led, inBuf, stamp⟩ := List.mem_map.mp member
    have zero := (List.mem_replicate.mp inBuf).2
    rw [← stamp, zero]
    exact positive
  | succ k ih =>
    have before := ih (by omega)
    have step := run.strict.advances k inside
    rw [runAt_succ]
    refine mainLoop_times (runAt_ledInvariant cfg inp k) (run.manual (by omega))
      (run.normal k (by omega)) (fun a => step a .loop) ⟨?_, ?_⟩
    · exact fun e member => Nat.lt_trans (before.stamps e member) (step .loop .loop)
    · exact fun j => Nat.lt_trans (before.waves j) (step .loop .loop)

theorem runAt_prev (cfg : Settings) (inp : Nat → LoopInput) (n : Nat) :
    (runAt cfg inp n).status.prevPeopleCount = (runAt cfg inp n).status.peopleCount := by
  cases n with
  | zero =>
    rw [runAt_zero]
    rfl
  | succ n =>
    rw [runAt_succ, mainLoop_status]
    exact (reacted_prev cfg (inp n) _).1

end

/-! ## Events that reach every LED -/

/-- If the detectors raise the count from zero, every LED is ahead of an on wave that this
starts or restamps, or an on event is already the newest on its way to it. -/
def EntryReaches (cfg : Settings) (inp : LoopInput) (s : MainState) : Prop :=
  s.status.peopleCount = 0 → (sense cfg inp s.senPrevError s.status).peopleCount ≠ 0 →
    ∀ i, i < cfg.num .ledCount →
      (∃ d, ((sense cfg inp s.senPrevError s.status).detector.get d).state = .inc ∧
        (s.waves.get (.ofInc d)).cnt ≤ (WaveName.ofInc d).position (cfg.num .ledCount) i) ∨
      Newest (pending (cfg.num .ledCount) s.waves s.leds.stamps i) true

/-- The count is not negative, and if the detectors bring it down to zero, every LED is ahead of
an off wave that this starts or restamps, or an off event is already the newest on its way to
it. -/
def ExitReaches (cfg : Settings) (inp : LoopInput) (s : MainState) : Prop :=
  0 ≤ s.status.peopleCount ∧
  (s.status.peopleCount ≠ 0 → (sense cfg inp s.senPrevError s.status).peopleCount = 0 →
    ∀ i, i < cfg.num .ledCount →
      (∃ d, ((sense cfg inp s.senPrevError s.status).detector.get d).state = .dec ∧
        (s.waves.get (.ofDec d)).cnt ≤ (WaveName.ofDec d).position (cfg.num .ledCount) i) ∨
      Newest (pending (cfg.num .ledCount) s.waves s.leds.stamps i) false)

theorem position_lt (k : WaveName) {ledCount i : Nat} (inside : i < ledCount) :
    k.position ledCount i < ledCount := by
  unfold WaveName.position
  split <;> omega

section
variable {cfg : Settings} {clock : LoopClock} {s : Status} {ws : Waves} {d : DetectorType} {i : Nat}

theorem startWave_of_ahead {k : WaveName} (ts : Nat) (inside : i < cfg.num .ledCount)
    (ahead : (ws.get k).cnt ≤ k.position (cfg.num .ledCount) i) :
    startWave (cfg.num .ledCount) ts (ws.get k) = { ws.get k with on := true, ts := ts } := by
  have below := position_lt k inside
  rw [startWave, if_pos (by omega)]

/-- The on wave of a detector in `INC` reaches the LEDs it has ahead of it. -/
theorem onTriggers_reached (counted : (s.detector.get d).state = .inc)
    (inside : i < cfg.num .ledCount)
    (ahead : (ws.get (.ofInc d)).cnt ≤ (WaveName.ofInc d).position (cfg.num .ledCount) i) :
    Reached true clock (cfg.num .ledCount) ws (onTriggers cfg clock s ws) i := by
  have started := startWave_of_ahead (clock.now (.trigger d)) inside ahead
  refine ⟨.ofInc d, .trigger d, by cases d <;> rfl, ?_, ahead⟩
  cases d with
  | up => exact (if_pos counted).trans started
  | down => exact (if_pos counted).trans started

/-- The off wave of a detector in `DEC` reaches the LEDs it has ahead of it. -/
theorem offTriggers_reached (counted : (s.detector.get d).state = .dec) (empty : s.peopleCount = 0)
    (inside : i < cfg.num .ledCount)
    (ahead : (ws.get (.ofDec d)).cnt ≤ (WaveName.ofDec d).position (cfg.num .ledCount) i) :
    Reached false clock (cfg.num .ledCount) ws (offTriggers cfg clock s ws) i := by
  have started := startWave_of_ahead (clock.now (.trigger d)) inside ahead
  refine ⟨.ofDec d, .trigger d, by cases d <;> rfl, ?_, ahead⟩
  cases d with
  | up => exact (if_pos ⟨counted, empty⟩).trans started
  | down => exact (if_pos ⟨counted, empty⟩).trans started

/-- While somebody is left no off wave is triggered. -/
theorem offTriggers_of_people (cfg : Settings) (clock : LoopClock) {s : Status} (ws : Waves)
    (some : s.peopleCount ≠ 0) : offTriggers cfg clock s ws = ws := by
  unfold offTriggers
  rw [if_neg (fun both => some both.2), if_neg (fun both => some both.2)]

/-- What the guard of the off timeout says. -/
theorem offTimeoutDue_still (due : offTimeoutDue cfg clock s ws = true) :
    ∀ k, (ws.get k).on = false := by
  simp only [offTimeoutDue, Bool.and_eq_true, Bool.not_eq_true'] at due
  obtain ⟨⟨⟨⟨⟨-, onUp⟩, onDown⟩, offUp⟩, offDown⟩, -⟩ := due
  intro k
  cases k with
  | ledOnUp => exact onUp
  | ledOnDown => exact onDown
  | ledOffUp => exact offUp
  | ledOffDown => exact offDown

end

/-- Events older than the iteration, whatever their value. -/
theorem TimesIn.pending {P : Nat → Prop} {ledCount : Nat} {ws : Waves}
    {stamps : List (Stamped Bool Nat)} (h : TimesIn P ws stamps) (i : Nat) :
    ∀ e ∈ Stairway.pending ledCount ws stamps i, P e.ts := by
  rintro e (stored | ⟨k, -, event⟩)
  · exact h.stamps e (List.mem_iff_getElem?.mpr ⟨i, stored⟩)
  · rw [event]
    exact h.waves k

section
variable {cfg : Settings} {inp : LoopInput} {s : MainState}

/-- The part of an iteration after the triggers changes nothing about what the LEDs settle to. -/
theorem mainLoop_settles {v : Bool} (inv : LedInvariant cfg s) (manual : s.testMode = false)
    (normal : inp.testMode = false)
    (settles : Settles (cfg.num .ledCount) (reacted cfg inp s).waves s.leds.stamps v) :
    Settles (cfg.num .ledCount) (mainLoop cfg s inp).waves (mainLoop cfg s inp).leds.stamps v := by
  obtain ⟨l, stamps, agree, order, waves, leds, -⟩ := mainLoop_lights cfg inp s inv manual normal
  rw [waves, leds]
  exact waves_settle order _ (by rw [stamps]; exact inv.sized) agree (by rw [stamps]; exact settles)

/-- Over counted people the LEDs still settle lit after the triggers. -/
theorem triggers_settle_lit (older : TimesIn (· < inp.clock.now .loop) s.waves s.leds.stamps)
    (prev : s.status.prevPeopleCount = s.status.peopleCount)
    (reaches : EntryReaches cfg inp s)
    (some : (sense cfg inp s.senPrevError s.status).peopleCount ≠ 0)
    (lit : s.status.peopleCount ≠ 0 → Settles (cfg.num .ledCount) s.waves s.leds.stamps true) :
    Settles (cfg.num .ledCount)
      (triggerWaves cfg inp.clock (sense cfg inp s.senPrevError s.status) s.waves)
      s.leds.stamps true := by
  have before : (sense cfg inp s.senPrevError s.status).prevPeopleCount = s.status.peopleCount := by
    rw [sense_prevPeopleCount, prev]
  intro i inside
  rcases triggerWaves_cases cfg inp.clock (sense cfg inp s.senPrevError s.status) s.waves with
    ⟨risen, waves⟩ | ⟨fallen, waves⟩ | ⟨same, waves⟩
  · rw [waves]
    refine restarted_settles (onTriggers_restarted cfg inp.clock _ s.waves)
      (fun e member _ => older.pending i e member) ?_
    by_cases empty : s.status.peopleCount = 0
    · rcases reaches empty some i inside with ⟨d, counted, ahead⟩ | settled
      · exact Or.inl (onTriggers_reached counted inside ahead)
      · exact Or.inr settled
    · exact Or.inr (lit empty i inside)
  · rw [waves, offTriggers_of_people cfg inp.clock s.waves some]
    -- nobody leaves an empty staircase
    have people : s.status.peopleCount ≠ 0 := by
      intro empty
      have room : ∀ a b, entryCount a b ≤ 1 := by
        intro a b
        unfold entryCount
        split <;> omega
      have up := room s.status.detector.up.state
        (sense cfg inp s.senPrevError s.status).detector.up.state
      have down := room s.status.detector.down.state
        (sense cfg inp s.senPrevError s.status).detector.down.state
      have low := (sense_people cfg inp s.senPrevError s.status (by omega) (by omega)).1
      omega
    exact lit people i inside
  · rw [waves]
    exact lit (by omega) i inside

/-- Over an empty staircase the LEDs still settle dark after the triggers. -/
theorem triggers_settle_dark (older : TimesIn (· < inp.clock.now .loop) s.waves s.leds.stamps)
    (prev : s.status.prevPeopleCount = s.status.peopleCount)
    (reaches : ExitReaches cfg inp s)
    (empty : (sense cfg inp s.senPrevError s.status).peopleCount = 0)
    (dark : s.status.peopleCount = 0 → Settles (cfg.num .ledCount) s.waves s.leds.stamps false) :
    Settles (cfg.num .ledCount)
      (triggerWaves cfg inp.clock (sense cfg inp s.senPrevError s.status) s.waves)
      s.leds.stamps false := by
  have before : (sense cfg inp s.senPrevError s.status).prevPeopleCount = s.status.peopleCount := by
    rw [sense_prevPeopleCount, prev]
  have low := reaches.1
  intro i inside
  rcases triggerWaves_cases cfg inp.clock (sense cfg inp s.senPrevError s.status) s.waves with
    ⟨risen, waves⟩ | ⟨fallen, waves⟩ | ⟨same, waves⟩
  · omega
  · rw [waves]
    refine restarted_settles (offTriggers_restarted cfg inp.clock _ s.waves)
      (fun e member _ => older.pending i e member) ?_
    rcases reaches.2 (by omega) empty i inside with ⟨d, counted, ahead⟩ | settled
    · exact Or.inl (offTriggers_reached counted empty inside ahead)
    · exact Or.inr settled
  · rw [waves]
    exact dark (by omega) i inside

/-- The off wave of the timeout reaches every LED, because no wave was running. -/
theorem timeout_settles_dark {ws : Waves} (inv : ∀ k, (ws.get k).InRange (cfg.num .ledCount))
    (older : ∀ e ∈ s.leds.stamps, e.ts < inp.clock.now .loop) (still : ∀ k, (ws.get k).on = false)
    (last : DetectorType) :
    Settles (cfg.num .ledCount) (offTimeoutWaves inp.clock last ws) s.leds.stamps false := by
  intro i inside
  refine restarted_settles (offTimeoutWaves_restarted inp.clock last ws) ?_ (Or.inl ?_)
  · rintro e (stored | ⟨k, ahead, -⟩) _
    · exact older e (List.mem_iff_getElem?.mpr ⟨i, stored⟩)
    · have on := ahead.1
      rw [still k] at on
      cases on
  · refine ⟨timeoutWave last, .offStamp, by cases last <;> rfl, ?_, ?_⟩
    · rw [offTimeoutWaves_eq, Waves.get_set_same]
    · rw [(inv _).rest (still _)]
      exact Nat.zero_le _

end

/-! ## Lit over people, dark when empty -/

section
variable {cfg : Settings} {inp : Nat → LoopInput} {n k : Nat}

/-- A run in which entries reach every LED settles lit while somebody is counted. -/
theorem LightRun.settles_lit (run : LightRun inp n)
    (reaches : ∀ k, k < n → EntryReaches cfg (inp k) (runAt cfg inp k)) (inside : k ≤ n)
    (people : (runAt cfg inp k).status.peopleCount ≠ 0) :
    Settles (cfg.num .ledCount) (runAt cfg inp k).waves (runAt cfg inp k).leds.stamps true := by
  induction k with
  | zero =>
    rw [runAt_zero] at people
    exact absurd rfl people
  | succ k ih =>
    rw [runAt_succ] at people ⊢
    rw [mainLoop_status] at people
    refine mainLoop_settles (runAt_ledInvariant cfg inp k) (run.manual (by omega))
      (run.normal k (by omega)) ?_
    rcases reacted_waves cfg (inp k) (runAt cfg inp k) with ⟨count, waves⟩ | ⟨-, zero, -⟩
    · rw [count] at people
      rw [waves]
      exact triggers_settle_lit (run.older cfg (by omega)) (runAt_prev cfg inp k) (reaches k (by omega))
        people (ih (by omega))
    · exact absurd zero people

/-- A run in which exits reach every LED settles dark over an empty staircase. -/
theorem LightRun.settles_dark (run : LightRun inp n)
    (reaches : ∀ k, k < n → ExitReaches cfg (inp k) (runAt cfg inp k)) (inside : k ≤ n)
    (empty : (runAt cfg inp k).status.peopleCount = 0) :
    Settles (cfg.num .ledCount) (runAt cfg inp k).waves (runAt cfg inp k).leds.stamps false := by
  induction k with
  | zero =>
    intro i inside
    rw [runAt_zero]
    refine ⟨⟨false, 0⟩, Or.inl ?_, rfl, ?_⟩
    · change ((StairwayLeds.initial (cfg.num .ledCount)).buf.map LedState.stamp)[i]? = _
      rw [List.getElem?_map]
      change (List.replicate (cfg.num .ledCount) (⟨0, false, 0⟩ : LedState))[i]?.map _ = _
      rw [List.getElem?_replicate, if_pos inside]
      rfl
    · rintro e (stored | ⟨k, ahead, -⟩) differs
      · obtain ⟨led, inBuf, stamp⟩ := List.mem_map.mp (List.mem_iff_getElem?.mpr ⟨i, stored⟩)
        rw [← stamp, (List.mem_replicate.mp inBuf).2] at differs
        exact absurd rfl differs
      · have on := ahead.1
        cases k <;> cases on
  | succ k ih =>
    have inv := runAt_ledInvariant cfg inp k
    have older := run.older cfg (show k < n by omega)
    rw [runAt_succ] at empty ⊢
    rw [mainLoop_status] at empty
    refine mainLoop_settles inv (run.manual (by omega)) (run.normal k (by omega)) ?_
    rcases reacted_waves cfg (inp k) (runAt cfg inp k) with ⟨count, waves⟩ | ⟨due, -, last, waves⟩
    · rw [count] at empty
      rw [waves]
      exact triggers_settle_dark older (runAt_prev cfg inp k) (reaches k (by omega)) empty
        (ih (by omega))
    · obtain ⟨v, triggers⟩ := triggerWaves_restarted cfg (inp k).clock
        (sense cfg (inp k) (runAt cfg inp k).senPrevError (runAt cfg inp k).status) (runAt cfg inp k).waves
      rw [waves]
      exact timeout_settles_dark (triggers.inRange inv.waves) older.stamps
        (offTimeoutDue_still due) last

/-- No wave is in progress. -/
def Still (s : MainState) : Prop := ∀ k, (s.waves.get k).on = false

/-- What the LEDs settle to is what they show when no wave is in progress. -/
theorem shown_of_settles {s : MainState} {v : Bool} (still : Still s)
    (settles : Settles (cfg.num .ledCount) s.waves s.leds.stamps v) :
    ∀ i, i < cfg.num .ledCount → s.leds.buf[i]?.map LedState.state = some v := by
  intro i inside
  obtain ⟨e, stored, value⟩ := stored_of_newest (settles i inside) still
  rw [StairwayLeds.stamps, List.getElem?_map] at stored
  cases led : s.leds.buf[i]? with
  | none =>
    rw [led] at stored
    cases stored
  | some led' =>
    rw [led] at stored
    have stamp : led'.stamp = e := Option.some.inj stored
    rw [← value, ← stamp]
    rfl

end

/-- With somebody counted and no wave in progress every LED is on. -/
def LitOverPeople (cfg : Settings) (s : MainState) : Prop :=
  0 < s.status.peopleCount → Still s →
    ∀ i, i < cfg.num .ledCount → s.leds.buf[i]?.map LedState.state = some true

/-- With nobody counted and no wave in progress every LED is off. -/
def DarkWhenEmpty (cfg : Settings) (s : MainState) : Prop :=
  s.status.peopleCount = 0 → Still s →
    ∀ i, i < cfg.num .ledCount → s.leds.buf[i]?.map LedState.state = some false

/-- Valid settings for a single LED, stepped every 25 ms, with detectors that rearm at once. -/
def oneLed : Settings :=
  defaultSettings
    |>.setNum .ledCount 1
    |>.setNum (.emergencyCnt .up) 1
    |>.setNum (.emergencyCnt .down) 1
    |>.setNum .ledsTimeInterval 25
    |>.setNum .sensorDebouceTime 0

theorem scripted_lightRun {period n : Nat} (script : List (List StairwaySensorType))
    (positive : 0 < period) (bound : period * n < 2 ^ 64) : LightRun (scripted period script) n where
  strict := scripted_strict script positive bound
  normal _ _ := rfl

/-- **Nobody is left in the dark** in a run whose entries reach every LED. -/
theorem lit_over_people (cfg : Settings) (inp : Nat → LoopInput) (n : Nat) (run : LightRun inp n)
    (reaches : ∀ k, k < n → EntryReaches cfg (inp k) (runAt cfg inp k)) :
    LitOverPeople cfg (runAt cfg inp n) := by
  intro people still
  exact shown_of_settles still (run.settles_lit reaches (Nat.le_refl n) (by omega))

/-- The same for three LEDs. -/
def threeLeds : Settings := oneLed.setNum .ledCount 3

/-- Somebody enters at the upper end and leaves at the lower end, when the LEDs have come on. -/
def passage : Nat → LoopInput :=
  scripted 30 [[.upFirst], [.upFirst, .upSecond], [], [], [], [], [.downSecond], [.downFirst, .downSecond]]

/-- The count before an iteration of the passage, and behind its detectors. -/
theorem passage_counts : ∀ k, k < 12 →
    (runAt threeLeds passage k).status.peopleCount = (if 2 ≤ k ∧ k ≤ 7 then 1 else 0) ∧
    (sense threeLeds (passage k) (runAt threeLeds passage k).senPrevError
      (runAt threeLeds passage k).status).peopleCount = if 1 ≤ k ∧ k ≤ 6 then 1 else 0 := by
  decide +kernel

theorem lit_over_people_passage : 0 < (runAt threeLeds passage 6).status.peopleCount ∧
    Still (runAt threeLeds passage 6) ∧ LitOverPeople threeLeds (runAt threeLeds passage 6) := by
  refine ⟨by decide +kernel, by intro k; cases k <;> decide +kernel, ?_⟩
  refine lit_over_people threeLeds passage 6 (scripted_lightRun _ (by decide) (by decide)) ?_
  intro k inside empty some i _
  obtain ⟨before, behind⟩ := passage_counts k (by omega)
  rw [empty] at before
  have entry : k = 1 := by
    by_contra other
    have early : k = 0 := by
      split at before <;> omega
    rw [behind, if_neg (by omega)] at some
    exact some rfl
  subst entry
  have rest : ((runAt threeLeds passage 1).waves.get (.ofInc .up)).cnt = 0 := by decide +kernel
  refine Or.inl ⟨.up, by decide +kernel, ?_⟩
  rw [rest]
  exact Nat.zero_le _

/-- The lights do not always come back on: the entry that follows the exit finds the on wave at
`led_count` and is skipped, so the off wave is the last to reach the LED. -/
theorem lit_over_people_fail : ¬ ∀ (cfg : Settings), settingsValidate cfg = .success →
    ∀ (inp : Nat → LoopInput) (n : Nat), LightRun inp n → LitOverPeople cfg (runAt cfg inp n) := by
  intro lit
  have reentry := lit oneLed (by decide)
    (scripted 10 [[.upFirst], [.upFirst, .upSecond], [.downSecond],
      [.downFirst, .downSecond, .upFirst], [.upFirst, .upSecond]])
    9 (scripted_lightRun _ (by decide) (by decide)) (by decide +kernel)
    (fun k => by cases k <;> decide +kernel) 0 (by decide)
  exact absurd reentry (by decide +kernel)

/-- **Lights never stay on over an empty staircase** in a run whose exits reach every LED. -/
theorem dark_when_empty (cfg : Settings) (inp : Nat → LoopInput) (n : Nat) (run : LightRun inp n)
    (reaches : ∀ k, k < n → ExitReaches cfg (inp k) (runAt cfg inp k)) :
    DarkWhenEmpty cfg (runAt cfg inp n) := by
  intro empty still
  exact shown_of_settles still (run.settles_dark reaches (Nat.le_refl n) empty)

theorem dark_when_empty_passage : (runAt threeLeds passage 12).status.peopleCount = 0 ∧
    Still (runAt threeLeds passage 12) ∧ DarkWhenEmpty threeLeds (runAt threeLeds passage 12) := by
  refine ⟨by decide +kernel, by intro k; cases k <;> decide +kernel, ?_⟩
  refine dark_when_empty threeLeds passage 12 (scripted_lightRun _ (by decide) (by decide)) ?_
  intro k inside
  obtain ⟨before, behind⟩ := passage_counts k inside
  constructor
  · rw [before]
    split <;> omega
  · intro some empty i _
    rw [before] at some
    rw [behind] at empty
    have exit : k = 7 := by
      split at some
      · split at empty
        · cases empty
        · omega
      · exact absurd rfl some
    subst exit
    have rest : ((runAt threeLeds passage 7).waves.get (.ofDec .down)).cnt = 0 := by decide +kernel
    refine Or.inl ⟨.down, by decide +kernel, ?_⟩
    rw [rest]
    exact Nat.zero_le _

/-- The lights do not always go off: the second exit finds the off wave at `led_count` and is
skipped, so the on wave of the second entry is the last to reach the LED. -/
theorem dark_when_empty_fail : ¬ ∀ (cfg : Settings), settingsValidate cfg = .success →
    ∀ (inp : Nat → LoopInput) (n : Nat), LightRun inp n → DarkWhenEmpty cfg (runAt cfg inp n) := by
  intro dark
  have stays := dark oneLed (by decide)
    (scripted 10 [[.upFirst], [.upFirst, .upSecond], [.downSecond], [.downFirst, .downSecond], [],
      [.upFirst], [.upFirst, .upSecond, .downSecond], [.downFirst, .downSecond]])
    12 (scripted_lightRun _ (by decide) (by decide)) (by decide +kernel)
    (fun k => by cases k <;> decide +kernel) 0 (by decide)
  exact absurd stays (by decide +kernel)

end Stairway
