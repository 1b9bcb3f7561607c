import Stairway.Main.Detector

/-!
# The four waves

The waves differ in their direction, the state they set and whether they skip ahead through an
emergency zone. `WaveMove` lists what one step of any of them can do: nothing, the end of the
wave, or the calls for the counters from `cnt` up to some later one. The counters stay in range
because of it, and every call is for a LED that exists.
-/

namespace Stairway
open Firmware

inductive WaveName
  | ledOnUp | ledOnDown | ledOffUp | ledOffDown
  deriving DecidableEq, Repr

namespace WaveName

/-- The state a wave sets its LEDs to. -/
def target : WaveName → Bool
  | ledOnUp | ledOnDown => true
  | ledOffUp | ledOffDown => false

/-- The waves that walk from LED `led_count - 1` down to LED 0. -/
def fromTop : WaveName → Bool
  | ledOnUp | ledOffDown => true
  | ledOnDown | ledOffUp => false

/-- The counter at which a wave sets LED `i`. -/
def position (k : WaveName) (ledCount i : Nat) : Nat := if k.fromTop then ledCount - 1 - i else i

/-- The on wave of a detector. -/
def ofInc : DetectorType → WaveName
  | .up => ledOnUp
  | .down => ledOnDown

/-- The off wave of a detector. -/
def ofDec : DetectorType → WaveName
  | .up => ledOffUp
  | .down => ledOffDown

end WaveName

namespace Waves

def get (ws : Waves) : WaveName → Wave
  | .ledOnUp => ws.ledOnUp
  | .ledOnDown => ws.ledOnDown
  | .ledOffUp => ws.ledOffUp
  | .ledOffDown => ws.ledOffDown

def set (ws : Waves) (k : WaveName) (w : Wave) : Waves :=
  match k with
  | .ledOnUp => { ws with ledOnUp := w }
  | .ledOnDown => { ws with ledOnDown := w }
  | .ledOffUp => { ws with ledOffUp := w }
  | .ledOffDown => { ws with ledOffDown := w }

@[simp] theorem get_set_same (ws : Waves) (k : WaveName) (w : Wave) : (ws.set k w).get k = w := by
  cases k <;> rfl

theorem get_set_other (ws : Waves) {k j : WaveName} (w : Wave) (other : j ≠ k) :
    (ws.set k w).get j = ws.get j := by
  cases k <;> cases j <;> first | rfl | exact absurd rfl other

theorem set_set (ws : Waves) (k : WaveName) (v w : Wave) : (ws.set k v).set k w = ws.set k w := by
  cases k <;> rfl

theorem set_get (ws : Waves) (k : WaveName) : ws.set k (ws.get k) = ws := by
  cases k <;> rfl

end Waves

/-! ## One step of a wave -/

/-- The step of each wave. -/
def waveStep (cfg : Settings) : WaveName → Wave → Wave × List LedCall
  | .ledOnUp => ledOnUpStep cfg
  | .ledOnDown => ledOnDownStep cfg
  | .ledOffUp => ledOffUpStep cfg
  | .ledOffDown => ledOffDownStep cfg

/-- The calls of wave `k` for the counters from `a` up to `b`. -/
def waveCalls (k : WaveName) (ledCount ts a b : Nat) : List LedCall :=
  (List.range' a (b - a)).map (waveCall k.fromTop k.target ledCount ts)

theorem waveCalls_self (k : WaveName) (ledCount ts a : Nat) : waveCalls k ledCount ts a a = [] := by
  rw [waveCalls, Nat.sub_self]
  rfl

theorem waveCalls_cons {k : WaveName} {ledCount ts a b : Nat} (lt : a < b) :
    waveCalls k ledCount ts a b =
      waveCall k.fromTop k.target ledCount ts a :: waveCalls k ledCount ts (a + 1) b := by
  have count : b - a = (b - (a + 1)) + 1 := by omega
  rw [waveCalls, waveCalls, count, List.range'_succ, List.map_cons]

theorem waveCalls_append {k : WaveName} {ledCount ts a b c : Nat} (low : a ≤ b) (high : b ≤ c) :
    waveCalls k ledCount ts a b ++ waveCalls k ledCount ts b c = waveCalls k ledCount ts a c := by
  have count : c - a = (b - a) + (c - b) := by omega
  have start : a + 1 * (b - a) = b := by omega
  rw [waveCalls, waveCalls, waveCalls, ← List.map_append, count, ← List.range'_append, start]

/-- The skip-ahead loop sets the LEDs up to its last counter, stays below `led_count` and stops
where its guard fails. -/
theorem skipAhead_spec (k : WaveName) (up : k.target = true) (ledCount emergencyCnt ts : Nat)
    (fits : ledCount < 2 ^ 32) (fuel cnt : Nat) (below : cnt < ledCount)
    (enough : ledCount ≤ cnt + fuel) :
    ∃ last, skipAhead k.fromTop ledCount emergencyCnt ts fuel cnt =
        (last, waveCalls k ledCount ts cnt last) ∧
      cnt ≤ last ∧ last < ledCount ∧ ¬ (last < emergencyCnt ∧ last < wordSub 32 ledCount 1) := by
  induction fuel generalizing cnt with
  | zero => omega
  | succ fuel ih =>
    rw [skipAhead]
    split
    · rename_i more
      have top : wordSub 32 ledCount 1 = ledCount - 1 := wordSub_of_le (by omega) fits
      rw [top] at more
      obtain ⟨last, run, low, high, stopped⟩ := ih (cnt + 1) (by omega) (by omega)
      refine ⟨last, ?_, by omega, high, stopped⟩
      have first : cnt < last := by omega
      rw [run, waveCalls_cons first, up]
    · rename_i stopped
      refine ⟨cnt, ?_, Nat.le_refl cnt, below, stopped⟩
      rw [waveCalls_self]

/-- The moves of wave `k`. -/
inductive WaveMove (ledCount : Nat) (k : WaveName) (w : Wave) : Wave × List LedCall → Prop
  | still (off : w.on = false) : WaveMove ledCount k w (w, [])
  | finish (on : w.on = true) (done : ledCount ≤ w.cnt) :
      WaveMove ledCount k w ({ w with cnt := 0, on := false }, [])
  | run (on : w.on = true) (cnt : Nat) (later : w.cnt < cnt) (inside : cnt ≤ ledCount) :
      WaveMove ledCount k w ({ w with cnt := cnt }, waveCalls k ledCount w.ts w.cnt cnt)

/-- The step of an on wave is a move, whatever its emergency zone. -/
theorem onWaveStep_move (k : WaveName) (up : k.target = true) (cfg : Settings) (emergencyCnt : Nat)
    (w : Wave) :
    WaveMove (cfg.num .ledCount) k w (onWaveStep k.fromTop cfg emergencyCnt w) := by
  have fits : cfg.num .ledCount < 2 ^ 32 := cfg.num_lt .ledCount
  unfold onWaveStep
  dsimp only
  split
  · rename_i on
    split
    · rename_i below
      have single : ∀ cnt, cnt < cfg.num .ledCount →
          [waveCall k.fromTop true (cfg.num .ledCount) w.ts cnt] =
            waveCalls k (cfg.num .ledCount) w.ts cnt (cnt + 1) := by
        intro cnt _
        rw [waveCalls_cons (Nat.lt_succ_self cnt), waveCalls_self, up]
      cases cfg.flag .useEmergency with
      | true =>
        obtain ⟨last, run, low, high, -⟩ := skipAhead_spec k up (cfg.num .ledCount) emergencyCnt w.ts
          fits (cfg.num .ledCount - w.cnt) w.cnt below (by omega)
        rw [if_pos rfl, run]
        dsimp only
        rw [single last high, waveCalls_append low (Nat.le_succ last)]
        exact .run on (last + 1) (by omega) (by omega)
      | false =>
        rw [if_neg Bool.false_ne_true]
        dsimp only
        rw [single w.cnt below, List.nil_append]
        exact .run on (w.cnt + 1) (by omega) (by omega)
    · rename_i done
      exact .finish on (by omega)
  · rename_i off
    exact .still (Bool.eq_false_iff.mpr off)

/-- The step of an off wave is a move. -/
theorem offWaveStep_move (k : WaveName) (down : k.target = false) (cfg : Settings) (w : Wave) :
    WaveMove (cfg.num .ledCount) k w (offWaveStep k.fromTop cfg w) := by
  unfold offWaveStep
  dsimp only
  split
  · rename_i on
    split
    · rename_i below
      have single : [waveCall k.fromTop false (cfg.num .ledCount) w.ts w.cnt] =
          waveCalls k (cfg.num .ledCount) w.ts w.cnt (w.cnt + 1) := by
        rw [waveCalls_cons (Nat.lt_succ_self _), waveCalls_self, down]
      rw [single]
      exact .run on (w.cnt + 1) (by omega) (by omega)
    · rename_i done
      exact .finish on (by omega)
  · rename_i off
    exact .still (Bool.eq_false_iff.mpr off)

/-- **Every step of a wave is one of the moves.** -/
theorem waveStep_move (cfg : Settings) (k : WaveName) (w : Wave) :
    WaveMove (cfg.num .ledCount) k w (waveStep cfg k w) := by
  cases k with
  | ledOnUp => exact onWaveStep_move .ledOnUp rfl cfg _ w
  | ledOnDown => exact onWaveStep_move .ledOnDown rfl cfg _ w
  | ledOffUp => exact offWaveStep_move .ledOffUp rfl cfg w
  | ledOffDown => exact offWaveStep_move .ledOffDown rfl cfg w

/-! ## Counters and calls -/

/-- The counter of a wave is in range, and zero while the wave is off. -/
structure Wave.InRange (ledCount : Nat) (w : Wave) : Prop where
  le : w.cnt ≤ ledCount
  rest : w.on = false → w.cnt = 0

/-- A call made at a counter below `led_count`, for a LED that exists. -/
structure LedCall.Inside (ledCount : Nat) (c : LedCall) : Prop where
  index : c.index < ledCount
  counter : c.cnt + 1 ≤ ledCount

/-- The LED that wave `k` sets at a counter in range; nothing wraps. -/
theorem waveIndex_eq {ledCount cnt : Nat} (fromTop : Bool) (fits : ledCount < 2 ^ 32)
    (below : cnt < ledCount) :
    waveIndex fromTop ledCount cnt = if fromTop then ledCount - 1 - cnt else cnt := by
  unfold waveIndex
  split
  · rw [wordSub_of_le (Nat.le_of_lt below) fits, wordSub_of_le (by omega) (by omega)]
    omega
  · rfl

theorem waveCalls_inside {k : WaveName} {ledCount ts a b : Nat} (fits : ledCount < 2 ^ 32)
    (inside : b ≤ ledCount) : ∀ c ∈ waveCalls k ledCount ts a b, c.Inside ledCount := by
  intro c member
  obtain ⟨cnt, range, call⟩ := List.mem_map.mp member
  rw [List.mem_range'_1] at range
  subst call
  refine ⟨?_, by change cnt + 1 ≤ ledCount; omega⟩
  change waveIndex k.fromTop ledCount cnt < ledCount
  rw [waveIndex_eq k.fromTop fits (by omega)]
  split <;> omega

section
variable {ledCount : Nat} {k : WaveName} {w : Wave} {r : Wave × List LedCall}

/-- A move keeps the counter in range. -/
theorem WaveMove.inRange (move : WaveMove ledCount k w r) (h : w.InRange ledCount) :
    r.1.InRange ledCount := by
  cases move with
  | still => exact h
  | finish => exact ⟨Nat.zero_le _, fun _ => rfl⟩
  | run on cnt _ inside =>
    refine ⟨inside, fun off => ?_⟩
    rw [on] at off
    cases off

theorem WaveMove.inside (move : WaveMove ledCount k w r) (fits : ledCount < 2 ^ 32) :
    ∀ c ∈ r.2, c.Inside ledCount := by
  cases move with
  | still | finish => intro c member; cases member
  | run on cnt _ inside => exact waveCalls_inside fits inside

end

/-- The wave block steps every wave once and makes the calls of the four steps. -/
theorem stepWaves_waves (cfg : Settings) (s : MainState) (k : WaveName) :
    (stepWaves cfg s).waves.get k = (waveStep cfg k (s.waves.get k)).1 := by
  cases k <;> rfl

/-- The calls of the wave block are those of the four waves, each in one piece. -/
theorem stepWaves_parts (cfg : Settings) (s : MainState) : (stepWaves cfg s).calls =
    (waveStep cfg .ledOnUp (s.waves.get .ledOnUp)).2 ++ (waveStep cfg .ledOffUp (s.waves.get .ledOffUp)).2 ++
      (waveStep cfg .ledOnDown (s.waves.get .ledOnDown)).2 ++
      (waveStep cfg .ledOffDown (s.waves.get .ledOffDown)).2 := rfl

theorem stepWaves_calls (cfg : Settings) (s : MainState) (c : LedCall) :
    c ∈ (stepWaves cfg s).calls ↔ ∃ k, c ∈ (waveStep cfg k (s.waves.get k)).2 := by
  rw [stepWaves_parts]
  simp only [List.mem_append]
  constructor
  · rintro (((call | call) | call) | call)
    · exact ⟨_, call⟩
    · exact ⟨_, call⟩
    · exact ⟨_, call⟩
    · exact ⟨_, call⟩
  · rintro ⟨k, call⟩
    cases k with
    | ledOnUp => exact Or.inl (Or.inl (Or.inl call))
    | ledOffUp => exact Or.inl (Or.inl (Or.inr call))
    | ledOnDown => exact Or.inl (Or.inr call)
    | ledOffDown => exact Or.inr call

theorem applyCalls_frame (l : StairwayLeds) (calls : List LedCall) :
    (applyCalls l calls).ws2812 = l.ws2812 ∧
      (applyCalls l calls).emergencyState = l.emergencyState ∧
      (applyCalls l calls).stamps.length = l.stamps.length := by
  induction calls generalizing l with
  | nil => exact ⟨rfl, rfl, rfl⟩
  | cons c calls ih =>
    obtain ⟨ws2812, emergency, count⟩ := ih (l.setState c.index c.state c.ts).2
    obtain ⟨ws2812', emergency', count'⟩ := l.setState_frame c.index c.state c.ts
    exact ⟨ws2812.trans ws2812', emergency.trans emergency', count.trans count'⟩

/-! ## Triggers and timeout -/

/-- `ws'` differs from `ws` in waves with the target `v` that were started, or restamped while
they ran, in this iteration; their counters stand. -/
def Restarted (v : Bool) (clock : LoopClock) (ws ws' : Waves) : Prop :=
  ∀ k, ws'.get k = ws.get k ∨
    (k.target = v ∧ ∃ a, ws'.get k = { ws.get k with on := true, ts := clock.now a })

theorem startWave_cases (ledCount ts : Nat) (w : Wave) :
    (w.cnt = ledCount ∧ startWave ledCount ts w = w) ∨
      (w.cnt ≠ ledCount ∧ startWave ledCount ts w = { w with on := true, ts := ts }) := by
  unfold startWave
  split
  · rename_i partway
    exact Or.inr ⟨partway, rfl⟩
  · rename_i full
    exact Or.inl ⟨by omega, rfl⟩

section
variable {v : Bool} {clock : LoopClock} {ws ws' : Waves}

theorem Restarted.inRange (restarted : Restarted v clock ws ws') {ledCount : Nat}
    (h : ∀ k, (ws.get k).InRange ledCount) (k : WaveName) : (ws'.get k).InRange ledCount := by
  rcases restarted k with same | ⟨-, a, started⟩
  · rw [same]
    exact h k
  · rw [started]
    exact ⟨(h k).le, fun off => by cases off⟩

/-- A trigger leaves a wave alone or starts it at a reading of the iteration. -/
theorem trigger_cases (clock : LoopClock) (ledCount : Nat) (a : TimeCall) (c : Prop) [Decidable c]
    (w : Wave) :
    (if c then startWave ledCount (clock.now a) w else w) = w ∨
      (if c then startWave ledCount (clock.now a) w else w) =
        { w with on := true, ts := clock.now a } := by
  split
  · rcases startWave_cases ledCount (clock.now a) w with ⟨-, full⟩ | ⟨-, started⟩
    · exact Or.inl full
    · exact Or.inr started
  · exact Or.inl rfl

theorem onTriggers_restarted (cfg : Settings) (clock : LoopClock) (s : Status) (ws : Waves) :
    Restarted true clock ws (onTriggers cfg clock s ws) := by
  intro k
  cases k with
  | ledOnUp =>
    rcases trigger_cases clock (cfg.num .ledCount) (.trigger .up) (s.detector.up.state = .inc) ws.ledOnUp
      with same | started
    · exact Or.inl same
    · exact Or.inr ⟨rfl, _, started⟩
  | ledOnDown =>
    rcases trigger_cases clock (cfg.num .ledCount) (.trigger .down) (s.detector.down.state = .inc) ws.ledOnDown
      with same | started
    · exact Or.inl same
    · exact Or.inr ⟨rfl, _, started⟩
  | ledOffUp | ledOffDown => exact Or.inl rfl

theorem offTriggers_restarted (cfg : Settings) (clock : LoopClock) (s : Status) (ws : Waves) :
    Restarted false clock ws (offTriggers cfg clock s ws) := by
  intro k
  cases k with
  | ledOffUp =>
    rcases trigger_cases clock (cfg.num .ledCount) (.trigger .up) (s.detector.up.state = .dec ∧ s.peopleCount = 0) ws.ledOffUp
      with same | started
    · exact Or.inl same
    · exact Or.inr ⟨rfl, _, started⟩
  | ledOffDown =>
    rcases trigger_cases clock (cfg.num .ledCount) (.trigger .down) (s.detector.down.state = .dec ∧ s.peopleCount = 0) ws.ledOffDown
      with same | started
    · exact Or.inl same
    · exact Or.inr ⟨rfl, _, started⟩
  | ledOnUp | ledOnDown => exact Or.inl rfl

/-- The off wave that the timeout starts. -/
def timeoutWave : DetectorType → WaveName
  | .up => .ledOffDown
  | .down => .ledOffUp

theorem offTimeoutWaves_eq (clock : LoopClock) (lastDet : DetectorType) (ws : Waves) :
    offTimeoutWaves clock lastDet ws = ws.set (timeoutWave lastDet)
      { ws.get (timeoutWave lastDet) with on := true, ts := clock.now .offStamp } := by
  cases lastDet <;> rfl

theorem offTimeoutWaves_restarted (clock : LoopClock) (lastDet : DetectorType) (ws : Waves) :
    Restarted false clock ws (offTimeoutWaves clock lastDet ws) := by
  intro k
  rw [offTimeoutWaves_eq]
  by_cases here : k = timeoutWave lastDet
  · subst here
    refine Or.inr ⟨by cases lastDet <;> rfl, .offStamp, ?_⟩
    rw [Waves.get_set_same]
  · exact Or.inl (Waves.get_set_other ws _ here)

/-- The triggers restart waves of one target: on waves when the count has risen, off waves
when it has fallen to zero. -/
theorem triggerWaves_cases (cfg : Settings) (clock : LoopClock) (s : Status) (ws : Waves) :
    (s.peopleCount > s.prevPeopleCount ∧
        triggerWaves cfg clock s ws = onTriggers cfg clock s ws) ∨
      (s.peopleCount < s.prevPeopleCount ∧
        triggerWaves cfg clock s ws = offTriggers cfg clock s ws) ∨
      (s.peopleCount = s.prevPeopleCount ∧ triggerWaves cfg clock s ws = ws) := by
  unfold triggerWaves
  split
  · rename_i risen
    exact Or.inl ⟨risen, rfl⟩
  · split
    · rename_i fallen
      exact Or.inr (Or.inl ⟨fallen, rfl⟩)
    · exact Or.inr (Or.inr ⟨by omega, rfl⟩)

theorem triggerWaves_restarted (cfg : Settings) (clock : LoopClock) (s : Status) (ws : Waves) :
    ∃ v, Restarted v clock ws (triggerWaves cfg clock s ws) := by
  rcases triggerWaves_cases cfg clock s ws with ⟨-, risen⟩ | ⟨-, fallen⟩ | ⟨-, same⟩
  · rw [risen]
    exact ⟨true, onTriggers_restarted cfg clock s ws⟩
  · rw [fallen]
    exact ⟨false, offTriggers_restarted cfg clock s ws⟩
  · rw [same]
    exact ⟨true, fun k => Or.inl rfl⟩

end

/-! ## The waves over an iteration -/

section
variable (cfg : Settings) (inp : LoopInput) (s : MainState)

/-- The waves after the triggers and the off timeout, and the count they leave. -/
theorem reacted_waves :
    ((reacted cfg inp s).status.peopleCount = (sense cfg inp s.senPrevError s.status).peopleCount ∧
      (reacted cfg inp s).waves =
        triggerWaves cfg inp.clock (sense cfg inp s.senPrevError s.status) s.waves) ∨
    (offTimeoutDue cfg inp.clock (sense cfg inp s.senPrevError s.status)
        (triggerWaves cfg inp.clock (sense cfg inp s.senPrevError s.status) s.waves) = true ∧
      (reacted cfg inp s).status.peopleCount = 0 ∧
      ∃ last, (reacted cfg inp s).waves = offTimeoutWaves inp.clock last
        (triggerWaves cfg inp.clock (sense cfg inp s.senPrevError s.status) s.waves)) := by
  rw [reacted, stampBlocks]
  rcases reactToCount_cases cfg inp (senseStep cfg inp s) with stands | ⟨due, cleared⟩
  · rw [stands]
    exact Or.inl ⟨rfl, rfl⟩
  · rw [cleared]
    exact Or.inr ⟨due, rfl, _, rfl⟩

theorem reacted_prev :
    (reacted cfg inp s).status.prevPeopleCount = (reacted cfg inp s).status.peopleCount ∧
      (reacted cfg inp s).leds = s.leds ∧ (reacted cfg inp s).testMode = s.testMode := by
  rw [reacted, stampBlocks]
  rcases reactToCount_cases cfg inp (senseStep cfg inp s) with stands | ⟨-, cleared⟩
  · rw [stands]
    exact ⟨rfl, rfl, rfl⟩
  · rw [cleared]
    exact ⟨rfl, rfl, rfl⟩

/-- The waves at the end of the iteration are the triggered ones, stepped if the interval has
passed. -/
theorem mainLoop_waves : (mainLoop cfg s inp).waves = (reacted cfg inp s).waves ∨
    ∀ k, (mainLoop cfg s inp).waves.get k =
      (waveStep cfg k ((reacted cfg inp s).waves.get k)).1 := by
  obtain ⟨ts, on, leds, alarm, -⟩ := alarmed_cases cfg inp s
  rw [(mainLoop_tail cfg inp s).2.1]
  rcases waveInterval_cases cfg inp (alarmed cfg inp s) with skip | step
  · rw [skip, alarm]
    exact Or.inl rfl
  · obtain ⟨on, leds, off, -⟩ :=
      emergencyOff_cases { alarmed cfg inp s with prevTs := inp.clock.now .loop } .up
    obtain ⟨on', leds', off', -⟩ := emergencyOff_cases
      (emergencyOff { alarmed cfg inp s with prevTs := inp.clock.now .loop } .up) .down
    refine Or.inr (fun k => ?_)
    rw [step, stepWaves_waves, off', off, alarm]

/-- **One iteration keeps every counter in range.** -/
theorem mainLoop_inRange (h : ∀ k, (s.waves.get k).InRange (cfg.num .ledCount)) (k : WaveName) :
    ((mainLoop cfg s inp).waves.get k).InRange (cfg.num .ledCount) := by
  have reacted : ∀ k, ((reacted cfg inp s).waves.get k).InRange (cfg.num .ledCount) := by
    obtain ⟨v, triggers⟩ := triggerWaves_restarted cfg inp.clock
      (sense cfg inp s.senPrevError s.status) s.waves
    rcases reacted_waves cfg inp s with ⟨-, waves⟩ | ⟨-, -, last, waves⟩
    · rw [waves]
      exact triggers.inRange h
    · rw [waves]
      exact (offTimeoutWaves_restarted inp.clock last _).inRange (triggers.inRange h)
  rcases mainLoop_waves cfg inp s with same | step
  · rw [same]
    exact reacted k
  · rw [step]
    exact (waveStep_move cfg k _).inRange (reacted k)

end

end Stairway
