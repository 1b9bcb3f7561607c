import Stairway.Main.Frame

/-!
# The detector state machine

`DetectorMove` lists what one evaluation of a detector can do, with the guard of each move;
`sense_detector` lifts it to an iteration of the main loop. From it: one passage is never
counted twice (`passage_counted_once`).
-/

namespace Stairway
open Firmware

/-- The debounce time has passed since the detector's timestamp. -/
def Released (cfg : Settings) (inp : LoopInput) (s : Status) (d : DetectorType) : Prop :=
  wordSub 64 (inp.clock.now (.guard d)) (s.detector.get d).ts > cfg.num .sensorDebouceTime

/-- Detector `d` has no move to make in its state. -/
def Waits (cfg : Settings) (inp : LoopInput) (s : Status) (d : DetectorType) : Prop :=
  match (s.detector.get d).state with
  | .idle => firstCurrent s d = false ∧ secondCurrent s d = false
  | .firstLock => secondCurrent s d = false
  | .secondLock => firstCurrent s d = false
  | .inc | .dec => ¬ (firstCurrent s d = false ∧ secondCurrent s d = false ∧ Released cfg inp s d)

/-- The moves of detector `d` from the status `s`. -/
inductive DetectorMove (cfg : Settings) (inp : LoopInput) (s : Status) (d : DetectorType) : Status → Prop
  | blocked (block : s.blockByLight = true) : DetectorMove cfg inp s d (enter inp s d .idle)
  | stay (unblocked : s.blockByLight = false) (waits : sensorsOk inp d = true → Waits cfg inp s d) :
      DetectorMove cfg inp s d s
  | lock (unblocked : s.blockByLight = false) (ok : sensorsOk inp d = true)
      (idle : (s.detector.get d).state = .idle) (state : DetectorState)
      (locked : state = .firstLock ∧ firstCurrent s d = true ∨
        state = .secondLock ∧ firstCurrent s d = false ∧ secondCurrent s d = true) :
      DetectorMove cfg inp s d (enter inp s d state)
  | release (unblocked : s.blockByLight = false) (ok : sensorsOk inp d = true)
      (held : (s.detector.get d).state ≠ .idle)
      (quietFirst : (s.detector.get d).state ≠ .secondLock → firstCurrent s d = false)
      (quietSecond : (s.detector.get d).state ≠ .firstLock → secondCurrent s d = false)
      (released : Released cfg inp s d) : DetectorMove cfg inp s d (enter inp s d .idle)
  | entry (unblocked : s.blockByLight = false) (ok : sensorsOk inp d = true)
      (locked : (s.detector.get d).state = .firstLock) (second : secondCurrent s d = true) :
      DetectorMove cfg inp s d (countIn inp (enter inp s d .inc) d)
  | exit (unblocked : s.blockByLight = false) (ok : sensorsOk inp d = true)
      (locked : (s.detector.get d).state = .secondLock) (first : firstCurrent s d = true) :
      DetectorMove cfg inp s d (countOut inp (enter inp s d .dec) d)

/-- Every evaluation of a detector is one of the moves. -/
theorem detectorStep_move (cfg : Settings) (inp : LoopInput) (s : Status) (d : DetectorType) :
    DetectorMove cfg inp s d (detectorStep cfg inp s d) := by
  unfold detectorStep
  dsimp only
  cases block : s.blockByLight with
  | true => exact .blocked block
  | false =>
    cases ok : sensorsOk inp d with
    | false => exact .stay block (fun works => by rw [ok] at works; cases works)
    | true =>
      simp only [Bool.false_eq_true, if_false, Bool.not_true]
      cases state : (s.detector.get d).state with
      | idle =>
        dsimp only
        split
        · rename_i first
          exact .lock block ok state .firstLock (Or.inl ⟨rfl, first⟩)
        · rename_i first
          split
          · rename_i second
            exact .lock block ok state .secondLock
              (Or.inr ⟨rfl, Bool.eq_false_iff.mpr first, second⟩)
          · rename_i second
            refine .stay block (fun _ => ?_)
            rw [Waits, state]
            exact ⟨Bool.eq_false_iff.mpr first, Bool.eq_false_iff.mpr second⟩
      | firstLock =>
        dsimp only
        split
        · rename_i release
          refine .release block ok (by rw [state]; decide) (fun _ => by simpa using release.1) ?_
            release.2
          intro other
          exact absurd state other
        · split
          · rename_i second
            exact .entry block ok state second
          · rename_i second
            refine .stay block (fun _ => ?_)
            rw [Waits, state]
            exact Bool.eq_false_iff.mpr second
      | secondLock =>
        dsimp only
        split
        · rename_i release
          refine .release block ok (by rw [state]; decide) ?_ (fun _ => by simpa using release.1)
            release.2
          intro other
          exact absurd state other
        · split
          · rename_i first
            exact .exit block ok state first
          · rename_i first
            refine .stay block (fun _ => ?_)
            rw [Waits, state]
            exact Bool.eq_false_iff.mpr first
      | inc =>
        dsimp only
        split
        · rename_i release
          exact .release block ok (by rw [state]; decide) (fun _ => by simpa using release.1)
            (fun _ => by simpa using release.2.1) release.2.2
        · rename_i held
          refine .stay block (fun _ => ?_)
          rw [Waits, state]
          exact fun release => held (by simpa [Released] using release)
      | dec =>
        dsimp only
        split
        · rename_i release
          exact .release block ok (by rw [state]; decide) (fun _ => by simpa using release.1)
            (fun _ => by simpa using release.2.1) release.2.2
        · rename_i held
          refine .stay block (fun _ => ?_)
          rw [Waits, state]
          exact fun release => held (by simpa [Released] using release)

section
variable {cfg : Settings} {inp : LoopInput} {s t : Status} {d : DetectorType}

/-- A move leaves the other detector, the sensors and the light block alone. -/
theorem DetectorMove.frame (move : DetectorMove cfg inp s d t) :
    (∀ e, e ≠ d → t.detector.get e = s.detector.get e) ∧ t.sensorState = s.sensorState ∧
      t.blockByLight = s.blockByLight ∧ t.prevPeopleCount = s.prevPeopleCount ∧
      t.testMode = s.testMode := by
  have others : ∀ state e, e ≠ d → (enter inp s d state).detector.get e = s.detector.get e :=
    fun state e other => PerDetector.get_set_other _ _ other
  cases move with
  | blocked | lock | release => exact ⟨others _, rfl, rfl, rfl, rfl⟩
  | stay => exact ⟨fun _ _ => rfl, rfl, rfl, rfl, rfl⟩
  | entry => exact ⟨others _, rfl, rfl, rfl, rfl⟩
  | exit =>
    unfold countOut
    split
    · exact ⟨others _, rfl, rfl, rfl, rfl⟩
    · exact ⟨others _, rfl, rfl, rfl, rfl⟩

@[simp] theorem countOut_detector (inp : LoopInput) (s : Status) (d : DetectorType) :
    (countOut inp s d).detector = s.detector := by
  unfold countOut
  split <;> rfl

/-- The light block leaves sensors and detectors alone. -/
theorem lightBlock_frame (cfg : Settings) (s : Status) :
    (lightBlock cfg s).detector = s.detector ∧ (lightBlock cfg s).sensorState = s.sensorState ∧
      (lightBlock cfg s).peopleCount = s.peopleCount ∧
      (lightBlock cfg s).prevPeopleCount = s.prevPeopleCount ∧
      (lightBlock cfg s).testMode = s.testMode := by
  unfold lightBlock
  split
  · split <;> exact ⟨rfl, rfl, rfl, rfl, rfl⟩
  · exact ⟨rfl, rfl, rfl, rfl, rfl⟩

end

/-- The status that the detectors find in an iteration. -/
def sampled (cfg : Settings) (inp : LoopInput) (prevError : PerSensor Bool) (s : Status) : Status :=
  lightBlock cfg (sampleSensors inp prevError
    { s with lightState := inp.lightState, lightValue := inp.lightValue, testMode := inp.testMode })

section
variable (cfg : Settings) (inp : LoopInput) (prevError : PerSensor Bool) (s : Status)

/-- The light block of the iteration. -/
def LightBlocks : Prop :=
  inp.lightState = true ∧ cfg.flag .useLightSensor = true ∧
    (s.peopleCount = 0 ∨ s.blockByLight = true)

theorem sampled_blockByLight :
    (sampled cfg inp prevError s).blockByLight = true ↔ LightBlocks cfg inp s := by
  unfold sampled lightBlock sampleSensors LightBlocks
  dsimp only
  split
  · rename_i light
    rw [Bool.and_eq_true] at light
    split
    · rename_i free
      exact iff_of_true rfl ⟨light.1, light.2, Or.inl free.1⟩
    · rename_i busy
      constructor
      · intro block
        exact ⟨light.1, light.2, Or.inr block⟩
      · rintro ⟨-, -, nobody | block⟩
        · -- nobody is counted, so the block was already set
          cases block : s.blockByLight with
          | true => rfl
          | false => exact absurd ⟨nobody, block⟩ busy
        · exact block
  · rename_i dark
    rw [Bool.and_eq_true] at dark
    exact iff_of_false Bool.false_ne_true (fun blocks => dark ⟨blocks.1, blocks.2.1⟩)

theorem sense_eq : sense cfg inp prevError s =
    detectorStep cfg inp (detectorStep cfg inp (sampled cfg inp prevError s) .up) .down := rfl

/-- Sampling changes the sensors and nothing that the detectors or the count hold. -/
theorem sampled_frame :
    (sampled cfg inp prevError s).detector = s.detector ∧
      (sampled cfg inp prevError s).peopleCount = s.peopleCount ∧
      (sampled cfg inp prevError s).prevPeopleCount = s.prevPeopleCount ∧
      (∀ i, ((sampled cfg inp prevError s).sensorState.get i).current = sampleCurrent inp i) ∧
      (sampled cfg inp prevError s).testMode = inp.testMode := by
  obtain ⟨detector, sensors, people, prev, test⟩ := lightBlock_frame cfg (sampleSensors inp prevError
    { s with lightState := inp.lightState, lightValue := inp.lightValue, testMode := inp.testMode })
  refine ⟨detector, people, prev, ?_, test⟩
  intro i
  rw [sampled, sensors, sampleSensors, PerSensor.get_ofFn]

/-- The status that detector `d` is evaluated in: the lower one comes second. -/
def evaluated : DetectorType → Status
  | .up => sampled cfg inp prevError s
  | .down => detectorStep cfg inp (sampled cfg inp prevError s) .up

/-- The evaluation of `d` is the one that moves it; its status differs from the sampled one at
most in the other detector and the count. -/
theorem evaluated_spec (d : DetectorType) :
    (evaluated cfg inp prevError s d).detector.get d = s.detector.get d ∧
      (detectorStep cfg inp (evaluated cfg inp prevError s d) d).detector.get d =
        (sense cfg inp prevError s).detector.get d ∧
      (∀ i, ((evaluated cfg inp prevError s d).sensorState.get i).current = sampleCurrent inp i) ∧
      (evaluated cfg inp prevError s d).blockByLight = (sense cfg inp prevError s).blockByLight := by
  obtain ⟨detector, -, -, sensors, -⟩ := sampled_frame cfg inp prevError s
  have moveUp := detectorStep_move cfg inp (sampled cfg inp prevError s) .up
  have moveDown :=
    detectorStep_move cfg inp (detectorStep cfg inp (sampled cfg inp prevError s) .up) .down
  obtain ⟨others, sensorState, block, -⟩ := moveUp.frame
  obtain ⟨others', sensorState', block', -⟩ := moveDown.frame
  rw [sense_eq]
  cases d with
  | up =>
    refine ⟨?_, (others' .up (by decide)).symm, sensors, (block'.trans block).symm⟩
    rw [evaluated, detector]
  | down =>
    refine ⟨?_, rfl, ?_, block'.symm⟩
    · rw [evaluated, others .down (by decide), detector]
    · intro i
      rw [evaluated, sensorState, sensors]

/-- **One iteration moves each detector once**, from its state at the start of the iteration,
under the sensor readings and the light block of the iteration. The status `u` it moves in
differs from the sampled one at most in the other detector and the count. -/
theorem sense_detector (d : DetectorType) : ∃ u t, DetectorMove cfg inp u d t ∧
    u.detector.get d = s.detector.get d ∧ t.detector.get d = (sense cfg inp prevError s).detector.get d ∧
    (∀ i, (u.sensorState.get i).current = sampleCurrent inp i) ∧
    u.blockByLight = (sense cfg inp prevError s).blockByLight :=
  ⟨_, _, detectorStep_move cfg inp (evaluated cfg inp prevError s d) d,
    evaluated_spec cfg inp prevError s d⟩

theorem sense_blockByLight :
    (sense cfg inp prevError s).blockByLight = true ↔ LightBlocks cfg inp s := by
  rw [sense_eq, (detectorStep_move cfg inp _ .down).frame.2.2.1,
    (detectorStep_move cfg inp _ .up).frame.2.2.1, sampled_blockByLight]

theorem sense_testMode : (sense cfg inp prevError s).testMode = inp.testMode := by
  rw [sense_eq, (detectorStep_move cfg inp _ .down).frame.2.2.2.2,
    (detectorStep_move cfg inp _ .up).frame.2.2.2.2]
  exact (sampled_frame cfg inp prevError s).2.2.2.2

theorem sense_prevPeopleCount :
    (sense cfg inp prevError s).prevPeopleCount = s.prevPeopleCount := by
  rw [sense_eq, (detectorStep_move cfg inp _ .down).frame.2.2.2.1,
    (detectorStep_move cfg inp _ .up).frame.2.2.2.1]
  exact (sampled_frame cfg inp prevError s).2.2.1

/-- The sensors at the end of the iteration are the sampled ones. -/
theorem sense_current (i : StairwaySensorType) :
    ((sense cfg inp prevError s).sensorState.get i).current = sampleCurrent inp i := by
  rw [sense_eq, (detectorStep_move cfg inp _ .down).frame.2.1,
    (detectorStep_move cfg inp _ .up).frame.2.1]
  exact (sampled_frame cfg inp prevError s).2.2.2.1 i

end

/-! ## One passage is never counted twice -/

/-- A detector that has counted and has not been released. -/
def Counted (state : DetectorState) : Prop := state = .inc ∨ state = .dec

/-- In iteration `k` detector `d` enters `DETECTOR_STATE_INC` or `DETECTOR_STATE_DEC`. -/
def Counts (cfg : Settings) (inp : Nat → LoopInput) (d : DetectorType) (k : Nat) : Prop :=
  ((runAt cfg inp k).status.detector.get d).state ≠
      ((runAt cfg inp (k + 1)).status.detector.get d).state ∧
    Counted ((runAt cfg inp (k + 1)).status.detector.get d).state

/-- In iteration `k` neither sensor of `d` is current or in error. -/
def Quiet (cfg : Settings) (inp : Nat → LoopInput) (d : DetectorType) (k : Nat) : Prop :=
  ((runAt cfg inp (k + 1)).status.sensorState.get (sensFirst d)).current = false ∧
    ((runAt cfg inp (k + 1)).status.sensorState.get (sensSecond d)).current = false ∧
    (inp k).sensors.error.get (sensFirst d) = false ∧
    (inp k).sensors.error.get (sensSecond d) = false

section
variable {cfg : Settings} {inp : Nat → LoopInput} {d : DetectorType}

/-- The move of detector `d` in iteration `k` of the run. -/
theorem runAt_detector (cfg : Settings) (inp : Nat → LoopInput) (d : DetectorType) (k : Nat) :
    ∃ u t, DetectorMove cfg (inp k) u d t ∧
      u.detector.get d = (runAt cfg inp k).status.detector.get d ∧
      t.detector.get d = (runAt cfg inp (k + 1)).status.detector.get d ∧
      (∀ i, (u.sensorState.get i).current =
        ((runAt cfg inp (k + 1)).status.sensorState.get i).current) ∧
      u.blockByLight = (runAt cfg inp (k + 1)).status.blockByLight := by
  obtain ⟨u, t, move, before, after, sensors, block⟩ := sense_detector cfg (inp k)
    (runAt cfg inp k).senPrevError (runAt cfg inp k).status d
  refine ⟨u, t, move, before, ?_, ?_, ?_⟩
  · rw [after, runAt_succ, mainLoop_detector]
  · intro i
    rw [sensors, runAt_succ, mainLoop_sensorState, sense_current]
  · rw [block, runAt_succ, mainLoop_blockByLight]

/-- A counting iteration starts in a lock and stamps the detector. -/
theorem Counts.stamped {k : Nat} (counts : Counts cfg inp d k) :
    ¬ Counted ((runAt cfg inp k).status.detector.get d).state ∧
      ((runAt cfg inp (k + 1)).status.detector.get d).ts = (inp k).clock.now (.stamp d) := by
  obtain ⟨u, t, move, before, after, -⟩ := runAt_detector cfg inp d k
  obtain ⟨differs, counted⟩ := counts
  rw [← before, ← after] at differs
  rw [← after] at counted ⊢
  rw [← before]
  cases move with
  | stay => exact absurd rfl differs
  | blocked | release => simp [enter, Counted] at counted
  | lock _ _ _ state locked =>
    rcases locked with ⟨lock, -⟩ | ⟨lock, -⟩ <;> subst lock <;> simp [enter, Counted] at counted
  | entry _ _ locked => simp [countIn, enter, Counted, locked]
  | exit _ _ locked => simp [enter, Counted, locked]

/-- Leaving a counted state takes the light block, or quiet sensors for the debounce time. -/
theorem counted_left {k stamp : Nat}
    (counted : Counted ((runAt cfg inp k).status.detector.get d).state)
    (ts : ((runAt cfg inp k).status.detector.get d).ts = stamp)
    (earlier : stamp ≤ (inp k).clock.now (.guard d))
    (left : ¬ (Counted ((runAt cfg inp (k + 1)).status.detector.get d).state ∧
      ((runAt cfg inp (k + 1)).status.detector.get d).ts = stamp)) :
    (runAt cfg inp (k + 1)).status.blockByLight = true ∨
      (Quiet cfg inp d k ∧
        cfg.num .sensorDebouceTime < (inp k).clock.now (.guard d) - stamp) := by
  obtain ⟨u, t, move, before, after, sensors, block⟩ := runAt_detector cfg inp d k
  rw [← before] at counted ts
  rw [← after] at left
  cases move with
  | stay => exact absurd ⟨counted, ts⟩ left
  | blocked blocked => rw [← block]; exact Or.inl blocked
  | lock _ _ idle =>
    rw [idle] at counted
    simp [Counted] at counted
  | entry _ _ locked =>
    rw [locked] at counted
    simp [Counted] at counted
  | exit _ _ locked =>
    rw [locked] at counted
    simp [Counted] at counted
  | release _ ok held quietFirst quietSecond released =>
    refine Or.inr ⟨⟨?_, ?_, ?_, ?_⟩, ?_⟩
    · rw [← sensors]
      exact quietFirst (by rcases counted with same | same <;> rw [same] <;> decide)
    · rw [← sensors]
      exact quietSecond (by rcases counted with same | same <;> rw [same] <;> decide)
    · simp only [sensorsOk, Bool.not_eq_true', Bool.or_eq_false_iff] at ok
      exact ok.1
    · simp only [sensorsOk, Bool.not_eq_true', Bool.or_eq_false_iff] at ok
      exact ok.2
    · have elapsed : wordSub 64 ((inp k).clock.now (.guard d)) stamp > cfg.num .sensorDebouceTime := by
        rw [← ts]; exact released
      rwa [wordSub_of_le earlier ((inp k).clock.fits _)] at elapsed

/-- Between two counting iterations of the same detector there is one with the light block on,
or one in which both its sensors are silent and error-free and the debounce time has passed
since the first of the two. -/
theorem passage_counted_once (cfg : Settings) (inp : Nat → LoopInput) (mono : ClockMonotone inp)
    (d : DetectorType) (a b : Nat) (order : a < b) (first : Counts cfg inp d a)
    (second : Counts cfg inp d b) :
    ∃ c, a < c ∧ c < b ∧ ((runAt cfg inp (c + 1)).status.blockByLight = true ∨
      (Quiet cfg inp d c ∧ cfg.num .sensorDebouceTime <
        (inp c).clock.now (.guard d) - (inp a).clock.now (.stamp d))) := by
  obtain ⟨-, stamped⟩ := first.stamped
  obtain ⟨locked, -⟩ := second.stamped
  obtain ⟨c, low, high, ⟨counted, ts⟩, left⟩ := Run.lost_between
    (Q := fun k => Counted ((runAt cfg inp k).status.detector.get d).state ∧
      ((runAt cfg inp k).status.detector.get d).ts = (inp a).clock.now (.stamp d))
    ⟨first.2, stamped⟩ (fun held => locked held.1) (by omega)
  exact ⟨c, by omega, high,
    counted_left counted ts (mono.le_of_lt (by omega) _ _) left⟩

end

/-- Two entries at the upper end, 3 s apart. -/
def twoEntries : Nat → LoopInput :=
  scripted 3000 [[.upFirst], [.upFirst, .upSecond], [], [.upFirst], [.upFirst, .upSecond]]

/-- The two entries are separated by the quiet third iteration. -/
theorem passage_counted_once_twoEntries :
    ∃ c, 1 < c ∧ c < 4 ∧ ((runAt defaultSettings twoEntries (c + 1)).status.blockByLight = true ∨
      (Quiet defaultSettings twoEntries .up c ∧ defaultSettings.num .sensorDebouceTime <
        (twoEntries c).clock.now (.guard .up) - (twoEntries 1).clock.now (.stamp .up))) :=
  passage_counted_once defaultSettings twoEntries (scripted_monotone _ _) .up 1 4 (by decide)
    ⟨by decide, Or.inl (by decide)⟩ ⟨by decide, Or.inl (by decide)⟩

end Stairway
