import Stairway.Main.Count

/-!
# Every crossing is counted exactly once

A crossing (`Crossing`) meets the outer sensor of a detector that is idle, and later its inner
one, without leaving the outer sensor for longer than the debounce time counted from the lock.
The lock is held until then (`Crossing.held`), the inner sensor counts, and the detector does not
count again before it is released (`crossing_counted_once`).
-/

namespace Stairway
open Firmware

/-! ## What a detector finds -/

/-- The status that detector `d` is evaluated in, in iteration `k` of the run. -/
def seen (cfg : Settings) (inp : Nat → LoopInput) (d : DetectorType) (k : Nat) : Status :=
  evaluated cfg (inp k) (runAt cfg inp k).senPrevError (runAt cfg inp k).status d

/-- Sensor `i` is current in iteration `k`. -/
def Current (cfg : Settings) (inp : Nat → LoopInput) (i : StairwaySensorType) (k : Nat) : Prop :=
  ((runAt cfg inp (k + 1)).status.sensorState.get i).current = true

/-- The light block is off in iteration `k`. -/
def LightFree (cfg : Settings) (inp : Nat → LoopInput) (k : Nat) : Prop :=
  (runAt cfg inp (k + 1)).status.blockByLight = false

/-- The evaluation of `d` takes it from where the iteration finds it to where it leaves it. -/
theorem seen_spec (cfg : Settings) (inp : Nat → LoopInput) (d : DetectorType) (k : Nat) :
    (seen cfg inp d k).detector.get d = (runAt cfg inp k).status.detector.get d ∧
      (detectorStep cfg (inp k) (seen cfg inp d k) d).detector.get d =
        (runAt cfg inp (k + 1)).status.detector.get d ∧
      (∀ i, ((seen cfg inp d k).sensorState.get i).current = true ↔ Current cfg inp i k) ∧
      ((seen cfg inp d k).blockByLight = false ↔ LightFree cfg inp k) := by
  obtain ⟨before, after, sensors, block⟩ :=
    evaluated_spec cfg (inp k) (runAt cfg inp k).senPrevError (runAt cfg inp k).status d
  refine ⟨before, ?_, ?_, ?_⟩
  · rw [runAt_succ, mainLoop_detector]
    exact after
  · intro i
    rw [seen, sensors, Current, runAt_succ, mainLoop_sensorState, sense_current]
  · rw [seen, block, LightFree, runAt_succ, mainLoop_blockByLight]

/-! ## Crossings -/

/-- A way through a detector. -/
inductive Passage
  | entry | exit
  deriving DecidableEq

namespace Passage

/-- The sensor that is met first. -/
def outer (way : Passage) (d : DetectorType) : StairwaySensorType :=
  match way with
  | entry => sensFirst d
  | exit => sensSecond d

def inner (way : Passage) (d : DetectorType) : StairwaySensorType :=
  match way with
  | entry => sensSecond d
  | exit => sensFirst d

def locked : Passage → DetectorState
  | entry => .firstLock
  | exit => .secondLock

def counted : Passage → DetectorState
  | entry => .inc
  | exit => .dec

/-- `people_count` after the crossing: one more, or one less with the floor at zero. -/
def count (people : Int) : Passage → Int
  | entry => wrapInt32 (people + 1)
  | exit => if people = 0 then 0 else wrapInt32 (people - 1)

end Passage

theorem countOut_people (inp : LoopInput) (s : Status) (d : DetectorType) :
    (countOut inp s d).peopleCount = Passage.exit.count s.peopleCount := by
  unfold countOut
  by_cases nobody : s.peopleCount = 0
  · rw [if_neg (not_not.mpr nobody), nobody]
    rfl
  · rw [if_pos nobody]
    exact (if_neg nobody).symm

/-- Somebody crosses detector `d` from iteration `a`, where the outer sensor takes the lock, to
iteration `b`, where the inner sensor is met. -/
structure Crossing (cfg : Settings) (inp : Nat → LoopInput) (d : DetectorType) (way : Passage)
    (a b : Nat) : Prop where
  order : a < b
  idle : ((runAt cfg inp a).status.detector.get d).state = .idle
  clear : ∀ k, a ≤ k → k ≤ b → LightFree cfg inp k ∧ sensorsOk (inp k) d = true
  locks : Current cfg inp (way.outer d) a
  /-- both sensors together are an entry -/
  alone : way = .exit → ¬ Current cfg inp (way.inner d) a
  waits : ∀ k, a < k → k < b → ¬ Current cfg inp (way.inner d) k
  completes : Current cfg inp (way.inner d) b
  stays : ∀ k, a < k → k ≤ b → Current cfg inp (way.outer d) k ∨
    (inp k).clock.now (.guard d) - (inp a).clock.now (.stamp d) ≤ cfg.num .sensorDebouceTime

section
variable {cfg : Settings} {inp : Nat → LoopInput} {d : DetectorType} {way : Passage} {a b : Nat}

/-- Iteration `a` takes the lock. -/
theorem Crossing.taken (crossing : Crossing cfg inp d way a b) :
    (runAt cfg inp (a + 1)).status.detector.get d = ⟨way.locked, (inp a).clock.now (.stamp d)⟩ := by
  obtain ⟨before, after, sensors, block⟩ := seen_spec cfg inp d a
  obtain ⟨unblocked, ok⟩ := crossing.clear a (Nat.le_refl a) (Nat.le_of_lt crossing.order)
  have idle := crossing.idle
  have locks := crossing.locks
  have alone := crossing.alone
  rw [← block] at unblocked
  rw [← before] at idle
  rw [← sensors] at locks alone
  rw [← after]
  have move := detectorStep_move cfg (inp a) (seen cfg inp d a) d
  generalize detectorStep cfg (inp a) (seen cfg inp d a) d = t at move
  cases move with
  | blocked blocked =>
    rw [unblocked] at blocked
    cases blocked
  | stay _ waits =>
    have quiet := waits ok
    rw [Waits, idle] at quiet
    cases way with
    | entry => rw [show firstCurrent _ d = true from locks] at quiet; cases quiet.1
    | exit => rw [show secondCurrent _ d = true from locks] at quiet; cases quiet.2
  | lock _ _ _ state locked =>
    rw [enter, PerDetector.get_set_same]
    cases way with
    | entry =>
      rcases locked with ⟨same, -⟩ | ⟨-, other, -⟩
      · rw [same]
        rfl
      · rw [show firstCurrent _ d = true from locks] at other
        cases other
    | exit =>
      rcases locked with ⟨-, other⟩ | ⟨same, -⟩
      · exact absurd other (alone rfl)
      · rw [same]
        rfl
  | release _ _ held => exact absurd idle held
  | entry _ _ locked => rw [idle] at locked; cases locked
  | exit _ _ locked => rw [idle] at locked; cases locked

/-- What the lock and its debounce time leave a locked detector to do. -/
theorem Crossing.locked_move (crossing : Crossing cfg inp d way a b) (mono : ClockMonotone inp) {k : Nat}
    (after : a < k) (before : k ≤ b)
    (held : (runAt cfg inp k).status.detector.get d = ⟨way.locked, (inp a).clock.now (.stamp d)⟩) :
    (¬ Current cfg inp (way.inner d) k ∧
      (runAt cfg inp (k + 1)).status.detector.get d = ⟨way.locked, (inp a).clock.now (.stamp d)⟩) ∨
    (Current cfg inp (way.inner d) k ∧
      (runAt cfg inp (k + 1)).status.detector.get d = ⟨way.counted, (inp k).clock.now (.stamp d)⟩ ∧
      (detectorStep cfg (inp k) (seen cfg inp d k) d).peopleCount =
        way.count (seen cfg inp d k).peopleCount) := by
  obtain ⟨found, left, sensors, block⟩ := seen_spec cfg inp d k
  obtain ⟨free, ok⟩ := crossing.clear k (Nat.le_of_lt after) before
  rw [← block] at free
  rw [← found] at held
  rw [← sensors, ← left]
  -- the debounce time is over only while the outer sensor is current
  have kept : ((seen cfg inp d k).sensorState.get (way.outer d)).current = false →
      ¬ Released cfg (inp k) (seen cfg inp d k) d := by
    intro quiet released
    rcases crossing.stays k after before with current | soon
    · rw [← sensors, quiet] at current
      cases current
    · have order := mono.le_of_lt after (.stamp d) (.guard d)
      rw [Released, held, wordSub_of_le order ((inp k).clock.fits _)] at released
      omega
  have state : ((seen cfg inp d k).detector.get d).state = way.locked := by rw [held]
  have move := detectorStep_move cfg (inp k) (seen cfg inp d k) d
  generalize detectorStep cfg (inp k) (seen cfg inp d k) d = t at move
  cases move with
  | blocked blocked =>
    rw [free] at blocked
    cases blocked
  | stay _ waits =>
    have quiet := waits ok
    rw [Waits, state] at quiet
    refine Or.inl ⟨?_, held⟩
    cases way with
    | entry => exact Bool.eq_false_iff.mp quiet
    | exit => exact Bool.eq_false_iff.mp quiet
  | lock _ _ idle =>
    rw [state] at idle
    cases way <;> cases idle
  | release _ _ _ quietFirst quietSecond released =>
    rw [state] at quietFirst quietSecond
    cases way with
    | entry => exact absurd released (kept (quietFirst (by decide)))
    | exit => exact absurd released (kept (quietSecond (by decide)))
  | entry _ _ locked second =>
    cases way with
    | entry =>
      refine Or.inr ⟨second, ?_, rfl⟩
      show (enter (inp k) (seen cfg inp d k) d .inc).detector.get d = _
      rw [enter, PerDetector.get_set_same]
      rfl
    | exit =>
      rw [state] at locked
      cases locked
  | exit _ _ locked first =>
    cases way with
    | entry =>
      rw [state] at locked
      cases locked
    | exit =>
      refine Or.inr ⟨first, ?_, ?_⟩
      · rw [countOut_detector, enter, PerDetector.get_set_same]
        rfl
      · exact countOut_people (inp k) (enter (inp k) (seen cfg inp d k) d .dec) d

/-- The lock is held up to iteration `b`. -/
theorem Crossing.held (crossing : Crossing cfg inp d way a b) (mono : ClockMonotone inp) {k : Nat}
    (after : a < k) (before : k ≤ b) :
    (runAt cfg inp k).status.detector.get d = ⟨way.locked, (inp a).clock.now (.stamp d)⟩ := by
  refine Run.kept_between (Q := fun k => (runAt cfg inp k).status.detector.get d =
    ⟨way.locked, (inp a).clock.now (.stamp d)⟩) crossing.taken after (fun j low high held => ?_)
  rcases crossing.locked_move mono low (by omega) held with ⟨-, held'⟩ | ⟨current, -⟩
  · exact held'
  · exact absurd current (crossing.waits j low (by omega))

/-- Iteration `b` counts. -/
theorem Crossing.counts (crossing : Crossing cfg inp d way a b) (mono : ClockMonotone inp) :
    (runAt cfg inp (b + 1)).status.detector.get d = ⟨way.counted, (inp b).clock.now (.stamp d)⟩ ∧
      (detectorStep cfg (inp b) (seen cfg inp d b) d).peopleCount =
        way.count (seen cfg inp d b).peopleCount := by
  have held := crossing.held mono crossing.order (Nat.le_refl b)
  rcases crossing.locked_move mono crossing.order (Nat.le_refl b) held with ⟨waits, -⟩ | ⟨-, counted⟩
  · exact absurd crossing.completes waits
  · exact counted

end

/-- The detector is released in iteration `k`: both sensors are inactive, and the debounce time has
passed since it counted in iteration `b`. -/
def ReleasedSince (cfg : Settings) (inp : Nat → LoopInput) (d : DetectorType) (b k : Nat) : Prop :=
  Quiet cfg inp d k ∧
    cfg.num .sensorDebouceTime < (inp k).clock.now (.guard d) - (inp b).clock.now (.stamp d)

/-- **A crossing is counted exactly once**: by one, in the iteration in which the inner sensor is
met, not before, and not again before the detector is released. -/
theorem crossing_counted_once (cfg : Settings) (inp : Nat → LoopInput) (mono : ClockMonotone inp)
    (d : DetectorType) (way : Passage) (a b : Nat) (crossing : Crossing cfg inp d way a b) :
    (∀ k, a ≤ k → k < b → ¬ Counts cfg inp d k) ∧
      Counts cfg inp d b ∧
      (detectorStep cfg (inp b) (seen cfg inp d b) d).peopleCount =
        way.count (seen cfg inp d b).peopleCount ∧
      ∀ k, b < k → (∀ j, b < j → j < k → LightFree cfg inp j ∧ ¬ ReleasedSince cfg inp d b j) →
        ¬ Counts cfg inp d k := by
  obtain ⟨counted, people⟩ := crossing.counts mono
  have final : Counted way.counted := by
    cases way with
    | entry => exact Or.inl rfl
    | exit => exact Or.inr rfl
  refine ⟨?_, ⟨?_, ?_⟩, people, ?_⟩
  · intro k low high counts
    -- the lock is held after iteration `k`
    rw [Counts, crossing.held mono (by omega) high] at counts
    cases way with
    | entry => rcases counts.2 with same | same <;> cases same
    | exit => rcases counts.2 with same | same <;> cases same
  · rw [crossing.held mono crossing.order (Nat.le_refl b), counted]
    cases way with
    | entry => intro same; cases same
    | exit => intro same; cases same
  · rw [counted]
    exact final
  · intro k later clear counts
    have kept : Counted ((runAt cfg inp k).status.detector.get d).state ∧
        ((runAt cfg inp k).status.detector.get d).ts = (inp b).clock.now (.stamp d) := by
      refine Run.kept_between (a := b + 1)
        (Q := fun k => Counted ((runAt cfg inp k).status.detector.get d).state ∧
          ((runAt cfg inp k).status.detector.get d).ts = (inp b).clock.now (.stamp d)) ?_ later ?_
      · rw [counted]
        exact ⟨final, rfl⟩
      · intro j low high held
        obtain ⟨free, holds⟩ := clear j low high
        by_contra left
        rcases counted_left held.1 held.2 (mono.le_of_lt (by omega) _ _) left with block | released
        · rw [free] at block
          cases block
        · exact holds released
    exact counts.stamped.1 kept.1

/-- Somebody passes between the two upper sensors for half a second. -/
def slowEntry : Nat → LoopInput := scripted 500 [[.upFirst], [], [.upSecond]]

theorem slowEntry_crossing : Crossing defaultSettings slowEntry .up .entry 0 2 where
  order := by decide
  idle := by decide
  clear := by
    have all : ∀ k, k < 3 → (runAt defaultSettings slowEntry (k + 1)).status.blockByLight = false ∧
        sensorsOk (slowEntry k) .up = true := by decide +kernel
    exact fun k _ high => all k (by omega)
  locks := by
    unfold Current
    decide +kernel
  alone := fun way => by cases way
  waits := by
    have quiet : ¬ Current defaultSettings slowEntry .upSecond 1 := by
      unfold Current
      decide +kernel
    intro k low high
    have one : k = 1 := by omega
    rw [one]
    exact quiet
  completes := by
    unfold Current
    decide +kernel
  stays := by
    have all : ∀ k, k < 3 → (slowEntry k).clock.now (.guard .up) - (slowEntry 0).clock.now (.stamp .up) ≤
        defaultSettings.num .sensorDebouceTime := by decide +kernel
    exact fun k _ high => Or.inr (all k (by omega))

theorem crossing_counted_once_slowEntry :
    (∀ k, 0 ≤ k → k < 2 → ¬ Counts defaultSettings slowEntry .up k) ∧
      Counts defaultSettings slowEntry .up 2 ∧
      (detectorStep defaultSettings (slowEntry 2) (seen defaultSettings slowEntry .up 2) .up).peopleCount =
        Passage.entry.count (seen defaultSettings slowEntry .up 2).peopleCount ∧
      ∀ k, 2 < k → (∀ j, 2 < j → j < k →
          LightFree defaultSettings slowEntry j ∧ ¬ ReleasedSince defaultSettings slowEntry .up 2 j) →
        ¬ Counts defaultSettings slowEntry .up k :=
  crossing_counted_once defaultSettings slowEntry (scripted_monotone _ _) .up .entry 0 2
    slowEntry_crossing

end Stairway
