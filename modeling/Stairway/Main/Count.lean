import Stairway.Main.Detector

/-!
# The count of a detector step

`Enters` and `Leaves` are the two counting transitions with their guards, and `tally` is what
they do to the count and its timestamp; `detectorStep_tally` says that a step does nothing else
to them. From it: the order of the two detectors matters only when one counts in, the other
counts out and nobody is there (`detectors_commute_iff`).
-/

namespace Stairway
open Firmware

section
variable (cfg : Settings) (inp : LoopInput) (s : Status) (d : DetectorType)

/-- Detector `d` goes from `FIRST_LOCK` to `INC`. -/
def Enters : Prop :=
  s.blockByLight = false ∧ sensorsOk inp d = true ∧ (s.detector.get d).state = .firstLock ∧
    ¬ (firstCurrent s d = false ∧ Released cfg inp s d) ∧ secondCurrent s d = true

/-- Detector `d` goes from `SECOND_LOCK` to `DEC`. -/
def Leaves : Prop :=
  s.blockByLight = false ∧ sensorsOk inp d = true ∧ (s.detector.get d).state = .secondLock ∧
    ¬ (secondCurrent s d = false ∧ Released cfg inp s d) ∧ firstCurrent s d = true

instance : Decidable (Enters cfg inp s d) := by
  unfold Enters Released
  infer_instance

instance : Decidable (Leaves cfg inp s d) := by
  unfold Leaves Released
  infer_instance

theorem not_leaves_of_enters (enters : Enters cfg inp s d) : ¬ Leaves cfg inp s d := by
  intro leaves
  have locked := enters.2.2.1
  rw [leaves.2.2.1] at locked
  cases locked

/-- A step counts in, counts out, or leaves the count and its timestamp. -/
theorem detectorStep_event :
    (Enters cfg inp s d ∧ detectorStep cfg inp s d = countIn inp (enter inp s d .inc) d) ∨
      (Leaves cfg inp s d ∧ detectorStep cfg inp s d = countOut inp (enter inp s d .dec) d) ∨
      (¬ Enters cfg inp s d ∧ ¬ Leaves cfg inp s d ∧
        (detectorStep cfg inp s d).peopleCount = s.peopleCount ∧
        (detectorStep cfg inp s d).peopleTs = s.peopleTs) := by
  unfold detectorStep Enters Leaves Released
  dsimp only
  cases block : s.blockByLight with
  | true => simp [enter]
  | false =>
    cases ok : sensorsOk inp d with
    | false => simp
    | true =>
      cases state : (s.detector.get d).state with
      | idle =>
        cases first : firstCurrent s d <;> cases second : secondCurrent s d <;> simp [enter]
      | firstLock =>
        simp only [Bool.false_eq_true, if_false, Bool.not_true]
        split
        · rename_i release
          refine Or.inr (Or.inr ⟨fun enters => enters.2.2.2.1 (by simpa using release), fun leaves => ?_, rfl, rfl⟩)
          cases leaves.2.2.1
        · rename_i held
          cases second : secondCurrent s d with
          | true =>
            refine Or.inl ⟨⟨trivial, trivial, trivial, ?_, rfl⟩, rfl⟩
            simpa using held
          | false => simp
      | secondLock =>
        simp only [Bool.false_eq_true, if_false, Bool.not_true]
        split
        · rename_i release
          refine Or.inr (Or.inr ⟨fun enters => ?_, fun leaves => leaves.2.2.2.1 (by simpa using release), rfl, rfl⟩)
          cases enters.2.2.1
        · rename_i held
          cases first : firstCurrent s d with
          | true =>
            refine Or.inr (Or.inl ⟨⟨trivial, trivial, trivial, ?_, rfl⟩, rfl⟩)
            simpa using held
          | false => simp
      | inc =>
        simp only [Bool.false_eq_true, if_false, Bool.not_true]
        split <;> simp [enter]
      | dec =>
        simp only [Bool.false_eq_true, if_false, Bool.not_true]
        split <;> simp [enter]

/-- `people_count` and `people_ts` after a step that counts in, counts out or does neither. -/
def tally (enters leaves : Prop) [Decidable enters] [Decidable leaves] (count : Int × Nat) : Int × Nat :=
  if enters then (wrapInt32 (count.1 + 1), inp.clock.now (.stamp d))
  else if leaves ∧ count.1 ≠ 0 then (wrapInt32 (count.1 - 1), inp.clock.now (.stamp d))
  else count

theorem countOut_tally :
    ((countOut inp s d).peopleCount, (countOut inp s d).peopleTs) =
      if s.peopleCount ≠ 0 then (wrapInt32 (s.peopleCount - 1), inp.clock.now (.stamp d))
      else (s.peopleCount, s.peopleTs) := by
  unfold countOut
  split <;> rfl

/-- **What a step of a detector does to the count.** -/
theorem detectorStep_tally :
    ((detectorStep cfg inp s d).peopleCount, (detectorStep cfg inp s d).peopleTs) =
      tally inp d (Enters cfg inp s d) (Leaves cfg inp s d) (s.peopleCount, s.peopleTs) := by
  rcases detectorStep_event cfg inp s d with ⟨enters, step⟩ | ⟨leaves, step⟩ | ⟨stays, stays', same, same'⟩
  · rw [tally, if_pos enters, step]
    rfl
  · have stays : ¬ Enters cfg inp s d := fun enters => not_leaves_of_enters cfg inp s d enters leaves
    rw [tally, if_neg stays, step, countOut_tally]
    show (if s.peopleCount ≠ 0 then (wrapInt32 (s.peopleCount - 1), inp.clock.now (.stamp d))
      else (s.peopleCount, s.peopleTs)) = _
    by_cases nobody : s.peopleCount = 0
    · rw [if_neg (not_not.mpr nobody), if_neg (fun both => both.2 nobody)]
    · rw [if_pos nobody, if_pos ⟨leaves, nobody⟩]
  · rw [tally, if_neg stays, if_neg (fun both => stays' both.1), same, same']

end

/-! ## The two detectors in either order -/

section
variable {cfg : Settings} {inp : LoopInput} {s t : Status} {d e : DetectorType}

/-- A step of one detector reads nothing that a step of the other writes. -/
theorem detectorStep_local (block : t.blockByLight = s.blockByLight)
    (sensors : t.sensorState = s.sensorState) (same : t.detector.get d = s.detector.get d) :
    (detectorStep cfg inp t d).detector.get d = (detectorStep cfg inp s d).detector.get d ∧
      (Enters cfg inp t d ↔ Enters cfg inp s d) ∧ (Leaves cfg inp t d ↔ Leaves cfg inp s d) := by
  refine ⟨?_, ?_, ?_⟩
  · have entered : ∀ state, (enter inp t d state).detector.get d = (enter inp s d state).detector.get d := by
      intro state
      rw [enter, enter, PerDetector.get_set_same, PerDetector.get_set_same]
    unfold detectorStep firstCurrent secondCurrent
    dsimp only
    rw [block, sensors, same]
    repeat' split
    all_goals first
      | exact same
      | exact entered _
      | (rw [countOut_detector, countOut_detector]; exact entered _)
  · unfold Enters firstCurrent secondCurrent Released
    rw [block, sensors, same]
  · unfold Leaves firstCurrent secondCurrent Released
    rw [block, sensors, same]

/-- The steps of the two detectors in the order `d`, `e`. -/
def bothSteps (cfg : Settings) (inp : LoopInput) (s : Status) (d e : DetectorType) : Status :=
  detectorStep cfg inp (detectorStep cfg inp s d) e

/-- Both steps work from the status before the first one. -/
theorem bothSteps_spec (other : e ≠ d) :
    (bothSteps cfg inp s d e).detector.get d = (detectorStep cfg inp s d).detector.get d ∧
      (bothSteps cfg inp s d e).detector.get e = (detectorStep cfg inp s e).detector.get e ∧
      ((bothSteps cfg inp s d e).peopleCount, (bothSteps cfg inp s d e).peopleTs) =
        tally inp e (Enters cfg inp s e) (Leaves cfg inp s e)
          (tally inp d (Enters cfg inp s d) (Leaves cfg inp s d) (s.peopleCount, s.peopleTs)) := by
  obtain ⟨others, sensors, block, -⟩ := (detectorStep_move cfg inp s d).frame
  obtain ⟨others', -⟩ := (detectorStep_move cfg inp (detectorStep cfg inp s d) e).frame
  obtain ⟨same, enters, leaves⟩ :=
    detectorStep_local block sensors (others e other)
  refine ⟨others' d other.symm, same, ?_⟩
  rw [bothSteps, detectorStep_tally, detectorStep_tally]
  simp only [enters, leaves]

/-- The counts commute unless one step counts in from nobody and the other counts out: the floor
at zero swallows the exit that comes first. -/
theorem tally_comm_iff {enters leaves enters' leaves' : Prop} [Decidable enters] [Decidable leaves]
    [Decidable enters'] [Decidable leaves'] (one : enters → ¬ leaves) (one' : enters' → ¬ leaves')
    (stamp : inp.clock.now (.stamp e) = inp.clock.now (.stamp d)) {people : Int} (peopleTs : Nat)
    (nonneg : 0 ≤ people) (range : people < 2 ^ 31) :
    tally inp e enters' leaves' (tally inp d enters leaves (people, peopleTs)) =
        tally inp d enters leaves (tally inp e enters' leaves' (people, peopleTs)) ↔
      ¬ (people = 0 ∧ (enters ∧ leaves' ∨ leaves ∧ enters')) := by
  have upDown : wrapInt32 (people + 1) ≠ 0 ∧ wrapInt32 (wrapInt32 (people + 1) - 1) = people := by
    unfold wrapInt32
    omega
  have downUp : wrapInt32 (wrapInt32 (people - 1) + 1) = people := by
    unfold wrapInt32
    omega
  unfold tally
  rw [stamp]
  by_cases e₁ : enters
  · have l₁ : ¬ leaves := one e₁
    by_cases e₂ : enters'
    · have l₂ : ¬ leaves' := one' e₂
      simp [e₁, l₁, e₂, l₂]
    · by_cases l₂ : leaves'
      · by_cases nobody : people = 0
        · subst nobody
          simp [e₁, e₂, l₂, wrapInt32]
        · simp [e₁, e₂, l₂, nobody, upDown, downUp]
      · simp [e₁, l₁, e₂, l₂]
  · by_cases l₁ : leaves
    · by_cases e₂ : enters'
      · by_cases nobody : people = 0
        · subst nobody
          simp [e₁, l₁, e₂, wrapInt32]
        · simp [e₁, l₁, e₂, nobody, upDown, downUp]
      · by_cases l₂ : leaves'
        · simp [e₁, l₁, e₂, l₂]
        · simp [e₁, l₁, e₂, l₂]
    · simp [e₁, l₁]

end

/-- The same count, timestamp and detectors. -/
structure SameCount (s t : Status) : Prop where
  peopleCount : t.peopleCount = s.peopleCount
  peopleTs : t.peopleTs = s.peopleTs
  detector : t.detector = s.detector

/-- **The two detectors commute**, unless nobody is counted and one of them counts in while the
other counts out. -/
theorem detectors_commute_iff (cfg : Settings) (inp : LoopInput) (s : Status)
    (fixed : ∀ a b, inp.clock.now a = inp.clock.now b) (nonneg : 0 ≤ s.peopleCount)
    (range : s.peopleCount < 2 ^ 31) :
    SameCount (bothSteps cfg inp s .up .down) (bothSteps cfg inp s .down .up) ↔
      ¬ (s.peopleCount = 0 ∧
        (Enters cfg inp s .up ∧ Leaves cfg inp s .down ∨
          Leaves cfg inp s .up ∧ Enters cfg inp s .down)) := by
  obtain ⟨up, down, count⟩ := @bothSteps_spec cfg inp s .up .down (by decide)
  obtain ⟨down', up', count'⟩ := @bothSteps_spec cfg inp s .down .up (by decide)
  have detector : (bothSteps cfg inp s .down .up).detector = (bothSteps cfg inp s .up .down).detector :=
    PerDetector.ext (up'.trans up.symm) (down'.trans down.symm)
  have commute := tally_comm_iff (not_leaves_of_enters cfg inp s .up)
    (not_leaves_of_enters cfg inp s .down) (fixed (.stamp .down) (.stamp .up)) s.peopleTs nonneg range
  rw [← commute, ← count, ← count']
  constructor
  · rintro ⟨people, ts, -⟩
    rw [people, ts]
  · intro same
    exact ⟨(congrArg Prod.fst same).symm, (congrArg Prod.snd same).symm, detector⟩

/-- The upper detector waits for its second sensor, the lower one for its first. -/
def crossingStatus (people : Int) : Status :=
  { (MainState.boot 18).status with
    detector := ⟨⟨.firstLock, 0⟩, ⟨.secondLock, 0⟩⟩
    sensorState := .ofFn fun _ => ⟨true, true, 0⟩
    peopleCount := people }

/-- Somebody is there: both orders leave one. -/
theorem detectors_commute_iff_one :
    SameCount (bothSteps defaultSettings (.sensing (.reading 5) []) (crossingStatus 1) .up .down)
      (bothSteps defaultSettings (.sensing (.reading 5) []) (crossingStatus 1) .down .up) :=
  (detectors_commute_iff defaultSettings (.sensing (.reading 5) []) (crossingStatus 1)
    (fun _ _ => rfl) (by decide) (by decide)).mpr (by rintro ⟨nobody, -⟩; revert nobody; decide)

/-- Nobody is there: the exit is forgotten if it is evaluated first. -/
theorem detectors_commute_fail :
    (bothSteps defaultSettings (.sensing (.reading 5) []) (crossingStatus 0) .up .down).peopleCount = 0 ∧
      (bothSteps defaultSettings (.sensing (.reading 5) []) (crossingStatus 0) .down .up).peopleCount = 1 ∧
      (∀ a b, (LoopInput.sensing (.reading 5) []).clock.now a =
        (LoopInput.sensing (.reading 5) []).clock.now b) :=
  ⟨by decide +kernel, by decide +kernel, fun _ _ => rfl⟩

end Stairway
