import Stairway.Main.Crossing
import Stairway.Main.Lights

/-!
# Which detector starts a wave

The triggers look at the change of `people_count` and at detector states that outlast the
transition they stand for. `StartsOn` and `StartsOff` are the guards of the two assignments;
`waves_start_exactly_iff` says when they select exactly the detectors that counted in this
iteration.
-/

namespace Stairway
open Firmware

/-! ## Detectors that have counted earlier -/

/-- Detector `d` is in `state` and is not released from it. -/
def Lingers (cfg : Settings) (inp : LoopInput) (s : Status) (d : DetectorType)
    (state : DetectorState) : Prop :=
  (s.detector.get d).state = state ∧ s.blockByLight = false ∧ (sensorsOk inp d = true →
    ¬ (firstCurrent s d = false ∧ secondCurrent s d = false ∧ Released cfg inp s d))

section
variable {cfg : Settings} {inp : LoopInput} {s : Status} {d : DetectorType} {state : DetectorState}

/-- Without a transition of its own a detector is in a counted state only by lingering there. -/
theorem detectorStep_lingers (counted : Counted state) (stays : ¬ Enters cfg inp s d)
    (stays' : ¬ Leaves cfg inp s d) :
    ((detectorStep cfg inp s d).detector.get d).state = state ↔ Lingers cfg inp s d state := by
  unfold Enters Released at stays
  unfold Leaves Released at stays'
  have gone : ((enter inp s d .idle).detector.get d).state ≠ state := by
    rcases counted with same | same <;> simp [enter, same]
  unfold detectorStep Lingers Released
  dsimp only
  cases block : s.blockByLight with
  | true => exact iff_of_false gone (fun lingers => by cases lingers.2.1)
  | false =>
    cases ok : sensorsOk inp d with
    | false => simp
    | true =>
      cases now : (s.detector.get d).state with
      | idle =>
        cases first : firstCurrent s d <;> cases second : secondCurrent s d <;>
          rcases counted with same | same <;> simp [enter, same, now]
      | firstLock =>
        simp only [Bool.false_eq_true, if_false, Bool.not_true]
        split
        · rcases counted with same | same <;> simp [enter, same]
        · rename_i held
          split
          · rename_i second
            exact absurd ⟨block, ok, now, by simpa using held, second⟩ stays
          · rcases counted with same | same <;> simp [same, now]
      | secondLock =>
        simp only [Bool.false_eq_true, if_false, Bool.not_true]
        split
        · rcases counted with same | same <;> simp [enter, same]
        · rename_i held
          split
          · rename_i first
            exact absurd ⟨block, ok, now, by simpa using held, first⟩ stays'
          · rcases counted with same | same <;> simp [same, now]
      | inc | dec =>
        simp only [Bool.false_eq_true, if_false, Bool.not_true]
        split
        · rename_i release
          exact iff_of_false gone (fun lingers => lingers.2.2 trivial (by simpa using release))
        · rename_i held
          rw [now]
          exact ⟨fun same => ⟨same, trivial, fun _ release => held (by simpa using release)⟩, And.left⟩

/-- The state of a detector after its step, as far as the triggers look at it. -/
theorem detectorStep_inc :
    ((detectorStep cfg inp s d).detector.get d).state = .inc ↔
      Enters cfg inp s d ∨ Lingers cfg inp s d .inc := by
  rcases detectorStep_event cfg inp s d with ⟨enters, step⟩ | ⟨leaves, step⟩ | ⟨stays, stays', -⟩
  · refine iff_of_true ?_ (Or.inl enters)
    rw [step]
    simp [countIn, enter]
  · have locked := leaves.2.2.1
    refine iff_of_false ?_ ?_
    · rw [step]
      simp [enter]
    · rintro (enters | lingers)
      · exact not_leaves_of_enters cfg inp s d enters leaves
      · rw [lingers.1] at locked
        cases locked
  · rw [detectorStep_lingers (Or.inl rfl) stays stays']
    exact (or_iff_right stays).symm

theorem detectorStep_dec :
    ((detectorStep cfg inp s d).detector.get d).state = .dec ↔
      Leaves cfg inp s d ∨ Lingers cfg inp s d .dec := by
  rcases detectorStep_event cfg inp s d with ⟨enters, step⟩ | ⟨leaves, step⟩ | ⟨stays, stays', -⟩
  · have locked := enters.2.2.1
    refine iff_of_false ?_ ?_
    · rw [step]
      simp [countIn, enter]
    · rintro (leaves | lingers)
      · exact not_leaves_of_enters cfg inp s d enters leaves
      · rw [lingers.1] at locked
        cases locked
  · refine iff_of_true ?_ (Or.inl leaves)
    rw [step]
    simp [enter]
  · rw [detectorStep_lingers (Or.inr rfl) stays stays']
    exact (or_iff_right stays').symm

end

/-! ## The count over both steps -/

/-- The crossing that a step of detector `d` counts. -/
def passage? (cfg : Settings) (inp : LoopInput) (s : Status) (d : DetectorType) : Option Passage :=
  if Enters cfg inp s d then some .entry
  else if Leaves cfg inp s d then some .exit
  else none

/-- The count after a step that counts `way`. -/
def countAfter (people : Int) : Option Passage → Int
  | none => people
  | some way => way.count people

section
variable {cfg : Settings} {inp : LoopInput} {s : Status} {d : DetectorType}

theorem passage_entry : passage? cfg inp s d = some .entry ↔ Enters cfg inp s d := by
  unfold passage?
  split
  · rename_i enters
    exact iff_of_true rfl enters
  · rename_i stays
    refine iff_of_false ?_ stays
    split <;> intro same <;> cases same

theorem passage_exit : passage? cfg inp s d = some .exit ↔ Leaves cfg inp s d := by
  unfold passage?
  split
  · rename_i enters
    refine iff_of_false (fun same => by cases same) ?_
    exact not_leaves_of_enters cfg inp s d enters
  · split
    · rename_i leaves
      exact iff_of_true rfl leaves
    · rename_i stays
      exact iff_of_false (fun same => by cases same) stays

theorem detectorStep_people : (detectorStep cfg inp s d).peopleCount =
    countAfter s.peopleCount (passage? cfg inp s d) := by
  rcases detectorStep_event cfg inp s d with ⟨enters, step⟩ | ⟨leaves, step⟩ | ⟨stays, stays', same, -⟩
  · rw [passage_entry.mpr enters, step]
    rfl
  · rw [passage_exit.mpr leaves, step, countOut_people]
    rfl
  · rw [passage?, if_neg stays, if_neg stays', same]
    rfl

end

/-- The entries among two crossings. -/
def entriesOf (a b : Option Passage) : Nat :=
  (if a = some .entry then 1 else 0) + (if b = some .entry then 1 else 0)

/-- What brings the count down to zero: the only one leaves and nobody enters, or the last two leave
at both ends. -/
def Empties (people : Int) (a b : Option Passage) : Prop :=
  people = 1 ∧ (a = some .exit ∧ b ≠ some .entry ∨ a ≠ some .entry ∧ b = some .exit) ∨
    people = 2 ∧ a = some .exit ∧ b = some .exit

section
variable {people : Int}

theorem count_entry (low : 0 ≤ people) (room : people + 1 < 2 ^ 31) :
    Passage.entry.count people = people + 1 := by
  show wrapInt32 (people + 1) = people + 1
  unfold wrapInt32
  omega

theorem count_exit (low : 0 ≤ people) (room : people < 2 ^ 31) :
    Passage.exit.count people = max (people - 1) 0 := by
  show (if people = 0 then 0 else wrapInt32 (people - 1)) = max (people - 1) 0
  unfold wrapInt32
  split <;> omega

/-- Both crossings, when no entry overflows the count. -/
theorem countAfter_eq (a b : Option Passage) (low : 0 ≤ people)
    (room : people + entriesOf a b < 2 ^ 31) :
    countAfter (countAfter people a) b =
      match a, b with
      | none, none => people
      | none, some .entry | some .entry, none => people + 1
      | none, some .exit | some .exit, none => max (people - 1) 0
      | some .entry, some .entry => people + 2
      | some .entry, some .exit => people
      | some .exit, some .entry => max people 1
      | some .exit, some .exit => max (people - 2) 0 := by
  rcases a with _ | _ | _ <;> rcases b with _ | _ | _ <;>
    simp only [entriesOf, reduceCtorEq, if_false, if_true, Option.some.injEq] at room <;>
    simp (disch := omega) only [countAfter, count_entry, count_exit] <;>
    omega

variable (a b : Option Passage) (low : 0 ≤ people) (room : people + entriesOf a b < 2 ^ 31)
include low room

/-- The count rises if somebody enters and nobody leaves; an exit from nobody, evaluated first, does
not count. -/
theorem countAfter_rises_iff : people < countAfter (countAfter people a) b ↔
    a = some .entry ∧ b ≠ some .exit ∨ b = some .entry ∧ (a = some .exit → people = 0) := by
  rw [countAfter_eq a b low room]
  rcases a with _ | _ | _ <;> rcases b with _ | _ | _ <;> simp <;> omega

theorem countAfter_empties_iff : 0 < people ∧ countAfter (countAfter people a) b = 0 ↔
    Empties people a b := by
  rw [countAfter_eq a b low room, Empties]
  rcases a with _ | _ | _ <;> rcases b with _ | _ | _ <;> simp <;> omega

/-- Without an overflow the count stays at or above zero. -/
theorem countAfter_low : 0 ≤ countAfter (countAfter people a) b := by
  rw [countAfter_eq a b low room]
  rcases a with _ | _ | _ <;> rcases b with _ | _ | _ <;> dsimp only <;> omega

end

/-! ## What the triggers select -/

/-- The status that both detectors are evaluated from in an iteration from `s`. -/
def sampledIn (cfg : Settings) (inp : LoopInput) (s : MainState) : Status :=
  sampled cfg inp s.senPrevError s.status

/-- The status that the triggers read in an iteration from `s`. -/
def sensedIn (cfg : Settings) (inp : LoopInput) (s : MainState) : Status :=
  sense cfg inp s.senPrevError s.status

section
variable (cfg : Settings) (inp : LoopInput) (s : MainState) (d : DetectorType)

/-- The iteration sets `led_on_d` and `led_on_d_ts`. -/
def StartsOn : Prop :=
  (sensedIn cfg inp s).prevPeopleCount < (sensedIn cfg inp s).peopleCount ∧
    ((sensedIn cfg inp s).detector.get d).state = .inc ∧
    (s.waves.get (.ofInc d)).cnt ≠ cfg.num .ledCount

/-- The iteration sets `led_off_d` and `led_off_d_ts`, apart from the off timeout. -/
def StartsOff : Prop :=
  (sensedIn cfg inp s).peopleCount < (sensedIn cfg inp s).prevPeopleCount ∧
    ((sensedIn cfg inp s).detector.get d).state = .dec ∧ (sensedIn cfg inp s).peopleCount = 0 ∧
    (s.waves.get (.ofDec d)).cnt ≠ cfg.num .ledCount

instance : Decidable (StartsOn cfg inp s d) := inferInstanceAs (Decidable (_ ∧ _ ∧ _))

instance : Decidable (StartsOff cfg inp s d) := inferInstanceAs (Decidable (_ ∧ _ ∧ _ ∧ _))

/-- The triggers write the flag and the timestamp of the waves they select. -/
theorem triggerWaves_get (clock : LoopClock) (t : Status) (ws : Waves) :
    (triggerWaves cfg clock t ws).get (.ofInc d) =
        (if t.prevPeopleCount < t.peopleCount ∧ (t.detector.get d).state = .inc ∧
            (ws.get (.ofInc d)).cnt ≠ cfg.num .ledCount
          then { ws.get (.ofInc d) with on := true, ts := clock.now (.trigger d) }
          else ws.get (.ofInc d)) ∧
      (triggerWaves cfg clock t ws).get (.ofDec d) =
        (if t.peopleCount < t.prevPeopleCount ∧ (t.detector.get d).state = .dec ∧ t.peopleCount = 0 ∧
            (ws.get (.ofDec d)).cnt ≠ cfg.num .ledCount
          then { ws.get (.ofDec d) with on := true, ts := clock.now (.trigger d) }
          else ws.get (.ofDec d)) := by
  rcases triggerWaves_cases cfg clock t ws with ⟨risen, waves⟩ | ⟨fallen, waves⟩ | ⟨same, waves⟩
  · have risen' : t.prevPeopleCount < t.peopleCount := risen
    have up : ¬ t.peopleCount < t.prevPeopleCount := by omega
    rw [waves]
    constructor
    · rw [if_congr (and_iff_right risen') rfl rfl, ite_and]
      cases d <;> rfl
    · rw [if_neg (fun starts => up starts.1)]
      cases d <;> rfl
  · have down : ¬ t.prevPeopleCount < t.peopleCount := by omega
    rw [waves]
    constructor
    · rw [if_neg (fun starts => down starts.1)]
      cases d <;> rfl
    · rw [if_congr (and_iff_right fallen) rfl rfl, if_congr and_assoc.symm rfl rfl, ite_and]
      cases d <;> rfl
  · rw [waves, same, if_neg (fun starts => Int.lt_irrefl _ starts.1),
      if_neg (fun starts => Int.lt_irrefl _ starts.1)]
    exact ⟨rfl, rfl⟩

/-- What the guards `StartsOn` and `StartsOff` stand for: the waves after the triggers and the off
timeout, which itself writes no on wave. -/
theorem reacted_starts :
    (reacted cfg inp s).waves.get (.ofInc d) =
        (if StartsOn cfg inp s d
          then { s.waves.get (.ofInc d) with on := true, ts := inp.clock.now (.trigger d) }
          else s.waves.get (.ofInc d)) ∧
      (offTimeoutDue cfg inp.clock (sensedIn cfg inp s)
          (triggerWaves cfg inp.clock (sensedIn cfg inp s) s.waves) = false →
        (reacted cfg inp s).waves.get (.ofDec d) =
          if StartsOff cfg inp s d
            then { s.waves.get (.ofDec d) with on := true, ts := inp.clock.now (.trigger d) }
            else s.waves.get (.ofDec d)) := by
  obtain ⟨on, off⟩ := triggerWaves_get cfg d inp.clock (sensedIn cfg inp s) s.waves
  rcases reacted_waves cfg inp s with ⟨-, waves⟩ | ⟨due, -, last, waves⟩
  · rw [waves]
    exact ⟨on, fun _ => off⟩
  · constructor
    · rw [waves, offTimeoutWaves_eq, Waves.get_set_other _ _ (by cases d <;> cases last <;> decide)]
      exact on
    · intro idle
      rw [sensedIn, due] at idle
      cases idle

/-- `d` itself makes a transition from `before` to `after` in the iteration. -/
def Moves (before after : DetectorState) : Prop :=
  (s.status.detector.get d).state = before ∧ ((sensedIn cfg inp s).detector.get d).state = after

/-- The waves of `d` start exactly when `d` itself has counted. -/
structure StartsExactly : Prop where
  on : StartsOn cfg inp s d ↔ Moves cfg inp s d .firstLock .inc
  off : StartsOff cfg inp s d ↔ Moves cfg inp s d .secondLock .dec ∧
    0 < s.status.peopleCount ∧ (sensedIn cfg inp s).peopleCount = 0

end

/-! ## When they do -/

/-- The other end of the stairs. -/
def DetectorType.other : DetectorType → DetectorType
  | up => down
  | down => up

section
variable (cfg : Settings) (inp : LoopInput) (s : MainState)

/-- The crossing that the iteration counts at detector `d`. -/
def counted? (d : DetectorType) : Option Passage := passage? cfg inp (sampledIn cfg inp s) d

/-- No signed overflow of `people_count` in the iteration. -/
def Room : Prop :=
  s.status.peopleCount + entriesOf (counted? cfg inp s .up) (counted? cfg inp s .down) < 2 ^ 31

/-- The iteration takes the last counted people away. -/
def EmptiesIn : Prop :=
  Empties s.status.peopleCount (counted? cfg inp s .up) (counted? cfg inp s .down)

/-- What keeps the triggers of `d` from missing a transition of `d`, or from taking an older one for
it: a wave between its last step and its reset ignores events, the change of the count is that of
both detectors together, and the state of `d` outlasts its transition. -/
structure TriggersClean (d : DetectorType) : Prop where
  entry : Enters cfg inp (sampledIn cfg inp s) d → (s.waves.get (.ofInc d)).cnt ≠ cfg.num .ledCount ∧
    (Leaves cfg inp (sampledIn cfg inp s) d.other → d = .down ∧ s.status.peopleCount = 0)
  otherEntry : Enters cfg inp (sampledIn cfg inp s) d.other →
    Lingers cfg inp (sampledIn cfg inp s) d .inc → (s.waves.get (.ofInc d)).cnt = cfg.num .ledCount
  exit : EmptiesIn cfg inp s → Leaves cfg inp (sampledIn cfg inp s) d →
    (s.waves.get (.ofDec d)).cnt ≠ cfg.num .ledCount
  otherExit : EmptiesIn cfg inp s → Lingers cfg inp (sampledIn cfg inp s) d .dec →
    (s.waves.get (.ofDec d)).cnt = cfg.num .ledCount

/-- The detectors and the count that the triggers read, from the sampled status. -/
theorem sensedIn_spec :
    (sensedIn cfg inp s).peopleCount = countAfter
        (countAfter s.status.peopleCount (counted? cfg inp s .up)) (counted? cfg inp s .down) ∧
      ∀ d, (sensedIn cfg inp s).detector.get d =
        (detectorStep cfg inp (sampledIn cfg inp s) d).detector.get d := by
  have frame := (detectorStep_move cfg inp (sampledIn cfg inp s) .up).frame
  obtain ⟨same, enters, leaves⟩ :=
    @detectorStep_local cfg inp _ _ _ frame.2.2.1 frame.2.1 (frame.1 .down (by decide))
  obtain ⟨up, down, -⟩ := @bothSteps_spec cfg inp (sampledIn cfg inp s) .up .down (by decide)
  refine ⟨?_, ?_⟩
  · have later : passage? cfg inp (detectorStep cfg inp (sampledIn cfg inp s) .up) .down =
        counted? cfg inp s .down := by
      rw [counted?, passage?, passage?, if_congr enters rfl (if_congr leaves rfl rfl)]
    rw [sensedIn, sense_eq, detectorStep_people, ← sampledIn, later, detectorStep_people, ← counted?,
      sampledIn, (sampled_frame cfg inp s.senPrevError s.status).2.1]
  · intro d
    cases d with
    | up => exact up
    | down => exact down

theorem moves_inc_iff (d : DetectorType) :
    Moves cfg inp s d .firstLock .inc ↔ Enters cfg inp (sampledIn cfg inp s) d := by
  have before : (sampledIn cfg inp s).detector.get d = s.status.detector.get d := by
    rw [sampledIn, (sampled_frame cfg inp s.senPrevError s.status).1]
  rw [Moves, (sensedIn_spec cfg inp s).2, detectorStep_inc, ← before]
  constructor
  · rintro ⟨locked, enters | lingers⟩
    · exact enters
    · rw [lingers.1] at locked
      cases locked
  · intro enters
    exact ⟨enters.2.2.1, Or.inl enters⟩

theorem moves_dec_iff (d : DetectorType) :
    Moves cfg inp s d .secondLock .dec ↔ Leaves cfg inp (sampledIn cfg inp s) d := by
  have before : (sampledIn cfg inp s).detector.get d = s.status.detector.get d := by
    rw [sampledIn, (sampled_frame cfg inp s.senPrevError s.status).1]
  rw [Moves, (sensedIn_spec cfg inp s).2, detectorStep_dec, ← before]
  constructor
  · rintro ⟨locked, leaves | lingers⟩
    · exact leaves
    · rw [lingers.1] at locked
      cases locked
  · intro leaves
    exact ⟨leaves.2.2.1, Or.inl leaves⟩

end

section
variable {cfg : Settings} {inp : LoopInput} {s : MainState}
  (prev : s.status.prevPeopleCount = s.status.peopleCount) (low : 0 ≤ s.status.peopleCount)
  (room : Room cfg inp s)
include prev low room

/-- The count rises if somebody enters and nobody leaves, or the lower end lets somebody in after
the upper one has let nobody out. -/
theorem sensedIn_rises_iff :
    (sensedIn cfg inp s).prevPeopleCount < (sensedIn cfg inp s).peopleCount ↔
      ∃ d, Enters cfg inp (sampledIn cfg inp s) d ∧
        (Leaves cfg inp (sampledIn cfg inp s) d.other → d = .down ∧ s.status.peopleCount = 0) := by
  have before : (sensedIn cfg inp s).prevPeopleCount = s.status.peopleCount := by
    rw [sensedIn, sense_prevPeopleCount, prev]
  rw [before, (sensedIn_spec cfg inp s).1, countAfter_rises_iff _ _ low room]
  unfold counted?
  rw [passage_entry, passage_entry, passage_exit, Ne, passage_exit]
  constructor
  · rintro (⟨enters, stays⟩ | ⟨enters, nobody⟩)
    · exact ⟨.up, enters, fun leaves => absurd leaves stays⟩
    · exact ⟨.down, enters, fun leaves => ⟨rfl, nobody leaves⟩⟩
  · rintro ⟨d, enters, clear⟩
    cases d with
    | up =>
      refine Or.inl ⟨enters, fun leaves => ?_⟩
      cases (clear leaves).1
    | down => exact Or.inr ⟨enters, fun leaves => (clear leaves).2⟩

omit prev in
theorem sensedIn_empties_iff :
    0 < s.status.peopleCount ∧ (sensedIn cfg inp s).peopleCount = 0 ↔ EmptiesIn cfg inp s := by
  rw [(sensedIn_spec cfg inp s).1, countAfter_empties_iff _ _ low room]
  rfl

/-- The on wave of `d` starts exactly when `d` has counted somebody in. -/
theorem startsOn_exactly_iff (d : DetectorType) :
    (StartsOn cfg inp s d ↔ Moves cfg inp s d .firstLock .inc) ↔
      (Enters cfg inp (sampledIn cfg inp s) d → (s.waves.get (.ofInc d)).cnt ≠ cfg.num .ledCount ∧
        (Leaves cfg inp (sampledIn cfg inp s) d.other → d = .down ∧ s.status.peopleCount = 0)) ∧
      (Enters cfg inp (sampledIn cfg inp s) d.other → Lingers cfg inp (sampledIn cfg inp s) d .inc →
        (s.waves.get (.ofInc d)).cnt = cfg.num .ledCount) := by
  have state := @detectorStep_inc cfg inp (sampledIn cfg inp s) d
  rw [moves_inc_iff, StartsOn, sensedIn_rises_iff prev low room, (sensedIn_spec cfg inp s).2, state]
  constructor
  · intro exactly
    constructor
    · intro enters
      obtain ⟨⟨e, enters', clear⟩, -, busy⟩ := exactly.mpr enters
      refine ⟨busy, ?_⟩
      by_cases same : e = d
      · rw [same] at clear
        exact clear
      · -- the other end lets somebody in, so it lets nobody out
        have other : e = d.other := by
          cases e <;> cases d <;> first | rfl | exact absurd rfl same
        rw [other] at enters'
        exact fun leaves => absurd leaves (not_leaves_of_enters _ _ _ _ enters')
    · intro enters lingers
      have locked := lingers.1
      by_contra idle
      have stays := exactly.mp ⟨⟨d.other, enters, fun leaves => ?_⟩, Or.inr lingers, idle⟩
      · rw [stays.2.2.1] at locked
        cases locked
      · have twice : d.other.other = d := by cases d <;> rfl
        rw [twice] at leaves
        rw [leaves.2.2.1] at locked
        cases locked
  · rintro ⟨entry, otherEntry⟩
    constructor
    · rintro ⟨⟨e, enters, -⟩, entered | lingers, idle⟩
      · exact entered
      · by_cases same : e = d
        · rw [same] at enters
          exact enters
        · have other : e = d.other := by
            cases e <;> cases d <;> first | rfl | exact absurd rfl same
          rw [other] at enters
          exact absurd (otherEntry enters lingers) idle
    · intro enters
      obtain ⟨idle, clear⟩ := entry enters
      exact ⟨⟨d, enters, clear⟩, Or.inl enters, idle⟩

/-- The off wave of `d` starts exactly when `d` has counted out and nobody is left. -/
theorem startsOff_exactly_iff (d : DetectorType) :
    (StartsOff cfg inp s d ↔ Moves cfg inp s d .secondLock .dec ∧
        0 < s.status.peopleCount ∧ (sensedIn cfg inp s).peopleCount = 0) ↔
      (EmptiesIn cfg inp s → Leaves cfg inp (sampledIn cfg inp s) d →
        (s.waves.get (.ofDec d)).cnt ≠ cfg.num .ledCount) ∧
      (EmptiesIn cfg inp s → Lingers cfg inp (sampledIn cfg inp s) d .dec →
        (s.waves.get (.ofDec d)).cnt = cfg.num .ledCount) := by
  have before : (sensedIn cfg inp s).prevPeopleCount = s.status.peopleCount := by
    rw [sensedIn, sense_prevPeopleCount, prev]
  have falls : (sensedIn cfg inp s).peopleCount < s.status.peopleCount ∧
      (sensedIn cfg inp s).peopleCount = 0 ↔ EmptiesIn cfg inp s := by
    rw [← sensedIn_empties_iff low room]
    omega
  have starts : StartsOff cfg inp s d ↔ EmptiesIn cfg inp s ∧
      (Leaves cfg inp (sampledIn cfg inp s) d ∨ Lingers cfg inp (sampledIn cfg inp s) d .dec) ∧
      (s.waves.get (.ofDec d)).cnt ≠ cfg.num .ledCount := by
    rw [StartsOff, before, (sensedIn_spec cfg inp s).2, detectorStep_dec, ← falls]
    constructor
    · rintro ⟨fallen, state, nobody, idle⟩
      exact ⟨⟨fallen, nobody⟩, state, idle⟩
    · rintro ⟨⟨fallen, nobody⟩, state, idle⟩
      exact ⟨fallen, state, nobody, idle⟩
  rw [moves_dec_iff, sensedIn_empties_iff low room, starts]
  constructor
  · intro exactly
    constructor
    · intro empties leaves
      exact (exactly.mpr ⟨leaves, empties⟩).2.2
    · intro empties lingers
      have locked := lingers.1
      by_contra idle
      have leaves := (exactly.mp ⟨empties, Or.inr lingers, idle⟩).1
      rw [leaves.2.2.1] at locked
      cases locked
  · rintro ⟨exit, otherExit⟩
    constructor
    · rintro ⟨empties, left | lingers, idle⟩
      · exact ⟨left, empties⟩
      · exact absurd (otherExit empties lingers) idle
    · rintro ⟨leaves, empties⟩
      exact ⟨empties, Or.inl leaves, exit empties leaves⟩

theorem startsExactly_iff (d : DetectorType) :
    StartsExactly cfg inp s d ↔ TriggersClean cfg inp s d := by
  have on := startsOn_exactly_iff prev low room d
  have off := startsOff_exactly_iff prev low room d
  constructor
  · rintro ⟨exactOn, exactOff⟩
    obtain ⟨entry, otherEntry⟩ := on.mp exactOn
    obtain ⟨exit, otherExit⟩ := off.mp exactOff
    exact ⟨entry, otherEntry, exit, otherExit⟩
  · rintro ⟨entry, otherEntry, exit, otherExit⟩
    exact ⟨on.mpr ⟨entry, otherEntry⟩, off.mpr ⟨exit, otherExit⟩⟩

omit prev in
/-- One iteration keeps the count from falling below zero. -/
theorem mainLoop_people_low : 0 ≤ (mainLoop cfg s inp).status.peopleCount := by
  rw [mainLoop_status]
  rcases reacted_waves cfg inp s with ⟨stands, -⟩ | ⟨-, cleared, -⟩
  · rw [stands, ← sensedIn, (sensedIn_spec cfg inp s).1]
    exact countAfter_low _ _ low room
  · rw [cleared]

end

/-! ## Over runs -/

/-- Without an overflow the count of a run is never negative. -/
theorem runAt_people_low (cfg : Settings) (inp : Nat → LoopInput) (n : Nat)
    (room : ∀ k, k < n → Room cfg (inp k) (runAt cfg inp k)) :
    0 ≤ (runAt cfg inp n).status.peopleCount := by
  induction n with
  | zero =>
    rw [runAt_zero]
    exact Int.le_refl 0
  | succ n ih =>
    rw [runAt_succ]
    exact mainLoop_people_low (ih (fun k before => room k (by omega))) (room n (by omega))

/-- **The waves start exactly for the detector that counted**, in an iteration of a run without
overflow, if and only if its triggers are clean. -/
theorem waves_start_exactly_iff (cfg : Settings) (inp : Nat → LoopInput) (n : Nat)
    (room : ∀ k, k ≤ n → Room cfg (inp k) (runAt cfg inp k)) (d : DetectorType) :
    StartsExactly cfg (inp n) (runAt cfg inp n) d ↔ TriggersClean cfg (inp n) (runAt cfg inp n) d :=
  startsExactly_iff (runAt_prev cfg inp n) (runAt_people_low cfg inp n (fun k before => room k (by omega)))
    (room n (Nat.le_refl n)) d

/-- Somebody stands in the upper detector while somebody enters at the lower end. -/
def secondEntry : Nat → LoopInput :=
  scripted 100 [[.upFirst], [.upFirst, .upSecond], [.upFirst, .downFirst],
    [.upFirst, .downFirst, .downSecond]]

theorem secondEntry_room : ∀ k, k ≤ 3 → Room defaultSettings (secondEntry k)
    (runAt defaultSettings secondEntry k) := by
  have all : ∀ k, k < 4 → Room defaultSettings (secondEntry k) (runAt defaultSettings secondEntry k) := by
    unfold Room counted? passage?
    decide +kernel
  exact fun k bound => all k (by omega)

/-- The wave of the lower end starts for the entry there. -/
theorem waves_start_exactly_iff_second :
    StartsExactly defaultSettings (secondEntry 3) (runAt defaultSettings secondEntry 3) .down ↔
      TriggersClean defaultSettings (secondEntry 3) (runAt defaultSettings secondEntry 3) .down :=
  waves_start_exactly_iff defaultSettings secondEntry 3 secondEntry_room .down

/-- The wave of the upper end starts as well, for nobody. -/
theorem waves_start_exactly_fail :
    defaultSettings.Valid ∧
      StartsOn defaultSettings (secondEntry 3) (runAt defaultSettings secondEntry 3) .up ∧
      ¬ Moves defaultSettings (secondEntry 3) (runAt defaultSettings secondEntry 3) .up .firstLock .inc ∧
      Moves defaultSettings (secondEntry 3) (runAt defaultSettings secondEntry 3) .down .firstLock .inc := by
  refine ⟨defaultSettings_valid, ?_⟩
  unfold Moves
  decide +kernel

end Stairway
