import Stairway.Main.Invariant

/-!
# Events on their way to a LED

`pending` collects what decides a LED: the event stored in it and the events of the waves that
still have it ahead of them. The newest of them is what the LED shows once the waves are
through, however their steps interleave (`waves_settle`); only starting or restamping a wave
changes it (`restarted_settles`).
-/

namespace Stairway
open Firmware

/-- Wave `k` runs and has LED `i` ahead of it. -/
def Waves.Ahead (ws : Waves) (ledCount : Nat) (k : WaveName) (i : Nat) : Prop :=
  (ws.get k).on = true ∧ (ws.get k).cnt ≤ k.position ledCount i

/-- The stored event of LED `i` and the events of the waves that have it ahead of them. -/
def pending (ledCount : Nat) (ws : Waves) (stamps : List (Stamped Bool Nat)) (i : Nat) :
    Set (Stamped Bool Nat) :=
  { e | stamps[i]? = some e ∨ ∃ k, ws.Ahead ledCount k i ∧ e = ⟨k.target, (ws.get k).ts⟩ }

/-- Every LED settles to `v`. -/
def Settles (ledCount : Nat) (ws : Waves) (stamps : List (Stamped Bool Nat)) (v : Bool) : Prop :=
  ∀ i, i < ledCount → Newest (pending ledCount ws stamps i) v

/-- The counter at which a wave sets LED `i`, and the LED it sets at that counter. -/
theorem waveIndex_eq_iff (k : WaveName) {ledCount cnt i : Nat} (fits : ledCount < 2 ^ 32)
    (below : cnt < ledCount) (inside : i < ledCount) :
    waveIndex k.fromTop ledCount cnt = i ↔ k.position ledCount i = cnt := by
  rw [waveIndex_eq k.fromTop fits below, WaveName.position]
  cases k.fromTop with
  | true =>
    rw [if_pos rfl, if_pos rfl]
    omega
  | false =>
    rw [if_neg Bool.false_ne_true, if_neg Bool.false_ne_true]
    exact eq_comm

section
variable {ledCount : Nat} {ws : Waves} {l : StairwayLeds} {v : Bool} {k : WaveName}

/-- A stored event settles a LED that no wave has ahead of it. -/
theorem stored_of_newest {stamps : List (Stamped Bool Nat)} {i : Nat}
    (settles : Newest (pending ledCount ws stamps i) v) (still : ∀ k, (ws.get k).on = false) :
    ∃ e, stamps[i]? = some e ∧ e.value = v := by
  obtain ⟨e, member, carries, -⟩ := settles
  rcases member with stored | ⟨k, ahead, -⟩
  · exact ⟨e, stored, carries⟩
  · have on := ahead.1
    rw [still k] at on
    cases on

/-- One call of a wave: its event reaches the LED and is no longer on its way to it. -/
theorem call_settles (fits : ledCount < 2 ^ 32) (sized : l.stamps.length = ledCount)
    (agree : l.ws2812.ledCount = ledCount) (on : (ws.get k).on = true)
    (below : (ws.get k).cnt < ledCount) (settles : Settles ledCount ws l.stamps v) :
    Settles ledCount (ws.set k { ws.get k with cnt := (ws.get k).cnt + 1 })
      (l.setState (waveIndex k.fromTop ledCount (ws.get k).cnt) k.target (ws.get k).ts).2.stamps v := by
  intro i inside
  have index := waveIndex_eq_iff k fits below inside
  have others : ∀ j, j ≠ k →
      (ws.set k { ws.get k with cnt := (ws.get k).cnt + 1 }).get j = ws.get j :=
    fun j other => Waves.get_set_other ws _ other
  have target : waveIndex k.fromTop ledCount (ws.get k).cnt < l.ws2812.ledCount := by
    rw [agree, waveIndex_eq k.fromTop fits below]
    split <;> omega
  rw [StairwayLeds.setState_stamps k.target (ws.get k).ts target]
  by_cases here : k.position ledCount i = (ws.get k).cnt
  · -- LED `i` is the one that is set
    obtain ⟨r, stored⟩ : ∃ r, l.stamps[i]? = some r :=
      ⟨_, List.getElem?_eq_getElem (by rw [sized]; exact inside)⟩
    rw [index.mpr here]
    refine Newest.put (w := ⟨k.target, (ws.get k).ts⟩) (settles i inside) (Or.inl stored)
      (Or.inr ⟨k, ⟨on, by omega⟩, rfl⟩) (Or.inl ?_) ?_ ?_
    · rw [List.getElem?_modify, stored]
      simp
    · intro e member notStored notArriving
      rcases member with kept | ⟨j, ahead, event⟩
      · rw [stored] at kept
        exact absurd (Option.some.inj kept).symm notStored
      · by_cases same : j = k
        · subst same
          exact absurd event notArriving
        · refine Or.inr ⟨j, ?_, ?_⟩
          · rw [Waves.Ahead, others j same]
            exact ahead
          · rw [others j same]
            exact event
    · intro e member
      rcases member with kept | ⟨j, ahead, event⟩
      · rw [List.getElem?_modify, stored] at kept
        simp only [if_true, Option.map_eq_map, Option.map_some, Option.some.injEq] at kept
        exact Or.inl kept.symm
      · by_cases same : j = k
        · subst same
          rw [Waves.Ahead, Waves.get_set_same] at ahead
          have past := ahead.2
          dsimp only at past
          omega
        · rw [Waves.Ahead, others j same] at ahead
          rw [others j same] at event
          exact Or.inr (Or.inr ⟨j, ahead, event⟩)
  · -- LED `i` is another one: nothing changes for it
    have same : pending ledCount (ws.set k { ws.get k with cnt := (ws.get k).cnt + 1 })
        (l.stamps.modify (waveIndex k.fromTop ledCount (ws.get k).cnt)
          (fun r => r.put ⟨k.target, (ws.get k).ts⟩)) i = pending ledCount ws l.stamps i := by
      have ahead : ∀ j, (ws.set k { ws.get k with cnt := (ws.get k).cnt + 1 }).Ahead ledCount j i ↔
          ws.Ahead ledCount j i := by
        intro j
        by_cases same : j = k
        · subst same
          rw [Waves.Ahead, Waves.Ahead, Waves.get_set_same]
          exact and_congr_right (fun _ => by dsimp only; omega)
        · rw [Waves.Ahead, Waves.Ahead, others j same]
      have ts : ∀ j, ((ws.set k { ws.get k with cnt := (ws.get k).cnt + 1 }).get j).ts =
          (ws.get j).ts := by
        intro j
        by_cases same : j = k
        · subst same
          rw [Waves.get_set_same]
        · rw [others j same]
      unfold pending
      simp only [ahead, ts]
      rw [List.getElem?_modify_ne _ _ (fun same => here (index.mp same))]
    rw [same]
    exact settles i inside

/-- The calls of a wave up to some later counter. -/
theorem calls_settle (fits : ledCount < 2 ^ 32) (sized : l.stamps.length = ledCount)
    (agree : l.ws2812.ledCount = ledCount) (on : (ws.get k).on = true) {b : Nat}
    (later : (ws.get k).cnt ≤ b) (inside : b ≤ ledCount) (settles : Settles ledCount ws l.stamps v) :
    Settles ledCount (ws.set k { ws.get k with cnt := b })
      (applyCalls l (waveCalls k ledCount (ws.get k).ts (ws.get k).cnt b)).stamps v := by
  obtain ⟨steps, count⟩ : ∃ steps, b = (ws.get k).cnt + steps := ⟨b - (ws.get k).cnt, by omega⟩
  induction steps generalizing ws l with
  | zero =>
    rw [Nat.add_zero] at count
    subst count
    rw [waveCalls_self, Waves.set_get]
    exact settles
  | succ steps ih =>
    have below : (ws.get k).cnt < b := by omega
    obtain ⟨ws2812, -, length⟩ := l.setState_frame
      (waveIndex k.fromTop ledCount (ws.get k).cnt) k.target (ws.get k).ts
    have first := call_settles fits sized agree on (by omega) settles
    have rest := ih (length.trans sized) ((congrArg Ws2812.ledCount ws2812).trans agree)
      (by rw [Waves.get_set_same]; exact on) (by rw [Waves.get_set_same]; dsimp only; omega)
      first (by rw [Waves.get_set_same]; dsimp only; omega)
    rw [Waves.get_set_same, Waves.set_set] at rest
    rw [waveCalls_cons below]
    exact rest

/-- A move of a wave, with its calls, changes nothing about what the LEDs settle to. -/
theorem WaveMove.settles {r : Wave × List LedCall} (move : WaveMove ledCount k (ws.get k) r)
    (fits : ledCount < 2 ^ 32) (sized : l.stamps.length = ledCount)
    (agree : l.ws2812.ledCount = ledCount) (settles : Settles ledCount ws l.stamps v) :
    Settles ledCount (ws.set k r.1) (applyCalls l r.2).stamps v := by
  cases move with
  | still =>
    rw [Waves.set_get]
    exact settles
  | finish on done =>
    intro i inside
    have position : k.position ledCount i < ledCount := by
      unfold WaveName.position
      split <;> omega
    have same : pending ledCount (ws.set k { ws.get k with cnt := 0, on := false }) l.stamps i =
        pending ledCount ws l.stamps i := by
      apply Set.ext
      intro e
      refine or_congr_right (exists_congr fun j => ?_)
      by_cases here : j = k
      · subst here
        rw [Waves.Ahead, Waves.Ahead, Waves.get_set_same]
        refine iff_of_false (fun ahead => ?_) (fun ahead => ?_)
        · cases ahead.1.1
        · have reached := ahead.1.2
          omega
      · rw [Waves.Ahead, Waves.Ahead, Waves.get_set_other ws _ here]
    change Newest (pending ledCount (ws.set k { ws.get k with cnt := 0, on := false }) l.stamps i) v
    rw [same]
    exact settles i inside
  | run on cnt later inside =>
    exact calls_settle fits sized agree on (Nat.le_of_lt later) inside settles

end

/-! ## The wave block -/

/-- The waves in the order in which the wave block steps them. -/
def waveOrder : List WaveName := [.ledOnUp, .ledOffUp, .ledOnDown, .ledOffDown]

/-- One wave steps and its calls are made. -/
def advance (cfg : Settings) (p : Waves × StairwayLeds) (k : WaveName) : Waves × StairwayLeds :=
  (p.1.set k (waveStep cfg k (p.1.get k)).1, applyCalls p.2 (waveStep cfg k (p.1.get k)).2)

/-- The wave block advances the four waves in order. -/
theorem stepWaves_eq (cfg : Settings) (s : MainState) :
    ((stepWaves cfg s).waves, (stepWaves cfg s).leds) =
      waveOrder.foldl (advance cfg) (s.waves, s.leds) := by
  have split : ∀ l a b, applyCalls l (a ++ b) = applyCalls (applyCalls l a) b :=
    fun l a b => List.foldl_append
  simp only [stepWaves, split]
  rfl

/-- The LED module keeps its size while waves advance. -/
theorem advance_sized (cfg : Settings) {n : Nat} (order : List WaveName) (p : Waves × StairwayLeds)
    (sized : p.2.stamps.length = n) (agree : p.2.ws2812.ledCount = n) :
    (order.foldl (advance cfg) p).2.stamps.length = n ∧
      (order.foldl (advance cfg) p).2.ws2812.ledCount = n := by
  induction order generalizing p with
  | nil => exact ⟨sized, agree⟩
  | cons k order ih =>
    obtain ⟨ws2812, -, length⟩ := applyCalls_frame p.2 (waveStep cfg k (p.1.get k)).2
    exact ih (advance cfg p k) (length.trans sized) ((congrArg Ws2812.ledCount ws2812).trans agree)

/-- **The wave block does not change what the LEDs settle to**, in whatever order waves step. -/
theorem waves_settle {cfg : Settings} {v : Bool} (order : List WaveName) (p : Waves × StairwayLeds)
    (sized : p.2.stamps.length = cfg.num .ledCount)
    (agree : p.2.ws2812.ledCount = cfg.num .ledCount)
    (settles : Settles (cfg.num .ledCount) p.1 p.2.stamps v) :
    Settles (cfg.num .ledCount) (order.foldl (advance cfg) p).1
      (order.foldl (advance cfg) p).2.stamps v := by
  induction order generalizing p with
  | nil => exact settles
  | cons k order ih =>
    obtain ⟨sized', agree'⟩ := advance_sized cfg [k] p sized agree
    exact ih (advance cfg p k) sized' agree'
      ((waveStep_move cfg k _).settles (cfg.num_lt .ledCount) sized agree settles)

/-! ## Starting a wave -/

/-- A wave of target `v` that is started, or restamped, with LED `i` ahead of it. -/
def Reached (v : Bool) (clock : LoopClock) (ledCount : Nat) (ws ws' : Waves) (i : Nat) : Prop :=
  ∃ k a, k.target = v ∧ ws'.get k = { ws.get k with on := true, ts := clock.now a } ∧
    (ws.get k).cnt ≤ k.position ledCount i

/-- A LED that a restarted wave has ahead of it settles to that wave's target, and the others
settle to what they did. -/
theorem restarted_settles {v : Bool} {clock : LoopClock} {ledCount i : Nat} {ws ws' : Waves}
    {stamps : List (Stamped Bool Nat)} (restarted : Restarted v clock ws ws')
    (older : ∀ e ∈ pending ledCount ws stamps i, e.value ≠ v → e.ts < clock.now .loop)
    (settles : Reached v clock ledCount ws ws' i ∨ Newest (pending ledCount ws stamps i) v) :
    Newest (pending ledCount ws' stamps i) v := by
  by_cases reached : Reached v clock ledCount ws ws' i
  · obtain ⟨k, a, target, started, ahead⟩ := reached
    refine Newest.of_latest (e := ⟨k.target, clock.now a⟩) (Or.inr ⟨k, ?_, ?_⟩) target ?_
    · rw [Waves.Ahead, started]
      exact ⟨rfl, ahead⟩
    · rw [started]
    · intro e member differs
      have before : e ∈ pending ledCount ws stamps i := by
        rcases member with stored | ⟨j, ahead', event⟩
        · exact Or.inl stored
        · rcases restarted j with same | ⟨target', -⟩
          · rw [Waves.Ahead, same] at ahead'
            rw [same] at event
            exact Or.inr ⟨j, ahead', event⟩
          · rw [event] at differs
            exact absurd target' differs
      exact lt_of_lt_of_le (older e before differs) (clock.loop_le a)
  · have same : pending ledCount ws' stamps i = pending ledCount ws stamps i := by
      apply Set.ext
      intro e
      refine or_congr_right (exists_congr fun j => ?_)
      rcases restarted j with same | ⟨target, a, started⟩
      · rw [Waves.Ahead, Waves.Ahead, same]
      · have passed : ¬ (ws.get j).cnt ≤ j.position ledCount i :=
          fun ahead => reached ⟨j, a, target, started, ahead⟩
        refine iff_of_false (fun ahead => passed ?_) (fun ahead => passed ahead.1.2)
        have ahead' := ahead.1.2
        rw [started] at ahead'
        exact ahead'
    rw [same]
    exact settles.resolve_left reached

end Stairway
