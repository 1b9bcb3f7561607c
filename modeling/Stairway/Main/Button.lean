import Mathlib.Data.Set.Card
import Stairway.Firmware.Pulses
import Stairway.Main.Frame
import Stairway.Settings.Operations

/-!
# The button (`main.c`)

The loop with the active settings. The button is polled every 500 ms, and its debounce counter runs up
again while it is held; a long press toggles the access point once, at its fourth sample
(`press_toggles_once`).
-/

namespace Stairway
open Firmware

/-- What an iteration meets: its inputs, the outcomes of a flash write, and what the network and the
command line make of the settings. -/
structure Iteration where
  inp : LoopInput
  ctl : FlashCtl
  others : Store → Store

/-- The loop and the settings, with the samples of the button so far and those at which `ap_state` was
toggled. -/
structure Controller where
  main : MainState
  store : Store
  samples : List Bool
  toggles : List Nat

namespace Controller

def boot (store : Store) : Controller := ⟨.boot (store.settings.num .ledCount), store, [], []⟩

/-- The button is polled. -/
def Polls (d : Controller) (it : Iteration) : Prop :=
  wordSub 64 (it.inp.clock.now .loop) d.main.button.prevTs > buttonPollPeriod

instance (d : Controller) (it : Iteration) : Decidable (d.Polls it) := by
  unfold Polls
  infer_instance

/-- `if (button_press_event) { settings->ap_state = !settings->ap_state; settings_write(); }` -/
def pressed (d : Controller) (it : Iteration) : Store :=
  if (pollButton it.inp d.main.button).pressEvent then (toggleApState it.ctl d.store).2 else d.store

/-- One iteration; a toggle is a change of `ap_state`. -/
def step (d : Controller) (it : Iteration) : Controller :=
  let samples := if d.Polls it then d.samples ++ [it.inp.bootselButton] else d.samples
  { main := mainLoop (d.pressed it).settings d.main it.inp
    store := it.others (d.pressed it)
    samples := samples
    toggles := if (d.pressed it).settings.flag .apState ≠ d.store.settings.flag .apState
      then d.toggles ++ [samples.length - 1] else d.toggles }

/-- The iterations since boot. -/
def run (store : Store) (its : List Iteration) : Controller := its.foldl step (.boot store)

end Controller

/-! ## The debounce counter -/

/-- The button after it has been held for `n` samples. -/
structure Button.Tracks (b : Button) (n : Nat) : Prop where
  state : b.state = decide (buttonDebounceCnt < n)
  debounce : b.debounce = if n ≤ buttonDebounceCnt then n else min (n - (buttonDebounceCnt + 1)) buttonDebounceCnt

section
variable {inp : LoopInput} {b : Button} {n : Nat}

theorem pollButton_taken (polls : wordSub 64 (inp.clock.now .loop) b.prevTs > buttonPollPeriod) : pollButton inp b =
    if inp.bootselButton then
      if b.debounce < buttonDebounceCnt then ⟨inp.clock.now .loop, b.debounce + 1, b.state, false⟩
      else if !b.state then ⟨inp.clock.now .loop, 0, true, true⟩
      else ⟨inp.clock.now .loop, b.debounce, b.state, false⟩
    else ⟨inp.clock.now .loop, 0, false, false⟩ := if_pos polls

/-- **A sample**: the press event comes with the fourth one in a row. -/
theorem pollButton_sample (tracks : b.Tracks n) (polls : wordSub 64 (inp.clock.now .loop) b.prevTs > buttonPollPeriod) :
    (pollButton inp b).Tracks (if inp.bootselButton then n + 1 else 0) ∧
      ((pollButton inp b).pressEvent = true ↔ inp.bootselButton = true ∧ n + 1 = buttonDebounceCnt + 1) := by
  obtain ⟨state, debounce⟩ := tracks
  have limit : buttonDebounceCnt = 3 := rfl
  rw [limit] at state debounce ⊢
  rw [pollButton_taken polls, limit]
  cases down : inp.bootselButton with
  | false => exact ⟨⟨rfl, rfl⟩, by simp⟩
  | true =>
    simp only [if_true]
    rcases Nat.lt_trichotomy n 3 with few | three | many
    · -- still counting
      have counter : b.debounce = n := by rw [debounce, if_pos (by omega)]
      rw [counter, if_pos few]
      refine ⟨⟨?_, ?_⟩, ?_⟩
      · simp [state]
        omega
      · simp
        omega
      · simp
        omega
    · subst three
      have counter : b.debounce = 3 := debounce
      have latch : b.state = false := state
      rw [counter, latch]
      exact ⟨⟨rfl, rfl⟩, by simp⟩
    · -- the counter has started again, and the latch holds back a second event
      have counter : b.debounce = min (n - 4) 3 := by rw [debounce, if_neg (by omega)]
      have latch : b.state = true := by rw [state, decide_eq_true many]
      rw [latch]
      by_cases runs : b.debounce < 3
      · rw [if_pos runs]
        refine ⟨⟨?_, ?_⟩, ?_⟩
        · simp
          omega
        · show b.debounce + 1 = _
          rw [if_neg (by omega)]
          omega
        · simp
          omega
      · rw [if_neg runs]
        refine ⟨⟨?_, ?_⟩, ?_⟩
        · simp
          omega
        · show b.debounce = _
          rw [if_neg (by omega)]
          omega
        · simp
          omega

theorem pollButton_prevTs (polls : wordSub 64 (inp.clock.now .loop) b.prevTs > buttonPollPeriod) :
    (pollButton inp b).prevTs = inp.clock.now .loop := by
  rw [pollButton_taken polls]
  simp only [apply_ite Button.prevTs, ite_self]

/-- Without a sample there is no event. -/
theorem pollButton_idle (idle : ¬ wordSub 64 (inp.clock.now .loop) b.prevTs > buttonPollPeriod) :
    pollButton inp b = { b with pressEvent := false } := if_neg idle

end

/-- The sections behind the button leave it alone. -/
theorem mainLoop_button (cfg : Settings) (s : MainState) (inp : LoopInput) :
    (mainLoop cfg s inp).button = pollButton inp s.button := by
  have tail : ∀ s' : MainState, (refreshStep cfg inp (testModeStep cfg inp s')).button = s'.button := by
    intro s'
    rcases refreshStep_cases cfg inp (testModeStep cfg inp s') with refresh | refresh <;>
      rcases testModeStep_cases cfg inp s' with test | ⟨leds, calls, test⟩ <;>
      rw [refresh, test]
  have waves : ∀ s' : MainState, (waveInterval cfg inp s').button = s'.button := by
    intro s'
    rcases waveInterval_cases cfg inp s' with skip | step
    · rw [skip]
    · obtain ⟨on, leds, off, -⟩ := emergencyOff_cases { s' with prevTs := inp.clock.now .loop } .up
      obtain ⟨on', leds', off', -⟩ := emergencyOff_cases
        (emergencyOff { s' with prevTs := inp.clock.now .loop } .up) .down
      rw [off] at off'
      rw [step, off, off']
      rfl
  obtain ⟨ts, on, leds, alarm, -⟩ := alarmed_cases cfg inp s
  have sensed : (reacted cfg inp s).button = pollButton inp s.button := by
    rw [reacted, stampBlocks]
    rcases reactToCount_cases cfg inp (senseStep cfg inp s) with stands | ⟨-, cleared⟩
    · rw [stands]
      rfl
    · rw [cleared]
      rfl
  rw [mainLoop_eq, tail, waves, alarm]
  exact sensed

/-- `ap_state` is inverted whatever becomes of the write. -/
theorem toggleApState_flag (ctl : FlashCtl) (st : Store) :
    (toggleApState ctl st).2.settings.flag .apState = !st.settings.flag .apState := by
  have written : ∀ b : Bool, (st.settings.setFlag .apState b).num .apState = b.toNat := by
    intro b
    exact Settings.num_setNum_same (by cases b <;> decide)
  have stored : (toggleApState ctl st).2.settings.num .apState = (!st.settings.flag .apState).toNat := by
    rw [toggleApState, settingsWrite_settings, Settings.num, stampHeader_raw _ rfl]
    exact written _
  rw [Settings.flag, stored]
  cases st.settings.flag .apState <;> rfl

/-! ## A run -/

/-- The button has seen the samples, and the toggles are at the fourth samples of the presses. -/
structure Controller.Watches (d : Controller) : Prop where
  tracks : d.main.button.Tracks (held d.samples)
  toggles : ∀ i, i ∈ d.toggles ↔ i < d.samples.length ∧ held (d.samples.take (i + 1)) = buttonDebounceCnt + 1
  ordered : d.toggles.Pairwise (· < ·)

namespace Controller

variable {d : Controller} {it : Iteration}

theorem boot_watches (store : Store) : (boot store).Watches :=
  ⟨⟨rfl, rfl⟩, fun i => by simp [boot], .nil⟩

/-- The button's part of the settings is the press event. -/
theorem pressed_flag (d : Controller) (it : Iteration) :
    (d.pressed it).settings.flag .apState ≠ d.store.settings.flag .apState ↔
      (pollButton it.inp d.main.button).pressEvent = true := by
  unfold pressed
  split
  · rename_i event
    rw [toggleApState_flag]
    simp [event]
  · rename_i quiet
    simp [quiet]

/-- A sample is a toggle exactly if it is the fourth one of a press. -/
theorem step_toggles (watches : d.Watches) (polls : d.Polls it) : (d.step it).toggles =
    if held (d.samples ++ [it.inp.bootselButton]) = buttonDebounceCnt + 1 then d.toggles ++ [d.samples.length]
    else d.toggles := by
  obtain ⟨-, event⟩ := pollButton_sample watches.tracks polls
  have fourth : held (d.samples ++ [it.inp.bootselButton]) = buttonDebounceCnt + 1 ↔
      (d.pressed it).settings.flag .apState ≠ d.store.settings.flag .apState := by
    rw [pressed_flag, event, held_append]
    cases it.inp.bootselButton <;> simp
  have samples : (d.step it).samples = d.samples ++ [it.inp.bootselButton] := if_pos polls
  have last : (d.step it).samples.length - 1 = d.samples.length := by simp [samples]
  have toggles : (d.step it).toggles = if (d.pressed it).settings.flag .apState ≠ d.store.settings.flag .apState
      then d.toggles ++ [(d.step it).samples.length - 1] else d.toggles := rfl
  rw [toggles, last]
  simp only [fourth]

theorem step_idle (idle : ¬ d.Polls it) : (d.step it).samples = d.samples ∧ (d.step it).toggles = d.toggles := by
  have quiet : ¬ (d.pressed it).settings.flag .apState ≠ d.store.settings.flag .apState := by
    rw [pressed_flag, pollButton_idle idle]
    exact Bool.false_ne_true
  exact ⟨if_neg idle, if_neg quiet⟩

theorem step_watches (watches : d.Watches) (it : Iteration) : (d.step it).Watches := by
  have button : (d.step it).main.button = pollButton it.inp d.main.button := mainLoop_button _ _ _
  by_cases polls : d.Polls it
  · have samples : (d.step it).samples = d.samples ++ [it.inp.bootselButton] := if_pos polls
    have earlier : ∀ i ∈ d.toggles, i < d.samples.length := fun i member => ((watches.toggles i).mp member).1
    have toggles := step_toggles watches polls
    have whole : (d.samples ++ [it.inp.bootselButton]).take (d.samples.length + 1) =
        d.samples ++ [it.inp.bootselButton] := List.take_of_length_le (by simp)
    refine ⟨?_, ?_, ?_⟩
    · rw [button, samples, held_append]
      exact (pollButton_sample watches.tracks polls).1
    · intro i
      rw [samples, List.length_append, List.length_singleton]
      rcases Nat.lt_trichotomy i d.samples.length with before | here | behind
      · have kept : i ∈ (d.step it).toggles ↔ i ∈ d.toggles := by
          rw [toggles]
          split
          · simp
            omega
          · rfl
        rw [kept, watches.toggles i, List.take_append_of_le_length (by omega)]
        exact and_congr_left fun _ => iff_of_true before (by omega)
      · subst here
        have absent : d.samples.length ∉ d.toggles := fun member => Nat.lt_irrefl _ (earlier _ member)
        rw [whole, toggles]
        split
        · rename_i fourth
          exact iff_of_true (List.mem_append_right _ List.mem_cons_self) ⟨Nat.lt_succ_self _, fourth⟩
        · rename_i other
          exact iff_of_false absent fun fourth => other fourth.2
      · refine iff_of_false (fun member => ?_) (fun inside => by omega)
        rw [toggles] at member
        split at member
        · rcases List.mem_append.mp member with old | new
          · have := earlier i old
            omega
          · rw [List.mem_singleton.mp new] at behind
            omega
        · have := earlier i member
          omega
    · rw [toggles]
      split
      · refine List.pairwise_append.mpr ⟨watches.ordered, List.pairwise_singleton _ _, ?_⟩
        intro i member j new
        rw [List.mem_singleton.mp new]
        exact earlier i member
      · exact watches.ordered
  · obtain ⟨samples, toggles⟩ := step_idle polls
    refine ⟨?_, ?_, ?_⟩
    · rw [button, samples, pollButton_idle polls]
      exact ⟨watches.tracks.state, watches.tracks.debounce⟩
    · rw [samples, toggles]
      exact watches.toggles
    · rw [toggles]
      exact watches.ordered

theorem run_watches (store : Store) (its : List Iteration) : (run store its).Watches := by
  have steps : ∀ (its : List Iteration) {d : Controller}, d.Watches → (its.foldl step d).Watches := by
    intro its
    induction its with
    | nil => exact fun watches => watches
    | cons it its ih => exact fun watches => ih (step_watches watches it)
  exact steps its (boot_watches store)

/-- Any samples are those of some run. -/
theorem run_samples (store : Store) (samples : List Bool) : ∃ its, (run store its).samples = samples ∧
    (run store its).main.button.prevTs = 501 * samples.length % 2 ^ 64 := by
  induction samples using List.reverseRecOn with
  | nil => exact ⟨[], rfl, rfl⟩
  | append_singleton samples b ih =>
    obtain ⟨its, sampled, prevTs⟩ := ih
    have fits : 501 * (samples.length + 1) % 2 ^ 64 < 2 ^ 64 := Nat.mod_lt _ (Nat.two_pow_pos 64)
    let it : Iteration :=
      ⟨{ LoopInput.sensing (.const _ fits) [] with bootselButton := b }, .done, id⟩
    have next : run store (its ++ [it]) = (run store its).step it := by
      rw [run, List.foldl_append]
      rfl
    have gap : wordSub 64 (501 * (samples.length + 1) % 2 ^ 64) (501 * samples.length % 2 ^ 64) = 501 := by
      rw [wordSub_mod (by omega) (by omega)]
      omega
    have polls : (run store its).Polls it := by
      show wordSub 64 (501 * (samples.length + 1) % 2 ^ 64) _ > buttonPollPeriod
      rw [prevTs, gap]
      decide
    refine ⟨its ++ [it], ?_, ?_⟩
    · rw [next, ← sampled]
      exact if_pos polls
    · have button : ((run store its).step it).main.button = pollButton it.inp (run store its).main.button :=
        mainLoop_button _ _ _
      rw [next, button, pollButton_prevTs polls, List.length_append, List.length_singleton]
      rfl

end Controller

/-- The presses that are long enough: where they start, and how long they are. -/
def longPresses (samples : List Bool) : Set (Nat × Nat) :=
  {press | Pulse samples press.1 press.2 ∧ buttonDebounceCnt + 1 ≤ press.2}

/-- **A long press toggles the access point once**, at its fourth sample, however long it lasts. -/
theorem press_toggles_once (store : Store) (its : List Iteration) :
    (∀ i, i ∈ (Controller.run store its).toggles ↔
        ∃ press ∈ longPresses (Controller.run store its).samples, i = press.1 + buttonDebounceCnt) ∧
      (Controller.run store its).toggles.Nodup ∧
      (Controller.run store its).toggles.length = (longPresses (Controller.run store its).samples).ncard := by
  have watches := Controller.run_watches store its
  generalize Controller.run store its = d at watches
  have places : ∀ i, i ∈ d.toggles ↔ ∃ press ∈ longPresses d.samples, i = press.1 + buttonDebounceCnt := by
    intro i
    rw [watches.toggles i]
    constructor
    · rintro ⟨inside, fourth⟩
      obtain ⟨start, len, pulse, long, place⟩ := (held_take_eq_iff (by decide) inside).mp fourth
      exact ⟨(start, len), ⟨pulse, long⟩, by omega⟩
    · rintro ⟨⟨start, len⟩, ⟨pulse, long⟩, place⟩
      dsimp only at pulse long place
      have seen := pulse.inside i (by omega) (by omega)
      obtain ⟨inside, -⟩ := List.getElem?_eq_some_iff.mp seen
      exact ⟨inside, (held_take_eq_iff (by decide) inside).mpr ⟨start, len, pulse, long, by omega⟩⟩
  have distinct : d.toggles.Nodup := watches.ordered.imp fun less => Nat.ne_of_lt less
  refine ⟨places, distinct, ?_⟩
  -- a press is known by the place of its toggle
  have known : Set.InjOn (fun press : Nat × Nat => press.1 + buttonDebounceCnt) (longPresses d.samples) := by
    rintro ⟨start, len⟩ ⟨pulse, -⟩ ⟨start', len'⟩ ⟨pulse', -⟩ same
    have starts : start = start' := Nat.add_right_cancel same
    subst starts
    have lengths : len = len' := pulse.unique pulse'
    rw [lengths]
  have image : (fun press : Nat × Nat => press.1 + buttonDebounceCnt) '' longPresses d.samples =
      (d.toggles.toFinset : Set Nat) := by
    ext i
    rw [Set.mem_image, Finset.mem_coe, List.mem_toFinset, places i]
    simp only [eq_comm]
  rw [← known.ncard_image, image, Set.ncard_coe_finset, List.toFinset_card_of_nodup distinct]

end Stairway
