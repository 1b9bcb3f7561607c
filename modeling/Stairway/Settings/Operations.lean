import Stairway.Network.SettingsJson
import Stairway.Commands.Commands

/-!
# The settings over a whole run

Everything that writes the active settings, as one operation type. The active settings are valid
at any time (`operations_valid`), and a reboot after a successful write loads them back without
touching the flash (`reboot_restores`): whatever an operation does ends either without a change
or in `settings_write`, which `StoreInvariant` follows.
-/

namespace Stairway
open Firmware

/-- The writers of `global_settings` after boot, with their arguments. -/
inductive SettingsOp
  | apply (s : Option Settings)
  | default
  | setJson (json : Option (List UInt8))
  | setSetting (cmd : SettingCommand) (args : List (List UInt8))
  | setWifiState (args : List (List UInt8))
  | toggleButton

/-- The button branch of the main loop: `settings->ap_state = !settings->ap_state`. -/
def toggleApState (ctl : FlashCtl) (st : Store) : ErrCode × Store :=
  settingsWrite ctl { st with settings := st.settings.setFlag .apState (!st.settings.flag .apState) }

/-- One operation, with the outcomes of its flash operations. -/
def SettingsOp.run (ctl : FlashCtl) (st : Store) : SettingsOp → ErrCode × Store
  | .apply s => settingsApply ctl s st
  | .default => settingsDefault ctl st
  | .setJson json => setSettingsJson ctl json st
  | .setSetting cmd args => Stairway.setSetting ctl cmd args st
  | .setWifiState args => Stairway.setWifiState ctl args st
  | .toggleButton => toggleApState ctl st

/-- A sequence of operations. -/
def runOps (st : Store) (ops : List (FlashCtl × SettingsOp)) : Store :=
  ops.foldl (fun st op => (op.2.run op.1 st).2) st

theorem runOps_singleton (ctl : FlashCtl) (op : SettingsOp) (st : Store) :
    runOps st [(ctl, op)] = (op.run ctl st).2 := rfl

/-- The state after boot on the flash contents `flash`, followed by `ops`. -/
def afterBoot (boot : FlashCtl) (flash : Flash) (ops : List (FlashCtl × SettingsOp)) : Store :=
  runOps (settingsInit boot flash).2 ops

/-- The active settings are valid; while the last write succeeded they are what the flash holds,
under a valid header. -/
structure StoreInvariant (st : Store) : Prop where
  valid : st.settings.Valid
  saved : st.lastWrite = some .success →
    st.flash.image = st.settings ∧ settingsIsValidHeader st.settings = true

section
variable (ctl : FlashCtl) {st : Store}

/-- `settings_write` on valid settings. -/
theorem settingsWrite_invariant (valid : st.settings.Valid) :
    StoreInvariant (settingsWrite ctl st).2 := by
  constructor
  · rw [settingsWrite_settings]
    exact stampHeader_settings_valid valid
  · intro success
    rw [settingsWrite_lastWrite, Option.some.injEq] at success
    refine ⟨settingsWrite_saved success, ?_⟩
    rw [settingsWrite_settings]
    exact stampHeader_valid st.settings

/-- The access point state may change without validation. -/
theorem setNum_apState_valid {s : Settings} (valid : s.Valid) (v : Nat) :
    (s.setNum .apState v).Valid := by
  apply valid.of_raw
  intro f looked
  apply Settings.raw_setNum_other
  intro same
  subst same
  cases looked

theorem settingsApply_invariant (h : StoreInvariant st) (s : Option Settings) :
    StoreInvariant (settingsApply ctl s st).2 := by
  cases s with
  | none => exact h
  | some s =>
    rw [settingsApply]
    split
    · exact h
    · rename_i accepted
      apply settingsWrite_invariant
      exact (settingsValidate_iff s).mp (Decidable.not_not.mp accepted)

/-- **Every operation keeps the invariant**, whatever its arguments and flash outcomes. -/
theorem SettingsOp.run_invariant (h : StoreInvariant st) (op : SettingsOp) :
    StoreInvariant (op.run ctl st).2 := by
  cases op with
  | apply s => exact settingsApply_invariant ctl h s
  | default => exact settingsWrite_invariant ctl defaultSettings_valid
  | setJson json =>
    change StoreInvariant (setSettingsJson ctl json st).2
    unfold setSettingsJson
    split
    · exact h
    · split
      · exact h
      · exact settingsApply_invariant ctl h _
  | setSetting cmd args =>
    change StoreInvariant (Stairway.setSetting ctl cmd args st).2
    unfold Stairway.setSetting
    split
    · split
      · exact h
      · split
        · exact h
        · exact settingsApply_invariant ctl h _
    · exact h
  | setWifiState args =>
    change StoreInvariant (Stairway.setWifiState ctl args st).2
    unfold Stairway.setWifiState
    split
    · split
      · exact h
      · exact settingsWrite_invariant ctl (setNum_apState_valid h.valid _)
    · exact h
  | toggleButton => exact settingsWrite_invariant ctl (setNum_apState_valid h.valid _)

end

theorem runOps_invariant {st : Store} (h : StoreInvariant st) (ops : List (FlashCtl × SettingsOp)) :
    StoreInvariant (runOps st ops) := by
  induction ops generalizing st with
  | nil => exact h
  | cons op ops ih => exact ih (op.2.run_invariant op.1 h)

/-- Boot ends with valid settings on any flash contents. -/
theorem settingsInit_invariant (ctl : FlashCtl) (flash : Flash) :
    StoreInvariant (settingsInit ctl flash).2 := by
  unfold settingsInit
  dsimp only
  split
  · exact settingsWrite_invariant ctl defaultSettings_valid
  · rename_i accepted
    simp only [Bool.or_eq_true, Bool.not_eq_true', decide_eq_true_eq, not_or] at accepted
    refine ⟨(settingsValidate_iff _).mp (Decidable.not_not.mp accepted.2), fun success => ?_⟩
    cases success

/-- A string member that is shorter than its array is terminated inside it. -/
theorem terminated_of_strnlen {m : List UInt8} {n : Nat} (length : m.length = n)
    (short : strnlen m < n) : 0 ∈ m := by
  apply Classical.byContradiction
  intro none
  have whole : cString m = m := by
    exact cString_of_nonzero none
  rw [strnlen, whole, length] at short
  omega

/-- **The active settings are always valid**: from boot on any flash contents, after any
operations with any flash outcomes. -/
theorem operations_valid (boot : FlashCtl) (flash : Flash) (ops : List (FlashCtl × SettingsOp)) :
    settingsValidate (afterBoot boot flash ops).settings = .success ∧
      (afterBoot boot flash ops).settings.Valid ∧
      0 ∈ (afterBoot boot flash ops).settings.raw .ssid ∧
      0 ∈ (afterBoot boot flash ops).settings.raw .pass := by
  have valid := (runOps_invariant (settingsInit_invariant boot flash) ops).valid
  refine ⟨(settingsValidate_iff _).mpr valid, valid, ?_, ?_⟩
  · exact terminated_of_strnlen (Settings.length_raw _ .ssid) valid.ssidMax
  · exact terminated_of_strnlen (Settings.length_raw _ .pass) valid.passMax

/-- **Settings survive a reboot exactly**: when the last write succeeded, `settings_init` finds
the active settings in flash, byte by byte, and neither restores the defaults nor erases or
programs anything. -/
theorem reboot_restores (boot : FlashCtl) (flash : Flash) (ops : List (FlashCtl × SettingsOp))
    (saved : (afterBoot boot flash ops).lastWrite = some .success) (reboot : FlashCtl) :
    settingsInit reboot (afterBoot boot flash ops).flash =
      (.success, { settings := (afterBoot boot flash ops).settings
                   flash := (afterBoot boot flash ops).flash
                   flashOps := []
                   lastWrite := none }) := by
  have inv := runOps_invariant (settingsInit_invariant boot flash) ops
  change StoreInvariant (afterBoot boot flash ops) at inv
  obtain ⟨image, header⟩ := inv.saved saved
  have accepted := (settingsValidate_iff _).mpr inv.valid
  unfold settingsInit
  dsimp only
  rw [image, header, accepted]
  rfl

/-- The default settings for five LEDs. -/
def fiveLeds : Settings := defaultSettings.setNum .ledCount 5

/-- A flash write whose erase fails. -/
def eraseFails : FlashCtl := ⟨⟨false, some id⟩, .done⟩

/-- The settings are applied but not written; the press of the button that follows writes them. -/
def retried : List (FlashCtl × SettingsOp) := [(eraseFails, .apply (some fiveLeds)), (.done, .toggleButton)]

section
variable (boot : FlashCtl) (flash : Flash)

theorem afterBoot_retried : afterBoot boot flash retried =
    (toggleApState .done (settingsApply eraseFails (some fiveLeds) (settingsInit boot flash).2).2).2 := by
  simp only [afterBoot, runOps, retried, List.foldl_cons, List.foldl_nil, SettingsOp.run]

theorem retried_saved : (afterBoot boot flash retried).lastWrite = some .success := by
  rw [afterBoot_retried, toggleApState, settingsWrite_lastWrite,
    settingsWrite_success_iff.mpr (writeSucceeds_done _ _)]

theorem retried_ledCount : (afterBoot boot flash retried).settings.num .ledCount = 5 := by
  have accepted : ¬ settingsValidate fiveLeds ≠ .success := by decide +kernel
  rw [afterBoot_retried, toggleApState, settingsWrite_settings, Settings.num, stampHeader_raw _ (by rfl),
    Settings.setFlag, Settings.raw_setNum_other _ (by decide), settingsApply, if_neg accepted,
    settingsWrite_settings, stampHeader_raw _ (by rfl), ← Settings.num, fiveLeds,
    Settings.num_setNum_same (by decide)]

end

/-- What the failed write left in the active settings, the next one stores. -/
theorem reboot_restores_retried :
    (afterBoot .done (fun _ => 0xFF) retried).settings.num .ledCount = 5 ∧
      settingsInit .done (afterBoot .done (fun _ => 0xFF) retried).flash =
        (.success, { settings := (afterBoot .done (fun _ => 0xFF) retried).settings
                     flash := (afterBoot .done (fun _ => 0xFF) retried).flash
                     flashOps := []
                     lastWrite := none }) :=
  ⟨retried_ledCount .done (fun _ => 0xFF),
    reboot_restores .done (fun _ => 0xFF) retried (retried_saved .done (fun _ => 0xFF)) .done⟩

end Stairway
