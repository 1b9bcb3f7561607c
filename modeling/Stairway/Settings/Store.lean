import Stairway.Settings.Validate
import Stairway.Firmware.Crc

/-!
# The active settings and their flash image (`settings.c`)

`Store` is the module's state: `global_settings` and the flash sector it is saved to, with the
history of flash operations and of `settings_write`. A flash operation runs under
`flash_safe_execute`, which may fail; `FlashOutcome` says how it ended and what it left in the
sector, so that a run fixes the outcome of every erase and every program.
-/

namespace Stairway
open Firmware

def flashPageSize : Nat := 256
def flashSectorSize : Nat := 4096

/-- The flash memory from `SETTINGS_OFFSET` on. -/
abbrev Flash := Nat → UInt8

/-- `memcpy(&global_settings, flash_target_contents, sizeof(Settings))`. -/
def Flash.image (flash : Flash) : Settings :=
  ⟨(List.range sizeofSettings).map flash, by rw [List.length_map, List.length_range]⟩

/-- `flash_range_erase(SETTINGS_OFFSET, FLASH_SECTOR_SIZE)`. -/
def flashRangeErase (flash : Flash) : Flash := fun i => if i < flashSectorSize then 0xFF else flash i

/-- `flash_range_program(SETTINGS_OFFSET, page, FLASH_PAGE_SIZE)`. -/
def flashRangeProgram (page : List UInt8) (flash : Flash) : Flash := fun i => page.getD i (flash i)

/-- How a `flash_safe_execute` ended: whether it returned `PICO_OK`, and the sector it left if
that is not what the operation is documented to do. -/
structure FlashOutcome where
  ok : Bool
  fault : Option (Flash → Flash)

/-- The operation was carried out. -/
def FlashOutcome.done : FlashOutcome := ⟨true, none⟩

/-- The sector after the operation. -/
def FlashOutcome.apply (outcome : FlashOutcome) (operation : Flash → Flash) (flash : Flash) : Flash :=
  match outcome.fault with
  | none => operation flash
  | some damage => damage flash

/-- The outcomes of the two flash operations of a `settings_write`. -/
structure FlashCtl where
  erase : FlashOutcome
  program : FlashOutcome

/-- Both operations are carried out. -/
def FlashCtl.done : FlashCtl := ⟨.done, .done⟩

inductive FlashOp
  | erase | program
  deriving DecidableEq, Repr

/-- `global_settings` and the flash, with the flash operations so far and the result of the last
`settings_write`. -/
structure Store where
  settings : Settings
  flash : Flash
  flashOps : List FlashOp
  lastWrite : Option ErrCode

/-! ## Header and CRC -/

/-- `settings_crc`: the bytes before the `crc` member. -/
def settingsCrc (s : Settings) : BitVec 32 :=
  ~~~ (Crc.run 0xEDB88320 0xFFFFFFFF (s.bytes.take SettingsField.crc.offset))

/-- `settings_is_valid_header` -/
def settingsIsValidHeader (s : Settings) : Bool :=
  s.num .magic == settingsMagic && s.num .version == settingsVersion && s.num .size == sizeofSettings
    && s.num .crc == (settingsCrc s).toNat

/-- The header that `settings_write` gives the active settings. -/
def stampHeader (s : Settings) : Settings :=
  let s := s.setNum .magic settingsMagic
  let s := s.setNum .version settingsVersion
  let s := s.setNum .size sizeofSettings
  s.setNum .crc (settingsCrc s).toNat

/-! ## Operations -/

/-- `page`: the settings padded with `0xFF`. -/
def flashPage (s : Settings) : List UInt8 :=
  s.bytes ++ List.replicate (flashPageSize - sizeofSettings) 0xFF

/-- The erase, program and verify steps of `settings_write`. -/
def flashWrite (ctl : FlashCtl) (st : Store) : ErrCode × Store :=
  let st := { st with
    flash := ctl.erase.apply flashRangeErase st.flash, flashOps := st.flashOps ++ [.erase] }
  if !ctl.erase.ok then (.fail, st)
  else
    let st := { st with
      flash := ctl.program.apply (flashRangeProgram (flashPage st.settings)) st.flash
      flashOps := st.flashOps ++ [.program] }
    if !ctl.program.ok then (.fail, st)
    else if st.flash.image ≠ st.settings then (.fail, st)
    else (.success, st)

/-- `settings_write` -/
def settingsWrite (ctl : FlashCtl) (st : Store) : ErrCode × Store :=
  let st := { st with settings := stampHeader st.settings }
  let (err, st) := if st.flash.image ≠ st.settings then flashWrite ctl st else (.success, st)
  (err, { st with lastWrite := some err })

/-- `settings_init` on the flash found at boot. -/
def settingsInit (ctl : FlashCtl) (flash : Flash) : ErrCode × Store :=
  let st : Store := ⟨flash.image, flash, [], none⟩
  if !settingsIsValidHeader st.settings || settingsValidate st.settings ≠ .success then
    settingsWrite ctl { st with settings := defaultSettings }
  else (.success, st)

/-- `settings_default`; the requested reboot is a `settings_init` on the flash it leaves. -/
def settingsDefault (ctl : FlashCtl) (st : Store) : ErrCode × Store :=
  settingsWrite ctl { st with settings := defaultSettings }

/-- `settings_apply`; `none` is the null pointer. -/
def settingsApply (ctl : FlashCtl) (s : Option Settings) (st : Store) : ErrCode × Store :=
  match s with
  | none => (.paramIsNull, st)
  | some s =>
    if settingsValidate s ≠ .success then (settingsValidate s, st)
    else settingsWrite ctl { st with settings := s }

/-! ## The header -/

/-- The members that `settings_write` overwrites. -/
def SettingsField.header : SettingsField → Bool
  | magic | version | size | crc => true
  | _ => false

theorem stampHeader_raw (s : Settings) {f : SettingsField} (kept : f.header = false) :
    (stampHeader s).raw f = s.raw f := by
  have others : f ≠ .magic ∧ f ≠ .version ∧ f ≠ .size ∧ f ≠ .crc := by
    refine ⟨?_, ?_, ?_, ?_⟩
    all_goals
      intro same
      subst same
      cases kept
  obtain ⟨magic, version, size, crc⟩ := others
  unfold stampHeader
  dsimp only
  rw [Settings.raw_setNum_other _ crc, Settings.raw_setNum_other _ size,
    Settings.raw_setNum_other _ version, Settings.raw_setNum_other _ magic]

/-- The stored CRC is not part of what it covers. -/
theorem settingsCrc_setNum_crc (s : Settings) (v : Nat) :
    settingsCrc (s.setNum .crc v) = settingsCrc s := by
  have front : (s.setNum .crc v).bytes.take SettingsField.crc.offset =
      s.bytes.take SettingsField.crc.offset := by
    have apart : load (store s.bytes SettingsField.crc.offset (leBytes SettingsField.crc.width v)) 0
        SettingsField.crc.offset = load s.bytes 0 SettingsField.crc.offset :=
      load_store_apart (Or.inl (by decide))
    exact apart
  rw [settingsCrc, settingsCrc, front]

/-- What `settings_write` stamps, `settings_init` accepts. -/
theorem stampHeader_valid (s : Settings) : settingsIsValidHeader (stampHeader s) = true := by
  have magic : (stampHeader s).num .magic = settingsMagic := by
    unfold stampHeader
    rw [Settings.num_setNum_other _ (by decide), Settings.num_setNum_other _ (by decide),
      Settings.num_setNum_other _ (by decide), Settings.num_setNum_same (by decide)]
  have version : (stampHeader s).num .version = settingsVersion := by
    unfold stampHeader
    rw [Settings.num_setNum_other _ (by decide), Settings.num_setNum_other _ (by decide),
      Settings.num_setNum_same (by decide)]
  have size : (stampHeader s).num .size = sizeofSettings := by
    unfold stampHeader
    rw [Settings.num_setNum_other _ (by decide), Settings.num_setNum_same (by decide)]
  have crc : (stampHeader s).num .crc = (settingsCrc (stampHeader s)).toNat := by
    unfold stampHeader
    dsimp only
    rw [settingsCrc_setNum_crc, Settings.num_setNum_same (BitVec.isLt _)]
  simp [settingsIsValidHeader, magic, version, size, crc]

/-- A header that is already valid is stamped with what it holds. -/
theorem stampHeader_of_valid {s : Settings} (valid : settingsIsValidHeader s = true) :
    stampHeader s = s := by
  simp only [settingsIsValidHeader, Bool.and_eq_true, beq_iff_eq] at valid
  obtain ⟨⟨⟨magic, version⟩, size⟩, crc⟩ := valid
  unfold stampHeader
  dsimp only
  rw [← magic, Settings.setNum_num, ← version, Settings.setNum_num, ← size, Settings.setNum_num, ← crc,
    Settings.setNum_num]

/-- Two valid headers differ in their CRC only. -/
theorem header_raw {s t : Settings} (valid : settingsIsValidHeader s = true)
    (valid' : settingsIsValidHeader t = true) {f : SettingsField} (header : f.header = true)
    (other : f ≠ .crc) : t.raw f = s.raw f := by
  simp only [settingsIsValidHeader, Bool.and_eq_true, beq_iff_eq] at valid valid'
  obtain ⟨⟨⟨magic, version⟩, size⟩, -⟩ := valid
  obtain ⟨⟨⟨magic', version'⟩, size'⟩, -⟩ := valid'
  have same : t.num f = s.num f := by
    cases f with
    | magic => rw [magic, magic']
    | version => rw [version, version']
    | size => rw [size, size']
    | crc => exact absurd rfl other
    | _ => cases header
  have bytes := leBytes_leNat (s.raw f)
  have bytes' := leBytes_leNat (t.raw f)
  rw [Settings.length_raw] at bytes bytes'
  rw [← bytes, ← bytes']
  exact congrArg (leBytes f.width) same

/-! ## What an operation leaves -/

section
variable (ctl : FlashCtl) (st : Store)

theorem flashWrite_settings : (flashWrite ctl st).2.settings = st.settings := by
  unfold flashWrite
  dsimp only
  split
  · rfl
  · split
    · rfl
    · split <;> rfl

theorem settingsWrite_settings : (settingsWrite ctl st).2.settings = stampHeader st.settings := by
  unfold settingsWrite
  dsimp only
  split
  · exact flashWrite_settings ctl _
  · rfl

theorem settingsWrite_lastWrite :
    (settingsWrite ctl st).2.lastWrite = some (settingsWrite ctl st).1 := rfl

end

/-- The settings are in flash already, or both operations succeed and leave them there. -/
def WriteSucceeds (ctl : FlashCtl) (flash : Flash) (s : Settings) : Prop :=
  flash.image = s ∨ (ctl.erase.ok = true ∧ ctl.program.ok = true ∧
    (ctl.program.apply (flashRangeProgram (flashPage s))
      (ctl.erase.apply flashRangeErase flash)).image = s)

section
variable {ctl : FlashCtl} {st : Store}

theorem flashWrite_success_iff : (flashWrite ctl st).1 = .success ↔
    ctl.erase.ok = true ∧ ctl.program.ok = true ∧
      (ctl.program.apply (flashRangeProgram (flashPage st.settings))
        (ctl.erase.apply flashRangeErase st.flash)).image = st.settings := by
  unfold flashWrite
  dsimp only
  split
  · rename_i failed
    refine iff_of_false (fun fails => by cases fails) (fun succeeds => ?_)
    rw [succeeds.1] at failed
    cases failed
  · rename_i erased
    split
    · rename_i failed
      refine iff_of_false (fun fails => by cases fails) (fun succeeds => ?_)
      rw [succeeds.2.1] at failed
      cases failed
    · rename_i programmed
      split
      · rename_i differs
        exact iff_of_false (fun fails => by cases fails) (fun succeeds => differs succeeds.2.2)
      · rename_i same
        exact iff_of_true rfl ⟨by simpa using erased, by simpa using programmed, Decidable.not_not.mp same⟩

/-- A flash write that reports success has left the settings in flash. -/
theorem flashWrite_saved (success : (flashWrite ctl st).1 = .success) :
    (flashWrite ctl st).2.flash.image = st.settings := by
  obtain ⟨erased, programmed, same⟩ := flashWrite_success_iff.mp success
  unfold flashWrite
  simp only [erased, programmed, Bool.not_true, Bool.false_eq_true, if_false, same, ne_eq,
    not_true_eq_false]

theorem settingsWrite_success_iff : (settingsWrite ctl st).1 = .success ↔
    WriteSucceeds ctl st.flash (stampHeader st.settings) := by
  unfold settingsWrite WriteSucceeds
  dsimp only
  split
  · rename_i differs
    rw [flashWrite_success_iff]
    exact (or_iff_right differs).symm
  · rename_i same
    exact iff_of_true rfl (Or.inl (Decidable.not_not.mp same))

/-- A `settings_write` that reports success has left the active settings in flash. -/
theorem settingsWrite_saved (success : (settingsWrite ctl st).1 = .success) :
    (settingsWrite ctl st).2.flash.image = (settingsWrite ctl st).2.settings := by
  rw [settingsWrite_settings]
  unfold settingsWrite at success ⊢
  dsimp only at success ⊢
  split at success
  · rename_i differs
    rw [if_pos differs]
    exact flashWrite_saved success
  · rename_i same
    rw [if_neg same]
    exact Decidable.not_not.mp same

/-- A page that was programmed holds the settings. -/
theorem flashRangeProgram_image (s : Settings) (flash : Flash) :
    (flashRangeProgram (flashPage s) flash).image = s := by
  apply Settings.ext
  apply List.ext_getElem?
  intro i
  change ((List.range sizeofSettings).map (flashRangeProgram (flashPage s) flash))[i]? = s.bytes[i]?
  rw [List.getElem?_map]
  by_cases inside : i < sizeofSettings
  · have here : i < s.bytes.length := by rw [s.sized]; exact inside
    rw [List.getElem?_range inside, Option.map_some, flashRangeProgram, flashPage,
      List.getD_eq_getElem?_getD, List.getElem?_append_left here, List.getElem?_eq_getElem here]
    rfl
  · rw [List.getElem?_eq_none (by rw [List.length_range]; omega),
      List.getElem?_eq_none (by rw [s.sized]; omega)]
    rfl

/-- Without a fault the flash is erased and programmed. -/
theorem flashWrite_done (st : Store) : flashWrite .done st = (.success, { st with
    flash := flashRangeProgram (flashPage st.settings) (flashRangeErase st.flash)
    flashOps := st.flashOps ++ [.erase] ++ [.program] }) := by
  have programmed := flashRangeProgram_image st.settings (flashRangeErase st.flash)
  unfold flashWrite
  simp only [FlashCtl.done, FlashOutcome.done, FlashOutcome.apply, Bool.not_true, Bool.false_eq_true,
    if_false, programmed, ne_eq, not_true_eq_false]

/-- Without a fault every write succeeds. -/
theorem writeSucceeds_done (flash : Flash) (s : Settings) : WriteSucceeds .done flash s :=
  Or.inr ⟨rfl, rfl, flashRangeProgram_image s _⟩

end

/-! ## Validity -/

/-- The members that `settings_validate` looks at. -/
def SettingsField.validated : SettingsField → Bool
  | ledCount | emergencyCnt _ | ledOnStep | ledOffStep => true
  | lightSensorDayValue | lightSensorNightValue | ssid | pass => true
  | _ => false

theorem Settings.Valid.of_raw {s t : Settings} (valid : s.Valid)
    (same : ∀ f, f.validated = true → t.raw f = s.raw f) : t.Valid := by
  have num : ∀ f, f.validated = true → t.num f = s.num f :=
    fun f looked => congrArg leNat (same f looked)
  refine ⟨?_, ?_, ?_, ?_, ?_, ?_, ?_, ?_, ?_, ?_⟩
  · rw [num .ledCount rfl]; exact valid.ledCountPos
  · rw [num .ledCount rfl]; exact valid.ledCountMax
  · intro i
    rw [num (.emergencyCnt i) rfl, num .ledCount rfl]
    exact valid.emergencyCnt i
  · rw [num .ledOnStep rfl]; exact valid.ledOnStep
  · rw [num .ledOffStep rfl]; exact valid.ledOffStep
  · rw [num .lightSensorNightValue rfl, num .lightSensorDayValue rfl]; exact valid.hysteresis
  · rw [same .ssid rfl]; exact valid.ssidPos
  · rw [same .ssid rfl]; exact valid.ssidMax
  · rw [same .pass rfl]; exact valid.passMin
  · rw [same .pass rfl]; exact valid.passMax

theorem SettingsField.header_of_validated {f : SettingsField} (looked : f.validated = true) :
    f.header = false := by
  cases f <;> first | rfl | cases looked

theorem stampHeader_settings_valid {s : Settings} (valid : s.Valid) : (stampHeader s).Valid :=
  valid.of_raw (fun _ looked => stampHeader_raw s (SettingsField.header_of_validated looked))

end Stairway
