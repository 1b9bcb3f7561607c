import Stairway.Settings.Store
import Stairway.Firmware.CrcDetection

/-!
# Corrupted settings in flash (`settings.c`)

The CRC covers the bytes before the `crc` member, and the member is the end of the image, so an
accepted image is a sealed string. A burst that is no longer than the CRC breaks the seal wherever it
starts: in the header, in a member, in the padding or in the CRC itself.
-/

namespace Stairway
open Firmware

/-- Bit errors on the bytes of a `Settings` image, at least one and all within 32 consecutive bits. -/
structure BurstError where
  bytes : List UInt8
  sized : bytes.length = sizeofSettings
  nonzero : ∃ b ∈ bytes, b ≠ 0
  burst : Crc.Burst 32 (Crc.wireBits bytes)

/-- The flash with the bits of the error flipped. -/
def Flash.flip (flash : Flash) (error : BurstError) : Flash := fun i => flash i ^^^ error.bytes.getD i 0

/-- `settings_init` keeps what it found. -/
def SettingsAccepted (flash : Flash) : Prop :=
  settingsIsValidHeader flash.image = true ∧ settingsValidate flash.image = .success

theorem settingsInit_accepted (ctl : FlashCtl) {flash : Flash} (accepted : SettingsAccepted flash) :
    settingsInit ctl flash = (.success, ⟨flash.image, flash, [], none⟩) := by
  simp [settingsInit, accepted.1, accepted.2]

theorem settingsInit_rejected (ctl : FlashCtl) {flash : Flash} (rejected : ¬ SettingsAccepted flash) :
    settingsInit ctl flash = settingsWrite ctl ⟨defaultSettings, flash, [], none⟩ := by
  have invalid : (!settingsIsValidHeader flash.image || settingsValidate flash.image ≠ .success) = true := by
    rw [SettingsAccepted, not_and_or] at rejected
    simpa using rejected
  simp only [settingsInit, invalid, if_true]

theorem flip_image (flash : Flash) (error : BurstError) :
    (flash.flip error).image.bytes = List.zipWith (· ^^^ ·) flash.image.bytes error.bytes := by
  apply List.ext_getElem
  · rw [Settings.sized, List.length_zipWith, flash.image.sized, error.sized, Nat.min_self]
  · intro i inside _
    rw [Settings.sized] at inside
    have here : i < error.bytes.length := by rw [error.sized]; exact inside
    simp [Flash.image, Flash.flip, here]

/-- The stored CRC is at the end of the image. -/
theorem sealed_of_header {s : Settings} (valid : settingsIsValidHeader s = true) :
    Crc.Sealed (0xEDB88320 : BitVec 32) 0xFFFFFFFF SettingsField.crc.offset s.bytes := by
  simp only [settingsIsValidHeader, Bool.and_eq_true, beq_iff_eq] at valid
  have stored : s.raw .crc = s.bytes.drop SettingsField.crc.offset := by
    refine List.take_of_length_le ?_
    rw [List.length_drop, s.sized]
    decide
  rw [Crc.Sealed, ← stored]
  exact valid.2

/-- **Corrupted settings are rejected at boot**, and the defaults become active. -/
theorem settingsInit_corrupted (ctl : FlashCtl) {flash : Flash} (accepted : SettingsAccepted flash)
    (error : BurstError) : ¬ SettingsAccepted (flash.flip error) ∧
      (settingsInit ctl (flash.flip error)).2.settings = stampHeader defaultSettings := by
  have rejected : ¬ SettingsAccepted (flash.flip error) := by
    intro accepted'
    have after := sealed_of_header accepted'.1
    rw [flip_image] at after
    exact Crc.Sealed.burst (by decide) (by decide) (by rw [flash.image.sized]; decide)
      (by rw [flash.image.sized, error.sized]) error.burst error.nonzero (sealed_of_header accepted.1) after
  refine ⟨rejected, ?_⟩
  rw [settingsInit_rejected ctl rejected, settingsWrite_settings]

/-- The low bit of `led_count`. -/
def ledCountBit : BurstError where
  bytes := List.replicate SettingsField.ledCount.offset 0 ++ 1 :: List.replicate 123 0
  sized := by simp only [SettingsField.offset]; decide +kernel
  nonzero := ⟨1, by simp, by decide⟩
  burst := by
    have bits : Crc.wireBits (List.replicate SettingsField.ledCount.offset 0 ++ 1 :: List.replicate 123 0) =
        List.replicate 384 false ++ ([true] ++ List.replicate 991 false) := by decide +kernel
    rw [bits]
    exact Crc.Burst.of_parts (by decide)

theorem settingsInit_corrupted_ledCount :
    ¬ SettingsAccepted (Flash.flip (flashRangeProgram (flashPage (stampHeader defaultSettings)) fun _ => 0xFF)
      ledCountBit) ∧
    (settingsInit .done (Flash.flip (flashRangeProgram (flashPage (stampHeader defaultSettings)) fun _ => 0xFF)
      ledCountBit)).2.settings = stampHeader defaultSettings := by
  refine settingsInit_corrupted .done ?_ ledCountBit
  rw [SettingsAccepted, flashRangeProgram_image]
  exact ⟨stampHeader_valid _, (settingsValidate_iff _).mpr (stampHeader_settings_valid defaultSettings_valid)⟩

end Stairway
