import Stairway.Network.SettingsUpdate

/-!
# Numbers over both front ends

A numeric setting that the command line and the web page share is set by a string of decimal
digits in both. `json_parse_uint` accepts the numbers that fit the setting;
`parse_uint` accepts, for a 32-bit setting, the saturated result of every longer number as well
(`front_ends_agree_iff`).
-/

namespace Stairway
open Firmware

/-! ## Settings and texts -/

/-- The largest value of a numeric type. -/
def CommandType.max : CommandType → Nat
  | .uint32 => 2 ^ 32 - 1
  | .uint16 => 2 ^ 16 - 1
  | .uint8 => 2 ^ 8 - 1
  | .bool => 1
  | .string => 0

def CommandType.numeric : CommandType → Bool
  | .uint32 | .uint16 | .uint8 => true
  | .bool | .string => false

/-- A numeric setting of both tables. -/
structure NumericSetting where
  cmd : SettingCommand
  entry : SettingsMap
  known : cmd ∈ settingCommands
  listed : entry ∈ settingsMap
  shared : cmd.offset = entry.offset
  numeric : cmd.type.numeric = true

/-- A non-empty string of decimal digits, of any length. -/
structure Digits where
  text : List UInt8
  nonempty : text ≠ []
  digits : ∀ c ∈ text, isDigit c = true

/-- The number it denotes. -/
def Digits.value (d : Digits) : Nat := digitsValue d.text

/-- An object with one member, with the white space around its tokens. -/
structure OneMember where
  lead : Spaces
  before : Spaces
  afterName : Spaces
  beforeValue : Spaces
  after : Spaces
  trail : Spaces

/-- What follows the value. -/
def OneMember.rest (o : OneMember) : List UInt8 := o.after.1 ++ 125 :: o.trail.1

/-- What follows the name. -/
def OneMember.tail (o : OneMember) (d : Digits) : List UInt8 :=
  o.afterName.1 ++ 58 :: (o.beforeValue.1 ++ (d.text ++ o.rest))

def OneMember.text (o : OneMember) (name : List UInt8) (d : Digits) : List UInt8 :=
  o.lead.1 ++ 123 :: (o.before.1 ++ 34 :: (name ++ 34 :: o.tail d))

/-- Both tables give the setting the same type, that of its member. -/
theorem NumericSetting.types (p : NumericSetting) :
    (p.cmd.type = .uint32 ∧ p.entry.type = .uint32 ∧ p.cmd.offset.width = 4 ∨
      p.cmd.type = .uint16 ∧ p.entry.type = .uint16 ∧ p.cmd.offset.width = 2 ∨
      p.cmd.type = .uint8 ∧ p.entry.type = .uint8 ∧ p.cmd.offset.width = 1) ∧
    p.cmd.offset.header = false := by
  have all : ∀ cmd ∈ settingCommands, ∀ entry ∈ settingsMap, cmd.offset = entry.offset →
      cmd.type.numeric = true →
      (cmd.type = .uint32 ∧ entry.type = .uint32 ∧ cmd.offset.width = 4 ∨
        cmd.type = .uint16 ∧ entry.type = .uint16 ∧ cmd.offset.width = 2 ∨
        cmd.type = .uint8 ∧ entry.type = .uint8 ∧ cmd.offset.width = 1) ∧
      cmd.offset.header = false := by decide +kernel
  exact all p.cmd p.known p.entry p.listed p.shared p.numeric

theorem NumericSetting.max_lt (p : NumericSetting) :
    p.cmd.type.max < 256 ^ p.cmd.offset.width ∧ p.cmd.type.max < 2 ^ 32 := by
  rcases p.types.1 with ⟨type, -, width⟩ | ⟨type, -, width⟩ | ⟨type, -, width⟩ <;>
    rw [type, width] <;> decide

/-! ## The two parsers -/

section
variable (d : Digits)

theorem Digits.first (rest : List UInt8) : digitFirst (d.text ++ rest) = true := by
  obtain ⟨c, cs, first⟩ := List.exists_cons_of_ne_nil d.nonempty
  rw [first]
  exact d.digits c (by rw [first]; exact List.mem_cons_self)

/-- `json_parse_uint` accepts a number up to the limit. -/
theorem jsonParseUint_digits {max : Nat} (word : max < 2 ^ 32) {rest : List UInt8}
    (stops : digitFirst rest = false) : jsonParseUint (d.text ++ rest) max =
      if d.value ≤ max then .ok d.value else .error .paramInvalid := by
  have moved : rest ≠ d.text ++ rest := by
    intro same
    have length := congrArg List.length same
    have positive := List.length_pos_iff.mpr d.nonempty
    rw [List.length_append] at length
    omega
  rw [jsonParseUint, d.first, strtoul_digits d.nonempty d.digits stops, Digits.value]
  by_cases big : digitsValue d.text ≥ 2 ^ 32
  · rw [if_pos big, if_neg (by omega : ¬ digitsValue d.text ≤ max)]
    simp
  · rw [if_neg big]
    by_cases fits : digitsValue d.text ≤ max
    · simp [moved, fits, Nat.not_lt.mpr fits]
    · simp [moved, fits, Nat.lt_of_not_le fits]

/-- `parse_uint` accepts the saturated value as well, if the limit does. -/
theorem parseUint_digits (max : Nat) (word : max < 2 ^ 32) : parseUint d.text max =
      if d.value ≤ max then .ok d.value
      else if 2 ^ 32 ≤ d.value ∧ max = 2 ^ 32 - 1 then .ok (2 ^ 32 - 1)
      else .error .paramInvalid := by
  have first := d.first []
  have stops : digitFirst [] = false := rfl
  have scan := strtoul_digits d.nonempty d.digits stops
  rw [List.append_nil] at first scan
  rw [parseUint, first, scan, Digits.value, if_neg (by decide)]
  by_cases big : digitsValue d.text ≥ 2 ^ 32
  · rw [if_pos big, if_neg (by omega : ¬ digitsValue d.text ≤ max)]
    dsimp only
    by_cases limit : max = 2 ^ 32 - 1
    · have accepted : ¬ (([] : List UInt8) ≠ [] ∨ 2 ^ 32 - 1 > max) := by simp [limit]
      rw [if_neg accepted, if_pos ⟨big, limit⟩]
    · rw [if_pos (Or.inr (by omega)), if_neg (fun both => limit both.2)]
  · rw [if_neg big]
    dsimp only
    by_cases fits : digitsValue d.text ≤ max
    · have accepted : ¬ (([] : List UInt8) ≠ [] ∨ digitsValue d.text > max) := by simp [fits]
      rw [if_neg accepted, if_pos fits]
    · rw [if_pos (Or.inr (by omega)), if_neg fits, if_neg (fun both => big both.1)]

end

/-! ## The two updates -/

section
variable (o : OneMember) (d : Digits)

theorem OneMember.stops : digitFirst o.rest = false := by
  have after := after_value o.after o.trail.1 []
  exact after

theorem OneMember.tail_no_quote : 34 ∉ o.tail d := by
  have digits : 34 ∉ d.text := by
    intro member
    have digit := d.digits 34 member
    revert digit
    decide
  have afterName := o.afterName.no_quote
  have beforeValue := o.beforeValue.no_quote
  have after := o.after.no_quote
  have trail := o.trail.no_quote
  simp [OneMember.tail, OneMember.rest, digits, afterName, beforeValue, after, trail]

/-- `json_find_value` finds the one member under its name, and nothing under another one. -/
theorem jsonFindValue_oneMember {name key : List UInt8} (named : KeyName name) (asked : KeyName key) :
    jsonFindValue (o.text name d) key = if key = name then some (d.text ++ o.rest) else none := by
  have front : 34 ∉ o.lead.1 ++ 123 :: o.before.1 := by
    simp [o.lead.no_quote, o.before.no_quote]
  have text : o.text name d =
      (o.lead.1 ++ 123 :: o.before.1) ++ 34 :: (name ++ 34 :: o.tail d) := by
    simp [OneMember.text]
  obtain ⟨c, cs, first⟩ := List.exists_cons_of_ne_nil d.nonempty
  have digit : isDigit c = true := d.digits c (by rw [first]; exact List.mem_cons_self)
  have value : jsonAfterKey (o.tail d) = some (d.text ++ o.rest) := by
    rw [OneMember.tail, first, List.cons_append, jsonAfterKey_value _ _ (jsonSpace_of_digit digit)]
  rw [text, jsonFindValue_sole named asked front (o.tail_no_quote d), value]

/-- The loop over the table ends with what it reads for the one member. -/
theorem jsonReadSettings_oneMember {entry : SettingsMap} (listed : entry ∈ settingsMap) (s : Settings) :
    jsonReadSettings (o.text entry.name d) s = jsonReadField (o.text entry.name d) s entry := by
  apply jsonReadSettings_sole listed
  intro e known differs
  have apart : e.name ≠ entry.name :=
    fun same => differs ((settingsMap_injective e known entry listed).1 same)
  rw [jsonFindValue_oneMember o d (keyName_of_mem listed) (keyName_of_mem known), if_neg apart]

end

section
variable (p : NumericSetting) (d : Digits) (st : Store)

/-- Both tables lead to the parser with the limit of the type. -/
theorem NumericSetting.parsed (p : NumericSetting) (s : Settings) :
    (∀ arg, readArgument p.cmd arg s = (parseUint arg p.cmd.type.max).map (s.setNum p.cmd.offset)) ∧
      ∀ json val, jsonFindValue json p.entry.name = some val →
        jsonReadField json s p.entry = (jsonParseUint val p.cmd.type.max).map (s.setNum p.cmd.offset) := by
  constructor
  · intro arg
    unfold readArgument
    rcases p.types.1 with ⟨type, -⟩ | ⟨type, -⟩ | ⟨type, -⟩ <;> rw [type] <;> rfl
  · intro json val found
    rw [jsonReadField, found, p.shared]
    rcases p.types.1 with ⟨type, type', -⟩ | ⟨type, type', -⟩ | ⟨type, type', -⟩ <;>
      rw [type, type'] <;> rfl

/-- What the web page makes of the digits. -/
theorem setSettingsJson_digits (ctl : FlashCtl) (o : OneMember) :
    setSettingsJson ctl (some (o.text p.entry.name d)) st =
      if d.value ≤ p.cmd.type.max
        then settingsApply ctl (some (st.settings.setNum p.cmd.offset d.value)) st
        else (.paramInvalid, st) := by
  have named := keyName_of_mem p.listed
  have found := jsonFindValue_oneMember o d named named
  rw [if_pos rfl] at found
  rw [setSettingsJson, jsonReadSettings_oneMember o d p.listed, (p.parsed _).2 _ _ found,
    jsonParseUint_digits d p.max_lt.2 o.stops]
  by_cases fits : d.value ≤ p.cmd.type.max
  · rw [if_pos fits, if_pos fits]
    rfl
  · rw [if_neg fits, if_neg fits]
    rfl

/-- `set_setting` validates before `settings_apply` does. -/
theorem settingsApply_validated (ctl : FlashCtl) (s : Settings) :
    (if settingsValidate s ≠ .success then (settingsValidate s, st)
      else settingsApply ctl (some s) st) = settingsApply ctl (some s) st := by
  split
  · rename_i rejected
    rw [settingsApply, if_pos rejected]
  · rfl

/-- What the command line makes of the digits. -/
theorem setSetting_digits (ctl : FlashCtl) :
    setSetting ctl p.cmd [d.text] st =
      if d.value ≤ p.cmd.type.max then settingsApply ctl (some (st.settings.setNum p.cmd.offset d.value)) st
      else if 2 ^ 32 ≤ d.value ∧ p.cmd.type.max = 2 ^ 32 - 1
        then settingsApply ctl (some (st.settings.setNum p.cmd.offset (2 ^ 32 - 1))) st
      else (.paramInvalid, st) := by
  rw [setSetting, (p.parsed _).1, parseUint_digits d _ p.max_lt.2]
  by_cases fits : d.value ≤ p.cmd.type.max
  · rw [if_pos fits, if_pos fits]
    exact settingsApply_validated st ctl _
  · rw [if_neg fits, if_neg fits]
    by_cases saturates : 2 ^ 32 ≤ d.value ∧ p.cmd.type.max = 2 ^ 32 - 1
    · rw [if_pos saturates, if_pos saturates]
      exact settingsApply_validated st ctl _
    · rw [if_neg saturates, if_neg saturates]
      rfl

/-! ## Agreement -/

/-- The setting of `f` to `n`, and nothing else; a valid header stays as it is but for the CRC. -/
structure NumberSet (s : Settings) (f : SettingsField) (n : Nat) (t : Settings) : Prop where
  number : t.num f = n
  others : ∀ g, g.header = false → g ≠ f → t.raw g = s.raw g
  header : settingsIsValidHeader s = true → ∀ g, g.header = true → g ≠ .crc → t.raw g = s.raw g

/-- What is asked of a front end: it accepts the numbers that fit the type and pass the
validation, and sets the setting to them. -/
structure SetsNumber (p : NumericSetting) (d : Digits) (st : Store) (result : ErrCode × Store) :
    Prop where
  accepts : result.1 = .success ↔
    d.value ≤ p.cmd.type.max ∧ (st.settings.setNum p.cmd.offset d.value).Valid
  stored : result.1 = .success → NumberSet st.settings p.cmd.offset d.value result.2.settings

theorem settingsApply_success_iff (s : Settings) :
    (settingsApply .done (some s) st).1 = .success ↔ s.Valid :=
  ⟨settingsApply_valid, fun valid => (settingsApply_done valid st).1⟩

/-- A number in range that is applied is set. -/
theorem setsNumber_of_fits (fits : d.value ≤ p.cmd.type.max) :
    SetsNumber p d st (settingsApply .done (some (st.settings.setNum p.cmd.offset d.value)) st) := by
  constructor
  · rw [settingsApply_success_iff, and_iff_right fits]
  · intro success
    have header := p.types.2
    rw [(settingsApply_done (settingsApply_valid success) st).2]
    constructor
    · have bound := p.max_lt.1
      rw [Settings.num, stampHeader_raw _ header, ← Settings.num, Settings.num_setNum_same (by omega)]
    · intro g kept other
      rw [stampHeader_raw _ kept, Settings.raw_setNum_other _ other]
    · intro stamped g inHeader other
      exact header_raw stamped (stampHeader_valid _) inHeader other

theorem setsNumber_of_rejected (large : ¬ d.value ≤ p.cmd.type.max) :
    SetsNumber p d st (.paramInvalid, st) := by
  constructor
  · exact iff_of_false (fun same => by cases same) (fun accepted => large accepted.1)
  · intro same
    cases same

end

/-- **Both front ends set the number**, unless it is longer than the machine word, the setting has
32 bits and `ULONG_MAX` passes the validation. -/
theorem front_ends_agree_iff (p : NumericSetting) (d : Digits) (o : OneMember) (st : Store) :
    (SetsNumber p d st (setSetting .done p.cmd [d.text] st) ∧
        SetsNumber p d st (setSettingsJson .done (some (o.text p.entry.name d)) st)) ↔
      ¬ (p.cmd.type = .uint32 ∧ 2 ^ 32 ≤ d.value ∧
        (st.settings.setNum p.cmd.offset (2 ^ 32 - 1)).Valid) := by
  have word := p.max_lt.2
  rw [setSetting_digits, setSettingsJson_digits]
  by_cases fits : d.value ≤ p.cmd.type.max
  · rw [if_pos fits, if_pos fits]
    have set := setsNumber_of_fits p d st fits
    exact iff_of_true ⟨set, set⟩ (fun saturated => by have := saturated.2.1; omega)
  · rw [if_neg fits, if_neg fits]
    have rejected := setsNumber_of_rejected p d st fits
    have wide : p.cmd.type.max = 2 ^ 32 - 1 ↔ p.cmd.type = .uint32 := by
      cases p.cmd.type <;> decide
    by_cases saturates : 2 ^ 32 ≤ d.value ∧ p.cmd.type.max = 2 ^ 32 - 1
    · rw [if_pos saturates]
      constructor
      · rintro ⟨cli, -⟩ ⟨-, -, valid⟩
        exact fits (cli.accepts.mp ((settingsApply_success_iff st _).mpr valid)).1
      · intro harmless
        refine ⟨?_, rejected⟩
        have invalid : ¬ (st.settings.setNum p.cmd.offset (2 ^ 32 - 1)).Valid :=
          fun valid => harmless ⟨wide.mp saturates.2, saturates.1, valid⟩
        rw [← settingsApply_success_iff st] at invalid
        constructor
        · exact iff_of_false invalid (fun accepted => fits accepted.1)
        · exact fun success => absurd success invalid
    · rw [if_neg saturates]
      exact iff_of_true ⟨rejected, rejected⟩
        (fun saturated => saturates ⟨saturated.2.1, wide.mpr saturated.1⟩)

/-- The debounce time in both tables. -/
def debounceSetting : NumericSetting where
  cmd := .scalar "sens_debouce" .uint32 .sensorDebouceTime
  entry := .scalar "sensor_debouce_time" .uint32 .sensorDebouceTime
  known := by decide +kernel
  listed := by decide +kernel
  shared := rfl
  numeric := rfl

/-- `2 ^ 32`, the first number that does not fit. -/
def overlong : Digits where
  text := ascii "4294967296"
  nonempty := by decide
  digits := by decide +kernel

def bareMember : OneMember := ⟨noSpaces, noSpaces, noSpaces, noSpaces, noSpaces, noSpaces⟩

/-- The web page rejects it; the command line stores `2 ^ 32 - 1`. -/
theorem front_ends_agree_fail :
    factoryStore.settings.Valid ∧ overlong.value = 2 ^ 32 ∧
      (setSettingsJson .done (some (bareMember.text debounceSetting.entry.name overlong))
        factoryStore).1 = .paramInvalid ∧
      (setSetting .done debounceSetting.cmd [overlong.text] factoryStore).1 = .success ∧
      (setSetting .done debounceSetting.cmd [overlong.text] factoryStore).2.settings.num
        .sensorDebouceTime = 2 ^ 32 - 1 :=
  ⟨stampHeader_settings_valid defaultSettings_valid, by decide +kernel, by decide +kernel,
    by decide +kernel, by decide +kernel⟩

end Stairway
