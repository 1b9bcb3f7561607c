import Mathlib.Tactic.NormNum
import Stairway.Commands.NumericSettings
import Stairway.Firmware.Json

/-!
# Number tokens

`json_parse_uint` reads the digits that a JSON number begins with and never looks at what follows
them. A sign is refused; a fraction or an exponent is not, and then the number is taken for its
integer part (`number_read_iff`).
-/

namespace Stairway
open Firmware

/-- The largest value of a numeric entry. -/
def SettingsType.max : SettingsType → Nat
  | .uint32 => 2 ^ 32 - 1
  | .uint16 => 2 ^ 16 - 1
  | .uint8 => 2 ^ 8 - 1
  | .bool => 1
  | .string => 0

def SettingsType.numeric : SettingsType → Bool
  | .uint32 | .uint16 | .uint8 => true
  | .bool | .string => false

/-- An object with one member whose value is a number. White space, a comma or the closing brace
follows the number. -/
structure NumberMember where
  lead : Spaces
  before : Spaces
  afterName : Spaces
  beforeValue : Spaces
  rest : List UInt8
  ends : ∃ c t, rest = c :: t ∧ (jsonSpace c = true ∨ c = 44 ∨ c = 125)
  sole : 34 ∉ rest

namespace NumberMember

variable (o : NumberMember) (v : Json.Number)

/-- What follows the name. -/
def tail : List UInt8 := o.afterName.1 ++ 58 :: (o.beforeValue.1 ++ (v.text ++ o.rest))

def text (name : List UInt8) : List UInt8 := o.lead.1 ++ 123 :: (o.before.1 ++ 34 :: (name ++ 34 :: o.tail v))

theorem stops : digitFirst o.rest = false := by
  obtain ⟨c, t, first, separator⟩ := o.ends
  rw [first]
  show isDigit c = false
  cases digit : isDigit c with
  | false => rfl
  | true =>
    rcases separator with space | same | same
    · rw [jsonSpace_of_digit digit] at space
      cases space
    · subst same
      cases digit
    · subst same
      cases digit

end NumberMember

/-- What is asked of an update: it is refused and nothing is touched, or the field has the value of
the number. -/
def RefusedOrSet (entry : SettingsMap) (v : Json.Number) (st : Store) (result : ErrCode × Store) : Prop :=
  (result.1 ≠ .success ∧ result.2 = st) ∨ (result.2.settings.num entry.offset : ℚ) = v.value

/-! ## Reading -/

section
variable {entry : SettingsMap} (o : NumberMember) (v : Json.Number)

/-- `json_parse_uint` of a number: that of its integer part. -/
theorem jsonParseUint_number {max : Nat} (word : max < 2 ^ 32) {rest : List UInt8}
    (stops : digitFirst rest = false) : jsonParseUint (v.text ++ rest) max =
      if v.negative = true ∨ max < v.whole then .error .paramInvalid else .ok v.whole := by
  cases sign : v.negative with
  | true =>
    have first : v.text ++ rest = 45 :: (v.int ++ v.tail ++ rest) := by simp [Json.Number.text, sign]
    rw [first, if_pos (.inl rfl)]
    rfl
  | false =>
    have text : v.text ++ rest = v.int ++ (v.tail ++ rest) := by simp [Json.Number.text, sign]
    have digits : ∀ c ∈ v.int, isDigit c = true := fun c member => v.areDigits c (List.mem_append_left _ member)
    have parse := jsonParseUint_digits ⟨v.int, v.nonempty, digits⟩ word (v.tail_stops stops)
    rw [text, parse]
    show (if v.whole ≤ max then _ else _) = _
    by_cases fits : v.whole ≤ max
    · rw [if_pos fits, if_neg (by simp; omega)]
      rfl
    · rw [if_neg fits, if_pos (.inr (by omega))]

/-- A number does not begin with white space. -/
theorem number_head : ∃ c t, v.text = c :: t ∧ jsonSpace c = false := by
  cases sign : v.negative with
  | true => exact ⟨45, v.int ++ v.tail, by simp [Json.Number.text, sign], by decide⟩
  | false =>
    obtain ⟨c, cs, first⟩ := List.exists_cons_of_ne_nil v.nonempty
    have digit : isDigit c = true := v.areDigits c (by rw [first]; exact List.mem_cons_self)
    exact ⟨c, cs ++ v.tail, by simp [Json.Number.text, sign, first], jsonSpace_of_digit digit⟩

theorem jsonFindValue_numberMember {name key : List UInt8} (named : KeyName name) (asked : KeyName key) :
    jsonFindValue (o.text v name) key = if key = name then some (v.text ++ o.rest) else none := by
  have front : 34 ∉ o.lead.1 ++ 123 :: o.before.1 := by
    simp [o.lead.no_quote, o.before.no_quote]
  have behind : 34 ∉ o.tail v := by
    simp [NumberMember.tail, o.afterName.no_quote, o.beforeValue.no_quote, v.no_quote, o.sole]
  have text : o.text v name = (o.lead.1 ++ 123 :: o.before.1) ++ 34 :: (name ++ 34 :: o.tail v) := by
    simp [NumberMember.text]
  obtain ⟨c, t, first, solid⟩ := number_head v
  have value : jsonAfterKey (o.tail v) = some (v.text ++ o.rest) := by
    rw [NumberMember.tail, first, List.cons_append, jsonAfterKey_value _ _ solid]
  rw [text, jsonFindValue_sole named asked front behind, value]

/-- What `set_settings_json` makes of the object. -/
theorem setSettingsJson_number (listed : entry ∈ settingsMap) (numeric : entry.type.numeric = true)
    (ctl : FlashCtl) (st : Store) :
    setSettingsJson ctl (some (o.text v entry.name)) st =
      if v.negative = true ∨ entry.type.max < v.whole then (.paramInvalid, st)
      else settingsApply ctl (some (st.settings.setNum entry.offset v.whole)) st := by
  have named := keyName_of_mem listed
  have only : ∀ e ∈ settingsMap, e ≠ entry → jsonFindValue (o.text v entry.name) e.name = none := by
    intro e known differs
    have apart : e.name ≠ entry.name :=
      fun same => differs ((settingsMap_injective e known entry listed).1 same)
    rw [jsonFindValue_numberMember o v named (keyName_of_mem known), if_neg apart]
  have found := jsonFindValue_numberMember o v named named
  rw [if_pos rfl] at found
  have read : jsonReadField (o.text v entry.name) st.settings entry =
      (jsonParseUint (v.text ++ o.rest) entry.type.max).map (st.settings.setNum entry.offset) := by
    rw [jsonReadField, found]
    cases type : entry.type with
    | uint32 | uint16 | uint8 => rfl
    | bool | string =>
      rw [type] at numeric
      cases numeric
  have word : entry.type.max < 2 ^ 32 := by
    cases entry.type <;> decide
  rw [setSettingsJson, jsonReadSettings_sole listed only, read, jsonParseUint_number v word o.stops]
  by_cases refused : v.negative = true ∨ entry.type.max < v.whole
  · rw [if_pos refused, if_pos refused]
    rfl
  · rw [if_neg refused, if_neg refused]
    rfl

end

/-- The largest value of a numeric entry fits its member. -/
theorem entry_max_lt {entry : SettingsMap} (listed : entry ∈ settingsMap)
    (numeric : entry.type.numeric = true) : entry.type.max < 256 ^ entry.offset.width := by
  have table := (settingsMap_typed entry listed).2
  cases type : entry.type with
  | uint32 | uint16 | uint8 =>
    rw [type] at table
    rw [table]
    decide
  | bool | string =>
    rw [type] at numeric
    cases numeric

/-- A write that fails has begun to erase the flash. -/
theorem settingsWrite_failed {ctl : FlashCtl} {st : Store} (failed : (settingsWrite ctl st).1 ≠ .success) :
    (settingsWrite ctl st).2.flashOps ≠ st.flashOps := by
  unfold settingsWrite flashWrite at failed ⊢
  dsimp only at failed ⊢
  split at failed
  · rename_i differs
    rw [if_pos differs]
    split
    · simp
    split
    · simp
    split <;> simp
  · cases failed rfl

/-- **A number is never misread** exactly if its sign, its size or the validation has it refused, or it
is its integer part. -/
theorem number_read_iff {entry : SettingsMap} (listed : entry ∈ settingsMap)
    (numeric : entry.type.numeric = true) (v : Json.Number) (o : NumberMember) (ctl : FlashCtl) (st : Store) :
    RefusedOrSet entry v st (setSettingsJson ctl (some (o.text v entry.name)) st) ↔
      v.negative = true ∨ entry.type.max < v.whole ∨
        ¬ (st.settings.setNum entry.offset v.whole).Valid ∨ v.value = v.whole := by
  rw [setSettingsJson_number o v listed numeric]
  by_cases refused : v.negative = true ∨ entry.type.max < v.whole
  · rw [if_pos refused]
    have untouched : RefusedOrSet entry v st (.paramInvalid, st) := .inl ⟨fun same => (by cases same), rfl⟩
    exact iff_of_true untouched (refused.elim .inl fun large => .inr (.inl large))
  rw [if_neg refused]
  obtain ⟨plus, fits⟩ := not_or.mp refused
  rw [or_iff_right plus, or_iff_right fits, settingsApply]
  by_cases valid : (st.settings.setNum entry.offset v.whole).Valid
  · have accepted := (settingsValidate_iff _).mpr valid
    rw [if_neg (not_not.mpr accepted), or_iff_right (not_not.mpr valid)]
    have bound := entry_max_lt listed numeric
    have small : v.whole < 256 ^ entry.offset.width := by omega
    have set : (settingsWrite ctl { st with settings := st.settings.setNum entry.offset v.whole }).2.settings.num
        entry.offset = v.whole := by
      rw [settingsWrite_settings, Settings.num, stampHeader_raw _ (settingsMap_typed entry listed).1,
        ← Settings.num, Settings.num_setNum_same small]
    unfold RefusedOrSet
    rw [set, eq_comm (a := v.value)]
    refine or_iff_right ?_
    rintro ⟨failed, same⟩
    refine settingsWrite_failed failed ?_
    rw [same]
  · have rejected : settingsValidate (st.settings.setNum entry.offset v.whole) ≠ .success :=
      fun accepted => valid ((settingsValidate_iff _).mp accepted)
    rw [if_pos rejected]
    exact iff_of_true (.inl ⟨rejected, rfl⟩) (.inl valid)

/-- The brightness of a step that is lit. -/
def ledOnEntry : SettingsMap := .scalar "led_on_value" .uint8 .ledOnValue

/-- An object without white space. -/
def bareNumber : NumberMember where
  lead := noSpaces
  before := noSpaces
  afterName := noSpaces
  beforeValue := noSpaces
  rest := [125]
  ends := ⟨125, [], rfl, .inr (.inr rfl)⟩
  sole := by decide

/-- `12` -/
def twelve : Json.Number := ⟨false, ascii "12", [], none, by decide, by decide, by decide +kernel⟩

theorem number_read_iff_twelve :
    RefusedOrSet ledOnEntry twelve factoryStore
        (setSettingsJson .done (some (bareNumber.text twelve ledOnEntry.name)) factoryStore) ↔
      twelve.negative = true ∨ ledOnEntry.type.max < twelve.whole ∨
        ¬ (factoryStore.settings.setNum ledOnEntry.offset twelve.whole).Valid ∨ twelve.value = twelve.whole :=
  number_read_iff (by decide +kernel) rfl twelve bareNumber .done factoryStore

/-- `1.5e1`, which is fifteen. -/
def fifteen : Json.Number where
  negative := false
  int := ascii "1"
  fraction := ascii "5"
  exponent := some ⟨101, [], ascii "1", by decide, by decide, by decide, by decide +kernel⟩
  nonempty := by decide
  unpadded := by decide
  areDigits := by decide +kernel

/-- The web page accepts it and sets the brightness to one. -/
theorem number_read_fail :
    bareNumber.text fifteen ledOnEntry.name = ascii "\x7b\"led_on_value\":1.5e1\x7d" ∧ fifteen.value = 15 ∧
      (setSettingsJson .done (some (bareNumber.text fifteen ledOnEntry.name)) factoryStore).1 = .success ∧
      (setSettingsJson .done (some (bareNumber.text fifteen ledOnEntry.name)) factoryStore).2.settings.num
        .ledOnValue = 1 ∧
      ¬ RefusedOrSet ledOnEntry fifteen factoryStore
        (setSettingsJson .done (some (bareNumber.text fifteen ledOnEntry.name)) factoryStore) := by
  have value : fifteen.value = 15 := by
    have one : digitsValue (ascii "1") = 1 := by decide +kernel
    have five : digitsValue (ascii "5") = 5 := by decide +kernel
    have digit : (ascii "5").length = 1 := by decide
    norm_num [Json.Number.value, Json.Number.whole, Json.Exponent.factor, fifteen, one, five, digit]
  have listed : ledOnEntry ∈ settingsMap := by decide +kernel
  have applied := setSettingsJson_number bareNumber fifteen listed rfl .done factoryStore
  have fits : ¬ (fifteen.negative = true ∨ ledOnEntry.type.max < fifteen.whole) := by decide +kernel
  have valid : (factoryStore.settings.setNum ledOnEntry.offset fifteen.whole).Valid :=
    (settingsValidate_iff _).mp (by decide +kernel)
  obtain ⟨success, result⟩ := settingsApply_done valid factoryStore
  rw [if_neg fits] at applied
  have set : (settingsApply .done (some (factoryStore.settings.setNum ledOnEntry.offset fifteen.whole))
      factoryStore).2.settings.num .ledOnValue = 1 := by
    rw [result]
    decide +kernel
  refine ⟨by decide +kernel, value, ?_⟩
  rw [applied]
  refine ⟨success, set, ?_⟩
  rintro (⟨refused, -⟩ | same)
  · exact refused success
  · have differs : ((1 : Nat) : ℚ) = 15 := by
      rw [← set, ← value]
      exact same
    norm_num at differs

end Stairway
