import Mathlib.Algebra.GroupWithZero.Nat
import Mathlib.Algebra.Order.BigOperators.Group.List
import Mathlib.Algebra.Order.Group.Nat
import Stairway.Network.SettingsUpdate

/-!
# The settings as JSON, and back

`get_settings_json` prints an object, `currentObject`, whose members hold the active values;
posting such an object changes nothing, whichever of its members the search finds. The largest
text fits the buffer of the server.
-/

namespace Stairway
open Firmware

/-! ## The output buffer -/

/-- The buffer holds the string `text`, and the position is at its terminator. -/
structure JsonBuf.Holds (w : JsonBuf) (text : List UInt8) : Prop where
  pos : w.pos = text.length
  buf : ∃ rest, w.buf = text ++ 0 :: rest

/-- `f` appends `new` to any text that leaves room for it and the terminator. -/
def Writes (f : JsonBuf → ErrCode × JsonBuf) (new : List UInt8) : Prop :=
  ∀ w text, w.Holds text → text.length + new.length < w.buf.length →
    ∃ w', f w = (.success, w') ∧ w'.buf.length = w.buf.length ∧ w'.Holds (text ++ new)

section
variable {f g : JsonBuf → ErrCode × JsonBuf} {a b : List UInt8}

theorem Writes.seq (first : Writes f a) (second : Writes g b) :
    Writes (fun w => andThen (f w) g) (a ++ b) := by
  intro w text holds room
  rw [List.length_append] at room
  obtain ⟨w₁, result, size, holds₁⟩ := first w text holds (by omega)
  have room₁ : (text ++ a).length + b.length < w₁.buf.length := by
    rw [size, List.length_append]
    omega
  obtain ⟨w₂, result', size', holds₂⟩ := second w₁ (text ++ a) holds₁ room₁
  refine ⟨w₂, ?_, size'.trans size, ?_⟩
  · change andThen (f w) g = _
    rw [result]
    exact result'
  · rw [← List.append_assoc]
    exact holds₂

theorem Writes.nothing : Writes (fun w => (.success, w)) [] := by
  intro w text holds room
  refine ⟨w, rfl, rfl, ?_⟩
  rw [List.append_nil]
  exact holds

end

theorem jsonAppend_writes (new : List UInt8) : Writes (jsonAppend new) new := by
  intro w text holds room
  obtain ⟨rest, buf⟩ := holds.buf
  have pos := holds.pos
  have whole : new.take (w.buf.length - w.pos - 1) = new := List.take_of_length_le (by omega)
  have written : vsnprintf w.buf w.pos (w.buf.length - w.pos) new =
      text ++ (new ++ 0 :: (0 :: rest).drop (new.length + 1)) := by
    have size := congrArg List.length buf
    rw [List.length_append, List.length_cons] at size
    have fits : (new ++ [0]).length ≤ (0 :: rest).length := by
      rw [List.length_append, List.length_singleton, List.length_cons]
      omega
    rw [vsnprintf, if_neg (by omega), whole, pos, buf, store_append, store_zero fits,
      List.length_append, List.length_singleton, List.append_assoc]
    rfl
  refine ⟨⟨text ++ (new ++ 0 :: (0 :: rest).drop (new.length + 1)), w.pos + new.length⟩, ?_, ?_, ?_⟩
  · rw [jsonAppend, written]
    exact if_neg (by omega)
  · rw [← written, vsnprintf, if_neg (by omega), length_store]
  · refine ⟨?_, (0 :: rest).drop (new.length + 1), ?_⟩
    · rw [List.length_append, pos]
    · rw [List.append_assoc]

/-- The text of one character, as `json_append_string` writes it. -/
theorem raw_encode (c : UInt8) (nonzero : c ≠ 0) :
    (JsonChar.encode c nonzero).raw = if c == 34 || c == 92 then [92, c] else [c] := by
  unfold JsonChar.encode
  by_cases special : c = 34 ∨ c = 92
  · rw [dif_pos special, if_pos (by simpa using special)]
    rfl
  · rw [dif_neg special, if_neg (by simpa using special)]
    rfl

/-- The characters of a string as `json_append_string` writes them. -/
theorem rawString_cons {c : UInt8} {str : List UInt8} (nonzero : 0 ∉ c :: str) :
    rawString (encodeString (c :: str) nonzero) = (if c == 34 || c == 92 then [92, c] else [c]) ++
      rawString (encodeString str fun member => nonzero (List.mem_cons_of_mem c member)) := by
  rw [← raw_encode c fun zero => nonzero (zero ▸ List.mem_cons_self)]
  rfl

/-- A text in the buffer whose terminator is still to be written. -/
structure JsonBuf.Front (w : JsonBuf) (text : List UInt8) : Prop where
  pos : w.pos = text.length
  buf : ∃ rest, w.buf = text ++ rest

theorem JsonBuf.Front.push {w : JsonBuf} {text : List UInt8} (front : w.Front text) (c : UInt8)
    (room : text.length < w.buf.length) : (w.push c).Front (text ++ [c]) := by
  obtain ⟨rest, buf⟩ := front.buf
  have size := congrArg List.length buf
  rw [List.length_append] at size
  constructor
  · rw [List.length_append, ← front.pos]
    rfl
  · refine ⟨rest.drop 1, ?_⟩
    change store w.buf w.pos [c] = _
    have fits : ([c] : List UInt8).length ≤ rest.length := by
      rw [List.length_singleton]
      omega
    rw [front.pos, buf, store_append, store_zero fits, List.append_assoc]
    rfl

/-- The characters of a string go in one after the other; the terminator comes last. -/
theorem jsonAppendString_front (str : List UInt8) (nonzero : 0 ∉ str) (w : JsonBuf)
    (text : List UInt8) (front : w.Front text)
    (room : text.length + (rawString (encodeString str nonzero)).length < w.buf.length) :
    ∃ w', jsonAppendString str w = (.success, w') ∧ w'.buf.length = w.buf.length ∧
      w'.Holds (text ++ rawString (encodeString str nonzero)) := by
  induction str generalizing w text with
  | nil =>
    obtain ⟨rest, buf⟩ := front.buf
    have size := congrArg List.length buf
    change text.length + 0 < w.buf.length at room
    rw [List.length_append] at size
    refine ⟨{ w with buf := store w.buf w.pos [0] }, rfl, length_store _ _ _, ?_⟩
    have empty : text ++ rawString (encodeString [] nonzero) = text := List.append_nil text
    rw [empty]
    refine ⟨front.pos, rest.drop 1, ?_⟩
    change store w.buf w.pos [0] = _
    have fits : ([0] : List UInt8).length ≤ rest.length := by
      rw [List.length_singleton]
      omega
    rw [front.pos, buf, store_append, store_zero fits]
    rfl
  | cons c str ih =>
    have later : 0 ∉ str := fun member => nonzero (List.mem_cons_of_mem _ member)
    rw [rawString_cons] at room ⊢
    rw [List.length_append] at room
    rw [jsonAppendString]
    have pos := front.pos
    by_cases escape : (c == 34 || c == 92) = true
    · simp only [escape, if_true, List.length_cons, List.length_nil] at room ⊢
      have front' := (front.push 92 (by omega)).push c (by
        rw [JsonBuf.length_push, List.length_append, List.length_singleton]
        omega)
      rw [if_neg (by omega)]
      obtain ⟨w', result, size, holds⟩ := ih later ((w.push 92).push c) (text ++ [92] ++ [c]) front' (by
        simp only [JsonBuf.length_push, List.length_append, List.length_singleton]
        omega)
      refine ⟨w', result, by simpa using size, ?_⟩
      have same : text ++ ([92, c] ++ rawString (encodeString str later)) =
          text ++ [92] ++ [c] ++ rawString (encodeString str later) := by simp
      rw [same]
      exact holds
    · simp only [escape, if_false, List.length_cons, List.length_nil, Bool.false_eq_true] at room ⊢
      have front' := front.push c (by omega)
      rw [if_neg (by omega)]
      obtain ⟨w', result, size, holds⟩ := ih later (w.push c) (text ++ [c]) front' (by
        simp only [JsonBuf.length_push, List.length_append, List.length_singleton]
        omega)
      refine ⟨w', result, by simpa using size, ?_⟩
      rw [← List.append_assoc]
      exact holds

theorem jsonAppendString_writes (str : List UInt8) (nonzero : 0 ∉ str) :
    Writes (jsonAppendString str) (rawString (encodeString str nonzero)) := by
  intro w text holds room
  obtain ⟨rest, buf⟩ := holds.buf
  exact jsonAppendString_front str nonzero w text ⟨holds.pos, 0 :: rest, buf⟩ room

/-! ## What is printed -/

/-- The value that `get_settings_json` prints for an entry; a secret is printed empty. -/
def currentValue (s : Settings) (e : SettingsMap) : JsonValue :=
  match e.type with
  | .uint32 | .uint16 | .uint8 => .num (s.num e.offset)
  | .bool => .bool (s.flag e.offset)
  | .string =>
    .str (if e.secret then [] else encodeString (cString (s.raw e.offset)) (cString_nonzero _))

/-- The only string that is printed is the name of the access point. -/
theorem settingsMap_strings : ∀ e ∈ settingsMap, e.type = .string →
    0 < e.maxLen ∧ (e.secret = false → e.offset = .ssid ∧ e.maxLen = ssidMaxLen) := by decide +kernel

def ssidEntry : SettingsMap := ⟨ascii "wifi_ssid", .string, .ssid, ssidMaxLen, false⟩

theorem ssidEntry_known : ssidEntry ∈ settingsMap := by decide +kernel

/-- Every value fits its entry, the name of the access point if it ends inside its member. -/
theorem currentValue_fits_of_ends {s : Settings} (ends : strnlen (s.raw .ssid) < ssidMaxLen)
    {e : SettingsMap} (known : e ∈ settingsMap) : (currentValue s e).Fits e := by
  have table := (settingsMap_typed e known).2
  have bound := s.num_lt e.offset
  cases type : e.type with
  | uint32 =>
    rw [type] at table
    rw [table] at bound
    simpa [currentValue, JsonValue.Fits, type] using bound
  | uint16 =>
    rw [type] at table
    rw [table] at bound
    simpa [currentValue, JsonValue.Fits, type] using bound
  | uint8 =>
    rw [type] at table
    rw [table] at bound
    simpa [currentValue, JsonValue.Fits, type] using bound
  | bool => simp [currentValue, JsonValue.Fits, type]
  | string =>
    obtain ⟨positive, shown⟩ := settingsMap_strings e known type
    have fits : (if e.secret then []
        else encodeString (cString (s.raw e.offset)) (cString_nonzero _)).length < e.maxLen := by
      cases secret : e.secret with
      | true => exact positive
      | false =>
        obtain ⟨ssid, maxLen⟩ := shown secret
        simp only [Bool.false_eq_true, if_false, length_encodeString]
        rw [ssid, maxLen]
        exact ends
    simpa [currentValue, JsonValue.Fits, type] using fits

theorem currentValue_fits {s : Settings} (valid : s.Valid) {e : SettingsMap} (known : e ∈ settingsMap) :
    (currentValue s e).Fits e :=
  currentValue_fits_of_ends valid.ssidMax known

section
variable (s : Settings) (valid : s.Valid)

/-- The members that `get_settings_json` prints. -/
def currentMembers : List JsonMember :=
  settingsMap.attach.map fun e => .bare e.1 (currentValue s e.1) e.2 (currentValue_fits valid e.2)

theorem currentMembers_entries : (currentMembers s valid).map JsonMember.entry = settingsMap := by
  rw [currentMembers, List.map_map]
  exact List.attach_map_subtype_val settingsMap

/-- The object that `get_settings_json` prints. -/
def currentObject : JsonObject :=
  .bare (currentMembers s valid) (by
    have names := settingsMap_names
    rw [← currentMembers_entries s valid, List.map_map] at names
    exact names)

end

/-- `"name":value` -/
def fieldText (s : Settings) (e : SettingsMap) : List UInt8 :=
  jsonKey e.name ++ (currentValue s e).text

theorem currentMembers_text {s : Settings} (valid : s.Valid) :
    ∀ m ∈ currentMembers s valid, m.value = currentValue s m.entry ∧ m.text = fieldText s m.entry := by
  intro m member
  obtain ⟨e, -, same⟩ := List.mem_map.mp member
  subst same
  refine ⟨rfl, ?_⟩
  simp [JsonMember.bare, JsonMember.text, JsonMember.tail, fieldText, jsonKey, jsonPattern, noSpaces]

theorem currentObject_text {s : Settings} (valid : s.Valid) :
    (currentObject s valid).text = membersText 123 (currentMembers s valid) ++ [125] := by
  have entries := currentMembers_entries s valid
  have nonempty : (currentMembers s valid).isEmpty = false := by
    cases members : currentMembers s valid with
    | nil =>
      rw [members] at entries
      cases entries
    | cons m ms => rfl
  have text : (currentObject s valid).text =
      (if (currentMembers s valid).isEmpty then [123] else membersText 123 (currentMembers s valid)) ++
        [125] := rfl
  rw [text, nonempty]
  rfl

/-! ## Printing -/

/-- An entry that is not a string is one text. -/
theorem jsonWriteField_scalar (s : Settings) {e : SettingsMap} (scalar : e.type ≠ .string) (sep : List UInt8) :
    jsonWriteField s e sep = jsonAppend (fieldText s e ++ sep) := by
  funext w
  cases type : e.type with
  | string => exact absurd type scalar
  | _ => simp [jsonWriteField, fieldText, currentValue, JsonValue.text, type]

/-- A string is printed in three parts. -/
theorem jsonWriteField_string (s : Settings) {e : SettingsMap} (type : e.type = .string) (sep : List UInt8) :
    jsonWriteField s e sep = fun w => andThen (jsonAppend (jsonKey e.name ++ [34]) w)
      fun w => andThen (if e.secret then (.success, w) else jsonAppendString (cString (s.raw e.offset)) w)
        (jsonAppend (34 :: sep)) := by
  funext w
  rw [jsonWriteField, type]

/-- The content of the text of a string, empty for a secret. -/
def contentText (s : Settings) (e : SettingsMap) : List UInt8 :=
  if e.secret then [] else rawString (encodeString (cString (s.raw e.offset)) (cString_nonzero _))

/-- The text of a string in the parts in which it is printed. -/
theorem fieldText_string (s : Settings) {e : SettingsMap} (type : e.type = .string) (sep : List UInt8) :
    fieldText s e ++ sep = (jsonKey e.name ++ [34]) ++ (contentText s e ++ 34 :: sep) := by
  cases secret : e.secret <;>
    simp [fieldText, currentValue, contentText, JsonValue.text, rawString, type, secret]

theorem jsonWriteField_writes (s : Settings) (e : SettingsMap) (sep : List UInt8) :
    Writes (jsonWriteField s e sep) (fieldText s e ++ sep) := by
  by_cases type : e.type = .string
  · have content : Writes (fun w => if e.secret then (.success, w)
        else jsonAppendString (cString (s.raw e.offset)) w) (contentText s e) := by
      unfold contentText
      cases e.secret with
      | true => exact Writes.nothing
      | false => exact jsonAppendString_writes _ (cString_nonzero _)
    rw [fieldText_string s type, jsonWriteField_string s type]
    exact (jsonAppend_writes (jsonKey e.name ++ [34])).seq (content.seq (jsonAppend_writes (34 :: sep)))
  · rw [jsonWriteField_scalar s type]
    exact jsonAppend_writes _

/-- The loop prints the members with commas between them. -/
theorem jsonWriteFields_writes {s : Settings} (m : JsonMember) (ms : List JsonMember)
    (printed : ∀ m' ∈ m :: ms, m'.text = fieldText s m'.entry) :
    Writes (jsonWriteFields s ((m :: ms).map JsonMember.entry)) (m.text ++ membersText 44 ms) := by
  induction ms generalizing m with
  | nil =>
    rw [printed m List.mem_cons_self]
    exact jsonWriteField_writes s m.entry []
  | cons m' ms ih =>
    have first := jsonWriteField_writes s m.entry [44]
    rw [← printed m List.mem_cons_self] at first
    have rest := ih m' (fun m'' member => printed m'' (List.mem_cons_of_mem _ member))
    have text : m.text ++ membersText 44 (m' :: ms) =
        (m.text ++ [44]) ++ (m'.text ++ membersText 44 ms) := by
      simp [membersText]
    rw [text]
    exact first.seq rest

/-- `get_settings_json` prints the current object into any buffer that can hold it. -/
theorem getSettingsJson_text {s : Settings} (valid : s.Valid) {buf : List UInt8}
    (room : (currentObject s valid).text.length < buf.length) :
    ∃ rest, getSettingsJson s (some buf) = (.success, (currentObject s valid).text ++ 0 :: rest) := by
  have printed := currentMembers_text valid
  have entries := currentMembers_entries s valid
  rw [currentObject_text valid] at room ⊢
  cases members : currentMembers s valid with
  | nil =>
    rw [members] at entries
    cases entries
  | cons m ms =>
    rw [members] at entries printed room
    have fields := jsonWriteFields_writes m ms (fun m' member => (printed m' member).2)
    rw [entries] at fields
    have writes := (jsonAppend_writes [123]).seq (fields.seq (jsonAppend_writes [125]))
    have start : (⟨store buf 0 [0], 0⟩ : JsonBuf).Holds [] := by
      cases buf with
      | nil => cases room
      | cons b buf =>
        refine ⟨rfl, buf, ?_⟩
        cases buf <;> rfl
    obtain ⟨w', result, -, holds⟩ := writes ⟨store buf 0 [0], 0⟩ [] start (by
      simpa [membersText] using room)
    obtain ⟨rest, content⟩ := holds.buf
    have size : ¬ buf.length = 0 := by omega
    refine ⟨rest, ?_⟩
    rw [getSettingsJson]
    dsimp only
    rw [if_neg size]
    dsimp only at result
    rw [result, content]
    simp [membersText]

/-! ## The length of the text -/

/-- The most that an entry takes: its name, quotes, colon and largest value. -/
def fieldSize (e : SettingsMap) : Nat :=
  e.name.length + 3 + match e.type with
    | .uint32 => 10
    | .uint16 => 5
    | .uint8 => 3
    | .bool => 5
    | .string => 2 * e.maxLen

theorem sum_fieldSize : (settingsMap.map fun e => fieldSize e + 1).sum + 1 < jsonBufSizeMax := by decide +kernel

theorem length_rawString_le (cs : List JsonChar) : (rawString cs).length ≤ 2 * cs.length := by
  induction cs with
  | nil => exact Nat.le_refl 0
  | cons c cs ih =>
    have char : c.raw.length ≤ 2 := by
      cases c with
      | plain c ordinary => exact Nat.le_succ 1
      | escaped c allowed => exact Nat.le_refl 2
    have split : rawString (c :: cs) = c.raw ++ rawString cs := rfl
    rw [split, List.length_append, List.length_cons]
    omega

/-- The text of a value that fits its entry is bounded. -/
theorem length_fieldText_le {s : Settings} {e : SettingsMap} (fits : (currentValue s e).Fits e) :
    (fieldText s e).length ≤ fieldSize e := by
  have key : (jsonKey e.name).length = e.name.length + 3 := by
    simp [jsonKey, jsonPattern]
  rw [fieldText, fieldSize, List.length_append, key]
  apply Nat.add_le_add_left
  cases type : e.type with
  | uint32 =>
    simp only [currentValue, JsonValue.Fits, type] at fits ⊢
    exact length_decimal_le (by decide) (by omega)
  | uint16 =>
    simp only [currentValue, JsonValue.Fits, type] at fits ⊢
    exact length_decimal_le (by decide) (by omega)
  | uint8 =>
    simp only [currentValue, JsonValue.Fits, type] at fits ⊢
    exact length_decimal_le (by decide) (by omega)
  | bool =>
    simp only [currentValue, type]
    cases s.flag e.offset <;> decide
  | string =>
    simp only [currentValue, JsonValue.Fits, type] at fits ⊢
    have chars := length_rawString_le
      (if e.secret then [] else encodeString (cString (s.raw e.offset)) (cString_nonzero _))
    simp only [JsonValue.text, List.length_cons, List.length_append, List.length_nil]
    omega

theorem length_membersText (lead : UInt8) (ms : List JsonMember) :
    (membersText lead ms).length = (ms.map fun m => m.text.length + 1).sum := by
  induction ms generalizing lead with
  | nil => rfl
  | cons m ms ih =>
    rw [membersText, List.length_cons, List.length_append, ih, List.map_cons, List.sum_cons]
    omega

/-- **The largest text fits the buffer of the server.** -/
theorem length_currentObject_lt {s : Settings} (valid : s.Valid) :
    (currentObject s valid).text.length < jsonBufSizeMax := by
  have printed := currentMembers_text valid
  have entries := currentMembers_entries s valid
  have bound := sum_fieldSize
  have sum : ((currentMembers s valid).map fun m => m.text.length + 1).sum ≤
      (settingsMap.map fun e => fieldSize e + 1).sum := by
    rw [← entries, List.map_map]
    refine List.sum_le_sum (fun m member => ?_)
    have size := length_fieldText_le (currentValue_fits valid m.known)
    rw [(printed m member).2]
    exact Nat.succ_le_succ size
  rw [currentObject_text valid, List.length_append, length_membersText, List.length_singleton]
  omega

/-! ## The text is a string -/

theorem JsonValue.text_nonzero (v : JsonValue) : 0 ∉ v.text := by
  cases v with
  | num n =>
    intro zero
    have digit := isDigit_decimal 0 zero
    revert digit
    decide
  | bool b => cases b <;> decide
  | str cs =>
    intro zero
    have inside : 0 ∈ rawString cs := by simpa [JsonValue.text] using zero
    obtain ⟨c, -, char⟩ := List.mem_flatMap.mp inside
    cases c with
    | plain c ordinary => exact ordinary.2.2 (List.mem_singleton.mp char).symm
    | escaped c allowed =>
      have same : 0 = c := by simpa [JsonChar.raw] using char
      subst same
      revert allowed
      decide

theorem fieldText_nonzero (s : Settings) {e : SettingsMap} (known : e ∈ settingsMap) :
    0 ∉ fieldText s e := by
  intro zero
  have name := (keyName_of_mem known).not_mem (c := 0) (by decide)
  rcases List.mem_append.mp zero with key | value
  · exact name (by simpa [jsonKey, jsonPattern] using key)
  · exact JsonValue.text_nonzero _ value

theorem membersText_nonzero {lead : UInt8} (nonzero : lead ≠ 0) {ms : List JsonMember}
    (texts : ∀ m ∈ ms, 0 ∉ m.text) : 0 ∉ membersText lead ms := by
  induction ms generalizing lead with
  | nil => exact List.not_mem_nil
  | cons m ms ih =>
    intro zero
    rcases List.mem_cons.mp zero with same | zero
    · exact nonzero same.symm
    · rcases List.mem_append.mp zero with inside | inside
      · exact texts m List.mem_cons_self inside
      · exact ih (by decide) (fun m' member => texts m' (List.mem_cons_of_mem _ member)) inside

theorem currentObject_nonzero {s : Settings} (valid : s.Valid) : 0 ∉ (currentObject s valid).text := by
  have printed := currentMembers_text valid
  intro zero
  rw [currentObject_text valid] at zero
  rcases List.mem_append.mp zero with inside | brace
  · refine membersText_nonzero (by decide) (fun m member => ?_) inside
    rw [(printed m member).2]
    exact fieldText_nonzero s m.known
  · revert brace
    decide

/-! ## Posting it back -/

/-- Every printed value is what the field has; the password is not printed, and kept. -/
theorem currentMembers_hold {s : Settings} (valid : s.Valid) :
    ∀ m ∈ currentMembers s valid, m.Holds s s := by
  intro m member
  have value := (currentMembers_text valid m member).1
  rw [JsonMember.Holds, value]
  cases type : m.entry.type with
  | uint32 | uint16 | uint8 => simp [currentValue, type]
  | bool => simp [currentValue, type]
  | string =>
    simp only [currentValue, type]
    cases secret : m.entry.secret with
    | true => simp [decodeString]
    | false => simp [decodeString_encode]

section
variable {o : JsonObject} {s : Settings} (holds : ∀ m ∈ o.members, m.Holds s s)
include holds

/-- Values that are there already leave every field that is no flag byte for byte. -/
theorem JsonObject.read_raw_of_holds {f : SettingsField}
    (scalar : ∀ e ∈ settingsMap, e.offset = f → e.type ≠ .bool) : (o.read s).raw f = s.raw f := by
  by_cases named : ∃ m ∈ o.members, m.entry.offset = f
  · obtain ⟨m, member, here⟩ := named
    subst here
    by_cases hides : o.Hidden m
    · exact JsonObject.read_hidden s hides
    · rw [JsonObject.read_visible s member hides]
      apply JsonMember.overwrite_of_holds (holds m member)
      intro b value
      have typed := m.typed
      rw [value] at typed
      exact scalar m.entry m.known rfl typed
  · exact JsonObject.read_unnamed s (fun m member here => named ⟨m, member, here⟩)

theorem JsonObject.read_flag_of_holds {e : SettingsMap} (known : e ∈ settingsMap) (bool : e.type = .bool) :
    (o.read s).flag e.offset = s.flag e.offset := by
  by_cases named : ∃ m ∈ o.members, m.entry.offset = e.offset
  · obtain ⟨m, member, here⟩ := named
    have entry := (settingsMap_injective m.entry m.known e known).2 here
    subst entry
    have asked := holds m member
    have result : m.Holds s (o.read s) := by
      by_cases hides : o.Hidden m
      · exact (JsonMember.Holds.congr (JsonObject.read_hidden s hides)).mpr asked
      · exact JsonMember.holds_of_overwrite (JsonObject.read_visible s member hides)
    have typed := m.typed
    rw [JsonMember.Holds] at asked result
    cases value : m.value with
    | num n =>
      rw [value] at typed
      simp [JsonValue.Fits, bool] at typed
    | bool b =>
      rw [value] at asked result
      exact result.trans asked.symm
    | str cs =>
      rw [value] at typed
      rw [typed.1] at bool
      cases bool
  · rw [Settings.flag, Settings.num,
      JsonObject.read_unnamed s (fun m member here => named ⟨m, member, here⟩)]
    rfl

/-- If moreover every flag is stored as 0 or 1, nothing changes at all. -/
theorem JsonObject.read_of_holds
    (flags : ∀ e ∈ settingsMap, e.type = .bool → s.num e.offset ≤ 1) : o.read s = s := by
  have assign : ∀ m ∈ o.members, m.assign s = s := by
    intro m member
    have same : m.overwrite (s.raw m.entry.offset) = s.raw m.entry.offset := by
      cases value : m.value with
      | num n => exact JsonMember.overwrite_of_holds (holds m member) (by simp [value])
      | str cs => exact JsonMember.overwrite_of_holds (holds m member) (by simp [value])
      | bool b =>
        have typed := m.typed
        have asked := holds m member
        rw [value] at typed
        rw [JsonMember.Holds, value] at asked
        have low := flags m.entry m.known typed
        have width := (m.bool_field value).1
        have bytes := leBytes_leNat (s.raw m.entry.offset)
        rw [Settings.length_raw] at bytes
        have number : s.num m.entry.offset = b.toNat := by
          change (s.num m.entry.offset != 0) = b at asked
          cases b with
          | false => simpa using asked
          | true =>
            have positive : s.num m.entry.offset ≠ 0 := by simpa using asked
            change _ = 1
            omega
        rw [JsonMember.overwrite, JsonMember.data, value]
        dsimp only
        rw [← number, Settings.num, bytes, List.drop_length, List.append_nil]
    cases data : m.data with
    | none => rw [JsonMember.assign, data]
    | some data' =>
      rw [JsonMember.overwrite, data] at same
      rw [JsonMember.assign, data]
      exact Settings.put_front same
  have run : ∀ ms : List JsonMember, (∀ m ∈ ms, m.assign s = s) → ms.foldl JsonMember.assign s = s := by
    intro ms
    induction ms with
    | nil => intro _; rfl
    | cons m ms ih =>
      intro same
      rw [List.foldl_cons, same m List.mem_cons_self]
      exact ih (fun m' member => same m' (List.mem_cons_of_mem _ member))
  exact run _ (fun m found => assign m (JsonObject.mem_found.mp found).1)

end

/-- No setting has changed: the fields are the same bytes, flags the same truth values; and if
the header is valid and the flags are stored as 0 or 1, so is the whole object. -/
structure Unchanged (s t : Settings) : Prop where
  values : ∀ f, f.header = false → (∀ e ∈ settingsMap, e.offset = f → e.type ≠ .bool) →
    t.raw f = s.raw f
  flags : ∀ e ∈ settingsMap, e.type = .bool → t.flag e.offset = s.flag e.offset
  whole : settingsIsValidHeader s = true →
    (∀ e ∈ settingsMap, e.type = .bool → s.num e.offset ≤ 1) → t = s

/-- **Reading the settings as JSON and posting the text back is the identity.** -/
theorem json_round_trip (st : Store) (valid : st.settings.Valid) (buf : List UInt8)
    (sized : buf.length = jsonBufSizeMax) :
    (getSettingsJson st.settings (some buf)).1 = .success ∧
      (setSettingsJson .done (some (cString (getSettingsJson st.settings (some buf)).2)) st).1 =
        .success ∧
      Unchanged st.settings
        (setSettingsJson .done (some (cString (getSettingsJson st.settings (some buf)).2)) st).2.settings := by
  have room : (currentObject st.settings valid).text.length < buf.length := by
    rw [sized]
    exact length_currentObject_lt valid
  obtain ⟨rest, printed⟩ := getSettingsJson_text valid room
  rw [printed]
  dsimp only
  rw [cString_append_nul (currentObject_nonzero valid), setSettingsJson_object]
  have holds : ∀ m ∈ (currentObject st.settings valid).members, m.Holds st.settings st.settings :=
    currentMembers_hold valid
  have plain : ∀ f : SettingsField, f.validated = true →
      ∀ e ∈ settingsMap, e.offset = f → e.type ≠ .bool := by
    intro f looked e known same bool
    have table := (settingsMap_typed e known).2
    rw [bool, same, looked] at table
    cases table.2
  have read : ((currentObject st.settings valid).read st.settings).Valid :=
    valid.of_raw (fun f looked => JsonObject.read_raw_of_holds holds (plain f looked))
  obtain ⟨success, result⟩ := settingsApply_done read st
  refine ⟨rfl, success, ?_⟩
  rw [result]
  constructor
  · intro f kept scalar
    rw [stampHeader_raw _ kept, JsonObject.read_raw_of_holds holds scalar]
  · intro e known bool
    have flag := JsonObject.read_flag_of_holds holds known bool
    have kept := (settingsMap_typed e known).1
    rw [Settings.flag, Settings.num, stampHeader_raw _ kept]
    exact flag
  · intro header flags
    rw [JsonObject.read_of_holds holds flags, stampHeader_of_valid header]

/-- The name of the access point holds quotes and ends like the name of the next member. -/
def quotingStore : Store :=
  { factoryStore with
    settings := stampHeader (defaultSettings.strcpy .ssid (ascii "\\\",\"led_count\":\"wifi_pass")) }

theorem json_round_trip_quoting :
    (getSettingsJson quotingStore.settings (some (List.replicate jsonBufSizeMax 0))).1 = .success ∧
      (setSettingsJson .done (some (cString (getSettingsJson quotingStore.settings
        (some (List.replicate jsonBufSizeMax 0))).2)) quotingStore).1 = .success ∧
      Unchanged quotingStore.settings (setSettingsJson .done (some (cString
        (getSettingsJson quotingStore.settings (some (List.replicate jsonBufSizeMax 0))).2))
        quotingStore).2.settings :=
  json_round_trip quotingStore
    (stampHeader_settings_valid ((settingsValidate_iff _).mp (by decide +kernel)))
    (List.replicate jsonBufSizeMax 0) List.length_replicate

end Stairway
