import Stairway.Settings.Store

/-!
# Settings over HTTP (`network/http_server/settings.c`)

`set_settings_json` looks every name of `settings_map` up in the text by a plain substring
search and parses what follows its colon; `get_settings_json` prints the same table into a
buffer of fixed size.
-/

namespace Stairway
open Firmware

def jsonKeyBufSize : Nat := 48

inductive SettingsType
  | uint32 | uint16 | uint8 | bool | string
  deriving DecidableEq, Repr

/-- `SettingsMap`; `offset` is the member it belongs to. -/
structure SettingsMap where
  name : List UInt8
  type : SettingsType
  offset : SettingsField
  maxLen : Nat
  secret : Bool
  deriving DecidableEq, Repr

/-- An entry that is not a string. -/
def SettingsMap.scalar (name : String) (type : SettingsType) (offset : SettingsField) : SettingsMap :=
  ⟨ascii name, type, offset, 0, false⟩

/-- `settings_map` -/
def settingsMap : List SettingsMap := [
  .scalar "use_light_sensor" .bool .useLightSensor,
  .scalar "light_sensor_day" .uint32 .lightSensorDayValue,
  .scalar "light_sensor_night" .uint32 .lightSensorNightValue,
  .scalar "dist_trigger_down_first" .uint16 (.distTrigger .downFirst),
  .scalar "dist_trigger_down_second" .uint16 (.distTrigger .downSecond),
  .scalar "sensor_down_swap" .bool .sensorDownSwap,
  .scalar "dist_trigger_up_first" .uint16 (.distTrigger .upFirst),
  .scalar "dist_trigger_up_second" .uint16 (.distTrigger .upSecond),
  .scalar "sensor_up_swap" .bool .sensorUpSwap,
  .scalar "sensor_debouce_time" .uint32 .sensorDebouceTime,
  .scalar "led_count" .uint32 .ledCount,
  .scalar "leds_time_interval" .uint32 .ledsTimeInterval,
  .scalar "leds_off_timeout" .uint32 .ledsOffTimeout,
  .scalar "led_on_value" .uint8 .ledOnValue,
  .scalar "led_off_value" .uint8 .ledOffValue,
  .scalar "led_on_step" .uint8 .ledOnStep,
  .scalar "led_off_step" .uint8 .ledOffStep,
  .scalar "use_emergency" .bool .useEmergency,
  .scalar "emergency_cnt_down" .uint32 (.emergencyCnt .down),
  .scalar "emergency_cnt_up" .uint32 (.emergencyCnt .up),
  .scalar "emergency_block_ms" .uint32 .emergencyBlockMs,
  ⟨ascii "wifi_ssid", .string, .ssid, ssidMaxLen, false⟩,
  ⟨ascii "wifi_pass", .string, .pass, passMaxLen, true⟩]

/-! ## Reading -/

/-- The white space that `json_find_value` skips. -/
def jsonSpace (c : UInt8) : Bool := c == 32 || c == 9 || c == 13 || c == 10

/-- `"key"` -/
def jsonPattern (key : List UInt8) : List UInt8 := 34 :: (key ++ [34])

/-- What `json_find_value` does after the pattern: a colon between white space. -/
def jsonAfterKey (start : List UInt8) : Option (List UInt8) :=
  match start.dropWhile jsonSpace with
  | 58 :: rest => some (rest.dropWhile jsonSpace)
  | _ => none

/-- `json_find_value` -/
def jsonFindValue (json key : List UInt8) : Option (List UInt8) :=
  if (jsonPattern key).length ≥ jsonKeyBufSize then none
  else match strstr json (jsonPattern key) with
    | none => none
    | some start => jsonAfterKey (start.drop (jsonPattern key).length)

/-- The loop of `json_parse_string` after the opening quote; `out` is what it has stored. -/
def jsonStringFrom (bufSize : Nat) : List UInt8 → List UInt8 → Except ErrCode (List UInt8)
  | [], _ => .error .paramInvalid
  | 34 :: _, out => .ok out
  | [92], _ => .error .paramInvalid
  | 92 :: c :: val, out =>
    if c ≠ 34 ∧ c ≠ 92 ∧ c ≠ 47 then .error .paramInvalid
    else if out.length + 1 ≥ bufSize then .error .overflow
    else jsonStringFrom bufSize val (out ++ [c])
  | c :: val, out =>
    if out.length + 1 ≥ bufSize then .error .overflow
    else jsonStringFrom bufSize val (out ++ [c])

/-- `json_parse_string` -/
def jsonParseString (val : List UInt8) (bufSize : Nat) : Except ErrCode (List UInt8) :=
  match val with
  | 34 :: rest => jsonStringFrom bufSize rest []
  | _ => .error .paramInvalid

/-- `json_parse_bool` -/
def jsonParseBool (val : List UInt8) : Except ErrCode Bool :=
  if startsWith val (ascii "true") then .ok true
  else if startsWith val (ascii "false") then .ok false
  else .error .paramInvalid

/-- `json_parse_uint` -/
def jsonParseUint (val : List UInt8) (max : Nat) : Except ErrCode Nat :=
  if !digitFirst val then .error .paramInvalid
  else if (strtoul val).erange ∨ (strtoul val).rest = val ∨ (strtoul val).value > max then
    .error .paramInvalid
  else .ok (strtoul val).value

/-- One pass of the loop of `set_settings_json`, working on `new_settings`. -/
def jsonReadField (json : List UInt8) (s : Settings) (m : SettingsMap) : Except ErrCode Settings :=
  match jsonFindValue json m.name with
  | none => .ok s
  | some val =>
    match m.type with
    | .uint32 => (jsonParseUint val (2 ^ 32 - 1)).map (s.setNum m.offset)
    | .uint16 => (jsonParseUint val (2 ^ 16 - 1)).map (s.setNum m.offset)
    | .uint8 => (jsonParseUint val (2 ^ 8 - 1)).map (s.setNum m.offset)
    | .bool => (jsonParseBool val).map (s.setFlag m.offset)
    | .string => (jsonParseString val m.maxLen).map fun str =>
      -- an empty secret keeps the current value
      if m.secret ∧ str = [] then s else s.strcpy m.offset str

/-- The loop of `set_settings_json`: the first error ends it. -/
def jsonReadSettings (json : List UInt8) (s : Settings) : Except ErrCode Settings :=
  settingsMap.foldlM (jsonReadField json) s

/-- `set_settings_json`; `none` is the null pointer. -/
def setSettingsJson (ctl : FlashCtl) (json : Option (List UInt8)) (st : Store) : ErrCode × Store :=
  match json with
  | none => (.paramIsNull, st)
  | some json =>
    match jsonReadSettings json st.settings with
    | .error err => (err, st)
    | .ok newSettings => settingsApply ctl (some newSettings) st

/-! ## Writing -/

/-- The output buffer and the position in it. -/
structure JsonBuf where
  buf : List UInt8
  pos : Nat
  deriving DecidableEq, Repr

/-- `RETURN_IF_ERROR` between two writes. -/
def andThen (r : ErrCode × JsonBuf) (next : JsonBuf → ErrCode × JsonBuf) : ErrCode × JsonBuf :=
  if r.1 = .success then next r.2 else r

/-- `vsnprintf(buf + off, size, ...)` of a formatted text: what fits, and a terminator. -/
def vsnprintf (buf : List UInt8) (off size : Nat) (text : List UInt8) : List UInt8 :=
  if size = 0 then buf else store buf off (text.take (size - 1) ++ [0])

/-- `json_append` of a formatted text. -/
def jsonAppend (text : List UInt8) (w : JsonBuf) : ErrCode × JsonBuf :=
  let buf := vsnprintf w.buf w.pos (w.buf.length - w.pos) text
  if w.pos + text.length ≥ w.buf.length then (.overflow, { w with buf := buf })
  else (.success, ⟨buf, w.pos + text.length⟩)

/-- `buf[(*pos)++] = c` -/
def JsonBuf.push (w : JsonBuf) (c : UInt8) : JsonBuf := ⟨store w.buf w.pos [c], w.pos + 1⟩

/-- `json_append_string`: quotes and backslashes are escaped, nothing else. -/
def jsonAppendString : List UInt8 → JsonBuf → ErrCode × JsonBuf
  | [], w => (.success, { w with buf := store w.buf w.pos [0] })
  | c :: str, w =>
    let escape := c == 34 || c == 92
    if w.pos + (if escape then 2 else 1) ≥ w.buf.length then (.overflow, w)
    else jsonAppendString str ((if escape then w.push 92 else w).push c)

/-- `"name":` -/
def jsonKey (name : List UInt8) : List UInt8 := jsonPattern name ++ [58]

/-- One pass of the loop of `get_settings_json`. -/
def jsonWriteField (s : Settings) (m : SettingsMap) (sep : List UInt8) (w : JsonBuf) :
    ErrCode × JsonBuf :=
  match m.type with
  | .uint32 | .uint16 | .uint8 => jsonAppend (jsonKey m.name ++ decimal (s.num m.offset) ++ sep) w
  | .bool =>
    jsonAppend (jsonKey m.name ++ ascii (if s.flag m.offset then "true" else "false") ++ sep) w
  | .string =>
    andThen (jsonAppend (jsonKey m.name ++ [34]) w) fun w =>
      andThen (if m.secret then (.success, w) else jsonAppendString (cString (s.raw m.offset)) w)
        (jsonAppend (34 :: sep))

/-- The loop of `get_settings_json`: a comma after every entry but the last. -/
def jsonWriteFields (s : Settings) : List SettingsMap → JsonBuf → ErrCode × JsonBuf
  | [], w => (.success, w)
  | [m], w => jsonWriteField s m [] w
  | m :: ms, w => andThen (jsonWriteField s m [44] w) (jsonWriteFields s ms)

/-- `get_settings_json` into a buffer of `buf.length` bytes; `none` is the null pointer. -/
def getSettingsJson (s : Settings) (buf : Option (List UInt8)) : ErrCode × List UInt8 :=
  match buf with
  | none => (.paramIsNull, [])
  | some buf =>
    if buf.length = 0 then (.paramInvalid, buf)
    else
      let r := andThen (jsonAppend [123] ⟨store buf 0 [0], 0⟩) fun w =>
        andThen (jsonWriteFields s settingsMap w) (jsonAppend [125])
      (r.1, r.2.buf)

/-- `JSON_BUF_SIZE_MAX` of `content.c` -/
def jsonBufSizeMax : Nat := 1024

/-- `prepare_json_settings`: the body it sends, if any. -/
def prepareJsonSettings (s : Settings) : ErrCode × List UInt8 :=
  let (err, buf) := getSettingsJson s (some (List.replicate jsonBufSizeMax 0))
  (err, if err = .success then cString buf else [])

/-! ## The size of the buffer -/

@[simp] theorem JsonBuf.length_push (w : JsonBuf) (c : UInt8) :
    (w.push c).buf.length = w.buf.length := length_store _ _ _

theorem length_jsonAppend (text : List UInt8) (w : JsonBuf) :
    (jsonAppend text w).2.buf.length = w.buf.length := by
  have printed : (vsnprintf w.buf w.pos (w.buf.length - w.pos) text).length = w.buf.length := by
    unfold vsnprintf
    split
    · rfl
    · exact length_store _ _ _
  unfold jsonAppend
  dsimp only
  split
  · exact printed
  · exact printed

theorem length_jsonAppendString (str : List UInt8) (w : JsonBuf) :
    (jsonAppendString str w).2.buf.length = w.buf.length := by
  induction str generalizing w with
  | nil => exact length_store _ _ _
  | cons c str ih =>
    unfold jsonAppendString
    dsimp only
    split
    · split
      · rfl
      · rw [ih, JsonBuf.length_push, JsonBuf.length_push]
    · split
      · rfl
      · rw [ih, JsonBuf.length_push]

theorem length_andThen {r : ErrCode × JsonBuf} {next : JsonBuf → ErrCode × JsonBuf} {n : Nat}
    (first : r.2.buf.length = n) (second : ∀ w : JsonBuf, w.buf.length = n → (next w).2.buf.length = n) :
    (andThen r next).2.buf.length = n := by
  unfold andThen
  split
  · exact second _ first
  · exact first

theorem length_jsonWriteField (s : Settings) (m : SettingsMap) (sep : List UInt8) (w : JsonBuf) :
    (jsonWriteField s m sep w).2.buf.length = w.buf.length := by
  unfold jsonWriteField
  split
  case h_5 =>
    apply length_andThen (length_jsonAppend _ _)
    intro w' same
    apply length_andThen
    · split
      · exact same
      · rw [length_jsonAppendString, same]
    · intro w'' same'
      rw [length_jsonAppend, same']
  all_goals exact length_jsonAppend _ _

theorem length_jsonWriteFields (s : Settings) (ms : List SettingsMap) (w : JsonBuf) :
    (jsonWriteFields s ms w).2.buf.length = w.buf.length := by
  induction ms generalizing w with
  | nil => rfl
  | cons m ms ih =>
    cases ms with
    | nil => exact length_jsonWriteField s m [] w
    | cons m' ms =>
      apply length_andThen (length_jsonWriteField s m [44] w)
      intro w' same
      rw [ih, same]

/-- Printing stores into the buffer and leaves its size. -/
theorem length_getSettingsJson (s : Settings) (buf : List UInt8) :
    (getSettingsJson s (some buf)).2.length = buf.length := by
  unfold getSettingsJson
  dsimp only
  split
  · rfl
  · apply length_andThen
    · rw [length_jsonAppend]
      exact length_store _ _ _
    · intro w same
      apply length_andThen
      · rw [length_jsonWriteFields, same]
      · intro w' same'
        rw [length_jsonAppend, same']

end Stairway
