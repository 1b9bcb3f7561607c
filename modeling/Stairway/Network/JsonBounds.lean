import Stairway.Firmware.Outcome
import Stairway.Firmware.Word
import Stairway.Network.SettingsRoundTrip

/-!
# The bounds of the printer

`get_settings_json` once more, as the source writes it: every byte is stored where the source stores
it, the size that `vsnprintf` is given is an unsigned difference, positions and the lengths that are
added to them are unsigned words, and a string is read up to its terminator wherever that is. Into any
buffer it prints what the text is, or reports that it does not fit (`getSettingsJson_exact`).
-/

namespace Stairway
open Firmware

/-- What the source does not check. -/
inductive JsonFault
  /-- a byte is stored outside the buffer -/
  | outside
  /-- a string is read past the end of the settings -/
  | unread

namespace Bounded

/-- `RETURN_IF_ERROR` between two writes. -/
def andThen (r : Except JsonFault (ErrCode × JsonBuf)) (next : JsonBuf → Except JsonFault (ErrCode × JsonBuf)) :
    Except JsonFault (ErrCode × JsonBuf) := do
  let r ← r
  if r.1 = .success then next r.2 else .ok r

/-- Store bytes into the buffer. -/
def put (buf : List UInt8) (off : Nat) (bytes : List UInt8) : Except JsonFault (List UInt8) :=
  if buf.length < off + bytes.length then .error .outside else .ok (store buf off bytes)

/-- `vsnprintf(buf + off, size, ...)` of a formatted text. -/
def vsnprintf (buf : List UInt8) (off size : Nat) (text : List UInt8) : Except JsonFault (List UInt8) :=
  if size = 0 then .ok buf else put buf off (text.take (size - 1) ++ [0])

/-- `json_append` of a formatted text; `len` is its whole length, so it is not negative. -/
def jsonAppend (text : List UInt8) (w : JsonBuf) : Except JsonFault (ErrCode × JsonBuf) := do
  let buf ← vsnprintf w.buf w.pos (wordSub 32 w.buf.length w.pos) text
  let pos := (w.pos + text.length) % 2 ^ 32
  if pos ≥ w.buf.length then .ok (.overflow, ⟨buf, w.pos⟩) else .ok (.success, ⟨buf, pos⟩)

/-- `buf[(*pos)++] = c` -/
def push (w : JsonBuf) (c : UInt8) : Except JsonFault JsonBuf := do
  let buf ← put w.buf w.pos [c]
  .ok ⟨buf, (w.pos + 1) % 2 ^ 32⟩

/-- `json_append_string` of the string at the front of the memory. -/
def jsonAppendString : List UInt8 → JsonBuf → Except JsonFault (ErrCode × JsonBuf)
  | [], _ => .error .unread
  | c :: mem, w =>
    if c = 0 then do
      let buf ← put w.buf w.pos [0]
      .ok (.success, ⟨buf, w.pos⟩)
    else
      let escape := c == 34 || c == 92
      if (w.pos + (if escape then 2 else 1)) % 2 ^ 32 ≥ w.buf.length then .ok (.overflow, w)
      else do
        let w ← if escape then push w 92 else .ok w
        let w ← push w c
        jsonAppendString mem w

/-- One pass of the loop of `get_settings_json`. -/
def jsonWriteField (s : Settings) (m : SettingsMap) (sep : List UInt8) (w : JsonBuf) :
    Except JsonFault (ErrCode × JsonBuf) :=
  match m.type with
  | .uint32 | .uint16 | .uint8 => jsonAppend (jsonKey m.name ++ decimal (s.num m.offset) ++ sep) w
  | .bool =>
    jsonAppend (jsonKey m.name ++ ascii (if s.flag m.offset then "true" else "false") ++ sep) w
  | .string =>
    andThen (jsonAppend (jsonKey m.name ++ [34]) w) fun w =>
      andThen (if m.secret then .ok (.success, w) else jsonAppendString (s.bytes.drop m.offset.offset) w)
        (jsonAppend (34 :: sep))

/-- The loop of `get_settings_json`: a comma after every entry but the last. -/
def jsonWriteFields (s : Settings) : List SettingsMap → JsonBuf → Except JsonFault (ErrCode × JsonBuf)
  | [], w => .ok (.success, w)
  | [m], w => jsonWriteField s m [] w
  | m :: ms, w => andThen (jsonWriteField s m [44] w) (jsonWriteFields s ms)

/-- `get_settings_json` into a buffer of `buf.length` bytes; `none` is the null pointer. -/
def getSettingsJson (s : Settings) (buf : Option (List UInt8)) : Except JsonFault (ErrCode × List UInt8) :=
  match buf with
  | none => .ok (.paramIsNull, [])
  | some buf =>
    if buf.length = 0 then .ok (.paramInvalid, buf)
    else do
      let buf ← put buf 0 [0]
      let r ← andThen (jsonAppend [123] ⟨buf, 0⟩) fun w =>
        andThen (jsonWriteFields s settingsMap w) (jsonAppend [125])
      .ok (r.1, r.2.buf)

end Bounded

/-! ## One append -/

theorem put_inside {buf bytes : List UInt8} {off : Nat} (inside : off + bytes.length ≤ buf.length) :
    Bounded.put buf off bytes = .ok (store buf off bytes) := if_neg (by omega)

theorem JsonBuf.Holds.inside {w : JsonBuf} {text : List UInt8} (holds : w.Holds text) :
    w.pos < w.buf.length := by
  obtain ⟨rest, buf⟩ := holds.buf
  rw [holds.pos, buf, List.length_append, List.length_cons]
  omega

/-- `f` does what `g` does, and `g` appends `new` or reports that `new` and the terminator do not fit. -/
structure Appends (f : JsonBuf → Except JsonFault (ErrCode × JsonBuf)) (g : JsonBuf → ErrCode × JsonBuf)
    (new : List UInt8) : Prop where
  writes : Writes g new
  overflows : ∀ w text, w.Holds text → w.buf.length ≤ text.length + new.length → (g w).1 = .overflow
  checked : ∀ w text, w.Holds text → w.buf.length < 2 ^ 32 → text.length + new.length < 2 ^ 32 →
    f w = .ok (g w)

section
variable {f f' : JsonBuf → Except JsonFault (ErrCode × JsonBuf)} {g g' : JsonBuf → ErrCode × JsonBuf}
  {a b : List UInt8}

theorem Appends.seq (first : Appends f g a) (second : Appends f' g' b) :
    Appends (fun w => Bounded.andThen (f w) f') (fun w => andThen (g w) g') (a ++ b) := by
  refine ⟨first.writes.seq second.writes, ?_, ?_⟩
  · intro w text holds full
    rw [List.length_append] at full
    by_cases room : text.length + a.length < w.buf.length
    · obtain ⟨w', result, size, holds'⟩ := first.writes w text holds room
      rw [result]
      refine second.overflows w' (text ++ a) holds' ?_
      rw [size, List.length_append]
      omega
    · have stops := first.overflows w text holds (by omega)
      rw [andThen, stops, if_neg (by decide), stops]
  · intro w text holds word short
    rw [List.length_append] at short
    have here := first.checked w text holds word (by omega)
    by_cases room : text.length + a.length < w.buf.length
    · obtain ⟨w', result, size, holds'⟩ := first.writes w text holds room
      rw [here, result]
      refine second.checked w' (text ++ a) holds' (by omega) ?_
      rw [List.length_append]
      omega
    · have stops := first.overflows w text holds (by omega)
      have failed : ¬ (g w).1 = .success := by rw [stops]; decide
      rw [here, andThen, if_neg failed]
      exact if_neg failed

/-- From the start of a buffer the result says whether the text and its terminator fit. -/
theorem Appends.exact (appends : Appends f g a) {w : JsonBuf} (start : w.Holds []) :
    ((g w).1 = .success ↔ a.length + 1 ≤ w.buf.length) ∧
      ((g w).1 = .success → ∃ rest, (g w).2.buf = a ++ 0 :: rest) ∧
      ((g w).1 ≠ .success → (g w).1 = .overflow) := by
  by_cases room : a.length < w.buf.length
  · obtain ⟨w', result, -, holds⟩ := appends.writes w [] start (by simpa using room)
    rw [result]
    exact ⟨iff_of_true rfl room, fun _ => holds.buf, fun failed => absurd rfl failed⟩
  · have full := appends.overflows w [] start (by simpa using room)
    have failed : ¬ (g w).1 = .success := by rw [full]; decide
    exact ⟨iff_of_false failed room, fun success => absurd success failed, fun _ => full⟩

theorem Appends.nothing : Appends (fun w => .ok (.success, w)) (fun w => (.success, w)) [] where
  writes := Writes.nothing
  overflows w text holds full := by
    have inside := holds.inside
    rw [holds.pos] at inside
    exact absurd full (by simpa using inside)
  checked _ _ _ _ _ := rfl

end

theorem jsonAppend_appends (new : List UInt8) : Appends (Bounded.jsonAppend new) (jsonAppend new) new where
  writes := jsonAppend_writes new
  overflows w text holds full := by
    rw [jsonAppend, if_pos (by rw [holds.pos]; exact full)]
  checked w text holds word short := by
    have inside := holds.inside
    have size : wordSub 32 w.buf.length w.pos = w.buf.length - w.pos :=
      wordSub_of_le (Nat.le_of_lt inside) word
    have pos : (w.pos + new.length) % 2 ^ 32 = w.pos + new.length :=
      Nat.mod_eq_of_lt (by rw [holds.pos]; exact short)
    have printed : Bounded.vsnprintf w.buf w.pos (w.buf.length - w.pos) new =
        .ok (vsnprintf w.buf w.pos (w.buf.length - w.pos) new) := by
      have some : ¬ w.buf.length - w.pos = 0 := by omega
      rw [Bounded.vsnprintf, vsnprintf, if_neg some, if_neg some]
      refine put_inside ?_
      rw [List.length_append, List.length_take, List.length_singleton]
      omega
    rw [Bounded.jsonAppend, size, printed, pos, jsonAppend]
    by_cases full : w.pos + new.length ≥ w.buf.length
    · rw [if_pos full]
      exact if_pos full
    · rw [if_neg full]
      exact if_neg full

/-! ## A string -/

/-- A string that does not fit is cut at the character that would take the place of the terminator. -/
theorem jsonAppendString_overflows (str : List UInt8) (nonzero : 0 ∉ str) (w : JsonBuf) (text : List UInt8)
    (front : w.Front text) (inside : text.length < w.buf.length)
    (full : w.buf.length ≤ text.length + (rawString (encodeString str nonzero)).length) :
    (jsonAppendString str w).1 = .overflow := by
  induction str generalizing w text with
  | nil =>
    change w.buf.length ≤ text.length + 0 at full
    omega
  | cons c str ih =>
    have pos := front.pos
    rw [rawString_cons, List.length_append] at full
    rw [jsonAppendString]
    by_cases escape : (c == 34 || c == 92) = true
    · simp only [escape, if_true, List.length_cons, List.length_nil] at full ⊢
      split
      · rfl
      · have front' := (front.push 92 inside).push c (by simp; omega)
        exact ih _ _ _ front' (by simp; omega) (by simp; omega)
    · simp only [escape, if_false, List.length_cons, List.length_nil, Bool.false_eq_true] at full ⊢
      split
      · rfl
      · exact ih _ _ _ (front.push c inside) (by simp; omega) (by simp; omega)

theorem push_checked {w : JsonBuf} (c : UInt8) (word : w.buf.length < 2 ^ 32) (inside : w.pos < w.buf.length) :
    Bounded.push w c = .ok (w.push c) := by
  have here : w.pos + ([c] : List UInt8).length ≤ w.buf.length := inside
  have next : (w.pos + 1) % 2 ^ 32 = w.pos + 1 := Nat.mod_eq_of_lt (by omega)
  rw [Bounded.push, put_inside here, next]
  rfl

/-- A string in memory is read up to its terminator. -/
theorem jsonAppendString_checked (str rest : List UInt8) (nonzero : 0 ∉ str) (w : JsonBuf)
    (inside : w.pos < w.buf.length) (word : w.buf.length < 2 ^ 32)
    (short : w.pos + (rawString (encodeString str nonzero)).length < 2 ^ 32) :
    Bounded.jsonAppendString (str ++ 0 :: rest) w = .ok (jsonAppendString str w) := by
  induction str generalizing w with
  | nil =>
    have here : w.pos + ([0] : List UInt8).length ≤ w.buf.length := inside
    rw [List.nil_append, Bounded.jsonAppendString, if_pos rfl, put_inside here]
    rfl
  | cons c str ih =>
    have here : c ≠ 0 := fun zero => nonzero (zero ▸ List.mem_cons_self)
    have later : 0 ∉ str := fun member => nonzero (List.mem_cons_of_mem c member)
    rw [rawString_cons, List.length_append] at short
    rw [List.cons_append, Bounded.jsonAppendString, if_neg here, jsonAppendString]
    by_cases escape : (c == 34 || c == 92) = true
    · simp only [escape, if_true, List.length_cons, List.length_nil] at short ⊢
      rw [Nat.mod_eq_of_lt (show w.pos + 2 < 2 ^ 32 by omega)]
      split
      · rfl
      · rename_i room
        have next : (w.push 92).pos < (w.push 92).buf.length := by
          rw [JsonBuf.length_push]
          exact Nat.lt_of_succ_lt (Nat.not_le.mp room)
        rw [push_checked 92 word inside]
        change (Bounded.push (w.push 92) c >>= Bounded.jsonAppendString (str ++ 0 :: rest)) = _
        rw [push_checked c (by rw [JsonBuf.length_push]; exact word) next]
        refine ih later _ ?_ (by simp only [JsonBuf.length_push]; exact word) ?_
        · simp only [JsonBuf.length_push]
          exact Nat.not_le.mp room
        · change w.pos + 1 + 1 + _ < 2 ^ 32
          omega
    · simp only [escape, if_false, List.length_cons, List.length_nil, Bool.false_eq_true] at short ⊢
      rw [Nat.mod_eq_of_lt (show w.pos + 1 < 2 ^ 32 by omega)]
      split
      · rfl
      · rename_i room
        change (Bounded.push w c >>= Bounded.jsonAppendString (str ++ 0 :: rest)) = _
        rw [push_checked c word inside]
        refine ih later _ ?_ (by simp only [JsonBuf.length_push]; exact word) ?_
        · rw [JsonBuf.length_push]
          exact Nat.not_le.mp room
        · change w.pos + 1 + _ < 2 ^ 32
          omega

/-- The strings of the settings have their terminators inside their members. -/
def Settings.Terminated (s : Settings) : Prop := ∀ e ∈ settingsMap, e.type = .string → 0 ∈ s.raw e.offset

theorem Settings.Valid.terminated {s : Settings} (valid : s.Valid) : s.Terminated := by
  have strings : ∀ e ∈ settingsMap, e.type = .string → e.offset = .ssid ∨ e.offset = .pass := by decide +kernel
  intro e known type
  rcases strings e known type with ssid | pass
  · rw [ssid]
    exact terminated_of_strnlen (s.length_raw .ssid) valid.ssidMax
  · rw [pass]
    exact terminated_of_strnlen (s.length_raw .pass) valid.passMax

/-- The memory from a string on is the string, its terminator and what follows. -/
theorem memory_of_terminated {s : Settings} {f : SettingsField} (terminated : 0 ∈ s.raw f) :
    ∃ rest, s.bytes.drop f.offset = cString (s.raw f) ++ 0 :: rest := by
  have short := length_cString_lt terminated
  have raw : cString (s.raw f) = cString (s.bytes.drop f.offset) := by
    change cString ((s.bytes.drop f.offset).take f.width) = _
    rw [cString_take, List.take_of_length_le (Nat.le_of_lt short)]
  rw [raw]
  refine ⟨_, (append_nul_of_short ?_).symm⟩
  rw [List.length_drop, s.sized]
  have inside := f.inside
  omega

theorem jsonAppendString_appends {s : Settings} {f : SettingsField} (terminated : 0 ∈ s.raw f) :
    Appends (Bounded.jsonAppendString (s.bytes.drop f.offset)) (jsonAppendString (cString (s.raw f)))
      (rawString (encodeString (cString (s.raw f)) (cString_nonzero _))) where
  writes := jsonAppendString_writes _ _
  overflows w text holds full := by
    obtain ⟨rest, buf⟩ := holds.buf
    have inside := holds.inside
    rw [holds.pos] at inside
    exact jsonAppendString_overflows _ _ w text ⟨holds.pos, 0 :: rest, buf⟩ inside full
  checked w text holds word short := by
    obtain ⟨rest, memory⟩ := memory_of_terminated terminated
    rw [memory]
    rw [← holds.pos] at short
    exact jsonAppendString_checked _ rest _ w holds.inside word short

/-! ## The whole text -/

/-- The text of the settings: the entries of `settings_map` between braces, with commas between them. -/
def settingsText (s : Settings) : List UInt8 :=
  [123] ++ (List.intercalate [44] (settingsMap.map (fieldText s)) ++ [125])

theorem jsonWriteField_appends {s : Settings} (terminated : s.Terminated) {e : SettingsMap}
    (known : e ∈ settingsMap) (sep : List UInt8) :
    Appends (Bounded.jsonWriteField s e sep) (jsonWriteField s e sep) (fieldText s e ++ sep) := by
  by_cases type : e.type = .string
  · have content : Appends
        (fun w => if e.secret then .ok (.success, w) else Bounded.jsonAppendString (s.bytes.drop e.offset.offset) w)
        (fun w => if e.secret then (.success, w) else jsonAppendString (cString (s.raw e.offset)) w)
        (contentText s e) := by
      unfold contentText
      cases e.secret with
      | true => exact Appends.nothing
      | false => exact jsonAppendString_appends (terminated e known type)
    have whole := (jsonAppend_appends (jsonKey e.name ++ [34])).seq
      (content.seq (jsonAppend_appends (34 :: sep)))
    have printer : Bounded.jsonWriteField s e sep = fun w =>
        Bounded.andThen (Bounded.jsonAppend (jsonKey e.name ++ [34]) w) fun w =>
          Bounded.andThen (if e.secret then .ok (.success, w)
            else Bounded.jsonAppendString (s.bytes.drop e.offset.offset) w) (Bounded.jsonAppend (34 :: sep)) := by
      funext w
      rw [Bounded.jsonWriteField, type]
    rw [fieldText_string s type, jsonWriteField_string s type, printer]
    exact whole
  · have scalar : Bounded.jsonWriteField s e sep = Bounded.jsonAppend (fieldText s e ++ sep) := by
      funext w
      cases same : e.type with
      | string => exact absurd same type
      | _ => simp [Bounded.jsonWriteField, fieldText, currentValue, JsonValue.text, same]
    rw [scalar, jsonWriteField_scalar s type]
    exact jsonAppend_appends _

theorem jsonWriteFields_appends {s : Settings} (terminated : s.Terminated) (e : SettingsMap)
    (es : List SettingsMap) (known : ∀ e' ∈ e :: es, e' ∈ settingsMap) :
    Appends (Bounded.jsonWriteFields s (e :: es)) (jsonWriteFields s (e :: es))
      (List.intercalate [44] ((e :: es).map (fieldText s))) := by
  induction es generalizing e with
  | nil =>
    have only := jsonWriteField_appends terminated (known e List.mem_cons_self) []
    rw [List.append_nil] at only
    rw [List.map_singleton, List.intercalate_singleton]
    exact only
  | cons e' es ih =>
    have first := jsonWriteField_appends terminated (known e List.mem_cons_self) [44]
    have rest := ih e' fun e'' member => known e'' (List.mem_cons_of_mem e member)
    have text : List.intercalate [44] ((e :: e' :: es).map (fieldText s)) =
        (fieldText s e ++ [44]) ++ List.intercalate [44] ((e' :: es).map (fieldText s)) := by
      simp
    rw [text]
    exact first.seq rest

/-- There is a comma after every entry but the last. -/
theorem length_intercalate_succ (text : List UInt8) (texts : List (List UInt8)) :
    (List.intercalate [44] (text :: texts)).length + 1 = ((text :: texts).map fun text => text.length + 1).sum := by
  induction texts generalizing text with
  | nil => simp
  | cons text' texts ih =>
    rw [List.intercalate_cons_cons, List.map_cons, List.sum_cons, ← ih text']
    simp only [List.length_append, List.length_singleton]
    omega

theorem length_settingsText_lt {s : Settings} (terminated : s.Terminated) :
    (settingsText s).length < jsonBufSizeMax := by
  have bound := sum_fieldSize
  have ends : strnlen (s.raw .ssid) < ssidMaxLen := by
    have zero := terminated ssidEntry ssidEntry_known rfl
    refine length_cString_lt ?_
    rw [List.take_of_length_le (Nat.le_of_eq (s.length_raw .ssid) : (s.raw .ssid).length ≤ ssidMaxLen)]
    exact zero
  have sum : ((settingsMap.map (fieldText s)).map fun text => text.length + 1).sum ≤
      (settingsMap.map fun e => fieldSize e + 1).sum := by
    rw [List.map_map]
    refine List.sum_le_sum fun e known => ?_
    exact Nat.succ_le_succ (length_fieldText_le (currentValue_fits_of_ends ends known))
  have fields : (List.intercalate [44] (settingsMap.map (fieldText s))).length + 1 =
      ((settingsMap.map (fieldText s)).map fun text => text.length + 1).sum := length_intercalate_succ _ _
  rw [settingsText, List.length_append, List.length_append, List.length_singleton, List.length_singleton]
  omega

/-- The printer after its checks. -/
theorem settingsText_appends {s : Settings} (terminated : s.Terminated) :
    Appends (fun w => Bounded.andThen (Bounded.jsonAppend [123] w) fun w =>
        Bounded.andThen (Bounded.jsonWriteFields s settingsMap w) (Bounded.jsonAppend [125]))
      (fun w => andThen (jsonAppend [123] w) fun w => andThen (jsonWriteFields s settingsMap w) (jsonAppend [125]))
      (settingsText s) := by
  have fields : Appends (Bounded.jsonWriteFields s settingsMap) (jsonWriteFields s settingsMap)
      (List.intercalate [44] (settingsMap.map (fieldText s))) :=
    jsonWriteFields_appends terminated _ _ fun _ known => known
  exact (jsonAppend_appends [123]).seq (fields.seq (jsonAppend_appends [125]))

/-- **The overflow check of the printer is exact.** Nothing is stored outside the buffer, nothing is read
past the settings, and the result says whether the text and its terminator fit. -/
theorem getSettingsJson_exact {s : Settings} (terminated : s.Terminated) {buf : List UInt8}
    (room : 1 ≤ buf.length) (word : buf.length < 2 ^ 32) :
    Bounded.getSettingsJson s (some buf) = .ok (getSettingsJson s (some buf)) ∧
      (getSettingsJson s (some buf)).2.length = buf.length ∧
      ((getSettingsJson s (some buf)).1 = .success ↔ (settingsText s).length + 1 ≤ buf.length) ∧
      ((getSettingsJson s (some buf)).1 = .success →
        ∃ rest, (getSettingsJson s (some buf)).2 = settingsText s ++ 0 :: rest) ∧
      ((getSettingsJson s (some buf)).1 ≠ .success → (getSettingsJson s (some buf)).1 = .overflow) := by
  have appends := settingsText_appends terminated
  have start : (⟨store buf 0 [0], 0⟩ : JsonBuf).Holds [] := ⟨rfl, buf.drop 1, store_zero room⟩
  have size : (store buf 0 [0]).length = buf.length := length_store _ _ _
  have short := Nat.lt_trans (length_settingsText_lt terminated) (by decide : jsonBufSizeMax < 2 ^ 32)
  have nonempty : ¬ buf.length = 0 := by omega
  have checked := appends.checked _ [] start (by rw [size]; exact word) (by simpa using short)
  have result := appends.exact start
  rw [size] at result
  have first : Bounded.put buf 0 [0] = .ok (store buf 0 [0]) := put_inside room
  have sized := length_getSettingsJson s buf
  rw [getSettingsJson] at sized
  dsimp only at sized
  rw [if_neg nonempty] at sized
  rw [getSettingsJson, Bounded.getSettingsJson]
  dsimp only
  rw [if_neg nonempty, if_neg nonempty, first]
  refine ⟨?_, sized, result⟩
  rw [ok_bind, checked, ok_bind]

theorem getSettingsJson_exact_short :
    Bounded.getSettingsJson defaultSettings (some (List.replicate 16 0)) =
        .ok (getSettingsJson defaultSettings (some (List.replicate 16 0))) ∧
      (getSettingsJson defaultSettings (some (List.replicate 16 0))).1 = .overflow := by
  obtain ⟨checked, -, fits, -, full⟩ := getSettingsJson_exact defaultSettings_valid.terminated
    (by decide : 1 ≤ (List.replicate 16 (0 : UInt8)).length) (by decide)
  refine ⟨checked, full fun success => ?_⟩
  have long : ¬ (settingsText defaultSettings).length + 1 ≤ (List.replicate 16 (0 : UInt8)).length := by
    decide +kernel
  exact long (fits.mp success)

end Stairway
