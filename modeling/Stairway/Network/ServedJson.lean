import Stairway.Firmware.Json
import Stairway.Network.SettingsRoundTrip
import Stairway.Settings.Operations

/-!
# The settings as JSON text

`json_append_string` escapes quotes and backslashes, and `json_parse_string` lets every other byte
through. So the text that the server sends is JSON as long as the name of the access point has no
control characters (`served_json_iff`).
-/

namespace Stairway
open Firmware

/-- The name of the access point. -/
def accessPoint (s : Settings) : List UInt8 := cString (s.raw .ssid)

/-- The text is an object with distinct names, whose member `wifi_ssid` is the name of the access
point. -/
def Serves (s : Settings) (text : List UInt8) : Prop :=
  ∃ ms : List (List Nat × Json.Value), Json.Text (.obj ms) text ∧ (ms.map Prod.fst).Nodup ∧
    ((ascii "wifi_ssid").map UInt8.toNat, .str ((accessPoint s).map UInt8.toNat)) ∈ ms

/-! ## What the texts of the model stand for -/

/-- A character that JSON has in a string. -/
def JsonChar.Printable : JsonChar → Prop
  | .plain c _ => 0x20 ≤ c ∧ c < 0x80
  | .escaped _ _ => True

def JsonValue.tree : JsonValue → Json.Value
  | .num n => .num (Json.natural n)
  | .bool b => .bool b
  | .str cs => .str ((decodeString cs).map UInt8.toNat)

def JsonValue.Printable : JsonValue → Prop
  | .num _ => True
  | .bool _ => True
  | .str cs => ∀ c ∈ cs, c.Printable

theorem rawString_chars {cs : List JsonChar} (printable : ∀ c ∈ cs, c.Printable) :
    Json.Chars (rawString cs) ((decodeString cs).map UInt8.toNat) := by
  induction cs with
  | nil => exact .nil
  | cons c cs ih =>
    have rest := ih fun d member => printable d (List.mem_cons_of_mem _ member)
    have here := printable c List.mem_cons_self
    cases c with
    | plain c ordinary => exact .plain ⟨here.1, here.2, ordinary.1, ordinary.2.1⟩ rest
    | escaped c allowed =>
      refine .escaped ?_ rest
      rw [Json.escape, if_pos allowed]
      rfl

theorem JsonValue.derives {v : JsonValue} (printable : v.Printable) : Json.Derives (.value v.tree) v.text := by
  cases v with
  | num n =>
    have text : (Json.natural n).text = decimal n := by
      simp [Json.Number.text, Json.Number.tail, Json.natural]
    have derives := Json.Derives.num (Json.natural n)
    rw [text] at derives
    exact derives
  | bool b => exact .bool b
  | str cs => exact .str (rawString_chars printable)

theorem Spaces.blank (w : Spaces) : Json.Blank w.1 := by
  intro c member
  have space := w.2 c member
  simp only [jsonSpace, Bool.or_eq_true, beq_iff_eq] at space
  grind

theorem name_plain {m : SettingsMap} (known : m ∈ settingsMap) : ∀ c ∈ m.name, Json.Plain c := by
  have all : ∀ m ∈ settingsMap, ∀ c ∈ m.name, 0x20 ≤ c ∧ c < 0x80 ∧ c ≠ 34 ∧ c ≠ 92 := by decide +kernel
  exact all m known

/-- A member of an object. -/
def JsonMember.pair (m : JsonMember) : List Nat × Json.Value := (m.entry.name.map UInt8.toNat, m.value.tree)

theorem JsonMember.derives {m : JsonMember} (printable : m.value.Printable) :
    Json.Derives (.member m.pair.1 m.pair.2) m.text :=
  .member m.before.blank (Json.chars_plain (name_plain m.known)) m.afterName.blank
    (.padded m.beforeValue.blank (JsonValue.derives printable) m.after.blank)

theorem membersText_derives (m : JsonMember) {ms : List JsonMember}
    (printable : ∀ m' ∈ m :: ms, m'.value.Printable) :
    Json.Derives (.members ((m :: ms).map JsonMember.pair)) (m.text ++ membersText 44 ms) := by
  induction ms generalizing m with
  | nil =>
    rw [membersText, List.append_nil]
    exact .one (JsonMember.derives (printable m List.mem_cons_self))
  | cons m' ms ih =>
    refine .members (JsonMember.derives (printable m List.mem_cons_self)) ?_
    exact ih m' fun m'' member => printable m'' (List.mem_cons_of_mem _ member)

/-! ## Control characters -/

/-- A character is scanned to its end, or it is a control character. -/
theorem scan_raw (c : JsonChar) : Json.scan .inside c.raw = none ∨ Json.scan .inside c.raw = some .inside := by
  cases c with
  | plain c ordinary =>
    rw [JsonChar.raw, Json.scan_cons, Json.scanByte, if_neg ordinary.1, if_neg ordinary.2.1]
    split
    · exact .inl rfl
    · exact .inr rfl
  | escaped c allowed => exact .inr rfl

theorem scan_rawString {cs : List JsonChar} {c : UInt8} {ordinary : c ≠ 34 ∧ c ≠ 92 ∧ c ≠ 0}
    (member : JsonChar.plain c ordinary ∈ cs) (control : c < 0x20) :
    Json.scan .inside (rawString cs) = none := by
  induction cs with
  | nil => cases member
  | cons d cs ih =>
    have text : rawString (d :: cs) = d.raw ++ rawString cs := rfl
    cases member with
    | head =>
      have stops : Json.scanByte .inside c = none := by
        rw [Json.scanByte, if_neg ordinary.1, if_neg ordinary.2.1, if_pos control]
      rw [text, JsonChar.raw, List.cons_append, Json.scan_cons, stops]
      rfl
    | tail _ later =>
      rcases scan_raw d with stops | ends
      · rw [text, Json.scan_append, stops]
        rfl
      · rw [text, Json.scan_after ends]
        exact ih later

/-- A string is scanned to its end, or to a control character. -/
theorem scan_rawString_cases (cs : List JsonChar) :
    Json.scan .inside (rawString cs) = none ∨ Json.scan .inside (rawString cs) = some .inside := by
  induction cs with
  | nil => exact .inr rfl
  | cons c cs ih =>
    have text : rawString (c :: cs) = c.raw ++ rawString cs := rfl
    rcases scan_raw c with stops | ends
    · rw [text, Json.scan_append, stops]
      exact .inl rfl
    · rw [text, Json.scan_after ends]
      exact ih

theorem scan_str (cs : List JsonChar) : Json.scan .outside (JsonValue.str cs).text =
    (Json.scan .inside (rawString cs)).bind fun place => Json.scan place [34] := by
  show Json.scan .inside (rawString cs ++ [34]) = _
  rw [Json.scan_append]

theorem scan_value (v : JsonValue) :
    Json.scan .outside v.text = none ∨ Json.scan .outside v.text = some .outside := by
  cases v with
  | num n => exact .inr (Json.scan_derives (JsonValue.derives (v := .num n) trivial))
  | bool b => exact .inr (Json.scan_derives (JsonValue.derives (v := .bool b) trivial))
  | str cs =>
    rw [scan_str]
    rcases scan_rawString_cases cs with stops | ends
    · rw [stops]
      exact .inl rfl
    · rw [ends]
      exact .inr rfl

theorem scan_member (m : JsonMember) : Json.scan .outside m.text = Json.scan .outside m.value.text := by
  have before := Json.scan_outside m.before.no_quote
  have afterName := Json.scan_outside m.afterName.no_quote
  have beforeValue := Json.scan_outside m.beforeValue.no_quote
  have after := Json.scan_outside m.after.no_quote
  have name : Json.scan .inside m.entry.name = some .inside :=
    Json.scan_chars (Json.chars_plain (name_plain m.known))
  rw [JsonMember.text, Json.scan_after before]
  show Json.scan .inside (m.entry.name ++ 34 :: m.tail) = _
  rw [Json.scan_after name]
  show Json.scan .outside m.tail = _
  rw [JsonMember.tail, Json.scan_after afterName]
  show Json.scan .outside (m.beforeValue.1 ++ (m.value.text ++ m.after.1)) = _
  rw [Json.scan_after beforeValue, Json.scan_append]
  rcases scan_value m.value with stops | ends
  · rw [stops]
    rfl
  · rw [ends]
    exact after

/-- The scanner does not come past a member with a control character. -/
theorem scan_members {ms : List JsonMember} {m : JsonMember} (member : m ∈ ms)
    (stops : Json.scan .outside m.value.text = none) {lead : UInt8} (separator : lead ≠ 34) (rest : List UInt8) :
    Json.scan .outside (membersText lead ms ++ rest) = none := by
  induction ms generalizing lead with
  | nil => cases member
  | cons m' ms ih =>
    rw [membersText, List.cons_append, Json.scan_cons, Json.scanByte, if_neg separator]
    show Json.scan .outside (m'.text ++ membersText 44 ms ++ rest) = _
    rw [List.append_assoc, Json.scan_append, scan_member]
    cases member with
    | head =>
      rw [stops]
      rfl
    | tail _ later =>
      rcases scan_value m'.value with stops' | ends
      · rw [stops']
        rfl
      · rw [ends]
        exact ih later (by decide)

/-! ## The current settings -/

theorem accessPoint_nonzero (s : Settings) : 0 ∉ accessPoint s := cString_nonzero _

/-- The member of the access point. -/
theorem ssid_member {s : Settings} (valid : s.Valid) :
    ∃ m ∈ currentMembers s valid, m.entry = ssidEntry ∧
      m.value = .str (encodeString (accessPoint s) (accessPoint_nonzero s)) :=
  ⟨_, List.mem_map.mpr ⟨⟨ssidEntry, ssidEntry_known⟩, List.mem_attach _ _, rfl⟩, rfl, rfl⟩

theorem encodeString_printable {str : List UInt8} (nonzero : 0 ∉ str) (printable : ∀ c ∈ str, 0x20 ≤ c ∧ c < 0x80) :
    ∀ c ∈ encodeString str nonzero, c.Printable := by
  intro c member
  obtain ⟨b, inside, same⟩ := List.mem_pmap.mp member
  rw [← same, JsonChar.encode]
  split
  · trivial
  · exact printable b inside

/-- Every value is printable if the name of the access point is. -/
theorem currentMembers_printable {s : Settings} (valid : s.Valid)
    (printable : ∀ c ∈ accessPoint s, 0x20 ≤ c ∧ c < 0x80) :
    ∀ m ∈ currentMembers s valid, m.value.Printable := by
  intro m member
  rw [(currentMembers_text valid m member).1]
  cases type : m.entry.type with
  | uint32 | uint16 | uint8 =>
    simp only [currentValue, type]
    trivial
  | bool =>
    simp only [currentValue, type]
    trivial
  | string =>
    simp only [currentValue, type]
    cases secret : m.entry.secret with
    | true => exact fun c member => by cases member
    | false =>
      have ssid := ((settingsMap_strings m.entry m.known type).2 secret).1
      refine encodeString_printable (cString_nonzero (s.raw m.entry.offset)) ?_
      rw [ssid]
      exact printable

/-- A control character is printed as it is. -/
theorem encode_control {str : List UInt8} (nonzero : 0 ∉ str) {c : UInt8} (member : c ∈ str) (control : c < 0x20) :
    ∃ ordinary, JsonChar.plain c ordinary ∈ encodeString str nonzero := by
  have differs : ∀ d : UInt8, ¬ d < 0x20 → c ≠ d := fun d high same => high (same ▸ control)
  have quote := differs 34 (by decide)
  have slash := differs 92 (by decide)
  have zero : c ≠ 0 := fun same => nonzero (same ▸ member)
  refine ⟨⟨quote, slash, zero⟩, List.mem_pmap.mpr ⟨c, member, ?_⟩⟩
  rw [JsonChar.encode, dif_neg (by simp [quote, slash])]

theorem pairs_distinct {s : Settings} (valid : s.Valid) :
    (((currentMembers s valid).map JsonMember.pair).map Prod.fst).Nodup := by
  have names : (settingsMap.map fun e => e.name.map UInt8.toNat).Nodup := by decide +kernel
  rw [← currentMembers_entries s valid, List.map_map] at names
  rw [List.map_map]
  exact names

/-- **The text of an object is JSON with the name of the access point** exactly if that has no control
character. -/
theorem serves_iff {s : Settings} (valid : s.Valid) (inAscii : ∀ c ∈ accessPoint s, c < 0x80) :
    Serves s (currentObject s valid).text ↔ ∀ c ∈ accessPoint s, 0x20 ≤ c := by
  obtain ⟨m, member, entry, value⟩ := ssid_member valid
  rw [currentObject_text valid]
  constructor
  · rintro ⟨ms, wellFormed, -, -⟩ c inside
    by_contra low
    obtain ⟨ordinary, printed⟩ := encode_control (accessPoint_nonzero s) inside (UInt8.not_le.mp low)
    have stops : Json.scan .outside m.value.text = none := by
      rw [value, scan_str, scan_rawString printed (UInt8.not_le.mp low)]
      rfl
    have ends := Json.scan_derives wellFormed
    rw [scan_members member stops (by decide)] at ends
    cases ends
  · intro printable
    have values := currentMembers_printable valid fun c inside => ⟨printable c inside, inAscii c inside⟩
    refine ⟨(currentMembers s valid).map JsonMember.pair, ?_, pairs_distinct valid, ?_⟩
    · cases members : currentMembers s valid with
      | nil =>
        rw [members] at member
        cases member
      | cons m' ms =>
        rw [members] at values
        have object := Json.Derives.obj (membersText_derives m' values)
        have none : Json.Blank [] := fun c inside => by cases inside
        have text := Json.Derives.padded none object none
        rw [List.append_nil] at text
        exact text
    · refine List.mem_map.mpr ⟨m, member, ?_⟩
      rw [JsonMember.pair, entry, value, JsonValue.tree, decodeString_encode]
      rfl

theorem served_text {s : Settings} (valid : s.Valid) {buf : List UInt8} (sized : buf.length = jsonBufSizeMax) :
    (getSettingsJson s (some buf)).1 = .success ∧
      cString (getSettingsJson s (some buf)).2 = (currentObject s valid).text := by
  have room : (currentObject s valid).text.length < buf.length := by
    rw [sized]
    exact length_currentObject_lt valid
  obtain ⟨rest, printed⟩ := getSettingsJson_text valid room
  rw [printed]
  exact ⟨rfl, cString_append_nul (currentObject_nonzero valid) rest⟩

/-- **The server sends JSON** exactly if the name of the access point has no control character, whatever
has happened to the settings since boot. -/
theorem served_json_iff (boot : FlashCtl) (flash : Flash) (ops : List (FlashCtl × SettingsOp)) {buf : List UInt8}
    (sized : buf.length = jsonBufSizeMax)
    (inAscii : ∀ c ∈ accessPoint (afterBoot boot flash ops).settings, c < 0x80) :
    ((getSettingsJson (afterBoot boot flash ops).settings (some buf)).1 = .success ∧
        Serves (afterBoot boot flash ops).settings
          (cString (getSettingsJson (afterBoot boot flash ops).settings (some buf)).2)) ↔
      ∀ c ∈ accessPoint (afterBoot boot flash ops).settings, 0x20 ≤ c := by
  have valid : (afterBoot boot flash ops).settings.Valid :=
    (runOps_invariant (settingsInit_invariant boot flash) ops).valid
  obtain ⟨success, text⟩ := served_text valid sized
  rw [text, and_iff_right success]
  exact serves_iff valid inAscii

/-- The settings after an object has been posted to a device that starts with erased flash. -/
theorem reached_object {o : JsonObject} (valid : (o.read factoryStore.settings).Valid) :
    (afterBoot .done (fun _ => 0xFF) [(.done, .setJson (some o.text))]).settings =
      stampHeader (o.read factoryStore.settings) := by
  obtain ⟨-, result⟩ := settingsApply_done valid factoryStore
  rw [afterBoot, settingsInit_erased, runOps_singleton, SettingsOp.run, setSettingsJson_object, result]

theorem accessPoint_stampHeader (s : Settings) : accessPoint (stampHeader s) = accessPoint s := by
  rw [accessPoint, stampHeader_raw _ (by rfl)]
  rfl

/-- A name with a quote and a backslash in it. -/
def quotedMember : JsonMember :=
  .bare ssidEntry (.str [.plain 97 (by decide), .escaped 34 (by decide), .escaped 92 (by decide)]) ssidEntry_known
    ⟨rfl, by decide⟩

def quotedObject : JsonObject := .bare [quotedMember] (by decide)

theorem accessPoint_quoted :
    accessPoint (afterBoot .done (fun _ => 0xFF) [(.done, .setJson (some quotedObject.text))]).settings =
      [97, 34, 92] := by
  rw [reached_object ((settingsValidate_iff _).mp (by decide +kernel)), accessPoint_stampHeader]
  decide +kernel

theorem served_json_iff_quoted :
    (getSettingsJson (afterBoot .done (fun _ => 0xFF) [(.done, .setJson (some quotedObject.text))]).settings
        (some (List.replicate jsonBufSizeMax 0))).1 = .success ∧
      Serves (afterBoot .done (fun _ => 0xFF) [(.done, .setJson (some quotedObject.text))]).settings
        (cString (getSettingsJson (afterBoot .done (fun _ => 0xFF)
          [(.done, .setJson (some quotedObject.text))]).settings (some (List.replicate jsonBufSizeMax 0))).2) := by
  refine (served_json_iff .done (fun _ => 0xFF) [(.done, .setJson (some quotedObject.text))]
    List.length_replicate ?_).mpr ?_
  · rw [accessPoint_quoted]
    decide +kernel
  · rw [accessPoint_quoted]
    decide +kernel

/-- A name with a tab in it. -/
def tabMember : JsonMember :=
  .bare ssidEntry (.str [.plain 97 (by decide), .plain 9 (by decide), .plain 98 (by decide)]) ssidEntry_known
    ⟨rfl, by decide⟩

def tabObject : JsonObject := .bare [tabMember] (by decide)

theorem accessPoint_tab : accessPoint (tabObject.read factoryStore.settings) = [97, 9, 98] := by decide +kernel

/-- The web page stores the name, and what it is sent afterwards is no JSON. -/
theorem served_json_fail :
    tabObject.text = ascii "\x7b\"wifi_ssid\":\"a\tb\"\x7d" ∧
      (setSettingsJson .done (some tabObject.text) factoryStore).1 = .success ∧
      accessPoint (afterBoot .done (fun _ => 0xFF) [(.done, .setJson (some tabObject.text))]).settings =
        [97, 9, 98] ∧
      ¬ Serves (afterBoot .done (fun _ => 0xFF) [(.done, .setJson (some tabObject.text))]).settings
        (cString (getSettingsJson (afterBoot .done (fun _ => 0xFF)
          [(.done, .setJson (some tabObject.text))]).settings (some (List.replicate jsonBufSizeMax 0))).2) := by
  have valid : (tabObject.read factoryStore.settings).Valid := (settingsValidate_iff _).mp (by decide +kernel)
  obtain ⟨success, -⟩ := settingsApply_done valid factoryStore
  have named : accessPoint (stampHeader (tabObject.read factoryStore.settings)) = [97, 9, 98] := by
    rw [accessPoint_stampHeader, accessPoint_tab]
  have valid' := stampHeader_settings_valid valid
  rw [reached_object valid, (served_text valid' List.length_replicate).2]
  refine ⟨by decide +kernel, ?_, named, fun serves => ?_⟩
  · rw [setSettingsJson_object, success]
  · have inAscii : ∀ c ∈ accessPoint (stampHeader (tabObject.read factoryStore.settings)), c < 0x80 := by
      rw [named]
      decide +kernel
    have printable := (serves_iff valid' inAscii).mp serves
    rw [named] at printable
    exact absurd (printable 9 (by decide)) (by decide)

end Stairway
