import Stairway.Network.SettingsJson
import Stairway.Firmware.QuotedSearch

/-!
# JSON objects over the settings names

The texts that a client may post: an object whose members are named after entries of
`settings_map`, in any order and with any white space, with values of the entries' types.
`jsonFindValue_object` says what `json_find_value` makes of such a text: it finds the member,
unless an earlier string value ends, after its last quote, in the member's name.
-/

namespace Stairway
open Firmware

/-! ## Texts -/

/-- JSON white space. -/
abbrev Spaces := { w : List UInt8 // ∀ c ∈ w, jsonSpace c = true }

/-- A character of a JSON string: as it is, or behind a backslash. -/
inductive JsonChar
  | plain (c : UInt8) (ordinary : c ≠ 34 ∧ c ≠ 92 ∧ c ≠ 0)
  | escaped (c : UInt8) (allowed : c = 34 ∨ c = 92 ∨ c = 47)

namespace JsonChar

/-- The character in the text. -/
def raw : JsonChar → List UInt8
  | plain c _ => [c]
  | escaped c _ => [92, c]

/-- The character it stands for. -/
def decode : JsonChar → UInt8
  | plain c _ => c
  | escaped c _ => c

/-- The bytes of a string text after its last quote, `seg` being those before it. -/
def lastSegment (seg : List UInt8) : List JsonChar → List UInt8
  | [] => seg
  | plain c _ :: cs => lastSegment (seg ++ [c]) cs
  | escaped c _ :: cs => if c = 34 then lastSegment [] cs else lastSegment (seg ++ [92, c]) cs

theorem decode_ne_zero (c : JsonChar) : c.decode ≠ 0 := by
  cases c with
  | plain c ordinary => exact ordinary.2.2
  | escaped c allowed =>
    rcases allowed with same | same | same
    · subst same; decide
    · subst same; decide
    · subst same; decide

end JsonChar

/-- The text of a string between its quotes. -/
def rawString (cs : List JsonChar) : List UInt8 := cs.flatMap JsonChar.raw

/-- The string it stands for. -/
def decodeString (cs : List JsonChar) : List UInt8 := cs.map JsonChar.decode

/-- The values that settings take. -/
inductive JsonValue
  | num (n : Nat)
  | bool (b : Bool)
  | str (cs : List JsonChar)

def JsonValue.text : JsonValue → List UInt8
  | num n => decimal n
  | bool b => ascii (if b then "true" else "false")
  | str cs => 34 :: (rawString cs ++ [34])

/-- The value is of the entry's type and in its range. -/
def JsonValue.Fits (m : SettingsMap) : JsonValue → Prop
  | num n => match m.type with
    | .uint32 => n < 2 ^ 32
    | .uint16 => n < 2 ^ 16
    | .uint8 => n < 2 ^ 8
    | _ => False
  | bool _ => m.type = .bool
  | str cs => m.type = .string ∧ cs.length < m.maxLen

/-- A member of the object with the white space around its tokens. -/
structure JsonMember where
  entry : SettingsMap
  value : JsonValue
  before : Spaces
  afterName : Spaces
  beforeValue : Spaces
  after : Spaces
  known : entry ∈ settingsMap
  typed : value.Fits entry

/-- What follows the name of a member. -/
def JsonMember.tail (m : JsonMember) : List UInt8 :=
  m.afterName.1 ++ 58 :: (m.beforeValue.1 ++ (m.value.text ++ m.after.1))

def JsonMember.text (m : JsonMember) : List UInt8 :=
  m.before.1 ++ 34 :: (m.entry.name ++ 34 :: m.tail)

/-- Members, the first one behind `lead` and the others behind a comma. -/
def membersText (lead : UInt8) : List JsonMember → List UInt8
  | [] => []
  | m :: ms => lead :: (m.text ++ membersText 44 ms)

/-- An object whose members have distinct names. -/
structure JsonObject where
  members : List JsonMember
  distinct : (members.map fun m => m.entry.name).Nodup
  lead : Spaces
  inner : Spaces
  trail : Spaces

def JsonObject.text (o : JsonObject) : List UInt8 :=
  o.lead.1 ++ ((if o.members.isEmpty then 123 :: o.inner.1 else membersText 123 o.members) ++
    125 :: o.trail.1)

/-! ## Texts without white space -/

def noSpaces : Spaces := ⟨[], fun c member => by cases member⟩

def JsonMember.bare (entry : SettingsMap) (value : JsonValue) (known : entry ∈ settingsMap)
    (typed : value.Fits entry) : JsonMember :=
  ⟨entry, value, noSpaces, noSpaces, noSpaces, noSpaces, known, typed⟩

def JsonObject.bare (members : List JsonMember) (distinct : (members.map fun m => m.entry.name).Nodup) :
    JsonObject :=
  ⟨members, distinct, noSpaces, noSpaces, noSpaces⟩

/-- A character escaped only where it must be. -/
def JsonChar.encode (c : UInt8) (nonzero : c ≠ 0) : JsonChar :=
  if special : c = 34 ∨ c = 92 then .escaped c (special.imp_right Or.inl)
  else .plain c ⟨fun quote => special (Or.inl quote), fun slash => special (Or.inr slash), nonzero⟩

def encodeString (str : List UInt8) (nonzero : 0 ∉ str) : List JsonChar :=
  str.pmap JsonChar.encode (fun _ member same => nonzero (same ▸ member))

theorem JsonChar.decode_encode (c : UInt8) (nonzero : c ≠ 0) : (JsonChar.encode c nonzero).decode = c := by
  unfold JsonChar.encode
  split <;> rfl

@[simp] theorem length_encodeString {str : List UInt8} (nonzero : 0 ∉ str) :
    (encodeString str nonzero).length = str.length := List.length_pmap

theorem decodeString_encode {str : List UInt8} (nonzero : 0 ∉ str) :
    decodeString (encodeString str nonzero) = str := by
  rw [decodeString, encodeString, List.map_pmap]
  simp only [JsonChar.decode_encode]
  rw [List.pmap_eq_map, List.map_id']

/-! ## Names -/

/-- The bytes of names: lower case letters and the underscore. -/
def nameByte (c : UInt8) : Bool := c == 95 || (97 ≤ c && c ≤ 122)

/-- Names of `settings_map`. -/
structure KeyName (key : List UInt8) : Prop where
  bytes : ∀ c ∈ key, nameByte c = true
  short : key.length + 2 < jsonKeyBufSize

theorem keyName_of_mem {m : SettingsMap} (known : m ∈ settingsMap) : KeyName m.name := by
  have all : ∀ m ∈ settingsMap, m.name.all nameByte = true ∧
      m.name.length + 2 < jsonKeyBufSize := by decide +kernel
  exact ⟨List.all_eq_true.mp (all m known).1, (all m known).2⟩

theorem KeyName.not_mem {key : List UInt8} (name : KeyName key) {c : UInt8}
    (other : nameByte c = false) : c ∉ key := by
  intro member
  rw [name.bytes c member] at other
  cases other

/-- A segment with a byte that names do not have is no name. -/
theorem KeyName.ne_of_mem {key seg : List UInt8} (name : KeyName key) {c : UInt8}
    (other : nameByte c = false) (member : c ∈ seg) : seg ≠ key := by
  intro same
  rw [same] at member
  exact name.not_mem other member

theorem Spaces.no_quote (w : Spaces) : 34 ∉ w.1 := by
  intro member
  have space := w.2 34 member
  revert space
  decide

/-! ## The search for a name -/

/-- The search runs through the text of a string from its opening quote: it stops at the last
segment if that is the name, and passes over every segment that an escaped quote ends. -/
theorem strstr_string {key : List UInt8} (name : KeyName key) (cs : List JsonChar) (seg : List UInt8)
    (clean : 34 ∉ seg) (rest : List UInt8) :
    strstr (34 :: (seg ++ (rawString cs ++ 34 :: rest))) (quoted 34 key) =
      if JsonChar.lastSegment seg cs = key then some (34 :: (key ++ 34 :: rest))
      else strstr (34 :: rest) (quoted 34 key) := by
  have noQuote := name.not_mem (c := 34) (by decide)
  induction cs generalizing seg with
  | nil =>
    rw [JsonChar.lastSegment]
    change strstr (34 :: (seg ++ 34 :: rest)) (quoted 34 key) = _
    by_cases same : seg = key
    · rw [if_pos same, same]
      exact strstr_hit rest
    · rw [if_neg same]
      exact strstr_miss noQuote clean same rest
  | cons c cs ih =>
    cases c with
    | plain c ordinary =>
      have next := ih (seg ++ [c]) (by
        intro member
        rcases List.mem_append.mp member with inside | last
        · exact clean inside
        · exact ordinary.1 (List.mem_singleton.mp last).symm)
      rw [JsonChar.lastSegment, ← next]
      simp [rawString, JsonChar.raw]
    | escaped c allowed =>
      rw [JsonChar.lastSegment]
      by_cases quote : c = 34
      · -- the segment before the quote ends in the backslash
        have other : seg ++ [92] ≠ key :=
          name.ne_of_mem (c := 92) (by decide) (List.mem_append_right _ List.mem_cons_self)
        have clean' : 34 ∉ seg ++ [92] := by
          intro member
          rcases List.mem_append.mp member with inside | last
          · exact clean inside
          · exact absurd (List.mem_singleton.mp last) (by decide)
        have miss := strstr_miss noQuote clean' other (rawString cs ++ 34 :: rest)
        have next := ih [] (by simp)
        rw [List.nil_append] at next
        rw [if_pos quote, ← next, ← miss]
        simp [rawString, JsonChar.raw, quote]
      · have next := ih (seg ++ [92, c]) (by
          intro member
          rcases List.mem_append.mp member with inside | last
          · exact clean inside
          · rcases List.mem_cons.mp last with slash | last
            · exact absurd slash (by decide)
            · exact quote (List.mem_singleton.mp last).symm)
        rw [if_neg quote, ← next]
        simp [rawString, JsonChar.raw]

/-- A member whose string value ends, after its last quote, in `key`. -/
def JsonMember.Shadows (m : JsonMember) (key : List UInt8) : Prop :=
  match m.value with
  | .str cs => JsonChar.lastSegment [] cs = key
  | _ => False

instance (m : JsonMember) (key : List UInt8) : Decidable (m.Shadows key) := by
  unfold JsonMember.Shadows
  split <;> infer_instance

/-- The part of the text at which the search for `key` stops. -/
def searchResult (key trail : List UInt8) : List JsonMember → Option (List UInt8)
  | [] => none
  | m :: ms =>
    if m.entry.name = key then
      some (34 :: (key ++ 34 :: (m.tail ++ (membersText 44 ms ++ 125 :: trail))))
    else if m.Shadows key then
      some (34 :: (key ++ 34 :: (m.after.1 ++ (membersText 44 ms ++ 125 :: trail))))
    else searchResult key trail ms

theorem text_no_quote {v : JsonValue} (scalar : ∀ cs, v ≠ .str cs) : 34 ∉ v.text := by
  cases v with
  | num n =>
    intro member
    have digit := isDigit_decimal 34 member
    revert digit
    decide
  | bool b => cases b <;> decide
  | str cs => exact absurd rfl (scalar cs)

/-- What follows the name of a member that is not a string is free of quotes. -/
theorem JsonMember.tail_no_quote {m : JsonMember} (scalar : ∀ cs, m.value ≠ .str cs) :
    34 ∉ m.tail := by
  intro member
  rcases List.mem_append.mp member with inside | inside
  · exact Spaces.no_quote m.afterName inside
  · rcases List.mem_cons.mp inside with colon | inside
    · exact absurd colon (by decide)
    · rcases List.mem_append.mp inside with inside | inside
      · exact Spaces.no_quote m.beforeValue inside
      · rcases List.mem_append.mp inside with inside | inside
        · exact text_no_quote scalar inside
        · exact Spaces.no_quote m.after inside

/-- The search from the opening quote of a member's name. -/
theorem strstr_member {key trail : List UInt8} (name : KeyName key) (m : JsonMember)
    (ms : List JsonMember)
    (rest : ∀ g : List UInt8, 34 ∉ g →
      strstr (34 :: (g ++ (membersText 44 ms ++ 125 :: trail))) (quoted 34 key) =
        searchResult key trail ms) :
    strstr (34 :: (m.entry.name ++ 34 :: (m.tail ++ (membersText 44 ms ++ 125 :: trail))))
      (quoted 34 key) = searchResult key trail (m :: ms) := by
  have noQuote := name.not_mem (c := 34) (by decide)
  have nameClean := (keyName_of_mem m.known).not_mem (c := 34) (by decide)
  rw [searchResult]
  by_cases same : m.entry.name = key
  · rw [if_pos same, same]
    exact strstr_hit _
  · rw [if_neg same, strstr_miss noQuote nameClean same]
    cases value : m.value with
    | num n =>
      rw [if_neg (by simp [JsonMember.Shadows, value])]
      exact rest m.tail (JsonMember.tail_no_quote (by simp [value]))
    | bool b =>
      rw [if_neg (by simp [JsonMember.Shadows, value])]
      exact rest m.tail (JsonMember.tail_no_quote (by simp [value]))
    | str cs =>
      have tail : m.tail ++ (membersText 44 ms ++ 125 :: trail) =
          (m.afterName.1 ++ 58 :: m.beforeValue.1) ++
            34 :: (rawString cs ++ 34 :: (m.after.1 ++ (membersText 44 ms ++ 125 :: trail))) := by
        simp [JsonMember.tail, value, JsonValue.text]
      -- the segment from the name to the value holds a colon
      have colon : m.afterName.1 ++ 58 :: m.beforeValue.1 ≠ key :=
        name.ne_of_mem (c := 58) (by decide) (List.mem_append_right _ List.mem_cons_self)
      have clean : 34 ∉ m.afterName.1 ++ 58 :: m.beforeValue.1 := by
        intro member
        rcases List.mem_append.mp member with inside | inside
        · exact Spaces.no_quote m.afterName inside
        · rcases List.mem_cons.mp inside with quote | inside
          · exact absurd quote (by decide)
          · exact Spaces.no_quote m.beforeValue inside
      have scan := strstr_string name cs [] (by simp)
        (m.after.1 ++ (membersText 44 ms ++ 125 :: trail))
      rw [List.nil_append] at scan
      rw [tail, strstr_miss noQuote clean colon, scan]
      have shadows : m.Shadows key ↔ JsonChar.lastSegment [] cs = key := by
        simp [JsonMember.Shadows, value]
      by_cases hit : JsonChar.lastSegment [] cs = key
      · rw [if_pos hit, if_pos (shadows.mpr hit)]
      · rw [if_neg hit, if_neg (fun shadow => hit (shadows.mp shadow))]
        exact rest m.after.1 (Spaces.no_quote m.after)

/-- The search from a quote that closes a token. -/
theorem strstr_members {key : List UInt8} (name : KeyName key) (trail : Spaces) (ms : List JsonMember)
    {lead : UInt8} (separator : lead = 123 ∨ lead = 44) {g : List UInt8} (clean : 34 ∉ g) :
    strstr (34 :: (g ++ (membersText lead ms ++ 125 :: trail.1))) (quoted 34 key) =
      searchResult key trail.1 ms := by
  induction ms generalizing lead g with
  | nil =>
    rw [searchResult]
    apply strstr_last
    intro member
    rcases List.mem_append.mp member with inside | inside
    · exact clean inside
    · rcases List.mem_cons.mp inside with brace | inside
      · exact absurd brace (by decide)
      · exact Spaces.no_quote trail inside
  | cons m ms ih =>
    have noQuote := name.not_mem (c := 34) (by decide)
    have leadOther : nameByte lead = false ∧ (34 : UInt8) ≠ lead := by
      rcases separator with same | same
      · subst same; decide
      · subst same; decide
    have other : g ++ lead :: m.before.1 ≠ key :=
      name.ne_of_mem leadOther.1 (List.mem_append_right _ List.mem_cons_self)
    have clean' : 34 ∉ g ++ lead :: m.before.1 := by
      intro member
      rcases List.mem_append.mp member with inside | inside
      · exact clean inside
      · rcases List.mem_cons.mp inside with same | inside
        · exact leadOther.2 same
        · exact Spaces.no_quote m.before inside
    have text : g ++ (membersText lead (m :: ms) ++ 125 :: trail.1) = (g ++ lead :: m.before.1) ++
        34 :: (m.entry.name ++ 34 :: (m.tail ++ (membersText 44 ms ++ 125 :: trail.1))) := by
      simp [membersText, JsonMember.text]
    rw [text, strstr_miss noQuote clean' other]
    exact strstr_member name m ms (fun g clean => ih (Or.inr rfl) clean)

/-- The search through a whole object. -/
theorem strstr_object {key : List UInt8} (name : KeyName key) (o : JsonObject) :
    strstr o.text (quoted 34 key) = searchResult key o.trail.1 o.members := by
  have lead := Spaces.no_quote o.lead
  rw [JsonObject.text, strstr_skip lead]
  cases members : o.members with
  | nil =>
    apply strstr_none
    intro member
    have parts : 34 ∈ o.inner.1 ∨ 34 ∈ o.trail.1 := by simpa using member
    rcases parts with inside | inside
    · exact Spaces.no_quote o.inner inside
    · exact Spaces.no_quote o.trail inside
  | cons m ms =>
    have clean : 34 ∉ 123 :: m.before.1 := by
      intro member
      rcases List.mem_cons.mp member with same | inside
      · exact absurd same (by decide)
      · exact Spaces.no_quote m.before inside
    have text : (if (m :: ms).isEmpty then 123 :: o.inner.1 else membersText 123 (m :: ms)) ++
        125 :: o.trail.1 = (123 :: m.before.1) ++
        34 :: (m.entry.name ++ 34 :: (m.tail ++ (membersText 44 ms ++ 125 :: o.trail.1))) := by
      simp [membersText, JsonMember.text]
    rw [text, strstr_skip clean]
    exact strstr_member name m ms (fun g clean => strstr_members name o.trail ms (Or.inr rfl) clean)

/-! ## The value that is found -/

/-- The member that `json_find_value` finds for a name. -/
def lookup (key : List UInt8) : List JsonMember → Option JsonMember
  | [] => none
  | m :: ms =>
    if m.entry.name = key then some m
    else if m.Shadows key then none
    else lookup key ms

theorem dropWhile_spaces (w : Spaces) {c : UInt8} (stop : jsonSpace c = false) (t : List UInt8) :
    (w.1 ++ c :: t).dropWhile jsonSpace = c :: t := by
  rw [List.dropWhile_append_of_pos w.2, List.dropWhile_cons_of_neg (by rw [stop]; decide)]

/-- The rest of the text begins with a comma or the closing brace. -/
theorem membersText_head (trail : List UInt8) (ms : List JsonMember) :
    ∃ c t, membersText 44 ms ++ 125 :: trail = c :: t ∧ (c = 44 ∨ c = 125) := by
  cases ms with
  | nil => exact ⟨125, trail, rfl, Or.inr rfl⟩
  | cons m ms => exact ⟨44, _, rfl, Or.inl rfl⟩

theorem jsonSpace_of_digit {c : UInt8} (digit : isDigit c = true) : jsonSpace c = false := by
  simp [jsonSpace, digit_ne digit (d := 32) (by decide), digit_ne digit (d := 9) (by decide),
    digit_ne digit (d := 13) (by decide), digit_ne digit (d := 10) (by decide)]

/-- No value begins with white space. -/
theorem text_head (v : JsonValue) : ∃ c t, v.text = c :: t ∧ jsonSpace c = false := by
  cases v with
  | num n =>
    obtain ⟨c, ds, digits⟩ := List.exists_cons_of_ne_nil (decimal_ne_nil n)
    have digit : isDigit c = true := isDigit_decimal c (by rw [digits]; exact List.mem_cons_self)
    exact ⟨c, ds, digits, jsonSpace_of_digit digit⟩
  | bool b => cases b <;> exact ⟨_, _, rfl, by decide⟩
  | str cs => exact ⟨34, _, rfl, by decide⟩

/-- What follows a value does not prolong a number. -/
theorem after_value (w : Spaces) (trail : List UInt8) (ms : List JsonMember) :
    digitFirst (w.1 ++ (membersText 44 ms ++ 125 :: trail)) = false := by
  obtain ⟨c, t, rest, head⟩ := membersText_head trail ms
  rw [rest]
  cases spaces : w.1 with
  | nil => rcases head with same | same <;> subst same <;> rfl
  | cons d ds =>
    have space := w.2 d (by rw [spaces]; exact List.mem_cons_self)
    cases digit : isDigit d with
    | false => exact digit
    | true =>
      have other : ∀ e : UInt8, e.toNat < 48 → d ≠ e := fun e below => digit_ne digit below
      simp [jsonSpace, other 32 (by decide), other 9 (by decide), other 13 (by decide),
        other 10 (by decide)] at space

/-- The lookup of a known key is the search for the quoted key. -/
theorem jsonFindValue_search {key : List UInt8} (name : KeyName key) (json : List UInt8) :
    jsonFindValue json key = (strstr json (quoted 34 key)).bind
      fun start => jsonAfterKey (start.drop (jsonPattern key).length) := by
  have short : ¬ (jsonPattern key).length ≥ jsonKeyBufSize := by
    have bound := name.short
    simp only [jsonPattern, List.length_cons, List.length_append, List.length_nil]
    omega
  have pattern : jsonPattern key = quoted 34 key := rfl
  rw [jsonFindValue, if_neg short, pattern]
  cases strstr json (quoted 34 key) <;> rfl

/-- What stands behind the quoted key. -/
theorem drop_jsonPattern (key rest : List UInt8) :
    (34 :: (key ++ 34 :: rest)).drop (jsonPattern key).length = rest := by
  have split : 34 :: (key ++ 34 :: rest) = jsonPattern key ++ rest := by simp [jsonPattern]
  rw [split, List.drop_left]

/-- A text whose only quotes are those around a name has that name only. -/
theorem jsonFindValue_sole {front name after key : List UInt8} (named : KeyName name) (asked : KeyName key)
    (before : 34 ∉ front) (behind : 34 ∉ after) :
    jsonFindValue (front ++ 34 :: (name ++ 34 :: after)) key =
      if key = name then jsonAfterKey after else none := by
  have noQuote := asked.not_mem (c := 34) (by decide)
  rw [jsonFindValue_search asked, strstr_skip before]
  by_cases same : key = name
  · subst same
    rw [if_pos rfl, strstr_hit, Option.bind_some, drop_jsonPattern]
  · have nameClean := named.not_mem (c := 34) (by decide)
    rw [if_neg same, strstr_miss noQuote nameClean (Ne.symm same), strstr_last behind, Option.bind_none]

/-- The value of a name begins behind the white space. -/
theorem jsonAfterKey_value (afterName beforeValue : Spaces) {c : UInt8} (solid : jsonSpace c = false)
    (t : List UInt8) :
    jsonAfterKey (afterName.1 ++ 58 :: (beforeValue.1 ++ c :: t)) = some (c :: t) := by
  rw [jsonAfterKey, dropWhile_spaces afterName (by decide)]
  change some (List.dropWhile jsonSpace _) = _
  rw [dropWhile_spaces beforeValue solid]

/-- **What `json_find_value` finds in an object**: the value of the looked-up member. -/
theorem jsonFindValue_object {key : List UInt8} (name : KeyName key) (o : JsonObject) :
    match lookup key o.members with
    | none => jsonFindValue o.text key = none
    | some m => ∃ rest, jsonFindValue o.text key = some (m.value.text ++ rest) ∧
        digitFirst rest = false := by
  rw [jsonFindValue_search name, strstr_object name o]
  generalize o.members = ms
  induction ms with
  | nil => rfl
  | cons m ms ih =>
    rw [lookup, searchResult]
    by_cases same : m.entry.name = key
    · rw [if_pos same, if_pos same]
      refine ⟨m.after.1 ++ (membersText 44 ms ++ 125 :: o.trail.1), ?_, after_value m.after _ ms⟩
      obtain ⟨c, t, text, stop⟩ := text_head m.value
      have tail : m.tail ++ (membersText 44 ms ++ 125 :: o.trail.1) = m.afterName.1 ++ 58 ::
          (m.beforeValue.1 ++ (m.value.text ++
            (m.after.1 ++ (membersText 44 ms ++ 125 :: o.trail.1)))) := by
        simp [JsonMember.tail]
      rw [Option.bind_some, drop_jsonPattern, tail, jsonAfterKey, dropWhile_spaces m.afterName (by decide)]
      change some (List.dropWhile jsonSpace _) = _
      rw [text, List.cons_append, dropWhile_spaces m.beforeValue stop]
    · rw [if_neg same, if_neg same]
      by_cases shadows : m.Shadows key
      · rw [if_pos shadows, if_pos shadows]
        obtain ⟨c, t, rest, head⟩ := membersText_head o.trail.1 ms
        dsimp only
        rw [Option.bind_some, drop_jsonPattern, rest, jsonAfterKey]
        rcases head with brace | brace
        · subst brace
          rw [dropWhile_spaces m.after (by decide)]
          rfl
        · subst brace
          rw [dropWhile_spaces m.after (by decide)]
          rfl
      · rw [if_neg shadows, if_neg shadows]
        exact ih

end Stairway
