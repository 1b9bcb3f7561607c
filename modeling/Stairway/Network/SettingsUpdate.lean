import Mathlib.Data.List.Nodup
import Stairway.Network.JsonObject
import Stairway.Settings.Operations

/-!
# What a posted object does to the settings

`JsonObject.update` is what the client asks for: every member assigned. `JsonObject.read` is
what `set_settings_json` computes: the members that its search finds. They differ for the members
that a string value hides (`Hidden`), and `json_update_iff` says that nothing else stands between
a client and its update.
-/

namespace Stairway
open Firmware

/-! ## Values read back -/

theorem jsonParseUint_decimal {n : Nat} (max : Nat) (fits : n ≤ max) (word : max < 2 ^ 32)
    {rest : List UInt8} (stops : digitFirst rest = false) :
    jsonParseUint (decimal n ++ rest) max = .ok n := by
  have first : digitFirst (decimal n ++ rest) = true := by
    obtain ⟨c, ds, digits⟩ := List.exists_cons_of_ne_nil (decimal_ne_nil n)
    rw [digits]
    exact isDigit_decimal c (by rw [digits]; exact List.mem_cons_self)
  have moved : rest ≠ decimal n ++ rest := by
    intro same
    have length := congrArg List.length same
    have positive := List.length_pos_iff.mpr (decimal_ne_nil n)
    rw [List.length_append] at length
    omega
  have bound : ¬ n > max := by omega
  rw [jsonParseUint, first, strtoul_decimal (by omega) stops]
  simp [moved, bound]

theorem jsonParseBool_text (b : Bool) (rest : List UInt8) :
    jsonParseBool ((JsonValue.bool b).text ++ rest) = .ok b := by
  cases b <;> rfl

theorem jsonStringFrom_text {bufSize : Nat} (cs : List JsonChar) (rest : List UInt8)
    (out : List UInt8) (fits : out.length + cs.length < bufSize) :
    jsonStringFrom bufSize (rawString cs ++ 34 :: rest) out = .ok (out ++ decodeString cs) := by
  induction cs generalizing out with
  | nil => simp [rawString, decodeString, jsonStringFrom]
  | cons c cs ih =>
    rw [List.length_cons] at fits
    have next := ih (out ++ [c.decode]) (by rw [List.length_append, List.length_singleton]; omega)
    have room : ¬ out.length + 1 ≥ bufSize := by omega
    have result : out ++ decodeString (c :: cs) = (out ++ [c.decode]) ++ decodeString cs := by
      simp [decodeString]
    rw [result, ← next]
    cases c with
    | plain c ordinary =>
      change jsonStringFrom bufSize (c :: (rawString cs ++ 34 :: rest)) out = _
      obtain ⟨quote, slash, -⟩ := ordinary
      rw [jsonStringFrom]
      · rw [if_neg room]
        rfl
      · exact quote
      · intro same
        exact absurd same slash
      · intro d val same
        exact absurd same slash
    | escaped c allowed =>
      change jsonStringFrom bufSize (92 :: c :: (rawString cs ++ 34 :: rest)) out = _
      have known : ¬ (c ≠ 34 ∧ c ≠ 92 ∧ c ≠ 47) := by
        rintro ⟨quote, slash, solidus⟩
        rcases allowed with same | same | same
        · exact quote same
        · exact slash same
        · exact solidus same
      rw [jsonStringFrom, if_neg known, if_neg room]
      rfl

theorem jsonParseString_text {bufSize : Nat} {cs : List JsonChar} (fits : cs.length < bufSize)
    (rest : List UInt8) :
    jsonParseString ((JsonValue.str cs).text ++ rest) bufSize = .ok (decodeString cs) := by
  have text : (JsonValue.str cs).text ++ rest = 34 :: (rawString cs ++ 34 :: rest) := by
    simp [JsonValue.text]
  rw [text]
  exact jsonStringFrom_text cs rest [] (by simpa using fits)

/-! ## The table -/

theorem settingsMap_names : (settingsMap.map SettingsMap.name).Nodup := by decide +kernel

theorem settingsMap_offsets : (settingsMap.map SettingsMap.offset).Nodup := by decide +kernel

/-- Names and members of `settings_map` determine its entries. -/
theorem settingsMap_injective : ∀ e ∈ settingsMap, ∀ e' ∈ settingsMap,
    (e.name = e'.name → e = e') ∧ (e.offset = e'.offset → e = e') := by
  intro e member e' member'
  exact ⟨List.inj_on_of_nodup_map settingsMap_names member member',
    List.inj_on_of_nodup_map settingsMap_offsets member member'⟩

/-- The types of the entries are those of their members. -/
def SettingsMap.Typed (e : SettingsMap) : Prop :=
  e.offset.header = false ∧ match e.type with
    | .uint32 => e.offset.width = 4
    | .uint16 => e.offset.width = 2
    | .uint8 => e.offset.width = 1
    | .bool => e.offset.width = 1 ∧ e.offset.validated = false
    | .string => e.offset.width = e.maxLen

instance (e : SettingsMap) : Decidable e.Typed := by
  unfold SettingsMap.Typed
  split <;> infer_instance

theorem settingsMap_typed : ∀ e ∈ settingsMap, e.Typed := by decide +kernel

/-- Where the text has one name only, its entry is all that is read. -/
theorem jsonReadSettings_sole {json : List UInt8} {entry : SettingsMap} (listed : entry ∈ settingsMap)
    (only : ∀ e ∈ settingsMap, e ≠ entry → jsonFindValue json e.name = none) (s : Settings) :
    jsonReadSettings json s = jsonReadField json s entry := by
  have other : ∀ e ∈ settingsMap, e ≠ entry → ∀ s, jsonReadField json s e = .ok s := by
    intro e known differs s
    rw [jsonReadField, only e known differs]
  have skip : ∀ (es : List SettingsMap) (s : Settings), (∀ e ∈ es, e ∈ settingsMap) → entry ∉ es →
      es.foldlM (jsonReadField json) s = .ok s := by
    intro es
    induction es with
    | nil => intro s _ _; rfl
    | cons e es ih =>
      intro s known absent
      have differs : e ≠ entry := fun same => absent (same ▸ List.mem_cons_self)
      rw [List.foldlM_cons, other e (known e List.mem_cons_self) differs]
      exact ih s (fun e' member => known e' (List.mem_cons_of_mem _ member))
        (fun member => absent (List.mem_cons_of_mem _ member))
  obtain ⟨before, after, split⟩ := List.append_of_mem listed
  have distinct := settingsMap_offsets.of_map
  rw [split, List.nodup_append, List.nodup_cons] at distinct
  have known : ∀ e, e ∈ before ++ entry :: after → e ∈ settingsMap := by
    intro e member
    rw [split]
    exact member
  rw [jsonReadSettings, split, List.foldlM_append,
    skip before s (fun e member => known e (List.mem_append_left _ member))
      (fun member => distinct.2.2 entry member entry List.mem_cons_self rfl)]
  change List.foldlM (jsonReadField json) s (entry :: after) = _
  rw [List.foldlM_cons]
  cases read : jsonReadField json s entry with
  | error err => rfl
  | ok t =>
    exact skip after t
      (fun e member => known e (List.mem_append_right _ (List.mem_cons_of_mem _ member))) distinct.2.1.1

/-! ## Assignments -/

/-- The bytes that a member's value puts into its field; an empty secret puts none. -/
def JsonMember.data (m : JsonMember) : Option (List UInt8) :=
  match m.value with
  | .num n => some (leBytes m.entry.offset.width n)
  | .bool b => some (leBytes m.entry.offset.width b.toNat)
  | .str cs =>
    if m.entry.secret ∧ decodeString cs = [] then none else some (decodeString cs ++ [0])

/-- The assignment that a member stands for. -/
def JsonMember.assign (s : Settings) (m : JsonMember) : Settings :=
  match m.data with
  | none => s
  | some data => s.put m.entry.offset data

/-- What the assignment makes of the bytes of the field. -/
def JsonMember.overwrite (m : JsonMember) (old : List UInt8) : List UInt8 :=
  match m.data with
  | none => old
  | some data => data ++ old.drop data.length

/-- The settings that the client asks for. -/
def JsonObject.update (o : JsonObject) (s : Settings) : Settings :=
  o.members.foldl JsonMember.assign s

/-- The member that the search finds for an entry. -/
def JsonObject.find (o : JsonObject) (e : SettingsMap) : Option JsonMember := lookup e.name o.members

/-- The settings that `set_settings_json` arrives at. -/
def JsonObject.read (o : JsonObject) (s : Settings) : Settings :=
  (settingsMap.filterMap o.find).foldl JsonMember.assign s

theorem JsonMember.entry_typed (m : JsonMember) : m.entry.Typed := settingsMap_typed _ m.known

/-- What is read for a member is the assignment it stands for. -/
theorem jsonReadField_of_found {json rest : List UInt8} {m : JsonMember} (s : Settings)
    (found : jsonFindValue json m.entry.name = some (m.value.text ++ rest))
    (stops : digitFirst rest = false) : jsonReadField json s m.entry = .ok (m.assign s) := by
  have typed := m.typed
  have table := m.entry_typed.2
  rw [jsonReadField, found]
  dsimp only
  cases value : m.value with
  | num n =>
    rw [value] at typed
    have assign : m.assign s = s.setNum m.entry.offset n := by
      simp [JsonMember.assign, JsonMember.data, value, Settings.setNum]
    rw [assign]
    simp only [JsonValue.Fits] at typed
    cases type : m.entry.type with
    | uint32 =>
      rw [type] at typed
      have parse :=
        jsonParseUint_decimal (2 ^ 32 - 1) (Nat.le_sub_one_of_lt typed) (by decide) stops
      change Except.map _ (jsonParseUint (decimal n ++ rest) (2 ^ 32 - 1)) = _
      rw [parse]
      rfl
    | uint16 =>
      rw [type] at typed
      have parse :=
        jsonParseUint_decimal (2 ^ 16 - 1) (Nat.le_sub_one_of_lt typed) (by decide) stops
      change Except.map _ (jsonParseUint (decimal n ++ rest) (2 ^ 16 - 1)) = _
      rw [parse]
      rfl
    | uint8 =>
      rw [type] at typed
      have parse :=
        jsonParseUint_decimal (2 ^ 8 - 1) (Nat.le_sub_one_of_lt typed) (by decide) stops
      change Except.map _ (jsonParseUint (decimal n ++ rest) (2 ^ 8 - 1)) = _
      rw [parse]
      rfl
    | bool => rw [type] at typed; cases typed
    | string => rw [type] at typed; cases typed
  | bool b =>
    rw [value] at typed
    have type : m.entry.type = .bool := typed
    rw [type]
    dsimp only
    rw [jsonParseBool_text]
    simp [Except.map, JsonMember.assign, JsonMember.data, value, Settings.setFlag,
      Settings.setNum]
  | str cs =>
    rw [value] at typed
    obtain ⟨type, fits⟩ := typed
    rw [type]
    dsimp only
    rw [jsonParseString_text fits]
    simp only [Except.map, JsonMember.assign, JsonMember.data, value]
    by_cases kept : m.entry.secret ∧ decodeString cs = []
    · rw [if_pos kept, if_pos kept]
    · rw [if_neg kept, if_neg kept]
      rfl

/-- A looked-up member is a member of that name. -/
theorem mem_of_lookup {key : List UInt8} {ms : List JsonMember} {m : JsonMember}
    (found : lookup key ms = some m) : m ∈ ms ∧ m.entry.name = key := by
  induction ms with
  | nil => cases found
  | cons m' ms ih =>
    rw [lookup] at found
    split at found
    · rename_i same
      have here : m' = m := Option.some.inj found
      subst here
      exact ⟨List.mem_cons_self, same⟩
    · split at found
      · cases found
      · obtain ⟨inside, name⟩ := ih found
        exact ⟨List.mem_cons_of_mem _ inside, name⟩

/-- A member found for an entry belongs to it. -/
theorem JsonObject.find_some {o : JsonObject} {e : SettingsMap} (known : e ∈ settingsMap)
    {m : JsonMember} (found : o.find e = some m) : m ∈ o.members ∧ m.entry = e := by
  obtain ⟨inside, name⟩ := mem_of_lookup found
  exact ⟨inside, (settingsMap_injective m.entry m.known e known).1 name⟩

/-- One pass of the loop over `settings_map` on the text of an object. -/
theorem jsonReadField_object (o : JsonObject) (s : Settings) {e : SettingsMap} (known : e ∈ settingsMap) :
    jsonReadField o.text s e = .ok (((o.find e).map (JsonMember.assign s)).getD s) := by
  have result := jsonFindValue_object (keyName_of_mem known) o
  cases found : o.find e with
  | none =>
    rw [JsonObject.find] at found
    rw [found] at result
    rw [jsonReadField, result]
    rfl
  | some m =>
    obtain ⟨-, entry⟩ := o.find_some known found
    rw [JsonObject.find] at found
    rw [found] at result
    obtain ⟨rest, value, stops⟩ := result
    rw [← entry] at value ⊢
    exact jsonReadField_of_found s value stops

/-- **`set_settings_json` reads an object without an error.** -/
theorem jsonReadSettings_object (o : JsonObject) (s : Settings) :
    jsonReadSettings o.text s = .ok (o.read s) := by
  have run : ∀ (es : List SettingsMap) (s : Settings), (∀ e ∈ es, e ∈ settingsMap) →
      es.foldlM (jsonReadField o.text) s = .ok ((es.filterMap o.find).foldl JsonMember.assign s) := by
    intro es
    induction es with
    | nil => intro s _; rfl
    | cons e es ih =>
      intro s known
      have rest := fun s => ih s (fun e' member => known e' (List.mem_cons_of_mem _ member))
      rw [List.foldlM_cons, jsonReadField_object o s (known e List.mem_cons_self)]
      refine (rest _).trans ?_
      cases found : o.find e with
      | none => rw [List.filterMap_cons_none found]; rfl
      | some m => rw [List.filterMap_cons_some found]; rfl
  exact run settingsMap s (fun e member => member)

/-! ## What the assignments leave -/

theorem JsonMember.data_fits {m : JsonMember} {data : List UInt8} (written : m.data = some data) :
    data.length ≤ m.entry.offset.width := by
  have typed := m.typed
  have table := m.entry_typed.2
  rw [JsonMember.data] at written
  cases value : m.value with
  | num n =>
    rw [value] at written
    rw [← Option.some.inj written, length_leBytes]
  | bool b =>
    rw [value] at written
    rw [← Option.some.inj written, length_leBytes]
  | str cs =>
    rw [value] at written typed
    obtain ⟨type, fits⟩ := typed
    rw [type] at table
    dsimp only at written table
    split at written
    · cases written
    · rw [← Option.some.inj written, List.length_append, decodeString, List.length_map, table]
      exact fits

theorem JsonMember.assign_raw (s : Settings) (m : JsonMember) :
    (m.assign s).raw m.entry.offset = m.overwrite (s.raw m.entry.offset) := by
  cases data : m.data with
  | none => rw [JsonMember.assign, JsonMember.overwrite, data]
  | some data' =>
    rw [JsonMember.assign, JsonMember.overwrite, data]
    exact Settings.raw_put_front (JsonMember.data_fits data)

theorem JsonMember.assign_raw_other (s : Settings) (m : JsonMember) {f : SettingsField}
    (other : f ≠ m.entry.offset) : (m.assign s).raw f = s.raw f := by
  cases data : m.data with
  | none => rw [JsonMember.assign, data]
  | some data' =>
    rw [JsonMember.assign, data]
    exact Settings.raw_put_other other (JsonMember.data_fits data)

theorem raw_foldl_assign_other {ms : List JsonMember} {f : SettingsField} (s : Settings)
    (other : ∀ m ∈ ms, m.entry.offset ≠ f) : (ms.foldl JsonMember.assign s).raw f = s.raw f := by
  induction ms generalizing s with
  | nil => rfl
  | cons m ms ih =>
    rw [List.foldl_cons, ih _ (fun m' member => other m' (List.mem_cons_of_mem _ member)),
      JsonMember.assign_raw_other s m (other m List.mem_cons_self).symm]

/-- Assignments to distinct fields do not disturb each other, in whatever order they come. -/
theorem raw_foldl_assign {ms : List JsonMember} {m : JsonMember} (s : Settings)
    (distinct : ms.Pairwise fun m m' => m.entry.offset ≠ m'.entry.offset) (member : m ∈ ms) :
    (ms.foldl JsonMember.assign s).raw m.entry.offset = m.overwrite (s.raw m.entry.offset) := by
  induction ms generalizing s with
  | nil => cases member
  | cons m' ms ih =>
    obtain ⟨first, distinct⟩ := List.pairwise_cons.mp distinct
    rw [List.foldl_cons]
    rcases List.mem_cons.mp member with here | later
    · subst here
      rw [raw_foldl_assign_other _ (fun m' inside => (first m' inside).symm), JsonMember.assign_raw]
    · rw [ih _ distinct later, JsonMember.assign_raw_other s m' (first m later).symm]

/-! ## Hidden members -/

/-- A string value that stands before the member ends in its name. -/
def JsonObject.Hidden (o : JsonObject) (m : JsonMember) : Prop :=
  ∃ before after, o.members = before ++ m :: after ∧ ∃ m' ∈ before, m'.Shadows m.entry.name

/-- The search for the name of a member stops at a string value before it, or at the member. -/
theorem lookup_split {before after : List JsonMember} {m : JsonMember}
    (fresh : ∀ m' ∈ before, m'.entry.name ≠ m.entry.name) :
    lookup m.entry.name (before ++ m :: after) =
      if ∃ m' ∈ before, m'.Shadows m.entry.name then none else some m := by
  induction before with
  | nil =>
    rw [List.nil_append, lookup, if_pos rfl]
    exact (if_neg (by rintro ⟨m', member, -⟩; cases member)).symm
  | cons m' before ih =>
    have rest := ih (fun m'' member => fresh m'' (List.mem_cons_of_mem _ member))
    rw [List.cons_append, lookup, if_neg (fresh m' List.mem_cons_self), rest]
    by_cases shadows : m'.Shadows m.entry.name
    · rw [if_pos shadows, if_pos ⟨m', List.mem_cons_self, shadows⟩]
    · rw [if_neg shadows]
      congr 1
      apply propext
      constructor
      · rintro ⟨m'', member, shadows'⟩
        exact ⟨m'', List.mem_cons_of_mem _ member, shadows'⟩
      · rintro ⟨m'', member, shadows'⟩
        rcases List.mem_cons.mp member with here | later
        · subst here
          exact absurd shadows' shadows
        · exact ⟨m'', later, shadows'⟩

section
variable {o : JsonObject} {m : JsonMember}

theorem JsonObject.fresh {before after : List JsonMember} (split : o.members = before ++ m :: after) :
    ∀ m' ∈ before, m'.entry.name ≠ m.entry.name := by
  have distinct := o.distinct
  rw [split, List.map_append, List.nodup_append] at distinct
  intro m' member
  exact distinct.2.2 _ (List.mem_map_of_mem member) _ (List.mem_map_of_mem List.mem_cons_self)

theorem JsonObject.find_hidden (hidden : o.Hidden m) : o.find m.entry = none := by
  obtain ⟨before, after, split, shadowed⟩ := hidden
  rw [JsonObject.find, split, lookup_split (o.fresh split), if_pos shadowed]

theorem JsonObject.find_visible (member : m ∈ o.members) (visible : ¬ o.Hidden m) :
    o.find m.entry = some m := by
  obtain ⟨before, after, split⟩ := List.append_of_mem member
  rw [JsonObject.find, split, lookup_split (o.fresh split)]
  exact if_neg (fun shadowed => visible ⟨before, after, split, shadowed⟩)

/-- The members of an object are assigned to distinct fields. -/
theorem JsonObject.offsets_distinct (o : JsonObject) :
    o.members.Pairwise fun m m' => m.entry.offset ≠ m'.entry.offset := by
  refine (List.pairwise_map.mp o.distinct).imp (fun {m m'} names offsets => names ?_)
  rw [(settingsMap_injective m.entry m.known m'.entry m'.known).2 offsets]

/-- What is found is the visible members. -/
theorem JsonObject.mem_found : m ∈ settingsMap.filterMap o.find ↔ m ∈ o.members ∧ ¬ o.Hidden m := by
  rw [List.mem_filterMap]
  constructor
  · rintro ⟨e, known, found⟩
    obtain ⟨member, entry⟩ := o.find_some known found
    refine ⟨member, fun hidden => ?_⟩
    rw [← entry, JsonObject.find_hidden hidden] at found
    cases found
  · rintro ⟨member, visible⟩
    exact ⟨m.entry, m.known, JsonObject.find_visible member visible⟩

theorem JsonObject.found_distinct (o : JsonObject) :
    (settingsMap.filterMap o.find).Pairwise fun m m' => m.entry.offset ≠ m'.entry.offset := by
  rw [List.pairwise_filterMap]
  refine (List.pairwise_map.mp settingsMap_offsets).imp_of_mem ?_
  intro e e' known known' apart m found m' found'
  obtain ⟨-, entry⟩ := o.find_some known found
  obtain ⟨-, entry'⟩ := o.find_some known' found'
  rw [entry, entry']
  exact apart

theorem JsonObject.read_visible (s : Settings) (member : m ∈ o.members) (visible : ¬ o.Hidden m) :
    (o.read s).raw m.entry.offset = m.overwrite (s.raw m.entry.offset) :=
  raw_foldl_assign s o.found_distinct (JsonObject.mem_found.mpr ⟨member, visible⟩)

theorem JsonObject.read_unnamed (s : Settings) {f : SettingsField}
    (unnamed : ∀ m ∈ o.members, m.entry.offset ≠ f) : (o.read s).raw f = s.raw f :=
  raw_foldl_assign_other s (fun m found => unnamed m (JsonObject.mem_found.mp found).1)

/-- The field of a hidden member keeps its value. -/
theorem JsonObject.read_hidden (s : Settings) (hidden : o.Hidden m) :
    (o.read s).raw m.entry.offset = s.raw m.entry.offset := by
  apply raw_foldl_assign_other
  intro m' found same
  obtain ⟨member', visible⟩ := JsonObject.mem_found.mp found
  have here : m'.entry = m.entry :=
    (settingsMap_injective m'.entry m'.known m.entry m.known).2 same
  have first := JsonObject.find_visible member' visible
  rw [here, JsonObject.find_hidden hidden] at first
  cases first

end

/-! ## What the client asked for -/

/-- After the update `t` of `s` the field of the member has its value; an empty secret keeps
the bytes it had. -/
def JsonMember.Holds (m : JsonMember) (s t : Settings) : Prop :=
  match m.value with
  | .num n => t.num m.entry.offset = n
  | .bool b => t.flag m.entry.offset = b
  | .str cs =>
    if m.entry.secret ∧ decodeString cs = [] then t.raw m.entry.offset = s.raw m.entry.offset
    else cString (t.raw m.entry.offset) = decodeString cs

/-- The update that an object asks for: its members, and nothing else. A valid header stays as
it is but for the CRC. -/
structure JsonApplied (o : JsonObject) (s t : Settings) : Prop where
  named : ∀ m ∈ o.members, m.Holds s t
  unnamed : ∀ f, f.header = false → (∀ m ∈ o.members, m.entry.offset ≠ f) → t.raw f = s.raw f
  header : settingsIsValidHeader s = true → ∀ f, f.header = true → f ≠ .crc → t.raw f = s.raw f

section
variable {m : JsonMember} {s t : Settings}

theorem JsonMember.Holds.congr {t' : Settings} (same : t'.raw m.entry.offset = t.raw m.entry.offset) :
    m.Holds s t' ↔ m.Holds s t := by
  unfold JsonMember.Holds Settings.flag Settings.num
  rw [same]

/-- A number in range fits its field. -/
theorem JsonMember.num_fits {n : Nat} (value : m.value = .num n) : n < 256 ^ m.entry.offset.width := by
  have typed := m.typed
  have table := m.entry_typed.2
  rw [value] at typed
  simp only [JsonValue.Fits] at typed
  cases type : m.entry.type with
  | uint32 => rw [type] at typed table; rw [table]; exact typed
  | uint16 => rw [type] at typed table; rw [table]; exact typed
  | uint8 => rw [type] at typed table; rw [table]; exact typed
  | bool => rw [type] at typed; cases typed
  | string => rw [type] at typed; cases typed

theorem JsonMember.bool_field {b : Bool} (value : m.value = .bool b) :
    m.entry.offset.width = 1 ∧ m.entry.offset.validated = false := by
  have typed := m.typed
  have table := m.entry_typed.2
  rw [value] at typed
  have type : m.entry.type = .bool := typed
  rw [type] at table
  exact table

theorem JsonMember.str_field {cs : List JsonChar} (value : m.value = .str cs) :
    (decodeString cs).length < m.entry.offset.width := by
  have typed := m.typed
  have table := m.entry_typed.2
  rw [value] at typed
  obtain ⟨type, fits⟩ := typed
  rw [type] at table
  dsimp only at table
  rw [decodeString, List.length_map, table]
  exact fits

theorem decodeString_nonzero (cs : List JsonChar) : 0 ∉ decodeString cs := by
  intro zero
  obtain ⟨c, -, same⟩ := List.mem_map.mp zero
  exact c.decode_ne_zero same

/-- The value of a member that was read is in its field. -/
theorem JsonMember.holds_of_overwrite
    (written : t.raw m.entry.offset = m.overwrite (s.raw m.entry.offset)) : m.Holds s t := by
  rw [JsonMember.Holds]
  rw [JsonMember.overwrite, JsonMember.data] at written
  cases value : m.value with
  | num n =>
    rw [value] at written
    dsimp only at written ⊢
    have full : (s.raw m.entry.offset).drop (leBytes m.entry.offset.width n).length = [] := by simp
    rw [Settings.num, written, full, List.append_nil, leNat_leBytes_of_lt (m.num_fits value)]
  | bool b =>
    rw [value] at written
    dsimp only at written ⊢
    have full : (s.raw m.entry.offset).drop (leBytes m.entry.offset.width b.toNat).length = [] := by simp
    have width := (m.bool_field value).1
    rw [Settings.flag, Settings.num, written, full, List.append_nil, width]
    cases b <;> rfl
  | str cs =>
    rw [value] at written
    dsimp only at written ⊢
    by_cases kept : m.entry.secret ∧ decodeString cs = []
    · rw [if_pos kept] at written ⊢
      exact written
    · rw [if_neg kept] at written ⊢
      dsimp only at written
      rw [written, List.append_assoc]
      exact cString_append_nul (decodeString_nonzero cs) _

/-- A value that the field has already is written over itself. -/
theorem JsonMember.overwrite_of_holds (holds : m.Holds s s) (scalar : ∀ b, m.value ≠ .bool b) :
    m.overwrite (s.raw m.entry.offset) = s.raw m.entry.offset := by
  rw [JsonMember.Holds] at holds
  rw [JsonMember.overwrite, JsonMember.data]
  cases value : m.value with
  | num n =>
    rw [value] at holds
    have same : s.num m.entry.offset = n := holds
    have bytes := leBytes_leNat (s.raw m.entry.offset)
    rw [Settings.length_raw] at bytes
    dsimp only
    rw [← same, Settings.num, bytes, List.drop_length, List.append_nil]
  | bool b => exact absurd value (scalar b)
  | str cs =>
    rw [value] at holds
    dsimp only at holds ⊢
    by_cases kept : m.entry.secret ∧ decodeString cs = []
    · rw [if_pos kept]
    · rw [if_neg kept] at holds ⊢
      have short : (cString (s.raw m.entry.offset)).length < (s.raw m.entry.offset).length := by
        rw [holds, Settings.length_raw]
        exact m.str_field value
      have split := append_nul_of_short short
      dsimp only
      rw [← holds, List.append_assoc, List.length_append, List.length_singleton]
      exact split

end

/-- Apart from the header, a successful `settings_apply` makes the new settings the active ones. -/
theorem settingsApply_done {s : Settings} (valid : s.Valid) (st : Store) :
    (settingsApply .done (some s) st).1 = .success ∧
      (settingsApply .done (some s) st).2.settings = stampHeader s := by
  have accepted : ¬ settingsValidate s ≠ .success := not_not.mpr ((settingsValidate_iff s).mpr valid)
  rw [settingsApply, if_neg accepted]
  exact ⟨settingsWrite_success_iff.mpr (writeSucceeds_done _ _), settingsWrite_settings _ _⟩

/-- `settings_apply` succeeds for valid settings only. -/
theorem settingsApply_valid {ctl : FlashCtl} {s : Settings} {st : Store}
    (success : (settingsApply ctl (some s) st).1 = .success) : s.Valid := by
  rw [settingsApply] at success
  rw [← settingsValidate_iff]
  split at success
  · exact success
  · rename_i accepted
    exact not_not.mp accepted

/-- On the text of an object, `set_settings_json` applies what it has read. -/
theorem setSettingsJson_object (ctl : FlashCtl) (o : JsonObject) (st : Store) :
    setSettingsJson ctl (some o.text) st = settingsApply ctl (some (o.read st.settings)) st := by
  rw [setSettingsJson, jsonReadSettings_object]

/-- When every hidden member asks for what is there already, the settings that are read pass the
validation that the requested ones pass. -/
theorem JsonObject.read_valid {o : JsonObject} {s : Settings} (valid : (o.update s).Valid)
    (hidden : ∀ m ∈ o.members, o.Hidden m → m.Holds s s) : (o.read s).Valid := by
  refine valid.of_raw (fun f looked => ?_)
  by_cases named : ∃ m ∈ o.members, m.entry.offset = f
  · obtain ⟨m, member, here⟩ := named
    subst here
    have asked := raw_foldl_assign s o.offsets_distinct member
    change (o.update s).raw m.entry.offset = _ at asked
    rw [asked]
    by_cases hides : o.Hidden m
    · have scalar : ∀ b, m.value ≠ .bool b := by
        intro b value
        rw [(m.bool_field value).2] at looked
        cases looked
      rw [JsonObject.read_hidden s hides]
      exact (JsonMember.overwrite_of_holds (hidden m member hides) scalar).symm
    · exact JsonObject.read_visible s member hides
  · have unnamed : ∀ m ∈ o.members, m.entry.offset ≠ f :=
      fun m member here => named ⟨m, member, here⟩
    rw [JsonObject.read_unnamed s unnamed]
    exact (raw_foldl_assign_other s unnamed).symm

/-- The fields of settings are none of the header. -/
theorem JsonMember.kept (m : JsonMember) : m.entry.offset.header = false := m.entry_typed.1

/-- **An object is applied exactly if no hidden member asks for a change.** -/
theorem json_update_iff (o : JsonObject) (st : Store) (valid : (o.update st.settings).Valid) :
    ((setSettingsJson .done (some o.text) st).1 = .success ∧
        JsonApplied o st.settings (setSettingsJson .done (some o.text) st).2.settings) ↔
      ∀ m ∈ o.members, o.Hidden m → m.Holds st.settings st.settings := by
  rw [setSettingsJson_object]
  constructor
  · rintro ⟨success, applied⟩ m member hides
    obtain ⟨-, result⟩ := settingsApply_done (settingsApply_valid success) st
    have holds := applied.named m member
    rw [result] at holds
    refine (JsonMember.Holds.congr ?_).mp holds
    rw [stampHeader_raw _ m.kept, JsonObject.read_hidden _ hides]
  · intro hidden
    obtain ⟨success, result⟩ := settingsApply_done (JsonObject.read_valid valid hidden) st
    refine ⟨success, ?_⟩
    rw [result]
    constructor
    · intro m member
      by_cases hides : o.Hidden m
      · refine (JsonMember.Holds.congr ?_).mpr (hidden m member hides)
        rw [stampHeader_raw _ m.kept, JsonObject.read_hidden _ hides]
      · apply JsonMember.holds_of_overwrite
        rw [stampHeader_raw _ m.kept, JsonObject.read_visible _ member hides]
    · intro f kept unnamed
      rw [stampHeader_raw _ kept, JsonObject.read_unnamed _ unnamed]
    · intro stamped f header other
      exact header_raw stamped (stampHeader_valid _) header other

/-! An access point may be called like a setting. -/

def ledCountMember : JsonMember :=
  .bare (.scalar "led_count" .uint32 .ledCount) (.num 5) (by decide +kernel) (show 5 < 2 ^ 32 by decide)

def ssidMember : JsonMember :=
  .bare ⟨ascii "wifi_ssid", .string, .ssid, ssidMaxLen, false⟩
    (.str (encodeString (ascii "led_count") (by decide))) (by decide +kernel) ⟨rfl, by decide⟩

def countFirst : JsonObject := .bare [ledCountMember, ssidMember] (by decide +kernel)

def ssidFirst : JsonObject := .bare [ssidMember, ledCountMember] (by decide +kernel)

/-- The default settings, saved. -/
def factoryStore : Store where
  settings := stampHeader defaultSettings
  flash := flashRangeProgram (flashPage (stampHeader defaultSettings)) (flashRangeErase fun _ => 0xFF)
  flashOps := [.erase, .program]
  lastWrite := some .success

/-- A first boot, on erased flash, arrives there. -/
theorem settingsInit_erased : settingsInit .done (fun _ => 0xFF) = (.success, factoryStore) := by
  have blank : (Flash.image fun _ => 0xFF) ≠ stampHeader defaultSettings := by decide +kernel
  rw [settingsInit, if_pos (by decide +kernel), settingsWrite]
  dsimp only
  rw [if_pos blank, flashWrite_done]
  rfl

/-- The number of LEDs, then the name: both are applied. -/
theorem json_update_iff_countFirst :
    (setSettingsJson .done (some countFirst.text) factoryStore).1 = .success ∧
      JsonApplied countFirst factoryStore.settings
        (setSettingsJson .done (some countFirst.text) factoryStore).2.settings := by
  have valid : (countFirst.update factoryStore.settings).Valid :=
    (settingsValidate_iff _).mp (by decide +kernel)
  refine (json_update_iff countFirst factoryStore valid).mpr ?_
  intro m member hides
  exfalso
  have lost := JsonObject.find_hidden hides
  rcases List.mem_cons.mp member with first | rest
  · subst first
    revert lost
    decide +kernel
  · have second : m = ssidMember := List.mem_singleton.mp rest
    subst second
    revert lost
    decide +kernel

/-- The name, then the number of LEDs: success is reported, and the number is not applied. -/
theorem json_update_fail :
    ssidFirst.text = ascii "\x7b\"wifi_ssid\":\"led_count\",\"led_count\":5\x7d" ∧
      factoryStore.settings.Valid ∧ (ssidFirst.update factoryStore.settings).Valid ∧
      (setSettingsJson .done (some ssidFirst.text) factoryStore).1 = .success ∧
      (setSettingsJson .done (some ssidFirst.text) factoryStore).2.settings.num .ledCount = 18 ∧
      ¬ JsonApplied ssidFirst factoryStore.settings
        (setSettingsJson .done (some ssidFirst.text) factoryStore).2.settings := by
  have read : (ssidFirst.read factoryStore.settings).Valid :=
    (settingsValidate_iff _).mp (by decide +kernel)
  rw [setSettingsJson_object]
  obtain ⟨success, result⟩ := settingsApply_done read factoryStore
  have kept : (stampHeader (ssidFirst.read factoryStore.settings)).num .ledCount = 18 := by
    decide +kernel
  rw [result]
  refine ⟨by decide +kernel, stampHeader_settings_valid defaultSettings_valid,
    (settingsValidate_iff _).mp (by decide +kernel), success, kept, ?_⟩
  intro applied
  have named := applied.named ledCountMember (List.mem_cons_of_mem _ List.mem_cons_self)
  have five : (stampHeader (ssidFirst.read factoryStore.settings)).num .ledCount = 5 := named
  rw [kept] at five
  cases five

/-! ## Rejected updates -/

/-- The text asks for valid settings other than the active ones, and saving them fails. -/
def LostWrite (ctl : FlashCtl) (json : Option (List UInt8)) (st : Store) : Prop :=
  ∃ text newSettings, json = some text ∧ jsonReadSettings text st.settings = .ok newSettings ∧
    newSettings.Valid ∧ stampHeader newSettings ≠ st.settings ∧
    ¬ WriteSucceeds ctl st.flash (stampHeader newSettings)

/-- `settings_apply` has replaced the active settings by the time that `settings_write` fails. -/
theorem settingsApply_unchanged_iff (ctl : FlashCtl) (s : Settings) (st : Store) :
    ((settingsApply ctl (some s) st).1 ≠ .success →
        (settingsApply ctl (some s) st).2.settings = st.settings) ↔
      ¬ (s.Valid ∧ stampHeader s ≠ st.settings ∧ ¬ WriteSucceeds ctl st.flash (stampHeader s)) := by
  rw [settingsApply, ← settingsValidate_iff]
  split
  · rename_i rejected
    exact iff_of_true (fun _ => rfl) (fun lost => rejected lost.1)
  · rename_i accepted
    have settings : (settingsWrite ctl { st with settings := s }).2.settings = stampHeader s :=
      settingsWrite_settings ctl _
    have success : (settingsWrite ctl { st with settings := s }).1 = .success ↔
        WriteSucceeds ctl st.flash (stampHeader s) := settingsWrite_success_iff
    rw [settings, ne_eq, success]
    constructor
    · rintro unchanged ⟨-, differs, fails⟩
      exact differs (unchanged fails)
    · intro kept fails
      by_contra differs
      exact kept ⟨not_not.mp accepted, differs, fails⟩

/-- **A rejected update changes nothing unless saving valid settings fails**, whatever the text. -/
theorem rejected_unchanged_iff (ctl : FlashCtl) (json : Option (List UInt8)) (st : Store) :
    ((setSettingsJson ctl json st).1 ≠ .success →
        (setSettingsJson ctl json st).2.settings = st.settings) ↔ ¬ LostWrite ctl json st := by
  cases json with
  | none =>
    refine iff_of_true (fun _ => rfl) ?_
    rintro ⟨text, newSettings, same, -⟩
    cases same
  | some text =>
    rw [setSettingsJson]
    cases read : jsonReadSettings text st.settings with
    | error err =>
      refine iff_of_true (fun _ => rfl) ?_
      rintro ⟨text', newSettings, same, other, -⟩
      rw [← Option.some.inj same, read] at other
      cases other
    | ok newSettings =>
      refine (settingsApply_unchanged_iff ctl newSettings st).trans (not_congr ?_)
      constructor
      · rintro ⟨valid, differs, fails⟩
        exact ⟨text, newSettings, rfl, read, valid, differs, fails⟩
      · rintro ⟨text', newSettings', same, read', valid, differs, fails⟩
        rw [← Option.some.inj same, read] at read'
        rw [Except.ok.inj read']
        exact ⟨valid, differs, fails⟩

/-- The erase does not start, the update is reported as failed, and the number of LEDs is new. -/
theorem rejected_unchanged_fail :
    factoryStore.settings.Valid ∧ factoryStore.settings.num .ledCount = 18 ∧
      (setSettingsJson ⟨⟨false, some id⟩, .done⟩ (some (ascii "\x7b\"led_count\":5\x7d"))
        factoryStore).1 = .fail ∧
      (setSettingsJson ⟨⟨false, some id⟩, .done⟩ (some (ascii "\x7b\"led_count\":5\x7d"))
        factoryStore).2.settings.num .ledCount = 5 :=
  ⟨stampHeader_settings_valid defaultSettings_valid, by decide +kernel, by decide +kernel,
    by decide +kernel⟩

end Stairway
