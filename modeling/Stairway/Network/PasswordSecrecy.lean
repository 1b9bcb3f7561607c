import Stairway.Network.HttpServer
import Stairway.Network.SettingsUpdate
import Stairway.Firmware.Run

/-!
# The password does not leak over HTTP

Two devices that differ in the password only (`PassApart`) answer every request alike and differ in
the password only afterwards. The settings are compared on the way through an update as well,
where they need not be valid: there the two passwords have to be acceptable together (`Alike`).
-/

namespace Stairway
open Firmware

/-! ## Settings -/

/-- The same settings but for the password, and the CRC that covers it. -/
def SamePublic (s t : Settings) : Prop := ∀ f, f ≠ .pass → f ≠ .crc → s.raw f = t.raw f

/-- The password passes the validation. -/
def PassValid (s : Settings) : Prop :=
  passMinLen ≤ strnlen (s.raw .pass) ∧ strnlen (s.raw .pass) < passMaxLen

/-- Settings that the validation cannot tell apart. -/
structure Alike (s t : Settings) : Prop where
  same : SamePublic s t
  pass : PassValid s ↔ PassValid t

section
variable {s t : Settings}

theorem SamePublic.symm (same : SamePublic s t) : SamePublic t s :=
  fun f notPass notCrc => (same f notPass notCrc).symm

/-- Validity is that of the public members and that of the password. -/
theorem SamePublic.valid (same : SamePublic s t) (valid : s.Valid) (pass : PassValid t) : t.Valid := by
  have num : ∀ f, f ≠ .pass → f ≠ .crc → t.num f = s.num f :=
    fun f notPass notCrc => congrArg leNat (same f notPass notCrc).symm
  have ssid := same .ssid (by decide) (by decide)
  refine ⟨?_, ?_, ?_, ?_, ?_, ?_, ?_, ?_, pass.1, pass.2⟩
  · rw [num .ledCount (by decide) (by decide)]; exact valid.ledCountPos
  · rw [num .ledCount (by decide) (by decide)]; exact valid.ledCountMax
  · intro i
    rw [num .ledCount (by decide) (by decide),
      num (.emergencyCnt i) (by intro same; cases same) (by intro same; cases same)]
    exact valid.emergencyCnt i
  · rw [num .ledOnStep (by decide) (by decide)]; exact valid.ledOnStep
  · rw [num .ledOffStep (by decide) (by decide)]; exact valid.ledOffStep
  · rw [num .lightSensorNightValue (by decide) (by decide),
      num .lightSensorDayValue (by decide) (by decide)]
    exact valid.hysteresis
  · rw [← ssid]; exact valid.ssidPos
  · rw [← ssid]; exact valid.ssidMax

theorem Settings.Valid.pass (valid : s.Valid) : PassValid s := ⟨valid.passMin, valid.passMax⟩

theorem Alike.valid_iff (alike : Alike s t) : s.Valid ↔ t.Valid := by
  constructor
  · exact fun valid => alike.same.valid valid (alike.pass.mp valid.pass)
  · exact fun valid => alike.same.symm.valid valid (alike.pass.mpr valid.pass)

/-- The same write to both, outside the password. -/
theorem Alike.put (alike : Alike s t) {f : SettingsField} (other : f ≠ .pass) {data : List UInt8}
    (fits : data.length ≤ f.width) : Alike (s.put f data) (t.put f data) := by
  constructor
  · intro g notPass notCrc
    by_cases here : g = f
    · subst here
      rw [Settings.raw_put_front fits, Settings.raw_put_front fits, alike.same g notPass notCrc]
    · rw [Settings.raw_put_other here fits, Settings.raw_put_other here fits,
        alike.same g notPass notCrc]
  · unfold PassValid
    rw [Settings.raw_put_other other.symm fits, Settings.raw_put_other other.symm fits]
    exact alike.pass

/-- A new password for both. -/
theorem Alike.strcpy_pass (alike : Alike s t) {str : List UInt8} (fits : str.length < passMaxLen) :
    Alike (s.strcpy .pass str) (t.strcpy .pass str) := by
  have width : (str ++ [0]).length ≤ SettingsField.pass.width := by
    rw [List.length_append, List.length_singleton]
    exact fits
  constructor
  · intro g notPass notCrc
    unfold Settings.strcpy
    rw [Settings.raw_put_other notPass width, Settings.raw_put_other notPass width,
      alike.same g notPass notCrc]
  · -- the string ends inside what is written
    have string : ∀ s : Settings, cString ((s.strcpy .pass str).raw .pass) = cString str := by
      intro s
      rw [Settings.strcpy, Settings.raw_put_front width, List.append_assoc, List.singleton_append,
        cString_append_zero]
    unfold PassValid strnlen
    rw [string s, string t]

end

/-! ## Reading -/

/-- Both results are the same error, or settings that are alike. -/
inductive AlikeResults : Except ErrCode Settings → Except ErrCode Settings → Prop
  | error (err : ErrCode) : AlikeResults (.error err) (.error err)
  | ok {s t : Settings} (alike : Alike s t) : AlikeResults (.ok s) (.ok t)

/-- A parsed value stored in both. -/
theorem AlikeResults.map {α : Type} (parsed : Except ErrCode α) {f g : α → Settings}
    (alike : ∀ v, parsed = .ok v → Alike (f v) (g v)) : AlikeResults (parsed.map f) (parsed.map g) := by
  cases parsed with
  | error err => exact .error err
  | ok v => exact .ok (alike v rfl)

/-- What is parsed into a buffer fits it. -/
theorem jsonStringFrom_fits {bufSize : Nat} (text out : List UInt8) {str : List UInt8}
    (room : out.length < bufSize) (parsed : jsonStringFrom bufSize text out = .ok str) :
    str.length < bufSize := by
  fun_induction jsonStringFrom bufSize text out with
  | case2 =>
    cases parsed
    exact room
  | case6 out c val allowed short ih =>
    apply ih _ parsed
    rw [List.length_append, List.length_singleton]
    omega
  | case8 out c val quote slash solidus short ih =>
    apply ih _ parsed
    rw [List.length_append, List.length_singleton]
    omega
  | _ => cases parsed

theorem jsonParseString_fits {val str : List UInt8} {bufSize : Nat} (positive : 0 < bufSize)
    (parsed : jsonParseString val bufSize = .ok str) : str.length < bufSize := by
  unfold jsonParseString at parsed
  split at parsed
  · exact jsonStringFrom_fits _ [] positive parsed
  · cases parsed

/-- The rows of the table: none is the CRC, and the password is a secret string. -/
theorem settingsMap_pass : ∀ m ∈ settingsMap, m.offset ≠ .crc ∧
    (m.type = .string → 0 < m.maxLen ∧ m.maxLen ≤ m.offset.width) ∧
    (m.offset = .pass → m.type = .string ∧ m.secret = true ∧ m.maxLen = passMaxLen) := by
  decide +kernel

/-- One pass of the loop over the table. -/
theorem jsonReadField_alike (json : List UInt8) {s t : Settings} (alike : Alike s t) {m : SettingsMap}
    (known : m ∈ settingsMap) : AlikeResults (jsonReadField json s m) (jsonReadField json t m) := by
  obtain ⟨-, room, secret⟩ := settingsMap_pass m known
  have number : m.type ≠ .string → ∀ v, Alike (s.setNum m.offset v) (t.setNum m.offset v) := by
    intro other v
    exact alike.put (fun pass => other (secret pass).1) (Nat.le_of_eq (length_leBytes _ _))
  rw [jsonReadField, jsonReadField]
  cases jsonFindValue json m.name with
  | none => exact .ok alike
  | some val =>
    cases type : m.type with
    | uint32 => exact AlikeResults.map _ (fun v _ => number (by rw [type]; decide) v)
    | uint16 => exact AlikeResults.map _ (fun v _ => number (by rw [type]; decide) v)
    | uint8 => exact AlikeResults.map _ (fun v _ => number (by rw [type]; decide) v)
    | bool => exact AlikeResults.map _ (fun b _ => number (by rw [type]; decide) b.toNat)
    | string =>
      apply AlikeResults.map
      intro str parsed
      split
      · exact alike
      · obtain ⟨positive, width⟩ := room type
        have short := jsonParseString_fits positive parsed
        by_cases pass : m.offset = .pass
        · rw [(secret pass).2.2] at short
          rw [pass]
          exact alike.strcpy_pass short
        · apply alike.put pass
          rw [List.length_append, List.length_singleton]
          omega

theorem jsonReadSettings_alike (json : List UInt8) {s t : Settings} (alike : Alike s t) :
    AlikeResults (jsonReadSettings json s) (jsonReadSettings json t) := by
  have run : ∀ (ms : List SettingsMap) {s t : Settings}, (∀ m ∈ ms, m ∈ settingsMap) → Alike s t →
      AlikeResults (ms.foldlM (jsonReadField json) s) (ms.foldlM (jsonReadField json) t) := by
    intro ms
    induction ms with
    | nil => exact fun _ alike => .ok alike
    | cons m ms ih =>
      intro s t known alike
      have first := jsonReadField_alike json alike (known m List.mem_cons_self)
      rw [List.foldlM_cons, List.foldlM_cons]
      generalize jsonReadField json s m = r, jsonReadField json t m = r' at first
      cases first with
      | error err => exact .error err
      | ok alike' => exact ih (fun m' member => known m' (List.mem_cons_of_mem _ member)) alike'
  exact run settingsMap (fun m member => member) alike

/-! ## Applying -/

/-- Two settings that are valid and differ in the password only. -/
structure SettingsApart (s t : Settings) : Prop where
  same : SamePublic s t
  valid : s.Valid
  valid' : t.Valid

section
variable {s t : Settings}

theorem SettingsApart.alike (apart : SettingsApart s t) : Alike s t :=
  ⟨apart.same, iff_of_true apart.valid.pass apart.valid'.pass⟩

/-- The header that `settings_write` stamps says nothing about the password but in the CRC. -/
theorem SamePublic.stamp (same : SamePublic s t) : SamePublic (stampHeader s) (stampHeader t) := by
  intro f notPass notCrc
  cases header : f.header with
  | true => exact header_raw (stampHeader_valid t) (stampHeader_valid s) header notCrc
  | false => rw [stampHeader_raw s header, stampHeader_raw t header, same f notPass notCrc]

theorem SettingsApart.stamp (same : SamePublic s t) (valid : s.Valid) (valid' : t.Valid) :
    SettingsApart (stampHeader s) (stampHeader t) :=
  ⟨same.stamp, stampHeader_settings_valid valid, stampHeader_settings_valid valid'⟩

/-- `settings_apply` of settings that are alike. -/
theorem settingsApply_apart (alike : Alike s t) {st st' : Store}
    (apart : SettingsApart st.settings st'.settings) :
    ((settingsApply .done (some s) st).1 = .success ↔ (settingsApply .done (some t) st').1 = .success) ∧
      SettingsApart (settingsApply .done (some s) st).2.settings
        (settingsApply .done (some t) st').2.settings := by
  by_cases valid : s.Valid
  · have valid' := alike.valid_iff.mp valid
    obtain ⟨success, settings⟩ := settingsApply_done valid st
    obtain ⟨success', settings'⟩ := settingsApply_done valid' st'
    rw [settings, settings']
    exact ⟨iff_of_true success success', .stamp alike.same valid valid'⟩
  · have invalid : ∀ {s : Settings} (st : Store), ¬ s.Valid →
        (settingsApply .done (some s) st).1 ≠ .success ∧ (settingsApply .done (some s) st).2 = st := by
      intro s st invalid
      rw [← settingsValidate_iff] at invalid
      rw [settingsApply, if_pos invalid]
      exact ⟨invalid, rfl⟩
    obtain ⟨fails, kept⟩ := invalid st valid
    obtain ⟨fails', kept'⟩ := invalid st' (fun valid' => valid (alike.valid_iff.mpr valid'))
    rw [kept, kept']
    exact ⟨iff_of_false fails fails', apart⟩

/-- An update of both. -/
theorem setSettingsJson_apart (json : List UInt8) {st st' : Store}
    (apart : SettingsApart st.settings st'.settings) :
    ((setSettingsJson .done (some json) st).1 = .success ↔
        (setSettingsJson .done (some json) st').1 = .success) ∧
      SettingsApart (setSettingsJson .done (some json) st).2.settings
        (setSettingsJson .done (some json) st').2.settings := by
  have read := jsonReadSettings_alike json apart.alike
  rw [setSettingsJson, setSettingsJson]
  generalize jsonReadSettings json st.settings = r, jsonReadSettings json st'.settings = r' at read
  cases read with
  | error err => exact ⟨Iff.rfl, apart⟩
  | ok alike => exact settingsApply_apart alike apart

/-- The defaults for both. -/
theorem settingsDefault_apart (st st' : Store) :
    ((settingsDefault .done st).1 = .success ↔ (settingsDefault .done st').1 = .success) ∧
      SettingsApart (settingsDefault .done st).2.settings (settingsDefault .done st').2.settings := by
  have done : ∀ st : Store, (settingsDefault .done st).1 = .success :=
    fun st => settingsWrite_success_iff.mpr (writeSucceeds_done _ _)
  have settings : ∀ st : Store, (settingsDefault .done st).2.settings = stampHeader defaultSettings :=
    fun st => settingsWrite_settings .done { st with settings := defaultSettings }
  rw [settings st, settings st']
  exact ⟨iff_of_true (done st) (done st'),
    .stamp (fun f _ _ => rfl) defaultSettings_valid defaultSettings_valid⟩

/-! ## Printing -/

/-- The printed settings do not show the password. -/
theorem jsonWriteField_same (same : SamePublic s t) {m : SettingsMap} (known : m ∈ settingsMap)
    (sep : List UInt8) (w : JsonBuf) : jsonWriteField s m sep w = jsonWriteField t m sep w := by
  obtain ⟨notCrc, -, secret⟩ := settingsMap_pass m known
  by_cases pass : m.offset = .pass
  · obtain ⟨type, hidden, -⟩ := secret pass
    simp only [jsonWriteField, type, hidden, if_true]
  · have raw := same m.offset pass notCrc
    unfold jsonWriteField Settings.flag Settings.num
    rw [raw]

theorem jsonWriteFields_same (same : SamePublic s t) (ms : List SettingsMap)
    (known : ∀ m ∈ ms, m ∈ settingsMap) (w : JsonBuf) : jsonWriteFields s ms w = jsonWriteFields t ms w := by
  induction ms generalizing w with
  | nil => rfl
  | cons m ms ih =>
    have first := jsonWriteField_same same (known m List.mem_cons_self)
    have rest := ih (fun m' member => known m' (List.mem_cons_of_mem _ member))
    cases ms with
    | nil => exact first [] w
    | cons m' ms =>
      rw [jsonWriteFields, jsonWriteFields, first]
      · congr 1
        funext w'
        exact rest w'
      · intro nil
        cases nil
      · intro nil
        cases nil

theorem prepareJsonSettings_same (same : SamePublic s t) :
    prepareJsonSettings s = prepareJsonSettings t := by
  unfold prepareJsonSettings getSettingsJson
  simp only [jsonWriteFields_same same settingsMap (fun m member => member)]

end

/-! ## Requests -/

/-- Two devices that differ in the password. -/
structure DevicesApart (dev dev' : Device) : Prop where
  settings : SettingsApart dev.store.settings dev'.store.settings
  status : dev.status = dev'.status

section
variable {dev dev' : Device}

/-- The status code shows whether an operation succeeded, which it does on both. -/
theorem setJsonStatus_same (alloc : HttpAlloc) {e e' : ErrCode} (same : e = .success ↔ e' = .success) :
    setJsonStatus alloc (e == .success) = setJsonStatus alloc (e' == .success) := by
  have decided : (e == ErrCode.success) = (e' == ErrCode.success) := by
    rw [Bool.eq_iff_iff, beq_iff_eq, beq_iff_eq]
    exact same
  rw [decided]

theorem getContent_apart (site : Site) (alloc : HttpAlloc) (apart : DevicesApart dev dev')
    (request : List UInt8) : getContent site alloc dev request = getContent site alloc dev' request := by
  have body : settingsBody alloc dev.store.settings = settingsBody alloc dev'.store.settings := by
    unfold settingsBody
    simp only [prepareJsonSettings_same apart.settings.same]
  unfold getContent
  rw [body, apart.status]

theorem postContent_apart {env : HttpEnv} (done : env.flash = .done) (apart : DevicesApart dev dev')
    (request body : List UInt8) :
    (postContent env dev request body).1 = (postContent env dev' request body).1 ∧
      DevicesApart (postContent env dev request body).2 (postContent env dev' request body).2 := by
  unfold postContent
  rw [done]
  split
  · obtain ⟨answer, settings⟩ := setSettingsJson_apart body apart.settings
    exact ⟨setJsonStatus_same env.alloc answer, settings, apart.status⟩
  split
  · exact ⟨rfl, apart.settings, congrArg (fun status => { status with testMode := true }) apart.status⟩
  split
  · exact ⟨rfl, apart.settings, congrArg (fun status => { status with testMode := false }) apart.status⟩
  split
  · obtain ⟨answer, settings⟩ := settingsDefault_apart dev.store dev'.store
    exact ⟨setJsonStatus_same env.alloc answer, settings, apart.status⟩
  split
  · exact ⟨rfl, apart.settings, apart.status⟩
  · exact ⟨rfl, apart⟩

theorem handleRequest_apart (site : Site) {env : HttpEnv} (done : env.flash = .done)
    (apart : DevicesApart dev dev') (request : HttpRequest) :
    (handleRequest site env dev request).1 = (handleRequest site env dev' request).1 ∧
      DevicesApart (handleRequest site env dev request).2 (handleRequest site env dev' request).2 := by
  unfold handleRequest
  dsimp only
  split
  · simp only [getContent_apart site env.alloc apart]
    exact ⟨trivial, apart⟩
  split
  · obtain ⟨answer, after⟩ := postContent_apart done apart
      (getRequestPath (cString request.data) httpPost.length)
      (cString (request.data.drop request.bodyOffset))
    exact ⟨congrArg (fun r => r.bind requireHeader) answer, after⟩
  · exact ⟨rfl, apart⟩

end

/-- A request as it meets the device: what was received, the allocations that succeed and the time. -/
structure Arrival where
  request : HttpRequest
  alloc : HttpAlloc
  now : Nat

/-- What is sent for a request: the header and the body, nothing where the handler fails. -/
def sentBytes : Except ErrCode ContentResponse → List UInt8 × List UInt8
  | .ok response => (response.header, response.body)
  | .error _ => ([], [])

/-- A request on a device whose flash works. -/
def serve (site : Site) (dev : Device) (a : Arrival) : (List UInt8 × List UInt8) × Device :=
  let (response, dev) := handleRequest site ⟨a.alloc, .done, a.now⟩ dev a.request
  (sentBytes response, dev)

/-- Devices that differ in the password send the same bytes, whatever they are asked. -/
theorem password_not_leaked (site : Site) {dev dev' : Device} (apart : DevicesApart dev dev')
    (arrivals : List Arrival) :
    Run.outputs (serve site) dev arrivals = Run.outputs (serve site) dev' arrivals := by
  apply Run.outputs_eq _ apart
  intro dev dev' a apart
  have env : (⟨a.alloc, .done, a.now⟩ : HttpEnv).flash = .done := rfl
  obtain ⟨answer, after⟩ := handleRequest_apart site env apart a.request
  exact ⟨congrArg sentBytes answer, after⟩

/-! A device with the default settings, and the same with another password. -/

def factoryDevice : Device where
  store := factoryStore
  status := (MainState.boot 18).status
  rebootTs := 0

def otherPassDevice : Device :=
  { factoryDevice with
    store := { factoryStore with
      settings := stampHeader (defaultSettings.strcpy .pass (ascii "correct horse")) } }

theorem otherPassDevice_apart : DevicesApart factoryDevice otherPassDevice := by
  have same : SamePublic defaultSettings (defaultSettings.strcpy .pass (ascii "correct horse")) := by
    intro f notPass _
    exact (Settings.raw_put_other notPass (by decide)).symm
  have valid : (defaultSettings.strcpy .pass (ascii "correct horse")).Valid :=
    (settingsValidate_iff _).mp (by decide +kernel)
  exact ⟨.stamp same defaultSettings_valid valid, rfl⟩

/-- The request that a connection has after the bytes of `stream`. -/
def received (stream : List UInt8) : HttpRequest :=
  match receiveAll [stream] with
  | .waiting request => request
  | .tooLarge => .init
  | .ready request => request

/-- A new password, then the settings. -/
def changeAndRead : List Arrival :=
  [received (ascii "POST /api/settings HTTP/1.1\r\nContent-Length: 26\r\n\r\n" ++
      ascii "\x7b\"wifi_pass\":\"0123456789\"\x7d"),
    received (ascii "GET /api/settings HTTP/1.1\r\n\r\n")].map fun request =>
      ⟨request, ⟨true, fun _ => true, true, true⟩, 0⟩

/-- The page of the example is empty. -/
def blankSite : Site := ⟨[], ascii "192.168.4.1", noPage_small⟩

theorem password_not_leaked_changeAndRead :
    Run.outputs (serve blankSite) factoryDevice changeAndRead =
      Run.outputs (serve blankSite) otherPassDevice changeAndRead :=
  password_not_leaked blankSite otherPassDevice_apart changeAndRead

end Stairway
