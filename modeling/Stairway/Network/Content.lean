import Stairway.Network.SettingsJson
import Stairway.Main.State

/-!
# Pages and API of the web server (`content.c`)

A handler builds the whole response or fails; on failure `content_response_free` leaves nothing
of it. The page that the build embeds and the address of the access point are parameters
(`Site`), and so are the outcomes of the allocations made for one request.
-/

namespace Stairway
open Firmware

/-- `HTTP_HEADER_MAX_SIZE` -/
def httpHeaderMaxSize : Nat := 256

/-- `ContentResponse`; header and body are two objects of a 32-bit address space. -/
structure ContentResponse where
  header : List UInt8
  body : List UInt8
  bodyStatic : Bool
  fits : header.length + body.length < 2 ^ 32
  deriving DecidableEq

/-- The response of a new connection. -/
def ContentResponse.empty : ContentResponse := ⟨[], [], false, by decide⟩

/-- `index_html` and the text of `gw`. -/
structure Site where
  indexHtml : List UInt8
  gw : List UInt8
  small : indexHtml.length + httpHeaderMaxSize < 2 ^ 32

theorem noPage_small : ([] : List UInt8).length + httpHeaderMaxSize < 2 ^ 32 := by decide

/-- The part of the device that requests read and write. -/
structure Device where
  store : Store
  status : Status
  rebootTs : Nat

/-- Which allocations succeed while a request is handled. -/
structure HttpAlloc where
  paramTable : Bool
  param : Nat → Bool
  header : Bool
  body : Bool

/-- What a request meets: allocations, flash operations and the clock. -/
structure HttpEnv where
  alloc : HttpAlloc
  flash : FlashCtl
  now : Nat

/-! ## Building a response -/

/-- The body of a response, before the header is set. -/
structure ContentBody where
  bytes : List UInt8
  isStatic : Bool
  small : bytes.length + httpHeaderMaxSize < 2 ^ 32

/-- `set_body_copy` -/
def setBodyCopy (alloc : HttpAlloc) (data : List UInt8)
    (small : data.length + httpHeaderMaxSize < 2 ^ 32) : Except ErrCode ContentBody :=
  if alloc.body then .ok ⟨data, false, small⟩ else .error .memAllocFail

/-- `HTTP_RESPONSE_HEADER` -/
def responseHeader (code : Nat) (reason : List UInt8) (bodyLen : Nat) (contentType : List UInt8) :
    List UInt8 :=
  ascii "HTTP/1.1 " ++ decimal code ++ ascii " " ++ reason ++ ascii "\r\nContent-Length: " ++
    decimal bodyLen ++ ascii "\r\nContent-Type: " ++ contentType ++
    ascii "\r\nConnection: close\r\n\r\n"

/-- `HTTP_RESPONSE_REDIRECT` -/
def responseRedirect (gw : List UInt8) : List UInt8 :=
  ascii "HTTP/1.1 302 Found\r\nLocation: http://" ++ gw ++
    ascii "/index.html\r\nContent-Length: 0\r\nConnection: close\r\n\r\n"

/-- The header is printed into `HTTP_HEADER_MAX_SIZE` bytes. -/
def printHeader (alloc : HttpAlloc) (body : ContentBody) (text : List UInt8) :
    Except ErrCode ContentResponse :=
  if !alloc.header then .error .memAllocFail
  else if room : 0 < text.length ∧ text.length < httpHeaderMaxSize then
    .ok ⟨text, body.bytes, body.isStatic, by have := body.small; omega⟩
  else .error .overflow

/-- `set_header` -/
def setHeader (alloc : HttpAlloc) (body : ContentBody) (code : Nat) (reason contentType : String) :
    Except ErrCode ContentResponse :=
  printHeader alloc body (responseHeader code (ascii reason) body.bytes.length (ascii contentType))

/-- `set_redirect` -/
def setRedirect (alloc : HttpAlloc) (gw : List UInt8) : Except ErrCode ContentResponse :=
  printHeader alloc ⟨[], false, by decide⟩ (responseRedirect gw)

def contentTypeHtml : String := "text/html; charset=utf-8"
def contentTypeJson : String := "application/json"

/-- `set_json_status` -/
def setJsonStatus (alloc : HttpAlloc) (ok : Bool) : Except ErrCode ContentResponse :=
  if ok then
    setHeader alloc ⟨ascii "\x7b\"status\":\"ok\"\x7d", true, by decide⟩ 200 "OK" contentTypeJson
  else
    setHeader alloc ⟨ascii "\x7b\"status\":\"error\"\x7d", true, by decide⟩ 400 "Bad Request"
      contentTypeJson

/-- `printf` of a signed integer with `%d`. -/
def decimalInt (i : Int) : List UInt8 := if i < 0 then 45 :: decimal i.natAbs else decimal i.natAbs

/-- `STATUS_JSON` -/
def statusJson (status : Status) : List UInt8 :=
  ascii "\x7b\"peopleCount\": " ++ decimalInt status.peopleCount ++
    ascii ",\n\"lightValue\": " ++ decimal status.lightValue ++
    ascii ",\n\"sen0dist\": " ++ decimal (status.sensorDistance.get .upFirst) ++
    ascii ",\n\"sen1dist\": " ++ decimal (status.sensorDistance.get .upSecond) ++
    ascii ",\n\"sen2dist\": " ++ decimal (status.sensorDistance.get .downFirst) ++
    ascii ",\n\"sen3dist\": " ++ decimal (status.sensorDistance.get .downSecond) ++
    ascii ",\n\"sen0err\": " ++ decimal (status.sensorErrorCnt.get .upFirst) ++
    ascii ",\n\"sen1err\": " ++ decimal (status.sensorErrorCnt.get .upSecond) ++
    ascii ",\n\"sen2err\": " ++ decimal (status.sensorErrorCnt.get .downFirst) ++
    ascii ",\n\"sen3err\": " ++ decimal (status.sensorErrorCnt.get .downSecond) ++ ascii "\x7d"

/-- `prepare_json_status` -/
def prepareJsonStatus (alloc : HttpAlloc) (status : Status) : Except ErrCode ContentBody :=
  if room : 0 < (statusJson status).length ∧ (statusJson status).length < jsonBufSizeMax then
    setBodyCopy alloc (statusJson status) (by
      have bound : jsonBufSizeMax + httpHeaderMaxSize < 2 ^ 32 := by decide
      omega)
  else .error .overflow

/-- Printing the settings does not outgrow its buffer. -/
theorem length_prepareJsonSettings (s : Settings) :
    (prepareJsonSettings s).2.length ≤ jsonBufSizeMax := by
  have printed : (getSettingsJson s (some (List.replicate jsonBufSizeMax 0))).2.length = jsonBufSizeMax := by
    rw [length_getSettingsJson, List.length_replicate]
  unfold prepareJsonSettings
  dsimp only
  split
  · exact Nat.le_trans (length_cString_le _) (Nat.le_of_eq printed)
  · exact Nat.zero_le _

/-- `prepare_json_settings` with its copy of the text. -/
def settingsBody (alloc : HttpAlloc) (s : Settings) : Except ErrCode ContentBody :=
  if (prepareJsonSettings s).1 ≠ .success then .error (prepareJsonSettings s).1
  else setBodyCopy alloc (prepareJsonSettings s).2 (by
    have bound : jsonBufSizeMax + httpHeaderMaxSize < 2 ^ 32 := by decide
    have short := length_prepareJsonSettings s
    omega)

/-! ## Requests -/

/-- `get_content` of a path. -/
def getContent (site : Site) (alloc : HttpAlloc) (dev : Device) (request : List UInt8) :
    Except ErrCode ContentResponse :=
  if request = ascii "/" ∨ request = ascii "/index.html" then
    setHeader alloc ⟨site.indexHtml, true, site.small⟩ 200 "OK" contentTypeHtml
  else if request = ascii "/api/info" then do
    let body ← prepareJsonStatus alloc dev.status
    setHeader alloc body 200 "OK" contentTypeJson
  else if request = ascii "/api/settings" then do
    let body ← settingsBody alloc dev.store.settings
    setHeader alloc body 200 "OK" contentTypeJson
  -- captive portal: any other page goes to the index
  else setRedirect alloc site.gw

/-- `post_content` of a path with a body. -/
def postContent (env : HttpEnv) (dev : Device) (request body : List UInt8) :
    Except ErrCode ContentResponse × Device :=
  if request = ascii "/api/settings" then
    let (err, store) := setSettingsJson env.flash (some body) dev.store
    (setJsonStatus env.alloc (err == .success), { dev with store := store })
  else if request = ascii "/api/test_on" then
    (setJsonStatus env.alloc true, { dev with status := { dev.status with testMode := true } })
  else if request = ascii "/api/test_off" then
    (setJsonStatus env.alloc true, { dev with status := { dev.status with testMode := false } })
  else if request = ascii "/api/reset" then
    let (err, store) := settingsDefault env.flash dev.store
    (setJsonStatus env.alloc (err == .success), { dev with store := store })
  else if request = ascii "/api/restart" then
    (setJsonStatus env.alloc true, { dev with rebootTs := (env.now + 500) % 2 ^ 64 })
  else (setHeader env.alloc ⟨[], true, by decide⟩ 404 "Not Found" contentTypeJson, dev)

end Stairway
