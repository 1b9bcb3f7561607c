import Stairway.Firmware.FirstOccurrence
import Stairway.Firmware.Memory

/-!
# Receiving a request (`http_server.c`)

The buffer of a connection and what `tcp_server_recv` does with a segment of the stream: append
it, look for the end of the header until it is found, and wait for the body.
-/

namespace Stairway
open Firmware

/-- `HTTP_REQUEST_MAX_SIZE` -/
def httpRequestMaxSize : Nat := 2048

/-- `HttpRequest` -/
structure HttpRequest where
  data : List UInt8
  dataLen : Nat
  bodyOffset : Nat
  contentLen : Nat
  headerComplete : Bool
  processed : Bool
  sized : data.length = httpRequestMaxSize + 1
  deriving DecidableEq

/-- The request of a new connection, as `calloc` leaves it. -/
def HttpRequest.init : HttpRequest where
  data := List.replicate (httpRequestMaxSize + 1) 0
  dataLen := 0
  bodyOffset := 0
  contentLen := 0
  headerComplete := false
  processed := false
  sized := List.length_replicate

/-- Write into `request->data`. -/
def HttpRequest.write (request : HttpRequest) (off : Nat) (bytes : List UInt8) : HttpRequest :=
  { request with
    data := store request.data off bytes
    sized := (length_store _ _ _).trans request.sized }

/-! ## The header -/

/-- `"\r\n\r\n"` -/
def crlfcrlf : List UInt8 := [13, 10, 13, 10]

/-- `"\n\n"` -/
def lflf : List UInt8 := [10, 10]

/-- The end of the header and the length of the separator there: `"\r\n\r\n"` anywhere in the text
is preferred to `"\n\n"`. -/
def headerEnd (text : List UInt8) : Option (Nat × Nat) :=
  match offsetOf crlfcrlf text with
  | some pos => some (pos, crlfcrlf.length)
  | none =>
    match offsetOf lflf text with
    | some pos => some (pos, lflf.length)
    | none => none

/-- `tolower` in the C locale. -/
def toLower (c : UInt8) : UInt8 := if 65 ≤ c && c ≤ 90 then c + 32 else c

/-- `strncasecmp(s, lit, strlen(lit)) == 0`. -/
def startsWithCase (s lit : List UInt8) : Bool := (lit.map toLower).isPrefixOf (s.map toLower)

/-- `"Content-Length:"` -/
def httpContentLength : List UInt8 := ascii "Content-Length:"

/-- The loop of `get_content_length` from a byte of the header; `line` says whether a line begins
there. -/
def contentLengthFrom (line : Bool) : List UInt8 → Nat
  | [] => 0
  | c :: rest =>
    if line && startsWithCase (c :: rest) httpContentLength then
      (strtoul ((c :: rest).drop httpContentLength.length)).value
    else contentLengthFrom (c == 10) rest

/-- `get_content_length` -/
def getContentLength (header : List UInt8) : Nat := contentLengthFrom true header

/-! ## Segments -/

/-- What a connection has received: an incomplete request, one that does not fit, or one that is
ready to be handled. -/
inductive Reception
  | waiting (request : HttpRequest)
  | tooLarge
  | ready (request : HttpRequest)
  deriving DecidableEq

namespace HttpRequest

/-- The end of `tcp_server_recv`: the body is complete or not. -/
def awaitBody (request : HttpRequest) : Reception :=
  if request.dataLen - request.bodyOffset < request.contentLen then .waiting request
  else .ready { request.write (request.bodyOffset + request.contentLen) [0] with processed := true }

/-- The search for the end of the header. -/
def awaitHeader (request : HttpRequest) : Reception :=
  match headerEnd (cString request.data) with
  | none => .waiting request
  | some (pos, sepLen) =>
    let request := request.write pos [0]
    let request := { request with
      bodyOffset := pos + sepLen
      contentLen := getContentLength (cString request.data) }
    if request.contentLen > httpRequestMaxSize - request.bodyOffset then .tooLarge
    else awaitBody { request with headerComplete := true }

/-- `pbuf_copy_partial` to the end of the data, and the terminator after it. -/
def append (request : HttpRequest) (p : List UInt8) : HttpRequest :=
  { request.write request.dataLen (p ++ [0]) with dataLen := request.dataLen + p.length }

/-- A segment `p` of a request that is not complete. -/
def receive (request : HttpRequest) (p : List UInt8) : Reception :=
  if p.length > httpRequestMaxSize - request.dataLen then .tooLarge
  else if request.headerComplete then (request.append p).awaitBody
  else (request.append p).awaitHeader

end HttpRequest

/-- A segment on a connection; one whose request is handled ignores it, and one that is closed
does not receive it. -/
def Reception.receive (r : Reception) (p : List UInt8) : Reception :=
  match r with
  | .waiting request => request.receive p
  | .tooLarge => .tooLarge
  | .ready request => .ready request

/-- The segments of a stream on a new connection. -/
def receiveAll (segments : List (List UInt8)) : Reception :=
  segments.foldl Reception.receive (.waiting .init)

end Stairway
