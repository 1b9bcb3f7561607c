import Stairway.Network.HttpRequest
import Stairway.Network.Content

/-!
# A connection of the web server (`http_server.c`)

The callbacks that lwIP makes on a connection. What lwIP answers (the send buffer, the results
of `tcp_write` and `tcp_output`) and the handler of a request are parameters; `handleRequest` is the
handler of the source.
-/

namespace Stairway
open Firmware

/-! ## Handling a request -/

def httpGet : List UInt8 := ascii "GET "
def httpPost : List UInt8 := ascii "POST "

/-- `get_request_path` -/
def getRequestPath (header : List UInt8) (methodLen : Nat) : List UInt8 :=
  (header.drop methodLen).takeWhile fun c => !(c == 32 || c == 13 || c == 10)

/-- `parse_get_params` -/
def parseGetParams (alloc : HttpAlloc) (params : List UInt8) : Except ErrCode (List (List UInt8)) :=
  if !alloc.paramTable then .error .memAllocFail
  else (params.splitOn 38).zipIdx.mapM fun (param, i) =>
    if alloc.param i then .ok param else .error .memAllocFail

/-- `TO_EXIT_IF_COND(con_state->response.header_len == 0, ERR_FAIL)` -/
def requireHeader (r : ContentResponse) : Except ErrCode ContentResponse :=
  if r.header.length = 0 then .error .fail else .ok r

/-- `handle_request` -/
def handleRequest (site : Site) (env : HttpEnv) (dev : Device) (request : HttpRequest) :
    Except ErrCode ContentResponse × Device :=
  let header := cString request.data
  if startsWith header httpGet then
    let path := getRequestPath header httpGet.length
    let params := path.dropWhile (· != 63)
    let response := do
      if !params.isEmpty then discard (parseGetParams env.alloc params.tail)
      getContent site env.alloc dev (path.takeWhile (· != 63))
    (response.bind requireHeader, dev)
  else if startsWith header httpPost then
    let (response, dev) := postContent env dev (getRequestPath header httpPost.length)
      (cString (request.data.drop request.bodyOffset))
    (response.bind requireHeader, dev)
  else (.error .paramInvalid, dev)

/-! ## Sending -/

/-- The results of lwIP that the server tells apart. -/
inductive ErrT
  | ok | mem | other
  deriving DecidableEq, Repr

/-- What lwIP answers during one call of `send_more`: `tcp_sndbuf` and `tcp_write` in every pass of
the loop, and `tcp_output`. -/
structure Tx where
  sndbuf : Nat → Nat
  write : Nat → ErrT
  output : ErrT

/-- A call of `tcp_write`, with the send buffer it was sized for. -/
structure TcpWrite where
  data : List UInt8
  copy : Bool
  more : Bool
  avail : Nat
  result : ErrT
  deriving DecidableEq

/-- `response_total_len` -/
def responseTotalLen (r : ContentResponse) : Nat := (r.header.length + r.body.length) % 2 ^ 32

/-- The next call of `tcp_write` after `queuedLen` bytes. -/
def nextWrite (r : ContentResponse) (queuedLen avail : Nat) (result : ErrT) : TcpWrite :=
  let inHeader := queuedLen < r.header.length
  let rest := if inHeader then r.header.drop queuedLen else r.body.drop (queuedLen - r.header.length)
  let len := min (min rest.length avail) (2 ^ 16 - 1)
  { data := rest.take len
    copy := inHeader || !r.bodyStatic
    more := queuedLen + len < responseTotalLen r
    avail := avail
    result := result }

/-- The loop of `send_more` from its pass number `pass` on: the value it returns, `queued_len` and the
calls of `tcp_write`. -/
def sendLoop (r : ContentResponse) (tx : Tx) :
    Nat → Nat → Nat → List TcpWrite → Option (ErrT × Nat × List TcpWrite)
  | 0, _, _, _ => none
  | fuel + 1, pass, queuedLen, writes =>
    if queuedLen < responseTotalLen r then
      if tx.sndbuf pass = 0 then some (tx.output, queuedLen, writes)
      else
        let w := nextWrite r queuedLen (tx.sndbuf pass) (tx.write pass)
        match tx.write pass with
        -- the queue is full, continue from a callback
        | .mem => some (tx.output, queuedLen, writes ++ [w])
        | .other => some (.other, queuedLen, writes ++ [w])
        | .ok => sendLoop r tx fuel (pass + 1) ((queuedLen + w.data.length) % 2 ^ 32) (writes ++ [w])
    else some (tx.output, queuedLen, writes)

/-! ## Callbacks -/

/-- `IDLE_POLLS_MAX` -/
def idlePollsMax : Nat := 10

/-- Why a connection was closed. -/
inductive Closed
  /-- `tcp_server_sent` has counted the whole response as acknowledged -/
  | acknowledged
  | otherwise
  deriving DecidableEq

/-- `TCP_CONNECT_STATE_T`, with the calls of `tcp_write` made for it. -/
structure Connection where
  request : HttpRequest
  response : ContentResponse
  queuedLen : Nat
  ackedLen : Nat
  idlePolls : Nat
  writes : List TcpWrite
  closed : Option Closed

/-- The connection that `tcp_server_accept` sets up. -/
def Connection.init : Connection where
  request := .init
  response := .empty
  queuedLen := 0
  ackedLen := 0
  idlePolls := 0
  writes := []
  closed := none

namespace Connection

/-- `tcp_close_client_connection` -/
def close (c : Connection) (reason : Closed) : Connection := { c with closed := some reason }

/-- `send_more`, and the closing of the connection when it fails. The loop makes a pass for every
byte at most. -/
def sendMore (c : Connection) (tx : Tx) : Option Connection :=
  match sendLoop c.response tx (responseTotalLen c.response + 1) 0 c.queuedLen c.writes with
  | none => none
  | some (result, queuedLen, writes) =>
    let c := { c with queuedLen := queuedLen, writes := writes }
    some (if result ≠ .ok then c.close .otherwise else c)

/-- `tcp_server_sent` -/
def tcpServerSent (c : Connection) (len : Nat) (tx : Tx) : Option Connection :=
  let c := { c with ackedLen := (c.ackedLen + len) % 2 ^ 32, idlePolls := 0 }
  if c.ackedLen ≥ responseTotalLen c.response then some (c.close .acknowledged)
  else c.sendMore tx

/-- `tcp_server_poll` -/
def tcpServerPoll (c : Connection) (tx : Tx) : Option Connection :=
  let c := { c with idlePolls := (c.idlePolls + 1) % 2 ^ 32 }
  if c.idlePolls > idlePollsMax then some (c.close .otherwise)
  else if c.request.processed then c.sendMore tx
  else some c

/-- `tcp_server_recv`; `none` is the end of the stream, and `handle` the handler of a request that is
complete. -/
def tcpServerRecv (c : Connection) (p : Option (List UInt8)) (err : ErrT)
    (handle : HttpRequest → Option ContentResponse) (tx : Tx) : Option Connection :=
  match p with
  | none => some (c.close .otherwise)
  | some p =>
    if err ≠ .ok then some (c.close .otherwise)
    else
      let c := { c with idlePolls := 0 }
      -- the response is already being sent, the rest is ignored
      if c.request.processed then some c
      else match c.request.receive p with
        | .tooLarge => some (c.close .otherwise)
        | .waiting request => some { c with request := request }
        | .ready request =>
          let c := { c with request := request }
          match handle request with
          | none => some (c.close .otherwise)
          | some response => { c with response := response }.sendMore tx

end Connection

/-- A callback of lwIP on a connection. -/
inductive ConnEvent
  | recv (p : Option (List UInt8)) (err : ErrT) (handle : HttpRequest → Option ContentResponse) (tx : Tx)
  | sent (len : Nat) (tx : Tx)
  | poll (tx : Tx)
  /-- `tcp_server_err` -/
  | err

/-- One callback; a closed connection has none. -/
def Connection.step (c : Connection) (e : ConnEvent) : Option Connection :=
  if c.closed ≠ none then some c
  else match e with
    | .recv p err handle tx => c.tcpServerRecv p err handle tx
    | .sent len tx => c.tcpServerSent len tx
    | .poll tx => c.tcpServerPoll tx
    | .err => some (c.close .otherwise)

/-- Callbacks in order; `none` is a loop that does not end. -/
def Connection.run (c : Connection) (events : List ConnEvent) : Option Connection :=
  events.foldlM Connection.step c

end Stairway
