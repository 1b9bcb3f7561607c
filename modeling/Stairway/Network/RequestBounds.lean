import Stairway.Firmware.Outcome
import Stairway.Network.HttpServer
import Stairway.Network.Segmentation

/-!
# The bounds of a request

`tcp_server_recv` once more, as the source writes it: every subtraction of its unsigned lengths is one
that may wrap, and every byte is stored where the source stores it, the terminators that
`handle_request` writes into the header included. No stream makes it fail (`assembly_in_bounds`), and the
strings that are left in place are those that `handleRequest` hands on (`cutStrings_path`).
-/

namespace Stairway
open Firmware

/-- What the source does not check. -/
inductive Fault
  /-- an unsigned subtraction wraps -/
  | wraps
  /-- a byte is stored past the end of `data` -/
  | outside

/-- `a - b` of unsigned words. -/
def minus (a b : Nat) : Except Fault Nat := if a < b then .error .wraps else .ok (a - b)

namespace HttpRequest

/-- Store bytes into `data`. -/
def put (request : HttpRequest) (off : Nat) (bytes : List UInt8) : Except Fault HttpRequest :=
  if request.data.length < off + bytes.length then .error .outside else .ok (request.write off bytes)

/-! ## Handling -/

/-- A terminator in the place of the first byte of the string at `start` that stops it. -/
def cutAt (request : HttpRequest) (start : Nat) (stops : UInt8 → Bool) : Except Fault HttpRequest :=
  match (cString (request.data.drop start)).findIdx? stops with
  | none => .ok request
  | some i => request.put (start + i) [0]

/-- The first loop of `parse_get_params`. -/
def cutParams (request : HttpRequest) (start : Nat) : Except Fault HttpRequest :=
  (List.range (cString (request.data.drop start)).length).foldlM (fun request i =>
    if request.data.getD (start + i) 0 = 38 then request.put (start + i) [0] else .ok request) request

/-- `strpbrk(path, " \r\n")` stops there. -/
def pathEnd (c : UInt8) : Bool := c == 32 || c == 13 || c == 10

/-- What `handle_request` stores into the header. -/
def cutStrings (request : HttpRequest) : Except Fault HttpRequest :=
  if startsWith (cString request.data) httpGet then do
    let request ← request.cutAt httpGet.length pathEnd
    match (cString (request.data.drop httpGet.length)).findIdx? (· == 63) with
    | none => .ok request
    | some i => do
      let request ← request.put (httpGet.length + i) [0]
      request.cutParams (httpGet.length + i + 1)
  else if startsWith (cString request.data) httpPost then request.cutAt httpPost.length pathEnd
  else .ok request

/-! ## Receiving -/

/-- `tcp_server_recv` from the length of the body on. -/
def recvBody (request : HttpRequest) : Except Fault Reception := do
  let arrived ← minus request.dataLen request.bodyOffset
  if arrived < request.contentLen then .ok (.waiting request)
  else do
    let request ← request.put (request.bodyOffset + request.contentLen) [0]
    let request := { request with processed := true }
    let request ← request.cutStrings
    .ok (.ready request)

/-- The search for the end of the header, with its terminator. -/
def recvHeader (request : HttpRequest) : Except Fault Reception :=
  match headerEnd (cString request.data) with
  | none => .ok (.waiting request)
  | some (pos, sepLen) => do
    let request ← request.put pos [0]
    let request := { request with
      bodyOffset := pos + sepLen
      contentLen := getContentLength (cString request.data) }
    let room ← minus httpRequestMaxSize request.bodyOffset
    if request.contentLen > room then .ok .tooLarge
    else
      let request := { request with headerComplete := true }
      request.recvBody

/-- `pbuf_copy_partial` and the terminator after the data. -/
def copyPartial (request : HttpRequest) (p : List UInt8) : Except Fault HttpRequest := do
  let request ← request.put request.dataLen p
  let request := { request with dataLen := request.dataLen + p.length }
  request.put request.dataLen [0]

/-- `tcp_server_recv` of a request that is not processed. -/
def recv (request : HttpRequest) (p : List UInt8) : Except Fault Reception := do
  let room ← minus httpRequestMaxSize request.dataLen
  if p.length > room then .ok .tooLarge
  else do
    let request ← request.copyPartial p
    if request.headerComplete then request.recvBody else request.recvHeader

end HttpRequest

/-- `handle_request` of a request that is ready. -/
def Reception.handled (r : Reception) : Except Fault Reception :=
  match r with
  | .ready request => do
    let request ← request.cutStrings
    .ok (.ready request)
  | r => .ok r

/-- A segment on a connection. -/
def Reception.recv (r : Reception) (p : List UInt8) : Except Fault Reception :=
  match r with
  | .waiting request => request.recv p
  | .tooLarge => .ok .tooLarge
  | .ready request => .ok (.ready request)

/-- The segments of a stream on a new connection. -/
def recvAll (segments : List (List UInt8)) : Except Fault Reception :=
  segments.foldlM Reception.recv (.waiting .init)

/-- The lengths of a request are inside its array. -/
structure HttpRequest.InBounds (request : HttpRequest) : Prop where
  dataLen : request.dataLen ≤ httpRequestMaxSize
  terminator : request.dataLen < request.data.length
  body : request.headerComplete = true → request.bodyOffset ≤ request.dataLen ∧
    request.bodyOffset + request.contentLen ≤ httpRequestMaxSize

/-- The body of a request is the announced number of bytes that follow the header in the stream, and
ends with a terminator. -/
def HttpRequest.BodyFollows (request : HttpRequest) (stream : List UInt8) : Prop :=
  ∃ pos sepLen, Reads stream pos sepLen ∧ request.bodyOffset = pos + sepLen ∧
    request.contentLen = announced stream pos ∧ request.bodyOffset + request.contentLen ≤ stream.length ∧
    load request.data request.bodyOffset request.contentLen =
      (stream.drop request.bodyOffset).take request.contentLen ∧
    request.data[request.bodyOffset + request.contentLen]? = some 0

namespace HttpRequest

variable {request request' : HttpRequest}

theorem minus_le {a b : Nat} (le : b ≤ a) : minus a b = .ok (a - b) := if_neg (Nat.not_lt.mpr le)

theorem put_fits {off : Nat} {bytes : List UInt8} (fits : off + bytes.length ≤ httpRequestMaxSize + 1) :
    request.put off bytes = .ok (request.write off bytes) := by
  rw [put, request.sized, if_neg (by omega)]

/-! ## The terminators in the header -/

/-- Only bytes before `pos` differ. -/
def SameFrom (pos : Nat) (request request' : HttpRequest) : Prop :=
  ∃ data sized, request' = { request with data := data, sized := sized } ∧
    data.drop pos = request.data.drop pos

theorem SameFrom.refl (pos : Nat) (request : HttpRequest) : SameFrom pos request request :=
  ⟨_, _, rfl, rfl⟩

theorem SameFrom.trans {pos : Nat} {request'' : HttpRequest} (first : SameFrom pos request request')
    (second : SameFrom pos request' request'') : SameFrom pos request request'' := by
  obtain ⟨data, sized, rfl, same⟩ := first
  obtain ⟨data', sized', rfl, same'⟩ := second
  exact ⟨data', sized', rfl, same'.trans same⟩

theorem SameFrom.getElem? {pos i : Nat} (same : SameFrom pos request request') (past : pos ≤ i) :
    request'.data[i]? = request.data[i]? := by
  obtain ⟨data, sized, rfl, same⟩ := same
  have here := congrArg (·[i - pos]?) same
  simpa only [List.getElem?_drop, Nat.add_sub_cancel' past] using here

/-- A string does not reach past a terminator. -/
theorem length_string_le {m : List UInt8} {start pos : Nat} (before : start ≤ pos) (terminator : m[pos]? = some 0) :
    start + (cString (m.drop start)).length ≤ pos := by
  have here : (m.drop start)[pos - start]? = some 0 := by
    rw [List.getElem?_drop, Nat.add_sub_cancel' before, terminator]
  have among : 0 ∈ (m.drop start).take (pos - start + 1) := by
    refine List.mem_of_getElem? (i := pos - start) ?_
    rw [List.getElem?_take_of_lt (Nat.lt_succ_self _), here]
  have short := length_cString_lt among
  omega

/-- A terminator is stored before `pos`. -/
theorem put_before {pos off : Nat} (inside : pos < request.data.length) (before : off < pos) :
    Ends (request.put off [0]) (SameFrom pos request) fun _ => False := by
  have size := request.sized
  rw [put_fits (by rw [List.length_singleton]; omega)]
  refine ⟨_, _, rfl, ?_⟩
  rw [store_singleton, List.drop_set_of_lt before]

theorem cutAt_ends {start pos : Nat} (before : start ≤ pos) (terminator : request.data[pos]? = some 0)
    (stops : UInt8 → Bool) : Ends (request.cutAt start stops) (SameFrom pos request) fun _ => False := by
  have inside : pos < request.data.length := (List.getElem?_eq_some_iff.mp terminator).1
  have short := length_string_le before terminator
  unfold cutAt
  split
  · exact .refl pos request
  · rename_i i found
    have here := (List.findIdx?_eq_some_iff_findIdx_eq.mp found).1
    exact put_before inside (by omega)

theorem cutParams_ends {start pos : Nat} (before : start ≤ pos) (terminator : request.data[pos]? = some 0) :
    Ends (request.cutParams start) (SameFrom pos request) fun _ => False := by
  have inside : pos < request.data.length := (List.getElem?_eq_some_iff.mp terminator).1
  have short := length_string_le before terminator
  unfold cutParams
  refine Ends.foldlM (fun i member request' same => ?_) (.refl pos request)
  have here := List.mem_range.mp member
  split
  · have size := request.sized
    have size' := request'.sized
    exact (put_before (by omega) (by omega)).mono fun request'' next => same.trans next
  · exact same

/-- A method in front of the header is inside it. -/
theorem method_le {s method : List UInt8} (starts : startsWith s method = true) : method.length ≤ s.length :=
  (List.isPrefixOf_iff_prefix.mp starts).length_le

theorem cString_drop {m : List UInt8} {start : Nat} (inside : start ≤ (cString m).length) :
    cString (m.drop start) = (cString m).drop start := by
  induction m generalizing start with
  | nil => rw [List.drop_nil]; simp [cString]
  | cons b m ih =>
    cases start with
    | zero => rfl
    | succ start =>
      by_cases zero : b = 0
      · subst zero
        cases inside
      · have string : cString (b :: m) = b :: cString m := List.takeWhile_cons_of_pos (bne_iff_ne.mpr zero)
        rw [string, List.length_cons] at inside
        rw [string, List.drop_succ_cons, List.drop_succ_cons, ih (by omega)]

/-- The string that is left is the one up to the byte that stops it. -/
theorem cutAt_string {start : Nat} {stops : UInt8 → Bool} (cut : request.cutAt start stops = .ok request') :
    cString (request'.data.drop start) = (cString (request.data.drop start)).takeWhile fun c => !stops c := by
  rw [List.takeWhile_eq_take_findIdx_not]
  simp only [Bool.not_not]
  unfold cutAt at cut
  split at cut
  · rename_i absent
    cases cut
    rw [List.findIdx?_eq_none_iff_findIdx_eq.mp absent, List.take_length]
  · rename_i i found
    obtain ⟨here, place⟩ := List.findIdx?_eq_some_iff_findIdx_eq.mp found
    unfold put at cut
    split at cut
    · cases cut
    · cases cut
      show cString ((store request.data (start + i) [0]).drop start) = _
      have cutString := cString_set here []
      rw [store_singleton, place, List.drop_set, if_neg (by omega), Nat.add_sub_cancel_left]
      rw [List.append_nil] at cutString
      exact cutString

/-- The path that is cut out in place is `getRequestPath`. -/
theorem cutAt_path {method : List UInt8} (starts : startsWith (cString request.data) method = true)
    (cut : request.cutAt method.length pathEnd = .ok request') :
    cString (request'.data.drop method.length) = getRequestPath (cString request.data) method.length := by
  rw [cutAt_string cut, cString_drop (method_le starts)]
  rfl

/-- The parameters are cut behind the path. -/
theorem cutParams_before {start : Nat} (cut : request.cutParams start = .ok request') :
    request'.data.take start = request.data.take start := by
  have ends : Ends (request.cutParams start) (fun r => r.data.take start = request.data.take start)
      fun _ => True := by
    unfold cutParams
    refine Ends.foldlM (fun i _ r same => ?_) rfl
    split
    · unfold put
      split
      · trivial
      · show (store r.data (start + i) [0]).take start = _
        rw [store_singleton, List.take_set_of_le (Nat.le_add_right start i)]
        exact same
    · exact same
  exact ends.of_ok cut

/-- **The strings in place are those that `handleRequest` hands on**: the path of a GET request up to its
parameters, and the path of a POST request. -/
theorem cutStrings_path (cut : request.cutStrings = .ok request') :
    (startsWith (cString request.data) httpGet = true → cString (request'.data.drop httpGet.length) =
      (getRequestPath (cString request.data) httpGet.length).takeWhile (· != 63)) ∧
    (startsWith (cString request.data) httpGet = false → startsWith (cString request.data) httpPost = true →
      cString (request'.data.drop httpPost.length) = getRequestPath (cString request.data) httpPost.length) := by
  unfold cutStrings at cut
  constructor
  · intro get
    rw [if_pos get] at cut
    cases ended : request.cutAt httpGet.length pathEnd with
    | error e =>
      rw [ended] at cut
      cases cut
    | ok path =>
      rw [ended, ok_bind] at cut
      rw [← cutAt_path get ended]
      split at cut
      · rename_i absent
        cases cut
        refine (List.takeWhile_eq_self_iff.mpr fun c member => ?_).symm
        simpa using List.findIdx?_eq_none_iff.mp absent c member
      · rename_i i found
        have mark : path.cutAt httpGet.length (· == 63) = path.put (httpGet.length + i) [0] := by
          rw [cutAt, found]
        cases stored : path.put (httpGet.length + i) [0] with
        | error e =>
          rw [stored] at cut
          cases cut
        | ok front =>
          rw [stored, ok_bind] at cut
          have string := cutAt_string (mark.trans stored)
          have place := (List.findIdx?_eq_some_iff_findIdx_eq.mp found).2
          have before := cutParams_before cut
          have short : (cString (front.data.drop httpGet.length)).length < i + 1 := by
            rw [string, List.takeWhile_eq_take_findIdx_not, List.length_take]
            simp only [Bool.not_not, place]
            omega
          have same := congrArg (List.drop httpGet.length) before
          rw [Nat.add_assoc, List.drop_take, List.drop_take, Nat.add_sub_cancel_left] at same
          rw [cString_congr short same]
          exact string
  · intro notGet post
    rw [if_neg (by rw [notGet]; decide), if_pos post] at cut
    exact cutAt_path post cut

theorem terminator_of_short (terminated : (cString request.data).length < request.data.length) :
    request.data[(cString request.data).length]? = some 0 := by
  have byte := congrArg (fun m => m[(cString request.data).length]?) (append_nul_of_short terminated)
  rw [List.getElem?_append_right (Nat.le_refl _), Nat.sub_self] at byte
  exact byte.symm

/-- **The terminators of `handle_request` are inside the header.** -/
theorem cutStrings_ends (terminated : (cString request.data).length < request.data.length) :
    Ends request.cutStrings (SameFrom (cString request.data).length request) fun _ => False := by
  have terminator := terminator_of_short terminated
  unfold cutStrings
  split
  · rename_i get
    have before := method_le get
    apply (cutAt_ends before terminator _).bind
    intro cut same
    have kept := (same.getElem? (Nat.le_refl _)).trans terminator
    have inside := (List.getElem?_eq_some_iff.mp kept).1
    have short := length_string_le before kept
    split
    · exact same
    · rename_i i found
      have here := (List.findIdx?_eq_some_iff_findIdx_eq.mp found).1
      apply (put_before inside (by omega)).bind
      intro cut' same'
      have kept' := (same'.getElem? (Nat.le_refl _)).trans kept
      exact (cutParams_ends (by omega) kept').mono fun _ rest => (same.trans same').trans rest
  split
  · rename_i post
    exact cutAt_ends (method_le post) terminator _
  · exact .refl _ request

/-! ## Receiving -/

/-- Two stores in a row are one. -/
theorem store_store (m : List UInt8) (off : Nat) (front rest : List UInt8) :
    store (store m off front) (off + front.length) rest = store m off (front ++ rest) := by
  induction m generalizing off front with
  | nil => rfl
  | cons b m ih =>
    cases off with
    | succ off =>
      rw [Nat.add_right_comm]
      show b :: store (store m off front) (off + front.length) rest = _
      rw [ih]
      rfl
    | zero =>
      cases front with
      | nil => rfl
      | cons d front =>
        have next : 0 + (d :: front).length = 0 + front.length + 1 := by rw [List.length_cons, Nat.add_assoc]
        rw [next]
        show d :: store (store m 0 front) (0 + front.length) rest = _
        rw [ih]
        rfl

theorem copyPartial_eq {p : List UInt8} (fits : request.dataLen + p.length ≤ httpRequestMaxSize) :
    request.copyPartial p = .ok (request.append p) := by
  rw [copyPartial, put_fits (by omega)]
  show HttpRequest.put { request.write request.dataLen p with dataLen := request.dataLen + p.length }
    (request.dataLen + p.length) [0] = _
  rw [put_fits (by rw [List.length_singleton]; omega)]
  simp only [write, append, store_store]

theorem append_terminator {p : List UInt8} (fits : request.dataLen + p.length ≤ httpRequestMaxSize) :
    (request.append p).data[request.dataLen + p.length]? = some 0 := by
  have size := request.sized
  show (store request.data request.dataLen (p ++ [0]))[request.dataLen + p.length]? = _
  rw [getElem?_store_in (by simp) (by omega)]
  simp

theorem recvBody_eq (past : request.bodyOffset ≤ request.dataLen)
    (fits : request.bodyOffset + request.contentLen ≤ httpRequestMaxSize) :
    request.recvBody = request.awaitBody.handled := by
  have room : request.bodyOffset + request.contentLen + [(0 : UInt8)].length ≤ httpRequestMaxSize + 1 := by
    rw [List.length_singleton]
    omega
  rw [recvBody, minus_le past, put_fits room, awaitBody]
  show (if request.dataLen - request.bodyOffset < request.contentLen then _ else _) = _
  split <;> rfl

theorem recvHeader_eq (fits : request.dataLen ≤ httpRequestMaxSize)
    (terminator : request.data[request.dataLen]? = some 0) :
    request.recvHeader = request.awaitHeader.handled := by
  have short := length_string_le (Nat.zero_le _) terminator
  rw [Nat.zero_add, List.drop_zero] at short
  unfold recvHeader awaitHeader
  cases found : headerEnd (cString request.data) with
  | none => rfl
  | some place =>
    obtain ⟨pos, sepLen⟩ := place
    obtain ⟨separated, inside⟩ := headerEnd_inside found
    dsimp only
    rw [put_fits (by rw [List.length_singleton]; omega)]
    have offset : pos + sepLen ≤ httpRequestMaxSize := by omega
    show (do
      let room ← minus httpRequestMaxSize (pos + sepLen)
      if getContentLength (cString (request.write pos [0]).data) > room then _ else _) = _
    rw [minus_le offset]
    show (if getContentLength (cString (request.write pos [0]).data) > httpRequestMaxSize - (pos + sepLen)
      then _ else _) = Reception.handled (if getContentLength (cString (request.write pos [0]).data) >
        httpRequestMaxSize - (pos + sepLen) then _ else _)
    split
    · rfl
    · rename_i small
      apply recvBody_eq
      · show pos + sepLen ≤ request.dataLen
        omega
      · show pos + sepLen + getContentLength (cString (request.write pos [0]).data) ≤ httpRequestMaxSize
        omega

/-- **The lengths of a request that is received do not wrap**, and it is the one of the model that
does not check them. -/
theorem recv_eq (bounds : request.InBounds) (p : List UInt8) : request.recv p = (request.receive p).handled := by
  have dataLen := bounds.dataLen
  rw [recv, minus_le dataLen, receive]
  show (if p.length > httpRequestMaxSize - request.dataLen then _ else _) = _
  split
  · rfl
  rename_i fits
  have room : request.dataLen + p.length ≤ httpRequestMaxSize := by omega
  rw [copyPartial_eq room]
  show (if request.headerComplete = true then _ else _) = Reception.handled (if request.headerComplete = true then _ else _)
  split
  · rename_i complete
    obtain ⟨past, body⟩ := bounds.body complete
    exact recvBody_eq (Nat.le_trans past (Nat.le_add_right _ _)) body
  · exact recvHeader_eq room (append_terminator room)

/-! ## Runs -/

theorem reads_append {received : List UInt8} {pos sepLen : Nat} (reads : Reads received pos sepLen)
    (p : List UInt8) : Reads (received ++ p) pos sepLen := by
  obtain ⟨k, found⟩ := reads
  refine ⟨min k (cString received).length, ?_⟩
  rw [cString_append_take (Nat.min_le_right _ _), ← List.take_take, List.take_length]
  exact found

theorem announced_append {received : List UInt8} {pos sepLen : Nat} (reads : Reads received pos sepLen)
    (p : List UInt8) : announced (received ++ p) pos = announced received pos := by
  obtain ⟨k, found⟩ := reads
  have inside := (headerEnd_inside found).2
  rw [List.length_take] at inside
  rw [announced, cString_append_take (by omega)]
  rfl

/-- What follows a body does not change it. -/
theorem BodyFollows.append {received : List UInt8} (body : request.BodyFollows received) (p : List UInt8) :
    request.BodyFollows (received ++ p) := by
  obtain ⟨pos, sepLen, reads, offset, length, inside, same, terminator⟩ := body
  refine ⟨pos, sepLen, reads_append reads p, offset, ?_, ?_, ?_, terminator⟩
  · rw [announced_append reads, length]
  · rw [List.length_append]
    omega
  · rw [same, List.drop_append_of_le_length (by omega),
      List.take_append_of_le_length (by rw [List.length_drop]; omega)]

/-- What a stream has made of a connection. -/
inductive Assembling (received : List UInt8) : Reception → Prop
  | fresh {request : HttpRequest} (fresh : request.Fresh received) : Assembling received (.waiting request)
  | split {request : HttpRequest} {pos sepLen : Nat} (split : request.Split received pos sepLen)
      (reads : Reads received pos sepLen) : Assembling received (.waiting request)
  | tooLarge : Assembling received .tooLarge
  | ready {request : HttpRequest} (bounds : request.InBounds) (body : request.BodyFollows received) :
      Assembling received (.ready request)

section
variable {received p : List UInt8} {pos sepLen : Nat}

theorem Fresh.inBounds (fresh : request.Fresh received) : request.InBounds := by
  have size := request.sized
  have dataLen := fresh.holds.dataLen
  have fits := fresh.holds.fits
  exact ⟨by omega, by omega, fun complete => by rw [fresh.waits] at complete; cases complete⟩

theorem Split.inBounds (split : request.Split received pos sepLen) : request.InBounds := by
  have size := request.sized
  have dataLen := split.holds.dataLen
  have fits := split.holds.fits
  have past := split.past
  have small := split.small
  have offset := split.bodyOffset
  rw [List.length_set] at dataLen fits
  exact ⟨by omega, by omega, fun _ => ⟨by omega, by omega⟩⟩

/-- The body arrives, or is waited for. -/
theorem Split.assembling (split : request.Split received pos sepLen) (reads : Reads received pos sepLen) :
    Ends request.awaitBody.handled (Assembling received) fun _ => False := by
  have bounds := split.inBounds
  obtain ⟨-, body⟩ := bounds.body split.complete
  have size := request.sized
  have past := split.past
  have separated := split.separated
  have offset := split.bodyOffset
  rcases split.awaitBody with ⟨short, waits⟩ | ⟨arrived, done, ready, outcome⟩
  · rw [waits]
    exact .split split reads
  rw [ready]
  injection outcome with header bodyOffset contentLen read
  have place : (cString done.data).length = pos := by
    have inside := split.inside
    rw [header, List.length_take]
    omega
  have fields : done.dataLen = request.dataLen ∧ done.data =
      request.data.set (request.bodyOffset + request.contentLen) 0 := by
    rw [HttpRequest.awaitBody] at ready
    split at ready
    · cases ready
    · cases ready
      exact ⟨rfl, store_singleton _ _ _⟩
  obtain ⟨dataLen, stored⟩ := fields
  have sized := done.sized
  apply (cutStrings_ends (by omega)).bind
  rintro cut same
  have kept := same.getElem? (i := request.bodyOffset + request.contentLen) (by omega)
  obtain ⟨data, sized', rfl, rest⟩ := same
  have bound := bounds.dataLen
  have length : request.dataLen = received.length := by
    rw [split.holds.dataLen, List.length_set]
  refine .ready ⟨?_, ?_, fun _ => ?_⟩ ⟨pos, sepLen, reads, bodyOffset, ?_, ?_, ?_, ?_⟩
  · show done.dataLen ≤ _
    omega
  · show done.dataLen < data.length
    omega
  · show done.bodyOffset ≤ done.dataLen ∧ done.bodyOffset + done.contentLen ≤ _
    omega
  · show done.contentLen = _
    rw [contentLen, split.contentLen]
    rfl
  · show done.bodyOffset + done.contentLen ≤ _
    omega
  · show load data done.bodyOffset done.contentLen = (received.drop done.bodyOffset).take done.contentLen
    have later : pos + (done.bodyOffset - pos) = done.bodyOffset := by omega
    have apart : data.drop done.bodyOffset = done.data.drop done.bodyOffset := by
      rw [← later, ← List.drop_drop, ← List.drop_drop, ← place, rest]
    rw [load, apart, ← load, read, bodyOffset, contentLen]
  · show data[done.bodyOffset + done.contentLen]? = some 0
    rw [bodyOffset, contentLen, ← offset]
    refine kept.trans ?_
    rw [stored, List.getElem?_set_self (by omega)]

/-- A segment on a connection, whatever has been received before. -/
theorem recv_assembling {r : Reception} (assembling : Assembling received r) (p : List UInt8) :
    Ends (r.recv p) (Assembling (received ++ p)) fun _ => False := by
  cases assembling with
  | tooLarge => exact .tooLarge
  | ready bounds body => exact .ready bounds (body.append p)
  | @fresh request fresh =>
    show Ends (request.recv p) _ _
    rw [recv_eq fresh.inBounds]
    by_cases room : (received ++ p).length ≤ httpRequestMaxSize
    · obtain ⟨next, goes⟩ := fresh.append room
      rw [goes]
      cases shown : headerEnd (cString (received ++ p)) with
      | none =>
        have waits : (request.append p).awaitHeader = .waiting (request.append p) := by
          rw [awaitHeader, next.holds.string, shown]
        rw [waits]
        exact .fresh next
      | some place =>
        obtain ⟨pos, sepLen⟩ := place
        have reads : Reads (received ++ p) pos sepLen := by
          refine ⟨(received ++ p).length, ?_⟩
          rw [← cString_take, List.take_length, shown]
        rcases next.split shown with ⟨-, closed⟩ | ⟨request', split, goes⟩
        · rw [closed]
          exact .tooLarge
        · rw [goes]
          exact split.assembling reads
    · have length := fresh.holds.dataLen
      have fits := fresh.holds.fits
      rw [List.length_append] at room
      rw [receive, if_pos (by omega)]
      exact .tooLarge
  | @split request pos sepLen split reads =>
    show Ends (request.recv p) _ _
    rw [recv_eq split.inBounds]
    by_cases room : (received ++ p).length ≤ httpRequestMaxSize
    · rw [split.receive room]
      exact (split.append room).assembling (reads_append reads p)
    · have length := split.holds.dataLen
      have fits := split.holds.fits
      rw [List.length_set] at length fits
      rw [List.length_append] at room
      rw [receive, if_pos (by omega)]
      exact .tooLarge

end

end HttpRequest

theorem HttpRequest.Assembling.inBounds {received : List UInt8} {request : HttpRequest} {r : Reception}
    (assembling : Assembling received r) (open' : r = .waiting request ∨ r = .ready request) :
    request.InBounds := by
  rcases open' with rfl | rfl
  · cases assembling with
    | fresh fresh => exact fresh.inBounds
    | split split => exact split.inBounds
  · cases assembling with
    | ready bounds => exact bounds

theorem foldlM_assembling (segments : List (List UInt8)) {received : List UInt8} {r : Reception}
    (assembling : HttpRequest.Assembling received r) :
    Ends (segments.foldlM Reception.recv r) (HttpRequest.Assembling (received ++ segments.flatten))
      fun _ => False := by
  induction segments generalizing received r with
  | nil =>
    rw [List.flatten_nil, List.append_nil]
    exact assembling
  | cons p segments ih =>
    rw [List.foldlM_cons, List.flatten_cons, ← List.append_assoc]
    exact (HttpRequest.recv_assembling assembling p).bind fun r' next => ih next

/-- **The source and the model that does not check** receive the same. -/
theorem recvAll_eq (segments : List (List UInt8)) : recvAll segments = (receiveAll segments).handled := by
  have run : ∀ (segments : List (List UInt8)) {received : List UInt8} {u r : Reception},
      HttpRequest.Assembling received r → u.handled = .ok r →
      segments.foldlM Reception.recv r = (segments.foldl Reception.receive u).handled := by
    intro segments
    induction segments with
    | nil => exact fun _ same => same.symm
    | cons p segments ih =>
      intro received u r assembling same
      have step : r.recv p = (u.receive p).handled := by
        cases u with
        | waiting request =>
          cases same
          exact HttpRequest.recv_eq (assembling.inBounds (.inl rfl)) p
        | tooLarge =>
          cases same
          rfl
        | ready request =>
          rw [Reception.receive, same]
          change (request.cutStrings >>= fun request => .ok (.ready request)) = .ok r at same
          cases cut : request.cutStrings with
          | error fault =>
            rw [cut] at same
            cases same
          | ok request' =>
            rw [cut] at same
            cases same
            rfl
      have ends := HttpRequest.recv_assembling assembling p
      rw [List.foldlM_cons, List.foldl_cons]
      cases next : r.recv p with
      | error fault => exact (ends.of_error next).elim
      | ok r' => exact ih (ends.of_ok next) (step.symm.trans next)
  exact run segments (.fresh HttpRequest.init_fresh) rfl

/-- **A request is assembled in bounds**, whatever arrives: no subtraction wraps, no byte is stored
outside the array, and the body that is handled is what follows the header in the stream. -/
theorem assembly_in_bounds (segments : List (List UInt8)) :
    ∃ r, recvAll segments = .ok r ∧
      (∀ request, r = .waiting request ∨ r = .ready request → request.InBounds) ∧
      ∀ request, r = .ready request → request.BodyFollows segments.flatten := by
  have ends := foldlM_assembling segments (.fresh HttpRequest.init_fresh)
  rw [List.nil_append] at ends
  cases all : recvAll segments with
  | error fault => exact (ends.of_error all).elim
  | ok r =>
    have assembling := ends.of_ok all
    refine ⟨r, rfl, fun request => assembling.inBounds, ?_⟩
    rintro request rfl
    cases assembling with
    | ready _ body => exact body

end Stairway
