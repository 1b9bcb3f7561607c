import Stairway.Network.HttpServer

/-!
# A response is sent once, in order and completely

`Sending` ties `queued_len` and `acked_len` to the bytes that `tcp_write` has accepted. The loop of
`send_more` keeps it (`sendLoop_spec`), every callback keeps it (`Connection.step_sending`), and with
it every run ends with a prefix of the response accepted, the whole of it once all is acknowledged.
-/

namespace Stairway
open Firmware

/-- The bytes that `tcp_write` has accepted. -/
def acceptedBytes (writes : List TcpWrite) : List UInt8 :=
  writes.flatMap fun w => if w.result = .ok then w.data else []

/-- The response as a whole. -/
def ContentResponse.bytes (r : ContentResponse) : List UInt8 := r.header ++ r.body

theorem responseTotalLen_eq (r : ContentResponse) : responseTotalLen r = r.bytes.length := by
  rw [responseTotalLen, Nat.mod_eq_of_lt r.fits, ContentResponse.bytes, List.length_append]

/-- A call of `tcp_write` with a chunk that is not empty and fits the send buffer. -/
def TcpWrite.WellSized (w : TcpWrite) : Prop := w.data ≠ [] ∧ w.data.length ≤ w.avail

section
variable {r : ContentResponse} {queued avail : Nat} {result : ErrT}

/-- The chunk comes from what is left of the header, or else of the body. -/
theorem nextWrite_source (more : queued < r.bytes.length) : ∃ rest tail,
    r.bytes.drop queued = rest ++ tail ∧ 0 < rest.length ∧
      (nextWrite r queued avail result).data =
        rest.take (min (min rest.length avail) (2 ^ 16 - 1)) := by
  unfold ContentResponse.bytes at more ⊢
  rw [List.length_append] at more
  by_cases inHeader : queued < r.header.length
  · refine ⟨r.header.drop queued, r.body, ?_, ?_, ?_⟩
    · rw [List.drop_append_of_le_length (Nat.le_of_lt inHeader)]
    · rw [List.length_drop]
      omega
    · simp only [nextWrite, inHeader, if_true]
  · refine ⟨r.body.drop (queued - r.header.length), [], ?_, ?_, ?_⟩
    · have past : r.header.drop queued = [] := List.drop_of_length_le (by omega)
      rw [List.drop_append, past, List.nil_append, List.append_nil]
    · rw [List.length_drop]
      omega
    · simp only [nextWrite, inHeader, if_false]

/-- The chunk is what comes next in the response, not empty and not longer than the send buffer. -/
theorem nextWrite_spec (more : queued < r.bytes.length) (room : avail ≠ 0) :
    (nextWrite r queued avail result).data =
        (r.bytes.drop queued).take (nextWrite r queued avail result).data.length ∧
      (nextWrite r queued avail result).WellSized := by
  obtain ⟨rest, tail, split, positive, data⟩ :=
    @nextWrite_source r queued avail result more
  have length : (nextWrite r queued avail result).data.length =
      min (min rest.length avail) (2 ^ 16 - 1) := by
    rw [data, List.length_take]
    omega
  have buffer : (nextWrite r queued avail result).avail = avail := rfl
  refine ⟨?_, List.ne_nil_of_length_pos (by omega), by omega⟩
  rw [length, split, List.take_append_of_le_length (by omega), data]

end

/-- What has been passed to `tcp_write` for a response, `queued` bytes of it accepted. -/
structure Queued (r : ContentResponse) (queued : Nat) (writes : List TcpWrite) : Prop where
  accepted : acceptedBytes writes = r.bytes.take queued
  bound : queued ≤ r.bytes.length
  sized : ∀ w ∈ writes, w.WellSized

theorem acceptedBytes_append (writes : List TcpWrite) (w : TcpWrite) :
    acceptedBytes (writes ++ [w]) =
      acceptedBytes writes ++ if w.result = .ok then w.data else [] := by
  simp [acceptedBytes]

theorem Queued.length {r : ContentResponse} {queued : Nat} {writes : List TcpWrite}
    (h : Queued r queued writes) : (acceptedBytes writes).length = queued := by
  rw [h.accepted, List.length_take]
  exact Nat.min_eq_left h.bound

section
variable {r : ContentResponse} {queued : Nat} {writes : List TcpWrite} {avail : Nat}

theorem sized_append {w : TcpWrite} (sized : ∀ w ∈ writes, w.WellSized) (next : w.WellSized) :
    ∀ w' ∈ writes ++ [w], w'.WellSized := by
  intro w' member
  rcases List.mem_append.mp member with earlier | last
  · exact sized w' earlier
  · rw [List.mem_singleton.mp last]
    exact next

/-- An attempt that is not accepted. -/
theorem Queued.refused (h : Queued r queued writes) (more : queued < r.bytes.length) (room : avail ≠ 0)
    {result : ErrT} (no : result ≠ .ok) :
    Queued r queued (writes ++ [nextWrite r queued avail result]) where
  accepted := by
    have refused : ¬ (nextWrite r queued avail result).result = .ok := no
    rw [acceptedBytes_append, if_neg refused, List.append_nil, h.accepted]
  bound := h.bound
  sized := sized_append h.sized (nextWrite_spec more room).2

/-- An attempt that is accepted. -/
theorem Queued.taken (h : Queued r queued writes) (more : queued < r.bytes.length) (room : avail ≠ 0) :
    Queued r (queued + (nextWrite r queued avail .ok).data.length)
      (writes ++ [nextWrite r queued avail .ok]) := by
  obtain ⟨data, sized⟩ := @nextWrite_spec r queued avail .ok more room
  constructor
  · have accepted : (nextWrite r queued avail .ok).result = .ok := rfl
    rw [acceptedBytes_append, if_pos accepted, h.accepted, List.take_add, ← data]
  · have fits := congrArg List.length data
    rw [List.length_take, List.length_drop] at fits
    omega
  · exact sized_append h.sized sized

/-- **The loop of `send_more` ends**, with fuel for one pass per byte that is left, and what it passes
on continues the response. -/
theorem sendLoop_spec (tx : Tx) {fuel pass : Nat} (h : Queued r queued writes)
    (enough : r.bytes.length - queued < fuel) :
    ∃ result queued' writes', sendLoop r tx fuel pass queued writes = some (result, queued', writes') ∧
      Queued r queued' writes' ∧ queued ≤ queued' := by
  induction fuel generalizing pass queued writes with
  | zero => omega
  | succ fuel ih =>
    rw [sendLoop, responseTotalLen_eq]
    by_cases more : queued < r.bytes.length
    · rw [if_pos more]
      by_cases full : tx.sndbuf pass = 0
      · rw [if_pos full]
        exact ⟨_, _, _, rfl, h, Nat.le_refl _⟩
      · rw [if_neg full]
        cases written : tx.write pass with
        | mem => exact ⟨_, _, _, rfl, h.refused more full (by decide), Nat.le_refl _⟩
        | other => exact ⟨_, _, _, rfl, h.refused more full (by decide), Nat.le_refl _⟩
        | ok =>
          have next := h.taken more full
          have advance := List.length_pos_iff.mpr (@nextWrite_spec _ _ _ .ok more full).2.1
          have bound := next.bound
          have fits := r.fits
          have word : r.bytes.length < 2 ^ 32 := by
            rw [ContentResponse.bytes, List.length_append]
            exact fits
          have left : r.bytes.length - (queued + (nextWrite r queued (tx.sndbuf pass) .ok).data.length) <
              fuel := by omega
          obtain ⟨result, queued', writes', run, after, grows⟩ := @ih _ _ (pass + 1) next left
          refine ⟨result, queued', writes', ?_, after, by omega⟩
          dsimp only
          rw [Nat.mod_eq_of_lt (by omega)]
          exact run
    · rw [if_neg more]
      exact ⟨_, _, _, rfl, h, Nat.le_refl _⟩

end

/-! ## Callbacks -/

/-- The bytes that an event acknowledges. -/
def ConnEvent.acked : ConnEvent → Nat
  | .sent len _ => len
  | _ => 0

/-- A connection that has seen `acked` bytes acknowledged. -/
structure Sending (c : Connection) (acked : Nat) : Prop where
  queued : Queued c.response c.queuedLen c.writes
  counted : c.closed = none → c.ackedLen = acked ∧ acked ≤ c.queuedLen
  idle : c.request.processed = false → c.response = .empty ∧ c.queuedLen = 0 ∧ c.writes = []
  complete : c.closed = some .acknowledged → c.queuedLen = c.response.bytes.length

theorem Sending.init : Sending .init 0 where
  queued := ⟨rfl, Nat.zero_le _, fun w member => by cases member⟩
  counted _ := ⟨rfl, Nat.le_refl _⟩
  idle _ := ⟨rfl, rfl, rfl⟩
  complete same := by cases same

/-- A request that is ready is marked as processed. -/
theorem HttpRequest.receive_ready {request done : HttpRequest} {p : List UInt8}
    (ready : request.receive p = .ready done) : done.processed = true := by
  have await : ∀ request : HttpRequest, request.awaitBody = .ready done → done.processed = true := by
    intro request complete
    rw [HttpRequest.awaitBody] at complete
    split at complete
    · cases complete
    · cases complete
      rfl
  rw [HttpRequest.receive] at ready
  split at ready
  · cases ready
  · split at ready
    · exact await _ ready
    · rw [HttpRequest.awaitHeader] at ready
      split at ready
      · cases ready
      · dsimp only at ready
        split at ready
        · cases ready
        · exact await _ ready

section
variable {c : Connection} {acked : Nat}

theorem Sending.close (h : Sending c acked) (acked' : Nat) : Sending (c.close .otherwise) acked' where
  queued := h.queued
  counted same := by cases same
  idle := h.idle
  complete same := by cases same

/-- `send_more` ends, and keeps what is known of the connection. -/
theorem Sending.sendMore (h : Sending c acked) (active : c.closed = none)
    (processed : c.request.processed = true) (tx : Tx) :
    ∃ c', c.sendMore tx = some c' ∧ Sending c' acked := by
  obtain ⟨result, queued', writes', run, after, grows⟩ :=
    @sendLoop_spec c.response c.queuedLen c.writes tx (responseTotalLen c.response + 1) 0 h.queued
      (by rw [responseTotalLen_eq]; omega)
  obtain ⟨same, bound⟩ := h.counted active
  have sending : Sending { c with queuedLen := queued', writes := writes' } acked := by
    refine ⟨after, fun _ => ⟨same, by dsimp only; omega⟩, ?_, ?_⟩
    · intro idle
      change c.request.processed = false at idle
      rw [processed] at idle
      cases idle
    · intro closed
      change c.closed = _ at closed
      rw [active] at closed
      cases closed
  rw [Connection.sendMore, run]
  dsimp only
  split
  · exact ⟨_, rfl, sending.close acked⟩
  · exact ⟨_, rfl, sending⟩

theorem Sending.step_sent (h : Sending c acked) (active : c.closed = none) {len : Nat}
    (honest : acked + len ≤ (acceptedBytes c.writes).length) (tx : Tx) :
    ∃ c', c.tcpServerSent len tx = some c' ∧ Sending c' (acked + len) := by
  obtain ⟨same, bound⟩ := h.counted active
  have fits := h.queued.bound
  have word := c.response.fits
  rw [h.queued.length] at honest
  have total : c.response.bytes.length < 2 ^ 32 := by
    rw [ContentResponse.bytes, List.length_append]
    exact word
  have sum : (c.ackedLen + len) % 2 ^ 32 = acked + len := by
    rw [same, Nat.mod_eq_of_lt (by omega)]
  have sending : Sending { c with ackedLen := (c.ackedLen + len) % 2 ^ 32, idlePolls := 0 } (acked + len) :=
    ⟨h.queued, fun _ => ⟨sum, honest⟩, h.idle, h.complete⟩
  rw [Connection.tcpServerSent]
  dsimp only
  rw [sum, responseTotalLen_eq]
  by_cases all : acked + len ≥ c.response.bytes.length
  · rw [if_pos all]
    refine ⟨_, rfl, ⟨h.queued, ?_, h.idle, ?_⟩⟩
    · intro open'
      cases open'
    · -- no more than the whole response was accepted
      intro _
      change c.queuedLen = c.response.bytes.length
      omega
  · rw [if_neg all]
    rw [sum] at sending
    refine sending.sendMore active ?_ tx
    cases processed : c.request.processed with
    | true => rfl
    | false =>
      obtain ⟨empty, -⟩ := h.idle processed
      rw [empty] at all
      exact absurd (Nat.zero_le _) all

theorem Sending.step_poll (h : Sending c acked) (active : c.closed = none) (tx : Tx) :
    ∃ c', c.tcpServerPoll tx = some c' ∧ Sending c' acked := by
  have sending : Sending { c with idlePolls := (c.idlePolls + 1) % 2 ^ 32 } acked :=
    ⟨h.queued, h.counted, h.idle, h.complete⟩
  rw [Connection.tcpServerPoll]
  dsimp only
  split
  · exact ⟨_, rfl, sending.close acked⟩
  · split
    · rename_i processed
      exact sending.sendMore active processed tx
    · exact ⟨_, rfl, sending⟩

theorem Sending.step_recv (h : Sending c acked) (active : c.closed = none) (p : Option (List UInt8))
    (err : ErrT) (handle : HttpRequest → Option ContentResponse) (tx : Tx) :
    ∃ c', c.tcpServerRecv p err handle tx = some c' ∧ Sending c' acked := by
  have sending : Sending { c with idlePolls := 0 } acked := ⟨h.queued, h.counted, h.idle, h.complete⟩
  unfold Connection.tcpServerRecv
  split
  · exact ⟨_, rfl, h.close acked⟩
  · split
    · exact ⟨_, rfl, h.close acked⟩
    · dsimp only
      split
      · exact ⟨_, rfl, sending⟩
      · rename_i fresh
        obtain ⟨empty, queued, writes⟩ := h.idle (Bool.eq_false_iff.mpr fresh)
        split
        · exact ⟨_, rfl, sending.close acked⟩
        · exact ⟨_, rfl, ⟨h.queued, h.counted, fun _ => ⟨empty, queued, writes⟩, h.complete⟩⟩
        · rename_i request ready
          have processed := HttpRequest.receive_ready ready
          split
          · have handled : Sending { c with idlePolls := 0, request := request } acked := by
              refine ⟨h.queued, h.counted, fun idle => ?_, h.complete⟩
              change request.processed = false at idle
              rw [processed] at idle
              cases idle
            exact ⟨_, rfl, handled.close acked⟩
          · rename_i response handled
            -- nothing has been sent before the response
            refine Sending.sendMore (c := { c with idlePolls := 0, request := request, response := response })
              ⟨?_, h.counted, fun idle => ?_, fun closed => ?_⟩ active processed tx
            · change Queued response c.queuedLen c.writes
              rw [queued, writes]
              exact ⟨rfl, Nat.zero_le _, fun w member => by cases member⟩
            · change request.processed = false at idle
              rw [processed] at idle
              cases idle
            · change c.closed = _ at closed
              rw [active] at closed
              cases closed

/-- **Every callback ends and keeps the invariant.** -/
theorem Connection.step_sending (h : Sending c acked) (e : ConnEvent)
    (honest : c.closed = none → acked + e.acked ≤ (acceptedBytes c.writes).length) :
    ∃ c', c.step e = some c' ∧ Sending c' (acked + e.acked) := by
  unfold Connection.step
  by_cases done : c.closed ≠ none
  · rw [if_pos done]
    exact ⟨c, rfl, ⟨h.queued, fun active => absurd active done, h.idle, h.complete⟩⟩
  · rw [if_neg done]
    have active : c.closed = none := not_not.mp done
    cases e with
    | recv p err handle tx => exact h.step_recv active p err handle tx
    | sent len tx => exact h.step_sent active (honest active) tx
    | poll tx => exact h.step_poll active tx
    | err => exact ⟨_, rfl, h.close _⟩

end

/-! ## Runs -/

/-- lwIP never acknowledges more bytes than `tcp_write` has accepted; `acked` have been
acknowledged before. -/
def AcksAccepted (acked : Nat) (c : Connection) : List ConnEvent → Prop
  | [] => True
  | e :: events =>
    (c.closed = none → acked + e.acked ≤ (acceptedBytes c.writes).length) ∧
      match c.step e with
      | none => True
      | some c' => AcksAccepted (acked + e.acked) c' events

instance (acked : Nat) (c : Connection) (events : List ConnEvent) :
    Decidable (AcksAccepted acked c events) := by
  induction events generalizing acked c with
  | nil => exact isTrue trivial
  | cons e events ih =>
    unfold AcksAccepted
    cases c.step e with
    | none => infer_instance
    | some c' =>
      have rest := ih (acked + e.acked) c'
      infer_instance

theorem Connection.run_sending {c : Connection} {acked : Nat} (h : Sending c acked)
    (events : List ConnEvent) (honest : AcksAccepted acked c events) :
    ∃ c', c.run events = some c' ∧ ∃ acked', Sending c' acked' := by
  induction events generalizing c acked with
  | nil => exact ⟨c, rfl, acked, h⟩
  | cons e events ih =>
    obtain ⟨now, later⟩ := honest
    obtain ⟨next, step, sending⟩ := Connection.step_sending h e now
    rw [step] at later
    obtain ⟨c', run, final⟩ := ih sending later
    refine ⟨c', ?_, final⟩
    rw [Connection.run, List.foldlM_cons, step]
    exact run

/-- **A response is sent exactly once, in order and completely**: over any callbacks on a new
connection, every loop of `send_more` ends, every chunk is not empty and fits the send buffer, what is
accepted is the response up to `queued_len`, and all of it once `tcp_server_sent` closes the
connection. -/
theorem response_sent_once (events : List ConnEvent) (honest : AcksAccepted 0 .init events) :
    ∃ c, Connection.run .init events = some c ∧
      (∀ w ∈ c.writes, w.WellSized) ∧
      acceptedBytes c.writes = (c.response.header ++ c.response.body).take c.queuedLen ∧
      (acceptedBytes c.writes).length = c.queuedLen ∧
      (c.closed = some .acknowledged →
        acceptedBytes c.writes = c.response.header ++ c.response.body) := by
  obtain ⟨c, run, acked, sending⟩ := Connection.run_sending Sending.init events honest
  refine ⟨c, run, sending.queued.sized, sending.queued.accepted, sending.queued.length, ?_⟩
  intro closed
  have whole := sending.queued.accepted
  rw [sending.complete closed, List.take_length] at whole
  exact whole

/-- A request, and a response of eight bytes through a send buffer of three. -/
def smallBuffer : List ConnEvent :=
  let tx : Tx := ⟨fun pass => if pass = 0 then 3 else 0, fun _ => .ok, .ok⟩
  let busy : Tx := ⟨fun _ => 3, fun _ => .mem, .ok⟩
  let page : ContentResponse := ⟨ascii "head", ascii "body", true, by decide⟩
  [.recv (some (ascii "GET / HTTP/1.1\r\n\r\n")) .ok (fun _ => some page) tx, .poll busy, .sent 2 tx, .sent 1 tx,
    .sent 1 tx, .sent 4 tx]

theorem response_sent_once_small : ∃ c, Connection.run .init smallBuffer = some c ∧
      (∀ w ∈ c.writes, w.WellSized) ∧
      acceptedBytes c.writes = (c.response.header ++ c.response.body).take c.queuedLen ∧
      (acceptedBytes c.writes).length = c.queuedLen ∧
      (c.closed = some .acknowledged →
        acceptedBytes c.writes = c.response.header ++ c.response.body) :=
  response_sent_once smallBuffer (by decide +kernel)

end Stairway
