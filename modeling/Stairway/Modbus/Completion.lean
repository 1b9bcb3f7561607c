import Stairway.Modbus.ModbusMaster
import Stairway.Firmware.Outcome

/-!
# Every Modbus request completes exactly once

The invariant ties the outstanding request to the history (`Outstanding`): what the receive buffer
holds is what was received since the request was started, save for the bytes that were cleared
again. A step pushes entries on the history, and what a callback shows is about the entries below
its own (`Past`).
-/

namespace Stairway
open Firmware

namespace ModbusMaster

variable {κ : Type}

/-! ## What a history says -/

/-- Sends that returned `ERR_SUCCESS`. -/
def acceptedCount : List (HistoryEntry κ) → Nat
  | [] => 0
  | .returned _ .success :: h => acceptedCount h + 1
  | _ :: h => acceptedCount h

/-- The calls of callbacks and the answers they were for, the newest first. -/
def calls : List (HistoryEntry κ) → List (CallbackCall κ × Option (List UInt8))
  | [] => []
  | .called call answer :: h => (call, answer) :: calls h
  | _ :: h => calls h

/-- The request accepted last. -/
def lastAccepted : List (HistoryEntry κ) → Option (ModbusMasterRequest κ)
  | [] => none
  | .returned request .success :: _ => request
  | _ :: h => lastAccepted h

/-- The bytes received since the last request was started. -/
def receivedSince : List (HistoryEntry κ) → List UInt8
  | [] => []
  | .started _ _ :: _ => []
  | .received b :: h => receivedSince h ++ [b]
  | _ :: h => receivedSince h

/-- `bytes` begin with a frame that answers `r`. -/
def AnswerFrame (r : ModbusMasterRequest κ) (bytes : List UInt8) : Prop :=
  r.answerLen ≤ bytes.length ∧ bytes.getD 0 0 = r.id ∧ bytes.getD 1 0 = r.func ∧
    CrcMatches bytes r.answerLen

/-- A callback is that of the request accepted last, and reports a success for a frame only. -/
structure Completed (call : CallbackCall κ) (older : List (HistoryEntry κ)) : Prop where
  belongs : lastAccepted older = some call.request
  own : call.request.cb = some call.cb
  answered : call.status = .success → AnswerFrame call.request (receivedSince older)

/-- What holds of every callback in a history. -/
def Past (h : List (HistoryEntry κ)) : Prop :=
  ∀ call answer older, .called call answer :: older <:+ h → Completed call older

/-- Every request completes exactly once. -/
structure CompletesOnce (s : ModbusMaster κ) : Prop where
  balance : (calls s.history).length + s.busy.toNat = acceptedCount s.history
  past : Past s.history
  busy : s.busy = true → ∀ request bytes now, s.send (some request) bytes now = .ok (.busy, s)

/-! ### Pushing entries -/

/-- An entry that neither accepts nor completes a request. -/
def Plain : HistoryEntry κ → Prop
  | .returned _ .success => False
  | .called _ _ => False
  | _ => True

/-- `h'` is `h` under plain entries. -/
structure Extends (h h' : List (HistoryEntry κ)) : Prop where
  accepted : acceptedCount h' = acceptedCount h
  calls : calls h' = calls h
  last : lastAccepted h' = lastAccepted h
  past : Past h → Past h'

theorem Past.push {h : List (HistoryEntry κ)} (past : Past h) {e : HistoryEntry κ}
    (completed : ∀ call answer, e = .called call answer → Completed call h) : Past (e :: h) := by
  intro call answer older suffix
  cases List.suffix_cons_iff.mp suffix with
  | inl here =>
    cases here
    exact completed call answer rfl
  | inr below => exact past call answer older below

theorem Extends.refl (h : List (HistoryEntry κ)) : Extends h h := ⟨rfl, rfl, rfl, id⟩

theorem Extends.trans {h h' h'' : List (HistoryEntry κ)} (first : Extends h h')
    (second : Extends h' h'') : Extends h h'' where
  accepted := second.accepted.trans first.accepted
  calls := second.calls.trans first.calls
  last := second.last.trans first.last
  past := fun past => second.past (first.past past)

theorem Extends.push (h : List (HistoryEntry κ)) {e : HistoryEntry κ} (plain : Plain e) :
    Extends h (e :: h) := by
  have past : Past h → Past (e :: h) := by
    intro past
    apply past.push
    intro call answer called
    subst called
    exact plain.elim
  cases e with
  | called call answer => exact plain.elim
  | returned request err =>
    cases err with
    | success => exact plain.elim
    | _ => exact ⟨rfl, rfl, rfl, past⟩
  | _ => exact ⟨rfl, rfl, rfl, past⟩

/-! ## Receiving -/

/-- The calls that do not return wait in the interrupt. -/
def Waits (stuck : Stuck) : Prop := stuck = .irqLoop

/-- `bytes` have been received. -/
structure Receives (s : ModbusMaster κ) (bytes : List UInt8) (s' : ModbusMaster κ) : Prop where
  counter : s'.receiveCounter = s.receiveCounter + bytes.length
  bound : s.receiveCounter < receiveBufSize → s'.receiveCounter < receiveBufSize
  stored : s'.receiveBuf.take s'.receiveCounter = s.receiveBuf.take s.receiveCounter ++ bytes
  history : Extends s.history s'.history
  since : receivedSince s'.history = receivedSince s.history ++ bytes
  answerLen : s'.answerLen = s.answerLen
  busy : s'.busy = s.busy
  lastRequest : s'.lastRequest = s.lastRequest

theorem Receives.refl (s : ModbusMaster κ) : Receives s [] s where
  counter := rfl
  bound := id
  stored := (List.append_nil _).symm
  history := .refl _
  since := (List.append_nil _).symm
  answerLen := rfl
  busy := rfl
  lastRequest := rfl

theorem Receives.trans {s s' s'' : ModbusMaster κ} {bytes bytes' : List UInt8}
    (first : Receives s bytes s') (second : Receives s' bytes' s'') :
    Receives s (bytes ++ bytes') s'' where
  counter := by rw [second.counter, first.counter, List.length_append, Nat.add_assoc]
  bound := fun room => second.bound (first.bound room)
  stored := by rw [second.stored, first.stored, List.append_assoc]
  history := first.history.trans second.history
  since := by rw [second.since, first.since, List.append_assoc]
  answerLen := second.answerLen.trans first.answerLen
  busy := second.busy.trans first.busy
  lastRequest := second.lastRequest.trans first.lastRequest

theorem uartRxIrq_ends (s : ModbusMaster κ) (b : UInt8) :
    Ends (s.uartRxIrq b) (Receives s [b]) Waits := by
  have size : receiveBufSize = 256 := rfl
  unfold uartRxIrq
  split
  case isTrue room =>
    have inside : s.receiveCounter < s.receiveBuf.length := by rw [s.sized]; omega
    have stored : (store s.receiveBuf s.receiveCounter [b]).take (s.receiveCounter + 1) =
        s.receiveBuf.take s.receiveCounter ++ [b] := by
      rw [store_singleton, List.take_add_one, List.take_set_of_le (Nat.le_refl _),
        List.getElem?_set_self inside]
      rfl
    have bound : s.receiveCounter + 1 < receiveBufSize := by omega
    exact ⟨rfl, fun _ => bound, stored, .push _ trivial, rfl, rfl, rfl, rfl⟩
  case isFalse full => rfl

theorem rx_ends (s : ModbusMaster κ) (bytes : List UInt8) : Ends (s.rx bytes) (Receives s bytes) Waits := by
  unfold rx
  induction bytes generalizing s with
  | nil => exact .refl s
  | cons b bytes ih =>
    rw [List.foldlM_cons]
    apply (uartRxIrq_ends s b).bind
    intro s' first
    exact (ih s').mono fun s'' rest => first.trans rest

/-! ## The outstanding request -/

/-- A request as the master supports it: it has a callback, its frame fits `send_buf` and the answer
the receive buffer. -/
structure Supported (r : ModbusMasterRequest κ) : Prop where
  cb : r.cb ≠ none
  frame : ∀ frame, r.frame = some frame → frame.length + 2 ≤ sendBufSize
  answer : r.answerLen < receiveBufSize

/-- A send loses a byte that the answer begins with: one byte arrives before the buffer is cleared, and
the zero that is left of it is the id of the request. -/
def LosesByte (r : ModbusMasterRequest κ) (beforeClear : List UInt8) : Prop :=
  r.id = 0 ∧ ∃ b, b ≠ 0 ∧ beforeClear = [b]

/-- The request that is to be completed. The buffer holds zeros for what was received `early` and
cleared, and then what was received `late`. -/
structure Outstanding (s : ModbusMaster κ) : Prop where
  accepted : lastAccepted s.history = some s.lastRequest
  supported : Supported s.lastRequest
  known : s.lastRequest.frame ≠ none
  answerLen : s.answerLen = s.lastRequest.answerLen
  buffer : ∃ early late, receivedSince s.history = early ++ late ∧
    s.receiveBuf.take s.receiveCounter = List.replicate early.length 0 ++ late ∧
    ¬ LosesByte s.lastRequest early

/-- The invariant of runs. -/
structure Inv (s : ModbusMaster κ) : Prop where
  counter : s.receiveCounter < receiveBufSize
  balance : (calls s.history).length + s.busy.toNat = acceptedCount s.history
  past : Past s.history
  outstanding : s.busy = true → Outstanding s

/-! ## Sending -/

/-- A refused send changes nothing. -/
theorem send_busy {s : ModbusMaster κ} (busy : s.busy = true) (request : ModbusMasterRequest κ)
    (bytes : SendRx) (now : Nat) : s.send (some request) bytes now = .ok (.busy, s) := by
  unfold send
  simp only [busy, if_true]

/-- The entry of a refused send is a plain one. -/
theorem plain_refused (request : Option (ModbusMasterRequest κ)) {err : ErrCode}
    (failed : err ≠ .success) : Plain (.returned request err) := by
  cases err with
  | success => exact absurd rfl failed
  | _ => trivial

/-- The entry of a refused send keeps the invariant. -/
theorem Inv.refused {s : ModbusMaster κ} (inv : Inv s) (request : Option (ModbusMasterRequest κ))
    {err : ErrCode} (failed : err ≠ .success) : Inv (s.log (.returned request err)) := by
  have ext := Extends.push s.history (plain_refused request failed)
  refine ⟨inv.counter, ?_, ext.past inv.past, ?_⟩
  · show (calls (_ :: s.history)).length + s.busy.toNat = acceptedCount (_ :: s.history)
    rw [ext.calls, ext.accepted]
    exact inv.balance
  · intro busy
    obtain ⟨accepted, supported, known, answerLen, buffer⟩ := inv.outstanding busy
    exact ⟨ext.last.trans accepted, supported, known, answerLen, buffer⟩

/-- An accepted send, from the reset to its return. -/
theorem Inv.accepted {s early late : ModbusMaster κ} (inv : Inv s) (idle : s.busy = false)
    {r : ModbusMasterRequest κ} {frame : List UInt8} {bytes : SendRx}
    (now : Nat)
    (supported : Supported r) (known : r.frame ≠ none) (keeps : ¬ LosesByte r bytes.beforeClear)
    (first : Receives (s.start r frame) bytes.beforeClear early)
    (rest : Receives early.clear bytes.afterClear late) :
    Inv ({ late with lastRequest := r, sendTs := now }.log (.returned (some r) .success)) := by
  have ext : Extends s.history late.history :=
    ((Extends.push s.history (e := .started r frame) trivial).trans first.history).trans rest.history
  have busy : late.busy = true := rest.busy.trans first.busy
  have room : early.receiveCounter < receiveBufSize := first.bound (by show 0 < receiveBufSize; decide)
  have counted : early.receiveCounter = bytes.beforeClear.length := by
    rw [first.counter]
    exact Nat.zero_add _
  refine ⟨rest.bound room, ?_, ?_, fun _ => ⟨rfl, supported, known, ?_, ?_⟩⟩
  · show (calls late.history).length + late.busy.toNat = acceptedCount late.history + 1
    have balance := inv.balance
    rw [idle] at balance
    rw [ext.calls, ext.accepted, busy, ← balance]
    rfl
  · apply (ext.past inv.past).push
    intro call answer called
    cases called
  · exact rest.answerLen.trans first.answerLen
  · refine ⟨bytes.beforeClear, bytes.afterClear, ?_, ?_, keeps⟩
    · show receivedSince late.history = _
      rw [rest.since]
      show receivedSince early.history ++ _ = _
      rw [first.since]
      rfl
    · show late.receiveBuf.take late.receiveCounter = _
      rw [rest.stored]
      show (List.replicate receiveBufSize 0).take early.receiveCounter ++ _ = _
      rw [List.take_replicate, Nat.min_eq_left (Nat.le_of_lt room), counted]

/-- No callback is called by a send, and its request becomes the outstanding one or nothing is sent. -/
structure Sends (s : ModbusMaster κ) (request : Option (ModbusMasterRequest κ)) (s' : ModbusMaster κ) :
    Prop where
  calls : calls s'.history = calls s.history
  last : s'.busy = true →
    some s'.lastRequest = request ∨ s.busy = true ∧ s'.lastRequest = s.lastRequest

theorem sendCall_ends {s : ModbusMaster κ} (inv : Inv s) {request : Option (ModbusMasterRequest κ)}
    {bytes : SendRx} (now : Nat)
    (supported : ∀ r, request = some r → Supported r ∧ ¬ LosesByte r bytes.beforeClear) :
    Ends (s.sendCall request bytes now) (fun s' => Inv s' ∧ Sends s request s') Waits := by
  have refused : ∀ err, err ≠ .success →
      Inv (s.log (.returned request err)) ∧ Sends s request (s.log (.returned request err)) :=
    fun err failed => ⟨inv.refused request failed, rfl, fun busy => .inr ⟨busy, rfl⟩⟩
  cases request with
  | none => exact refused .paramIsNull (by decide)
  | some r =>
    obtain ⟨supported, keeps⟩ := supported r rfl
    unfold sendCall
    cases busy : s.busy with
    | true =>
      rw [send_busy busy]
      exact refused .busy (by decide)
    | false =>
      cases known : r.frame with
      | none =>
        have answer : s.send (some r) bytes now = .ok (.paramInvalid, s) := by
          simp [send, busy, known]
        rw [answer]
        exact refused .paramInvalid (by decide)
      | some frame =>
        have fits := supported.frame frame known
        have room : ¬ sendBufSize < frame.length + 2 := by omega
        have answer : s.send (some r) bytes now = (do
            let early ← (s.start r (withCrc frame)).rx bytes.beforeClear
            let late ← early.clear.rx bytes.afterClear
            .ok (.success, { late with lastRequest := r, sendTs := now })) := by
          simp [send, busy, known, room]
        rw [answer, bind_assoc]
        apply (rx_ends _ _).bind
        intro early first
        rw [bind_assoc]
        apply (rx_ends _ _).bind
        intro late rest
        exact ⟨inv.accepted busy now supported (by simp [known]) keeps first rest,
          rest.history.calls.trans first.history.calls, fun _ => .inl rfl⟩

/-! ## Completing -/

/-- What arrives is added to the answer of the outstanding request. -/
theorem Outstanding.receives {s s' : ModbusMaster κ} (out : Outstanding s) {bytes : List UInt8}
    (received : Receives s bytes s') : Outstanding s' := by
  obtain ⟨accepted, supported, known, answerLen, early, late, since, stored, keeps⟩ := out
  rw [← received.lastRequest] at accepted supported known answerLen keeps
  refine ⟨received.history.last.trans accepted, supported, known,
    received.answerLen.trans answerLen, early, late ++ bytes, ?_, ?_, keeps⟩
  · rw [received.since, since, List.append_assoc]
  · rw [received.stored, stored, List.append_assoc]

theorem Inv.receives {s s' : ModbusMaster κ} (inv : Inv s) {bytes : List UInt8}
    (received : Receives s bytes s') : Inv s' where
  counter := received.bound inv.counter
  balance := by
    rw [received.history.calls, received.history.accepted, received.busy]
    exact inv.balance
  past := received.history.past inv.past
  outstanding := fun busy => (inv.outstanding (received.busy.symm.trans busy)).receives received

/-- The functions that the master knows. -/
theorem known_func {r : ModbusMasterRequest κ} (known : r.frame ≠ none) :
    (r.func = 3 ∨ r.func = 4) ∨ r.func = 6 ∨ r.func = 16 := by
  apply Decidable.byContradiction
  intro other
  simp only [not_or] at other
  apply known
  simp [ModbusMasterRequest.frame, other]

theorem answerLen_pos (r : ModbusMasterRequest κ) : 5 ≤ r.answerLen := by
  unfold ModbusMasterRequest.answerLen
  split
  · omega
  · omega

theorem getD_take {buf : List UInt8} {n i : Nat} (inside : i < n) :
    (buf.take n).getD i 0 = buf.getD i 0 := by
  simp only [List.getD_eq_getElem?_getD, List.getElem?_take, if_pos inside]

/-- The frame depends on the bytes of its length only. -/
theorem answerFrame_take {r : ModbusMasterRequest κ} {n : Nat} (enough : r.answerLen ≤ n)
    (bytes : List UInt8) : AnswerFrame r (bytes.take n) ↔ AnswerFrame r bytes := by
  have long := answerLen_pos r
  have short : (r.answerLen - 2) % 2 ^ 8 ≤ n := Nat.le_trans (Nat.mod_le _ _) (by omega)
  unfold AnswerFrame CrcMatches crcChk
  rw [List.length_take, Nat.le_min, List.take_take, Nat.min_eq_left short, getD_take (by omega),
    getD_take (by omega), getD_take (by omega), getD_take (by omega)]
  simp only [enough, true_and]

/-- An answer that begins like the request was not cleared: the id and the function are there. -/
theorem Outstanding.uncleared {s : ModbusMaster κ} (out : Outstanding s) (two : 2 ≤ s.receiveCounter)
    (id : s.receiveBuf.getD 0 0 = s.lastRequest.id)
    (func : s.receiveBuf.getD 1 0 = s.lastRequest.func) :
    s.receiveBuf.take s.receiveCounter = receivedSince s.history := by
  obtain ⟨early, late, since, stored, keeps⟩ := out.buffer
  rw [since, stored]
  rw [← getD_take (n := s.receiveCounter) (by omega), stored] at id func
  match early with
  | [] => rfl
  | [b] =>
    -- the zero that is left of `b` is the id
    have zero : b = 0 := by
      apply Decidable.byContradiction
      intro lost
      exact keeps ⟨id.symm, b, lost, rfl⟩
    rw [zero]
    rfl
  | b :: b' :: early =>
    have zero : (0 : UInt8) = s.lastRequest.func := func
    have known := known_func out.known
    rw [← zero] at known
    exact absurd known (by decide)

/-- The call for an answer to `r` that was decoded. -/
structure Decodes (r : ModbusMasterRequest κ) (answer : List UInt8) (call : CallbackCall κ) : Prop where
  request : call.request = r
  own : r.cb = some call.cb
  success : call.status = .success ↔ AnswerFrame r answer
  raw : call.status = .success → ∃ buf, call.rawAnswer = some buf ∧
    ∀ k, k < r.answerLen → buf.getD k 0 = answer.getD k 0
  payload : call.status = .success → r.func = 3 ∨ r.func = 4 → ∃ payload, call.payload = some payload ∧
    call.payloadLen = (answer.getD 2 0).toNat ∧
      ∀ k, k + 3 < r.answerLen → payload.getD k 0 = answer.getD (k + 3) 0

/-- An answer of sufficient length is decoded with a call of the callback. -/
theorem Outstanding.decodes {s : ModbusMaster κ} (out : Outstanding s) {size : Nat}
    (enough : s.answerLen ≤ size) :
    ∃ call, (s.decodeModbus size).2 = some call ∧
      Decodes s.lastRequest (s.receiveBuf.take s.answerLen) call := by
  obtain ⟨cb, own⟩ := Option.ne_none_iff_exists'.mp out.supported.cb
  have long := answerLen_pos s.lastRequest
  have room := out.supported.answer
  have sized := s.sized
  have same := out.answerLen
  rw [same] at enough ⊢
  have frame : AnswerFrame s.lastRequest (s.receiveBuf.take s.lastRequest.answerLen) ↔
      s.receiveBuf.getD 0 0 = s.lastRequest.id ∧ s.receiveBuf.getD 1 0 = s.lastRequest.func ∧
        CrcMatches s.receiveBuf s.lastRequest.answerLen := by
    rw [answerFrame_take (Nat.le_refl _), AnswerFrame]
    exact and_iff_right (by omega)
  have error : ∀ status, status ≠ .success →
      ¬ AnswerFrame s.lastRequest (s.receiveBuf.take s.lastRequest.answerLen) →
      ∃ call, s.callError status = some call ∧
        Decodes s.lastRequest (s.receiveBuf.take s.lastRequest.answerLen) call := by
    intro status failed other
    exact ⟨⟨s.lastRequest, cb, status, none, 0, none, 0⟩, by simp [callError, own], rfl, own,
      iff_of_false failed other, fun success => absurd success failed, fun success => absurd success failed⟩
  unfold decodeModbus
  dsimp only
  rw [same, if_neg (by omega), if_neg (by omega)]
  split
  case isTrue differs =>
    apply error .unknown (by decide)
    intro answers
    obtain ⟨id, func, -⟩ := frame.mp answers
    exact differs.elim (fun other => other id) (fun other => other func)
  split
  case isTrue corrupt =>
    apply error .crc (by decide)
    intro answers
    exact corrupt (frame.mp answers).2.2
  case isFalse.isFalse header crc =>
    simp only [not_or, Decidable.not_not] at header crc
    obtain ⟨id, func⟩ := header
    have answers := frame.mpr ⟨id, func, crc⟩
    have raw : ∀ k, k < s.lastRequest.answerLen →
        s.receiveBuf.getD k 0 = (s.receiveBuf.take s.lastRequest.answerLen).getD k 0 :=
      fun k inside => (getD_take inside).symm
    split
    · refine ⟨⟨s.lastRequest, cb, .success, some s.receiveBuf, s.answerLen, some (s.receiveBuf.drop 3),
        (s.receiveBuf.getD 2 0).toNat⟩, by simp [callSuccess, own], rfl, own, iff_of_true rfl answers,
        fun _ => ⟨_, rfl, raw⟩, fun _ _ => ⟨_, rfl, ?_, ?_⟩⟩
      · rw [getD_take (by omega)]
      · intro k inside
        rw [getD_take inside, List.getD_eq_getElem?_getD, List.getElem?_drop, Nat.add_comm 3 k,
          List.getD_eq_getElem?_getD]
    case isFalse reads =>
      rw [func] at reads
      split
      · exact ⟨⟨s.lastRequest, cb, .success, some s.receiveBuf, s.answerLen, none, 0⟩,
          by simp [callSuccess, own], rfl, own, iff_of_true rfl answers, fun _ => ⟨_, rfl, raw⟩,
          fun _ reading => absurd reading reads⟩
      case isFalse writes =>
        rw [func] at writes
        exact ((known_func out.known).elim reads writes).elim

/-- What was decoded is what was received. -/
theorem Outstanding.completed {s : ModbusMaster κ} (out : Outstanding s)
    (full : s.answerLen ≤ s.receiveCounter) {call : CallbackCall κ}
    (decodes : Decodes s.lastRequest (s.receiveBuf.take s.answerLen) call) :
    Completed call s.history := by
  have long := answerLen_pos s.lastRequest
  have same := out.answerLen
  obtain ⟨request, own, success, -, -⟩ := decodes
  refine ⟨by rw [request]; exact out.accepted, by rw [request]; exact own, ?_⟩
  intro status
  have answers := (answerFrame_take (by omega) _).mp (success.mp status)
  rw [request, ← out.uncleared (by omega) answers.2.1 answers.2.2.1]
  exact (answerFrame_take (by omega) _).mpr answers

/-- A send from a callback is refused. -/
theorem sendCall_busy {s : ModbusMaster κ} (busy : s.busy = true)
    (request : Option (ModbusMasterRequest κ)) (bytes : SendRx) (now : Nat) :
    ∃ err, err ≠ .success ∧ s.sendCall request bytes now = .ok (s.log (.returned request err)) := by
  cases request with
  | none => exact ⟨.paramIsNull, by decide, rfl⟩
  | some r =>
    refine ⟨.busy, by decide, ?_⟩
    unfold sendCall
    rw [send_busy busy]
    rfl

theorem sendAll_ends {s : ModbusMaster κ} (busy : s.busy = true)
    (requests : List (Option (ModbusMasterRequest κ))) :
    Ends (s.sendAll requests)
      (fun s' => s'.busy = true ∧ s'.receiveCounter = s.receiveCounter ∧
        Extends s.history s'.history) Waits := by
  unfold sendAll
  refine Ends.foldlM ?_ ⟨busy, rfl, .refl _⟩
  intro request _ s' ⟨busy', counter, ext⟩
  obtain ⟨err, failed, answer⟩ := sendCall_busy busy' request ⟨[], []⟩ 0
  rw [answer]
  exact ⟨busy', counter, ext.trans (.push _ (plain_refused request failed))⟩

/-- The callback is called and the request is done. -/
theorem complete_ends {s : ModbusMaster κ} (inv : Inv s) (busy : s.busy = true) {call : CallbackCall κ}
    (completed : Completed call s.history) (answer : Option (List UInt8))
    (inCallback : List (Option (ModbusMasterRequest κ))) :
    Ends (s.complete (some call) answer inCallback)
      (fun s' => Inv s' ∧ s'.busy = false ∧ calls s'.history = (call, answer) :: calls s.history)
      Waits := by
  unfold complete
  have logged : (s.log (.called call answer)).busy = true := busy
  apply (sendAll_ends logged inCallback).bind
  intro s' ⟨_, counter, ext⟩
  have balance := inv.balance
  rw [busy] at balance
  refine ⟨⟨?_, ?_, ?_, fun idle => by cases idle⟩, rfl, ext.calls⟩
  · show s'.receiveCounter < receiveBufSize
    rw [counter]
    exact inv.counter
  · show (calls s'.history).length + 0 = acceptedCount s'.history
    rw [ext.calls, ext.accepted]
    exact balance
  · apply ext.past
    apply inv.past.push
    intro call' answer' same
    cases same
    exact completed

/-! ## Polling -/

/-- The bytes in the receive buffer. -/
def stored (s : ModbusMaster κ) : List UInt8 := s.receiveBuf.take s.receiveCounter

/-- The bytes that arrive during a call of the routine. -/
def RoutineRx.all (bytes : RoutineRx) : List UInt8 :=
  bytes.betweenReads ++ bytes.beforeDecode ++ bytes.decoding

/-- The routine finds an answer of sufficient length. -/
def Full (s : ModbusMaster κ) (bytes : RoutineRx) : Prop :=
  s.answerLen ≤ s.receiveCounter ∨ receiveBufSize - 1 ≤ s.receiveCounter + bytes.betweenReads.length

/-- What a call of the routine does: nothing or a callback for the outstanding request. -/
inductive Polls (s : ModbusMaster κ) (bytes : RoutineRx) :
    Option (CallbackCall κ) → ModbusMaster κ → Prop
  | waiting {s' : ModbusMaster κ} (same : calls s'.history = calls s.history)
      (busy : s'.busy = s.busy) (lastRequest : s'.lastRequest = s.lastRequest) : Polls s bytes none s'
  | timeout {call : CallbackCall κ} {s' : ModbusMaster κ} (busy : s.busy = true) (idle : s'.busy = false)
      (request : call.request = s.lastRequest) (own : s.lastRequest.cb = some call.cb)
      (status : call.status = .timeout)
      (pushed : calls s'.history = (call, none) :: calls s.history) : Polls s bytes (some call) s'
  | decoded {call : CallbackCall κ} {s' : ModbusMaster κ} (busy : s.busy = true) (idle : s'.busy = false)
      (full : Full s bytes)
      (decodes : Decodes s.lastRequest ((s.stored ++ bytes.all).take s.answerLen) call)
      (pushed : calls s'.history =
        (call, some ((s.stored ++ bytes.all).take s.answerLen)) :: calls s.history) :
      Polls s bytes (some call) s'

theorem routine_ends {s : ModbusMaster κ} (inv : Inv s) (now : Nat) (bytes : RoutineRx)
    (inCallback : List (Option (ModbusMasterRequest κ))) :
    Ends (s.routine now bytes inCallback) (fun (call, s') => Inv s' ∧ Polls s bytes call s') Waits := by
  have size : receiveBufSize = 256 := rfl
  unfold routine
  cases busy : s.busy with
  | false => exact ⟨inv, .waiting rfl rfl rfl⟩
  | true =>
    have out := inv.outstanding busy
    apply (rx_ends s bytes.betweenReads).bind
    intro s₁ first
    apply (rx_ends s₁ bytes.beforeDecode).bind
    intro s₂ second
    have both := first.trans second
    have inv₂ := inv.receives both
    have out₂ := out.receives both
    have busy₂ := both.busy.trans busy
    split
    case isTrue full =>
      apply (rx_ends s₂ bytes.decoding).bind
      intro s₃ third
      have all : Receives s bytes.all s₃ := both.trans third
      have inv₃ := inv₂.receives third
      have out₃ := out₂.receives third
      have room := inv₂.counter
      have supported := out.supported.answer
      have long := out.answerLen
      have grows := both.counter
      have grows' := second.counter
      have grows'' := third.counter
      have enough : s₃.answerLen ≤ s₂.receiveCounter := by
        rw [all.answerLen]
        omega
      have whole : s₃.answerLen ≤ s₂.receiveCounter % 2 ^ 16 := by omega
      obtain ⟨call, decoded, decodes⟩ := out₃.decodes whole
      have completed := out₃.completed (by omega) decodes
      have answer : s₃.receiveBuf.take s₃.answerLen = (s.stored ++ bytes.all).take s.answerLen := by
        rw [stored, ← all.stored, List.take_take, ← all.answerLen, Nat.min_eq_left (by omega)]
      show Ends (s₃.complete (s₃.decodeModbus (s₂.receiveCounter % 2 ^ 16)).2 _ inCallback >>= fun done =>
        .ok ((s₃.decodeModbus (s₂.receiveCounter % 2 ^ 16)).2, done)) _ Waits
      rw [decoded]
      apply (complete_ends inv₃ (all.busy.trans busy) completed _ inCallback).bind
      intro done ⟨inv', idle, pushed⟩
      rw [answer, all.lastRequest] at decodes
      rw [answer, all.history.calls] at pushed
      have full' : Full s bytes := by
        rw [first.counter] at full
        exact full
      exact ⟨inv', .decoded busy idle full' decodes pushed⟩
    case isFalse waiting =>
      split
      · obtain ⟨cb, own⟩ := Option.ne_none_iff_exists'.mp out₂.supported.cb
        have call : s₂.callError .timeout = some ⟨s₂.lastRequest, cb, .timeout, none, 0, none, 0⟩ := by
          simp [callError, own]
        rw [call]
        apply (complete_ends inv₂ busy₂ ⟨out₂.accepted, own, fun success => by cases success⟩ none
          inCallback).bind
        intro done ⟨inv', idle, pushed⟩
        rw [both.history.calls] at pushed
        rw [both.lastRequest] at own
        exact ⟨inv', .timeout busy idle both.lastRequest own rfl pushed⟩
      · exact ⟨inv₂, .waiting both.history.calls both.busy both.lastRequest⟩

/-! ## Runs -/

/-- The request of a send is supported. -/
def Event.Supported : Event κ → Prop
  | .send (some r) _ _ => ModbusMaster.Supported r
  | _ => True

/-- A send loses a byte of its answer. -/
def Event.LosesByte : Event κ → Prop
  | .send (some r) bytes _ => ModbusMaster.LosesByte r bytes.beforeClear
  | _ => False

theorem step_ends {s : ModbusMaster κ} (inv : Inv s) {e : Event κ} (supported : e.Supported)
    (keeps : ¬ e.LosesByte) : Ends (s.step e) Inv Waits := by
  cases e with
  | send request bytes now =>
    have sends : ∀ r, request = some r → ModbusMaster.Supported r ∧
        ¬ ModbusMaster.LosesByte r bytes.beforeClear := by
      intro r same
      subst same
      exact ⟨supported, keeps⟩
    exact (sendCall_ends inv now sends).mono fun s' ⟨inv', _⟩ => inv'
  | byte b => exact (uartRxIrq_ends s b).mono fun s' received => inv.receives received
  | routine now bytes inCallback =>
    apply (routine_ends inv now bytes inCallback).bind
    exact fun _ ⟨inv', _⟩ => inv'

theorem boot_inv : Inv (boot : ModbusMaster κ) where
  counter := by show 0 < receiveBufSize; decide
  balance := rfl
  past := by
    intro call answer older suffix
    cases List.suffix_nil.mp suffix
  outstanding := fun busy => by cases busy

theorem Inv.completesOnce {s : ModbusMaster κ} (inv : Inv s) : CompletesOnce s :=
  ⟨inv.balance, inv.past, fun busy request bytes now => send_busy busy request bytes now⟩

/-- In a run whose sends lose no byte, every request completes exactly once; nothing is written past
`send_buf`. -/
theorem request_completes_once {events : List (Event κ)} (supported : ∀ e ∈ events, e.Supported)
    (keeps : ∀ e ∈ events, ¬ e.LosesByte) :
    run boot events ≠ .error .sendBufOverflow ∧
      ∀ s : ModbusMaster κ, run boot events = .ok s → CompletesOnce s := by
  have ends : Ends (run boot events) Inv Waits := by
    unfold run
    apply Ends.foldlM _ boot_inv
    exact fun e member s inv => step_ends inv (supported e member) (keeps e member)
  constructor
  · intro failed
    cases ends.of_error failed
  · exact fun s returned => (ends.of_ok returned).completesOnce

/-- A request with the id 0 for one register, and its proper answer. -/
def broadcastRead : ModbusMasterRequest Unit := ⟨0, 3, 0, 1, [], 100, some ()⟩

def broadcastAnswer : List UInt8 := [0, 3, 2, 0, 0, 0x85, 0x84]

theorem broadcastRead_supported (bytes : SendRx) (now : Nat) (rest : List (Event Unit))
    (others : ∀ e ∈ rest, e.Supported) :
    ∀ e ∈ .send (some broadcastRead) bytes now :: rest, e.Supported := by
  rw [List.forall_mem_cons]
  refine ⟨⟨by decide, ?_, by decide⟩, others⟩
  intro frame sent
  cases sent
  decide

/-- A receive interrupt for each byte, and a call of the routine after them. -/
def received (bytes : List UInt8) : List (Event Unit) := bytes.map .byte ++ [.routine 10 ⟨[], [], []⟩ []]

theorem received_supported (bytes : List UInt8) : ∀ e ∈ received bytes, e.Supported := by
  intro e member
  cases List.mem_append.mp member with
  | inl byte =>
    obtain ⟨b, _, rfl⟩ := List.mem_map.mp byte
    trivial
  | inr last =>
    cases List.mem_singleton.mp last
    trivial

theorem request_completes_once_broadcast :
    run boot (.send (some broadcastRead) ⟨[], []⟩ 0 :: received broadcastAnswer) ≠ .error .sendBufOverflow ∧
      ∀ s : ModbusMaster Unit,
        run boot (.send (some broadcastRead) ⟨[], []⟩ 0 :: received broadcastAnswer) = .ok s →
          CompletesOnce s := by
  apply request_completes_once
  · exact broadcastRead_supported _ _ _ (received_supported _)
  · intro e member loses
    cases member with
    | head =>
      obtain ⟨-, b, -, early⟩ := loses
      cases early
    | tail _ rest =>
      cases List.mem_append.mp rest with
      | inl byte =>
        obtain ⟨b, _, rfl⟩ := List.mem_map.mp byte
        exact loses
      | inr last =>
        cases List.mem_singleton.mp last
        exact loses

/-- The callback on top of a history reports a success for bytes that are no answer. -/
def falseSuccess : List (HistoryEntry κ) → Bool
  | .called call _ :: older =>
    call.status == .success && (receivedSince older).getD 0 0 != call.request.id
  | _ => false

theorem falseSuccess_past {h : List (HistoryEntry κ)} (false' : falseSuccess h = true) : ¬ Past h := by
  intro past
  match h, false' with
  | .called call answer :: older, wrong =>
    obtain ⟨-, -, answered⟩ := past call answer older (List.suffix_refl _)
    simp only [falseSuccess, Bool.and_eq_true, beq_iff_eq, bne_iff_ne] at wrong
    exact wrong.2 (answered wrong.1).2.1

/-- The same answer with the id 5, which arrives before the buffer is cleared. -/
def clearedRun : List (Event Unit) :=
  .send (some broadcastRead) ⟨[5], []⟩ 0 :: received broadcastAnswer.tail

theorem request_completes_once_fail :
    (∀ e ∈ clearedRun, e.Supported) ∧ ∃ s, run boot clearedRun = .ok s ∧ ¬ CompletesOnce s := by
  refine ⟨broadcastRead_supported _ _ _ (received_supported _), ?_⟩
  have wrong : (run boot clearedRun).toOption.any (fun s => falseSuccess s.history) = true := by
    decide +kernel
  cases returned : run boot clearedRun with
  | error stuck =>
    rw [returned] at wrong
    cases wrong
  | ok s =>
    rw [returned] at wrong
    exact ⟨s, rfl, fun completes => falseSuccess_past wrong completes.past⟩

end ModbusMaster

end Stairway
