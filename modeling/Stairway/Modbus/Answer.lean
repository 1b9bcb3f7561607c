import Stairway.Firmware.CrcDetection
import Stairway.Modbus.Interrupt

/-!
# Answers

What a callback that reports a success rests on: `decode_modbus` has checked the length, the device,
the function and the CRC of the answer. The CRC tells a corrupted answer from every other one. The
length of the payload is the third byte of the answer, which is checked against nothing.
-/

namespace Stairway
open Firmware

namespace ModbusMaster

variable {κ : Type}

/-- What `decode_modbus` has checked when it calls back with a success, and what it passes on. -/
structure Accepts (s : ModbusMaster κ) (size : Nat) (call : CallbackCall κ) : Prop where
  request : call.request = s.lastRequest
  enough : s.answerLen ≤ size
  id : s.receiveBuf.getD 0 0 = s.lastRequest.id
  func : s.receiveBuf.getD 1 0 = s.lastRequest.func
  crc : CrcMatches s.receiveBuf s.answerLen
  raw : call.rawAnswer = some s.receiveBuf ∧ call.rawLen = s.answerLen
  payload : s.lastRequest.func = 3 ∨ s.lastRequest.func = 4 →
    call.payload = some (s.receiveBuf.drop 3) ∧ call.payloadLen = (s.receiveBuf.getD 2 0).toNat

theorem decodeModbus_accepts {s : ModbusMaster κ} {size : Nat} {call : CallbackCall κ}
    (decoded : (s.decodeModbus size).2 = some call) (status : call.status = .success) : Accepts s size call := by
  have error : ∀ other, other ≠ .success → s.callError other ≠ some call := by
    intro other failed called
    unfold callError at called
    cases own : s.lastRequest.cb with
    | none =>
      rw [own] at called
      cases called
    | some cb =>
      rw [own] at called
      cases called
      exact failed status
  have success : ∀ payload payloadLen, s.callSuccess payload payloadLen = some call →
      call.request = s.lastRequest ∧ call.rawAnswer = some s.receiveBuf ∧ call.rawLen = s.answerLen ∧
        call.payload = payload ∧ call.payloadLen = payloadLen := by
    intro payload payloadLen called
    unfold callSuccess at called
    cases own : s.lastRequest.cb with
    | none =>
      rw [own] at called
      cases called
    | some cb =>
      rw [own] at called
      cases called
      exact ⟨rfl, rfl, rfl, rfl, rfl⟩
  unfold decodeModbus at decoded
  dsimp only at decoded
  split at decoded
  · cases decoded
  split at decoded
  · cases decoded
  split at decoded
  · exact absurd decoded (error .unknown (by decide))
  split at decoded
  · exact absurd decoded (error .crc (by decide))
  rename_i enough header crc
  simp only [not_or, Decidable.not_not] at header crc
  obtain ⟨id, func⟩ := header
  rw [func] at decoded
  split at decoded
  · obtain ⟨request, raw, rawLen, payload, payloadLen⟩ := success _ _ decoded
    exact ⟨request, by omega, id, func, crc, ⟨raw, rawLen⟩, fun _ => ⟨payload, payloadLen⟩⟩
  split at decoded
  · rename_i other _
    obtain ⟨request, raw, rawLen, -, -⟩ := success _ _ decoded
    exact ⟨request, by omega, id, func, crc, ⟨raw, rawLen⟩, fun reads => absurd reads other⟩
  · cases decoded

/-! ## Corrupted answers -/

/-- `decode_modbus` of so many bytes calls back with a success. -/
def Reports (s : ModbusMaster κ) (size : Nat) : Prop :=
  ∃ call, (s.decodeModbus size).2 = some call ∧ call.status = .success

/-- The same request is outstanding, and its answer has the bits of an error flipped. -/
structure Corrupted (s : ModbusMaster κ) (error : List UInt8) (s' : ModbusMaster κ) : Prop where
  lastRequest : s'.lastRequest = s.lastRequest
  answerLen : s'.answerLen = s.answerLen
  length : error.length = s.answerLen
  answer : s'.receiveBuf.take s.answerLen = List.zipWith (· ^^^ ·) (s.receiveBuf.take s.answerLen) error

/-- The two bytes of a CRC as they are on the wire. -/
theorem word_pair (low high : UInt8) :
    (Crc.word 16 (Crc.wireBits [low, high])).toNat = low.toNat ||| high.toNat <<< 8 := by
  have apart : high.toNat <<< 8 + low.toNat = high.toNat <<< 8 ||| low.toNat :=
    Nat.shiftLeft_add_eq_or_of_lt low.toNat_lt high.toNat
  have number : leNat [low, high] = low.toNat ||| high.toNat <<< 8 := by
    rw [Nat.or_comm, ← apart, Nat.shiftLeft_eq]
    simp [leNat]
    omega
  have bound : leNat [low, high] < 2 ^ 16 := by simpa using leNat_lt [low, high]
  rw [Crc.word_wireBits, BitVec.toNat_ofNat, Nat.mod_eq_of_lt bound, number]

theorem take_getD {buf : List UInt8} {n : Nat} (inside : n < buf.length) :
    buf.take (n + 1) = buf.take n ++ [buf.getD n 0] := by
  rw [List.take_add_one, List.getD_eq_getElem?_getD, List.getElem?_eq_getElem inside]
  rfl

/-- The register is zero at the end of a frame with its CRC. -/
theorem crcMatches_iff_feed {buf : List UInt8} {len : Nat} (header : 2 ≤ len) (short : len < 2 ^ 8)
    (whole : len ≤ buf.length) :
    CrcMatches buf len ↔ Crc.feed (0xA001 : BitVec 16) 0xFFFF (Crc.wireBits (buf.take len)) = 0 := by
  obtain ⟨n, rfl⟩ : ∃ n, len = n + 2 := ⟨len - 2, by omega⟩
  have parts : buf.take (n + 2) = buf.take n ++ [buf.getD n 0, buf.getD (n + 1) 0] := by
    rw [take_getD (by omega), take_getD (by omega), List.append_assoc]
    rfl
  have second : n + 2 - 1 = n + 1 := rfl
  have register : crcChk buf n = Crc.feed 0xA001 0xFFFF (Crc.wireBits (buf.take n)) := by
    rw [crcChk, Nat.mod_eq_of_lt (by omega), Crc.run_eq_feed (by decide)]
  rw [parts, Crc.wireBits_append, Crc.feed_append, Crc.feed_eq_zero_iff (by decide) _ (by simp),
    CrcMatches, Nat.add_sub_cancel, second, register, ← word_pair, BitVec.toNat_inj]

/-- **A corrupted answer is not accepted**: no burst of 16 bits and no odd number of bits, the CRC's own
included. -/
theorem corrupted_rejected {s s' : ModbusMaster κ} {error : List UInt8} {size size' : Nat}
    (awaited : s.answerLen = s.lastRequest.answerLen) (short : s.answerLen ≤ receiveBufSize - 1)
    (reported : s.Reports size) (corrupted : s.Corrupted error s') (nonzero : ∃ b ∈ error, b ≠ 0)
    (pattern : Crc.Burst 16 (Crc.wireBits error) ∨ Odd ((Crc.wireBits error).count true)) :
    ¬ s'.Reports size' := by
  rintro ⟨call', decoded', status'⟩
  obtain ⟨call, decoded, status⟩ := reported
  have long := answerLen_pos s.lastRequest
  have size : receiveBufSize = 256 := rfl
  have sized := s.sized
  have sized' := s'.sized
  have before := (decodeModbus_accepts decoded status).crc
  have after := (decodeModbus_accepts decoded' status').crc
  rw [crcMatches_iff_feed (by omega) (by omega) (by omega)] at before
  rw [corrupted.answerLen, crcMatches_iff_feed (by omega) (by omega) (by omega), corrupted.answer,
    Crc.wireBits_xor (by rw [List.length_take, corrupted.length]; omega)] at after
  have same : (Crc.wireBits (s.receiveBuf.take s.answerLen)).length = (Crc.wireBits error).length := by
    rw [Crc.length_wireBits, Crc.length_wireBits, List.length_take, corrupted.length]
    omega
  have alone : Crc.feed (0xA001 : BitVec 16) 0 (Crc.wireBits error) = 0 := by
    have linear := Crc.feed_xor (0xA001 : BitVec 16) 0xFFFF 0 same
    have start : (0xFFFF : BitVec 16) ^^^ 0 = 0xFFFF := by decide
    rw [start, after, before] at linear
    exact BitVec.zero_xor.symm.trans linear.symm
  cases pattern with
  | inl burst => exact Crc.burst_detected (by decide) burst (Crc.mem_wireBits nonzero) alone
  | inr odd => exact Crc.odd_detected (by decide) odd alone

/-- One register of a device is awaited, and these bytes are in the buffer. -/
def awaiting (answer : List UInt8) : ModbusMaster Unit :=
  { (boot : ModbusMaster Unit) with
    receiveBuf := store (List.replicate receiveBufSize 0) 0 answer
    receiveCounter := answer.length
    answerLen := broadcastRead.answerLen
    busy := true
    lastRequest := broadcastRead
    sized := (length_store _ _ _).trans List.length_replicate }

theorem corrupted_rejected_broadcast :
    ¬ (awaiting [0, 3, 2, 1, 0, 0x85, 0x84]).Reports 7 := by
  have reported : (awaiting broadcastAnswer).Reports 7 := ⟨_, rfl, by decide +kernel⟩
  have error : Corrupted (awaiting broadcastAnswer) [0, 0, 0, 1, 0, 0, 0] (awaiting [0, 3, 2, 1, 0, 0x85, 0x84]) :=
    ⟨rfl, rfl, rfl, by decide +kernel⟩
  exact corrupted_rejected rfl (by decide) reported error (by decide) (.inr (by decide))

/-! ## The payload -/

/-- The payload is the data of the frame whose CRC was checked. -/
structure PayloadInside (call : CallbackCall κ) : Prop where
  start : call.payload = call.rawAnswer.map (List.drop 3)
  ends : 3 + call.payloadLen + 2 = call.rawLen
  registers : call.payloadLen = 2 * call.request.regLength.toNat

/-- A success that the routine reports is for the answer in the buffer once the bytes of the call are
there. -/
theorem routine_accepts (s : ModbusMaster κ) (now : Nat) (bytes : RoutineRx)
    (inCallback : List (Option (ModbusMasterRequest κ))) :
    Ends (s.routine now bytes inCallback)
      (fun r => ∀ call, r.1 = some call → call.status = .success → s.busy = true ∧
        ∃ s' size, Receives s bytes.all s' ∧ size ≤ s'.receiveCounter ∧ Accepts s' size call)
      fun _ => True := by
  have completes : ∀ (t : ModbusMaster κ) call answer,
      Ends (t.complete call answer inCallback) (fun _ => True) fun _ => True := by
    intro t call answer
    cases t.complete call answer inCallback <;> trivial
  unfold routine
  cases busy : s.busy with
  | false =>
    intro call none
    cases none
  | true =>
    apply ((rx_ends s bytes.betweenReads).any).bind
    intro s₁ first
    apply ((rx_ends s₁ bytes.beforeDecode).any).bind
    intro s₂ second
    split
    · apply ((rx_ends s₂ bytes.decoding).any).bind
      intro s₃ third
      apply (completes _ _ _).bind
      intro done _ call decoded status
      refine ⟨rfl, s₃, _, (first.trans second).trans third, ?_, decodeModbus_accepts decoded status⟩
      have grows := third.counter
      have small := Nat.mod_le s₂.receiveCounter (2 ^ 16)
      omega
    split
    · apply (completes _ _ _).bind
      intro done _ call called status
      unfold callError at called
      cases own : s₂.lastRequest.cb with
      | none =>
        rw [own] at called
        cases called
      | some cb =>
        rw [own] at called
        cases called
        cases status
    · intro call none
      cases none

/-- **The payload is inside the verified frame** exactly if the byte count of the answer is that of the
registers that were asked for. -/
theorem payload_inside_iff {events : List (Event κ)} {s done : ModbusMaster κ}
    (reached : run boot events = .ok s) {now : Nat} {bytes : RoutineRx}
    {inCallback : List (Option (ModbusMasterRequest κ))} {call : CallbackCall κ}
    (completed : s.routine now bytes inCallback = .ok (some call, done)) (success : call.status = .success)
    (reads : s.lastRequest.func = 3 ∨ s.lastRequest.func = 4) :
    PayloadInside call ↔
      ((s.stored ++ bytes.all).getD 2 0).toNat = 2 * s.lastRequest.regLength.toNat := by
  have ok := run_consistent reached
  obtain ⟨busy, s', size, received, whole, accepts⟩ :=
    (routine_accepts s now bytes inCallback).of_ok completed call rfl success
  have awaited := received.answerLen.trans (ok.answerLen busy)
  have frame : s.lastRequest.answerLen = 5 + s.lastRequest.regLength.toNat * 2 := if_pos reads
  have enough := accepts.enough
  have third : s'.receiveBuf.getD 2 0 = (s.stored ++ bytes.all).getD 2 0 := by
    rw [stored, ← received.stored, getD_take (by omega)]
  obtain ⟨payload, payloadLen⟩ := accepts.payload (by rw [received.lastRequest]; exact reads)
  obtain ⟨raw, rawLen⟩ := accepts.raw
  rw [third] at payloadLen
  rw [awaited, frame] at rawLen
  constructor
  · intro inside
    rw [← payloadLen, inside.registers, accepts.request, received.lastRequest]
  · intro count
    refine ⟨by rw [payload, raw]; rfl, by omega, ?_⟩
    rw [payloadLen, count, accepts.request, received.lastRequest]

/-- A device answers a request for one register. -/
def oneRegister (answer : List UInt8) : List (Event Unit) :=
  .send (some broadcastRead) ⟨[], []⟩ 0 :: answer.map .byte

theorem payload_inside_iff_broadcast :
    ∃ s call done, run boot (oneRegister broadcastAnswer) = .ok s ∧
      s.routine 10 ⟨[], [], []⟩ [] = .ok (some call, done) ∧
      (PayloadInside call ↔
        ((s.stored ++ (⟨[], [], []⟩ : RoutineRx).all).getD 2 0).toNat = 2 * s.lastRequest.regLength.toNat) := by
  refine ⟨_, _, _, rfl, rfl, ?_⟩
  exact @payload_inside_iff Unit (oneRegister broadcastAnswer) _ _ rfl 10 ⟨[], [], []⟩ [] _ rfl rfl (.inl rfl)

/-- An answer with the byte count 255 and a valid CRC. -/
theorem payload_inside_fail :
    ∃ s call done, run boot (oneRegister [0, 3, 255, 0, 0, 0x14, 0x74]) = .ok s ∧
      s.lastRequest.func = 3 ∧ s.routine 10 ⟨[], [], []⟩ [] = .ok (some call, done) ∧
      call.status = .success ∧ call.payloadLen = 255 ∧ call.rawLen = 7 ∧ ¬ PayloadInside call := by
  refine ⟨_, _, _, rfl, rfl, rfl, rfl, rfl, rfl, fun inside => ?_⟩
  cases inside.ends

end ModbusMaster

end Stairway
