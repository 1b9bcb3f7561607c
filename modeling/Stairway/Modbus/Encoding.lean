import Stairway.Firmware.StoreLog
import Stairway.Modbus.Completion

/-!
# Frames in the send buffer

`modbus_master_send` store by store. The stores fill a range from the start of `send_buf`, so the
frame is the one of `ModbusMasterRequest.frame`, and it is inside the buffer where its length is. No
register count is refused: a request for too many of them is accepted all the same.
-/

namespace Stairway
open Firmware

/-- The CRC of a Modbus frame. -/
def crc16 (body : List UInt8) : Nat := (Crc.run (0xA001 : BitVec 16) 0xFFFF body).toNat

namespace ModbusMasterRequest

variable {κ : Type} (r : ModbusMasterRequest κ)

/-- The stores into `send_buf` before the CRC. -/
def stores : Option (List (Nat × UInt8)) :=
  let address := [(0, r.id), (1, r.func), (2, (r.regAddr >>> 8).toUInt8), (3, r.regAddr.toUInt8)]
  let length := [(4, (r.regLength >>> 8).toUInt8), (5, r.regLength.toUInt8)]
  if r.func = 3 ∨ r.func = 4 then some (address ++ length)
  else if r.func = 6 then some (address ++ [(4, r.data.getD 0 0), (5, r.data.getD 1 0)])
  else if r.func = 16 then
    let len : UInt8 := (r.regLength * 2).toUInt8
    some (address ++ length ++ (6, len) :: (List.range len.toNat).map fun i => (7 + i, r.data.getD i 0))
  else none

/-- `send_counter` of a known function. -/
def sendCounter : Nat := if r.func = 16 then 9 + (r.regLength * 2).toUInt8.toNat else 8

/-- The stores of a whole call, from `send_buf` and what lies behind it, and the bytes that are
transmitted. -/
def encode (m : Nat → UInt8) : Option (List (Nat × UInt8) × List UInt8) :=
  match r.stores with
  | none => none
  | some log =>
    let n := r.sendCounter
    let crc := (crcChk (readRange (applyLog m log) n) (n - 2)).toNat
    let log := log ++ [(n - 2, UInt8.ofNat crc)] ++ [(n - 1, UInt8.ofNat (crc >>> 8))]
    some (log, readRange (applyLog m log) n)

/-- The request part of a standard Modbus RTU frame. -/
def Body (body : List UInt8) : Prop :=
  let address := r.id :: r.func :: bigEndian r.regAddr
  if r.func = 3 ∨ r.func = 4 then body = address ++ bigEndian r.regLength
  else if r.func = 6 then body = address ++ r.data
  else ∃ count : UInt8, count.toNat = 2 * r.regLength.toNat ∧
    body = address ++ bigEndian r.regLength ++ count :: r.data

/-- A standard frame: its CRC is over the whole body, low byte first. -/
def RtuFrame (bytes : List UInt8) : Prop :=
  ∃ body, r.Body body ∧ bytes = body ++ [UInt8.ofNat (crc16 body), UInt8.ofNat (crc16 body >>> 8)]

/-- The data that a caller passes: one value for a register, two bytes each. -/
structure Passed : Prop where
  single : r.func = 6 → r.data.length = 2
  many : r.func = 16 → r.data.length = 2 * r.regLength.toNat

/-- What is asked of an accepted request. -/
structure EncodedWithin (m : Nat → UInt8) : Prop where
  encoded : ∃ log bytes, r.encode m = some (log, bytes) ∧ (∀ w ∈ log, w.1 < sendBufSize) ∧
    r.RtuFrame bytes ∧ CrcMatches bytes bytes.length
  answer : r.answerLen ≤ receiveBufSize - 1

variable {r}

/-! ## The stores and the frame -/

theorem length_frame {frame : List UInt8} (known : r.frame = some frame) :
    frame.length + 2 = r.sendCounter := by
  unfold ModbusMasterRequest.frame at known
  unfold sendCounter
  split at known
  case isTrue reads =>
    cases known
    have other : r.func ≠ 16 := by
      rcases reads with func | func <;> rw [func] <;> decide
    rw [if_neg other]
    rfl
  split at known
  case isTrue single =>
    cases known
    have other : r.func ≠ 16 := by rw [single]; decide
    rw [if_neg other]
    rfl
  split at known
  case isTrue many =>
    cases known
    rw [if_pos many]
    simp only [bigEndian, List.length_append, List.length_cons, List.length_nil, List.length_map,
      List.length_range]
    omega
  · cases known

/-- The stores fill the front of the buffer with the frame. -/
theorem stores_frame {frame : List UInt8} (known : r.frame = some frame) :
    ∃ log, r.stores = some log ∧ Fills log ∧ log.map Prod.snd = frame := by
  unfold ModbusMasterRequest.frame at known
  unfold stores
  split at known
  case isTrue reads =>
    rw [if_pos reads]
    cases known
    exact ⟨_, rfl, rfl, rfl⟩
  case isFalse other =>
    rw [if_neg other]
    split at known
    case isTrue single =>
      rw [if_pos single]
      cases known
      exact ⟨_, rfl, rfl, rfl⟩
    case isFalse other' =>
      rw [if_neg other']
      split at known
      case isTrue many =>
        rw [if_pos many]
        cases known
        refine ⟨_, rfl, ?_, ?_⟩
        · -- the seven bytes of the header, and the loop
          unfold Fills
          have shape : ∀ n : Nat, List.range (7 + n) = [0, 1, 2, 3, 4, 5, 6] ++ (List.range n).map (7 + ·) := by
            intro n
            rw [List.range_add]
            rfl
          simp only [List.map_append, List.map_cons, List.map_nil, List.map_map, List.length_append,
            List.length_cons, List.length_nil, List.length_map, List.length_range]
          have count : 0 + 1 + 1 + 1 + 1 + (0 + 1 + 1) + ((r.regLength * 2).toUInt8.toNat + 1) =
              7 + (r.regLength * 2).toUInt8.toNat := by omega
          rw [count, shape]
          rfl
        · simp [bigEndian, Function.comp_def]
      · cases known

/-- **What is transmitted is the frame with its CRC**, whatever was in the buffer. -/
theorem encode_frame {frame : List UInt8} (known : r.frame = some frame) (m : Nat → UInt8) :
    ∃ log, r.encode m = some (log, ModbusMaster.withCrc frame) ∧ Fills log ∧
      log.length = frame.length + 2 := by
  obtain ⟨log, stored, fills, values⟩ := stores_frame known
  have length : log.length = frame.length := by rw [← values, List.length_map]
  have counter := length_frame known
  have front : readRange (applyLog m log) frame.length = frame := by
    rw [← length, readRange_applyLog fills, values]
  have crc : crcChk (readRange (applyLog m log) r.sendCounter) (r.sendCounter - 2) =
      crcChk frame frame.length := by
    have short : frame.length % 2 ^ 8 ≤ frame.length := Nat.mod_le _ _
    rw [← counter, Nat.add_sub_cancel]
    unfold crcChk
    congr 1
    rw [readRange, ← List.map_take, List.take_range, Nat.min_eq_left (by omega)]
    have cut : List.range (frame.length % 2 ^ 8) = (List.range frame.length).take (frame.length % 2 ^ 8) := by
      rw [List.take_range, Nat.min_eq_left short]
    rw [cut, List.map_take]
    exact congrArg (List.take _) front
  have whole : ∀ a b : UInt8, Fills (log ++ [(r.sendCounter - 2, a)] ++ [(r.sendCounter - 1, b)]) := by
    intro a b
    refine fills_append.mpr ⟨fills_append.mpr ⟨fills, ?_⟩, ?_⟩
    · show r.sendCounter - 2 = log.length
      omega
    · rw [List.length_append, List.length_singleton]
      show r.sendCounter - 1 = log.length + 1
      omega
  have size : ∀ a b : UInt8,
      (log ++ [(r.sendCounter - 2, a)] ++ [(r.sendCounter - 1, b)]).length = r.sendCounter := by
    intro a b
    simp only [List.length_append, List.length_singleton]
    omega
  have sent : ∀ a b : UInt8,
      readRange (applyLog m (log ++ [(r.sendCounter - 2, a)] ++ [(r.sendCounter - 1, b)])) r.sendCounter =
        frame ++ [a, b] := by
    intro a b
    have read := readRange_applyLog (whole a b) m
    rw [size a b] at read
    rw [read]
    simp [values]
  refine ⟨log ++ [(r.sendCounter - 2, UInt8.ofNat (crcChk frame frame.length).toNat)] ++
    [(r.sendCounter - 1, UInt8.ofNat ((crcChk frame frame.length).toNat >>> 8))], ?_, whole _ _,
    (size _ _).trans counter.symm⟩
  unfold encode
  rw [stored]
  dsimp only
  rw [crc, sent]
  rfl

/-- An idle master accepts the functions that it knows, whatever the rest of the request. -/
theorem send_accepts_iff {s s' : ModbusMaster κ} (idle : s.busy = false) {bytes : ModbusMaster.SendRx}
    {now : Nat} {err : ErrCode} (returned : s.send (some r) bytes now = .ok (err, s')) :
    err = .success ↔ r.frame ≠ none := by
  unfold ModbusMaster.send at returned
  simp only [idle, Bool.false_eq_true, if_false] at returned
  cases known : r.frame with
  | none =>
    rw [known] at returned
    cases returned
    exact iff_of_false (by decide) (fun differs => differs rfl)
  | some frame =>
    rw [known] at returned
    dsimp only at returned
    split at returned
    · cases returned
    · have ends : Ends (do
          let early ← (s.start r (ModbusMaster.withCrc frame)).rx bytes.beforeClear
          let late ← early.clear.rx bytes.afterClear
          .ok (ErrCode.success, { late with lastRequest := r, sendTs := now }))
          (fun p => p.1 = .success) ModbusMaster.Waits := by
        apply (ModbusMaster.rx_ends _ _).bind
        intro early _
        apply (ModbusMaster.rx_ends _ _).bind
        intro late _
        exact rfl
      exact iff_of_true (ends.of_ok returned) (by simp)

/-- A call of `modbus_master_send` overflows where one of its stores is past the buffer. -/
theorem send_overflows_iff {s : ModbusMaster κ} (idle : s.busy = false) {frame : List UInt8}
    (known : r.frame = some frame) (m : Nat → UInt8) (bytes : ModbusMaster.SendRx) (now : Nat) :
    s.send (some r) bytes now = .error .sendBufOverflow ↔
      ∃ log sent, r.encode m = some (log, sent) ∧ ¬ ∀ w ∈ log, w.1 < sendBufSize := by
  obtain ⟨log, encoded, fills, length⟩ := encode_frame known m
  have past : (∃ log sent, r.encode m = some (log, sent) ∧ ¬ ∀ w ∈ log, w.1 < sendBufSize) ↔
      sendBufSize < frame.length + 2 := by
    rw [← length, ← Nat.not_le, ← fills_below fills]
    constructor
    · rintro ⟨log', sent, encoded', outside⟩
      rw [encoded] at encoded'
      cases encoded'
      exact outside
    · exact fun outside => ⟨log, _, encoded, outside⟩
  rw [past]
  unfold ModbusMaster.send
  simp only [idle, known, Bool.false_eq_true, if_false]
  split
  · rename_i long
    exact iff_of_true rfl long
  · rename_i fits
    refine iff_of_false (fun failed => ?_) fits
    have ends : Ends (do
        let early ← (s.start r (ModbusMaster.withCrc frame)).rx bytes.beforeClear
        let late ← early.clear.rx bytes.afterClear
        .ok (ErrCode.success, { late with lastRequest := r, sendTs := now }))
        (fun _ => True) ModbusMaster.Waits := by
      apply (ModbusMaster.rx_ends _ _).bind
      intro early _
      apply (ModbusMaster.rx_ends _ _).bind
      intro late _
      trivial
    cases ends.of_error failed

/-! ## The CRC -/

theorem lo_hi {c : Nat} (small : c < 2 ^ 16) :
    (UInt8.ofNat c).toNat ||| (UInt8.ofNat (c >>> 8)).toNat <<< 8 = c := by
  have low : (UInt8.ofNat c).toNat = c % 2 ^ 8 := UInt8.toNat_ofNat'
  have high : (UInt8.ofNat (c >>> 8)).toNat = c / 2 ^ 8 := by
    rw [UInt8.toNat_ofNat', Nat.shiftRight_eq_div_pow, Nat.mod_eq_of_lt (by omega)]
  rw [low, high, Nat.or_comm, Nat.shiftLeft_eq, Nat.mul_comm, ← Nat.two_pow_add_eq_or_of_lt (by omega)]
  omega

/-- The receiver accepts every frame that is sent. -/
theorem withCrc_matches (frame : List UInt8) :
    CrcMatches (ModbusMaster.withCrc frame) (ModbusMaster.withCrc frame).length := by
  have length : (ModbusMaster.withCrc frame).length = frame.length + 2 := by
    simp [ModbusMaster.withCrc]
  have same : crcChk (ModbusMaster.withCrc frame) frame.length = crcChk frame frame.length := by
    have short : frame.length % 2 ^ 8 ≤ frame.length := Nat.mod_le _ _
    unfold crcChk ModbusMaster.withCrc
    rw [List.take_append_of_le_length short]
  unfold CrcMatches
  rw [length, Nat.add_sub_cancel, same, Nat.add_sub_assoc (by decide)]
  unfold ModbusMaster.withCrc
  simp only [List.getD_eq_getElem?_getD, List.getElem?_append_right (Nat.le_refl _), Nat.sub_self,
    List.getElem?_append_right (Nat.le_add_right _ _), Nat.add_sub_cancel_left]
  exact (lo_hi (crcChk frame frame.length).isLt).symm

theorem crcChk_whole {frame : List UInt8} (short : frame.length < 2 ^ 8) :
    (crcChk frame frame.length).toNat = crc16 frame := by
  rw [crcChk, Nat.mod_eq_of_lt short, List.take_length]
  rfl

/-! ## Which requests fit -/

theorem byteCount {n : UInt16} (small : 2 * n.toNat < 2 ^ 8) : (n * 2).toUInt8.toNat = 2 * n.toNat := by
  rw [UInt16.toNat_toUInt8, UInt16.toNat_mul]
  show n.toNat * 2 % 2 ^ 16 % 2 ^ 8 = _
  omega

/-- A list read element by element. -/
theorem map_getD_range (l : List UInt8) : ((List.range l.length).map fun i => l.getD i 0) = l := by
  apply List.ext_getElem
  · simp
  · intro i _ inside
    simp [List.getElem?_eq_getElem inside]

theorem body_frame {frame : List UInt8} (known : r.frame = some frame) (passed : r.Passed)
    (small : r.func = 16 → 2 * r.regLength.toNat < 2 ^ 8) : r.Body frame := by
  unfold ModbusMasterRequest.frame at known
  unfold Body
  split at known
  case isTrue reads =>
    rw [if_pos reads]
    exact (Option.some.inj known).symm
  case isFalse other =>
    rw [if_neg other]
    split at known
    case isTrue single =>
      rw [if_pos single]
      have pair : [r.data.getD 0 0, r.data.getD 1 0] = r.data := by
        rw [← map_getD_range r.data, passed.single single]
        simp [List.range_succ]
      rw [← Option.some.inj known, pair]
    case isFalse other' =>
      rw [if_neg other']
      split at known
      case isTrue many =>
        refine ⟨_, byteCount (small many), ?_⟩
        rw [← Option.some.inj known, byteCount (small many), ← passed.many many, map_getD_range]
      · cases known

/-- **A request is encoded within bounds** exactly if it reads 125 registers at most, or writes 11 at
most. -/
theorem encoded_within_iff (known : r.frame ≠ none) (passed : r.Passed) (m : Nat → UInt8) :
    r.EncodedWithin m ↔ (r.func = 3 ∨ r.func = 4 → r.regLength.toNat ≤ 125) ∧
      (r.func = 16 → r.regLength.toNat ≤ 11) := by
  obtain ⟨frame, known⟩ := Option.ne_none_iff_exists'.mp known
  obtain ⟨log, encoded, fills, length⟩ := encode_frame known m
  have counter := length_frame known
  have reads : r.answerLen ≤ receiveBufSize - 1 ↔ (r.func = 3 ∨ r.func = 4 → r.regLength.toNat ≤ 125) := by
    have size : receiveBufSize = 256 := rfl
    unfold answerLen
    by_cases read : r.func = 3 ∨ r.func = 4
    · rw [if_pos read]
      constructor
      · intro short _
        omega
      · intro short
        have := short read
        omega
    · rw [if_neg read]
      exact iff_of_true (by omega) (fun read' => absurd read' read)
  have inside : (∀ w ∈ log, w.1 < sendBufSize) ↔ r.sendCounter ≤ sendBufSize := by
    rw [fills_below fills, length, counter]
  have size : sendBufSize = 32 := rfl
  constructor
  · rintro ⟨⟨log', bytes, encoded', bounds, rtu, -⟩, answer⟩
    rw [encoded] at encoded'
    cases encoded'
    refine ⟨reads.mp answer, fun many => ?_⟩
    -- the byte count of a standard frame is a byte
    obtain ⟨body, standard, -⟩ := rtu
    have other : ¬ (r.func = 3 ∨ r.func = 4) ∧ r.func ≠ 6 := by
      rw [many]
      decide
    unfold Body at standard
    rw [if_neg other.1, if_neg other.2] at standard
    obtain ⟨count, same, -⟩ := standard
    have small : 2 * r.regLength.toNat < 2 ^ 8 := by
      rw [← same]
      exact count.toNat_lt
    have fits := inside.mp bounds
    rw [sendCounter, if_pos many, byteCount small] at fits
    omega
  · rintro ⟨short, few⟩
    have small : r.func = 16 → 2 * r.regLength.toNat < 2 ^ 8 := by
      intro many
      have := few many
      omega
    have fits : r.sendCounter ≤ sendBufSize := by
      unfold sendCounter
      split
      · rename_i many
        have := few many
        rw [byteCount (small many)]
        omega
      · omega
    refine ⟨⟨log, _, encoded, inside.mpr fits, ?_, withCrc_matches frame⟩, reads.mpr short⟩
    refine ⟨frame, body_frame known passed small, ?_⟩
    rw [ModbusMaster.withCrc, crcChk_whole (by omega)]

/-- A request to write eleven registers, the largest that fits. -/
def elevenRegisters : ModbusMasterRequest Unit := ⟨2, 16, 0x0100, 11, List.replicate 22 7, 100, some ()⟩

theorem encoded_within_iff_eleven :
    elevenRegisters.EncodedWithin (fun _ => 0) ↔
      (elevenRegisters.func = 3 ∨ elevenRegisters.func = 4 → elevenRegisters.regLength.toNat ≤ 125) ∧
        (elevenRegisters.func = 16 → elevenRegisters.regLength.toNat ≤ 11) :=
  encoded_within_iff (by decide) ⟨by decide, by decide⟩ fun _ => 0

/-- Twelve registers are accepted too, and the CRC is stored past the end of the buffer. -/
def twelveRegisters : ModbusMasterRequest Unit := ⟨2, 16, 0x0100, 12, List.replicate 24 7, 100, some ()⟩

theorem encoded_within_fail :
    twelveRegisters.Passed ∧ twelveRegisters.frame ≠ none ∧
      (∃ log sent, twelveRegisters.encode (fun _ => 0) = some (log, sent) ∧ ∃ w ∈ log, w.1 = sendBufSize) ∧
      ¬ twelveRegisters.EncodedWithin fun _ => 0 := by
  obtain ⟨frame, known⟩ : ∃ frame, twelveRegisters.frame = some frame := ⟨_, rfl⟩
  obtain ⟨log, encoded, fills, length⟩ := encode_frame known fun _ => 0
  have counter : log.length = 33 := by rw [length, length_frame known]; rfl
  have past : ∃ w ∈ log, w.1 = sendBufSize := by
    have last : sendBufSize ∈ log.map Prod.fst := by
      rw [fills, counter]
      decide
    simpa using last
  refine ⟨⟨by decide, by decide⟩, by rw [known]; simp, ⟨log, _, encoded, past⟩, fun within => ?_⟩
  obtain ⟨⟨log', sent, encoded', bounds, -⟩, -⟩ := within
  rw [encoded] at encoded'
  cases encoded'
  obtain ⟨w, member, last⟩ := past
  exact absurd (bounds w member) (by rw [last]; exact Nat.lt_irrefl _)

end ModbusMasterRequest

end Stairway
