import Stairway.Global
import Stairway.Firmware.Crc
import Stairway.Firmware.Memory
import Stairway.Firmware.Word

/-!
# Modbus master (`modbus_master.c`)

A request is sent, its answer is collected by the receive interrupt and `modbus_master_routine`
completes it with a callback. The interrupt may come between any two statements of the rest, so the
functions take the bytes that arrive at each point where it matters. `κ` stands for the callbacks, and
the history keeps what happened, the newest entry first.
-/

namespace Stairway
open Firmware

/-- `SEND_BUF_SIZE` -/
def sendBufSize : Nat := 32
/-- `RECEIVE_BUF_SIZE` -/
def receiveBufSize : Nat := 256

inductive ModbusError
  | success | timeout | crc | unknown
  deriving DecidableEq, Repr

structure ModbusMasterRequest (κ : Type) where
  id : UInt8
  func : UInt8
  regAddr : UInt16
  regLength : UInt16
  data : List UInt8
  timeout : Nat
  cb : Option κ
  deriving DecidableEq

/-- `crc_chk` of the first bytes of `dat`; the length is a `uint8_t`. -/
def crcChk (dat : List UInt8) (length : Nat) : BitVec 16 :=
  Crc.run 0xA001 0xFFFF (dat.take (length % 2 ^ 8))

/-- The high and the low byte of a register. -/
def bigEndian (v : UInt16) : List UInt8 := [(v >>> 8).toUInt8, v.toUInt8]

namespace ModbusMasterRequest

variable {κ : Type}

/-- The frame that is sent, before its CRC; `none` is a function that is not known. -/
def frame (r : ModbusMasterRequest κ) : Option (List UInt8) :=
  if r.func = 3 ∨ r.func = 4 then
    some (r.id :: r.func :: bigEndian r.regAddr ++ bigEndian r.regLength)
  else if r.func = 6 then
    some (r.id :: r.func :: bigEndian r.regAddr ++ [r.data.getD 0 0, r.data.getD 1 0])
  else if r.func = 16 then
    let len : UInt8 := (r.regLength * 2).toUInt8
    some (r.id :: r.func :: bigEndian r.regAddr ++ bigEndian r.regLength ++
      len :: (List.range len.toNat).map fun i => r.data.getD i 0)
  else none

/-- The `answer_len` of a known function. -/
def answerLen (r : ModbusMasterRequest κ) : Nat :=
  if r.func = 3 ∨ r.func = 4 then 5 + r.regLength.toNat * 2 else 8

/-- No request, as the variable starts. -/
def zero : ModbusMasterRequest κ := ⟨0, 0, 0, 0, [], 0, none⟩

end ModbusMasterRequest

/-- The CRC in the last two of the first `len` bytes is that of the others. -/
def CrcMatches (buf : List UInt8) (len : Nat) : Prop :=
  (crcChk buf (len - 2)).toNat =
    (buf.getD (len - 2) 0).toNat ||| (buf.getD (len - 1) 0).toNat <<< 8

instance (buf : List UInt8) (len : Nat) : Decidable (CrcMatches buf len) :=
  inferInstanceAs (Decidable (_ = _))

/-- A call of a callback with its arguments, for the request that set it. -/
structure CallbackCall (κ : Type) where
  request : ModbusMasterRequest κ
  cb : κ
  status : ModbusError
  rawAnswer : Option (List UInt8)
  rawLen : Nat
  payload : Option (List UInt8)
  payloadLen : Nat
  deriving DecidableEq

inductive HistoryEntry (κ : Type)
  /-- a send was accepted and the receive buffer is reset -/
  | started (request : ModbusMasterRequest κ) (frame : List UInt8)
  /-- a send returned -/
  | returned (request : Option (ModbusMasterRequest κ)) (err : ErrCode)
  /-- the interrupt stored a byte -/
  | received (b : UInt8)
  /-- a callback was called; the answer that was decoded, if it was for one -/
  | called (call : CallbackCall κ) (answer : Option (List UInt8))
  deriving DecidableEq

/-- The variables of the module. -/
structure ModbusMaster (κ : Type) where
  receiveBuf : List UInt8
  receiveCounter : Nat
  answerLen : Nat
  sendTs : Nat
  busy : Bool
  lastRequest : ModbusMasterRequest κ
  history : List (HistoryEntry κ)
  sized : receiveBuf.length = receiveBufSize
  deriving DecidableEq

/-- How a call does not return. -/
inductive Stuck
  /-- the interrupt handler waits for a byte that it does not read -/
  | irqLoop
  /-- a frame is written past `send_buf` -/
  | sendBufOverflow
  deriving DecidableEq

namespace ModbusMaster

variable {κ : Type}

def boot : ModbusMaster κ where
  receiveBuf := List.replicate receiveBufSize 0
  receiveCounter := 0
  answerLen := 0
  sendTs := 0
  busy := false
  lastRequest := .zero
  history := []
  sized := List.length_replicate

def log (s : ModbusMaster κ) (e : HistoryEntry κ) : ModbusMaster κ := { s with history := e :: s.history }

/-! ## Receiving -/

/-- `modbus_master_uart_rx_irq`, for a byte. -/
def uartRxIrq (s : ModbusMaster κ) (b : UInt8) : Except Stuck (ModbusMaster κ) :=
  if s.receiveCounter < receiveBufSize - 1 then
    .ok { s with
      receiveBuf := store s.receiveBuf s.receiveCounter [b]
      receiveCounter := s.receiveCounter + 1
      history := .received b :: s.history
      sized := (length_store _ _ _).trans s.sized }
  else .error .irqLoop

/-- Bytes that arrive in a row. -/
def rx (s : ModbusMaster κ) (bytes : List UInt8) : Except Stuck (ModbusMaster κ) :=
  bytes.foldlM uartRxIrq s

/-! ## Sending -/

/-- The bytes that arrive during a send: after the counter is reset and before the buffer is
cleared, and from there on. -/
structure SendRx where
  beforeClear : List UInt8
  afterClear : List UInt8

/-- The frame with its CRC, low byte first. -/
def withCrc (frame : List UInt8) : List UInt8 :=
  let crc := (crcChk frame frame.length).toNat
  frame ++ [UInt8.ofNat crc, UInt8.ofNat (crc >>> 8)]

/-- A request is accepted, up to `receive_counter = 0`. -/
def start (s : ModbusMaster κ) (request : ModbusMasterRequest κ) (frame : List UInt8) :
    ModbusMaster κ :=
  { s with
    busy := true
    answerLen := request.answerLen
    receiveCounter := 0
    history := .started request frame :: s.history }

/-- `memset(receive_buf, 0, sizeof(receive_buf))` -/
def clear (s : ModbusMaster κ) : ModbusMaster κ :=
  { s with receiveBuf := List.replicate receiveBufSize 0, sized := List.length_replicate }

/-- `modbus_master_send`; `now` is read at its end. -/
def send (s : ModbusMaster κ) (request : Option (ModbusMasterRequest κ)) (bytes : SendRx) (now : Nat) :
    Except Stuck (ErrCode × ModbusMaster κ) :=
  match request with
  | none => .ok (.paramIsNull, s)
  | some request =>
    if s.busy then .ok (.busy, s)
    else match request.frame with
      | none => .ok (.paramInvalid, s)
      | some frame =>
        if sendBufSize < frame.length + 2 then .error .sendBufOverflow
        else do
          let early ← (s.start request (withCrc frame)).rx bytes.beforeClear
          let late ← early.clear.rx bytes.afterClear
          .ok (.success, { late with lastRequest := request, sendTs := now })

/-- A call of `modbus_master_send` until it returns. -/
def sendCall (s : ModbusMaster κ) (request : Option (ModbusMasterRequest κ)) (bytes : SendRx) (now : Nat) :
    Except Stuck (ModbusMaster κ) := do
  let (err, s) ← s.send request bytes now
  .ok (s.log (.returned request err))

/-- The sends that a callback makes. -/
def sendAll (s : ModbusMaster κ) (requests : List (Option (ModbusMasterRequest κ))) :
    Except Stuck (ModbusMaster κ) :=
  requests.foldlM (fun s request => s.sendCall request ⟨[], []⟩ 0) s

/-! ## Completing -/

/-- `last_request.cb(status, NULL, 0, NULL, 0)`, if there is a callback. -/
def callError (s : ModbusMaster κ) (status : ModbusError) : Option (CallbackCall κ) :=
  s.lastRequest.cb.map fun cb => ⟨s.lastRequest, cb, status, none, 0, none, 0⟩

/-- `last_request.cb` with the answer. Its `raw_len` is a `uint16_t`: an answer that is decoded has come in
whole and has at most 255 bytes, so that the length is not cut. -/
def callSuccess (s : ModbusMaster κ) (payload : Option (List UInt8)) (payloadLen : Nat) :
    Option (CallbackCall κ) :=
  s.lastRequest.cb.map fun cb =>
    ⟨s.lastRequest, cb, .success, some s.receiveBuf, s.answerLen, payload, payloadLen⟩

/-- `decode_modbus` of the receive buffer: its value and the call that it makes. -/
def decodeModbus (s : ModbusMaster κ) (size : Nat) : ErrCode × Option (CallbackCall κ) :=
  let buf := s.receiveBuf
  if size = 0 then (.paramInvalid, none)
  else if size < s.answerLen then (.paramInvalid, none)
  else if buf.getD 0 0 ≠ s.lastRequest.id ∨ buf.getD 1 0 ≠ s.lastRequest.func then
    (.fail, s.callError .unknown)
  else if ¬ CrcMatches buf s.answerLen then (.fail, s.callError .crc)
  else if buf.getD 1 0 = 3 ∨ buf.getD 1 0 = 4 then
    (.success, s.callSuccess (some (buf.drop 3)) (buf.getD 2 0).toNat)
  else if buf.getD 1 0 = 6 ∨ buf.getD 1 0 = 16 then (.success, s.callSuccess none 0)
  else (.success, none)

/-- The call of a callback, with the sends it makes, and the end of the request. -/
def complete (s : ModbusMaster κ) (call : Option (CallbackCall κ)) (answer : Option (List UInt8))
    (inCallback : List (Option (ModbusMasterRequest κ))) : Except Stuck (ModbusMaster κ) := do
  let s ← match call with
    | none => .ok s
    | some call => (s.log (.called call answer)).sendAll inCallback
  .ok { s with busy := false }

/-- The bytes that arrive during `modbus_master_routine`: between the two readings of the counter in
the condition, before it is read again for `decode_modbus`, and during that. -/
structure RoutineRx where
  betweenReads : List UInt8
  beforeDecode : List UInt8
  decoding : List UInt8

/-- `modbus_master_routine`, with the call of a callback that it makes. -/
def routine (s : ModbusMaster κ) (now : Nat) (bytes : RoutineRx)
    (inCallback : List (Option (ModbusMasterRequest κ))) :
    Except Stuck (Option (CallbackCall κ) × ModbusMaster κ) :=
  if !s.busy then .ok (none, s)
  else do
    let dt := wordSub 64 now s.sendTs
    let s₁ ← s.rx bytes.betweenReads
    let s₂ ← s₁.rx bytes.beforeDecode
    if s.receiveCounter ≥ s.answerLen ∨ s₁.receiveCounter ≥ receiveBufSize - 1 then do
      let s₃ ← s₂.rx bytes.decoding
      let (_, call) := s₃.decodeModbus (s₂.receiveCounter % 2 ^ 16)
      let done ← s₃.complete call (some (s₃.receiveBuf.take s₃.answerLen)) inCallback
      .ok (call, done)
    else if dt > s.lastRequest.timeout then do
      let done ← s₂.complete (s₂.callError .timeout) none inCallback
      .ok (s₂.callError .timeout, done)
    else .ok (none, s₂)

/-! ## Runs -/

inductive Event (κ : Type)
  | send (request : Option (ModbusMasterRequest κ)) (bytes : SendRx) (now : Nat)
  | byte (b : UInt8)
  | routine (now : Nat) (bytes : RoutineRx) (inCallback : List (Option (ModbusMasterRequest κ)))

def step (s : ModbusMaster κ) (e : Event κ) : Except Stuck (ModbusMaster κ) :=
  match e with
  | .send request bytes now => s.sendCall request bytes now
  | .byte b => s.uartRxIrq b
  | .routine now bytes inCallback => do
    let (_, s) ← s.routine now bytes inCallback
    .ok s

def run (s : ModbusMaster κ) (events : List (Event κ)) : Except Stuck (ModbusMaster κ) :=
  events.foldlM step s

end ModbusMaster

end Stairway
