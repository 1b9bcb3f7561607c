import Stairway.Firmware.While
import Stairway.Modbus.Completion

/-!
# The receive interrupt

`modbus_master_uart_rx_irq` takes bytes from the UART while there are any and the buffer has room. It
has no way out of a full buffer: the byte that is pending stays, and with it the condition of the
loop. `Consistent` is what every run keeps, whatever its requests.
-/

namespace Stairway
open Firmware

namespace ModbusMaster

variable {κ : Type}

/-! ## Every run -/

/-- What holds at any time, also of requests that the master does not support. -/
structure Consistent (s : ModbusMaster κ) : Prop where
  counter : s.receiveCounter < receiveBufSize
  answerLen : s.busy = true → s.answerLen = s.lastRequest.answerLen

theorem Consistent.receives {s s' : ModbusMaster κ} (ok : Consistent s) {bytes : List UInt8}
    (received : Receives s bytes s') : Consistent s' := by
  refine ⟨received.bound ok.counter, fun busy => ?_⟩
  rw [received.answerLen, received.lastRequest]
  exact ok.answerLen (received.busy.symm.trans busy)

theorem sendCall_consistent {s : ModbusMaster κ} (ok : Consistent s)
    (request : Option (ModbusMasterRequest κ)) (bytes : SendRx) (now : Nat) :
    Ends (s.sendCall request bytes now) Consistent fun _ => True := by
  have refused : ∀ err, Consistent (s.log (.returned request err)) := fun _ => ⟨ok.counter, ok.answerLen⟩
  cases request with
  | none => exact refused .paramIsNull
  | some r =>
    unfold sendCall send
    dsimp only
    split
    · exact refused .busy
    split
    · exact refused .paramInvalid
    split
    · trivial
    rw [bind_assoc]
    apply ((rx_ends _ _).any).bind
    intro early first
    rw [bind_assoc]
    apply ((rx_ends _ _).any).bind
    intro late rest
    have room : early.receiveCounter < receiveBufSize := first.bound (by show 0 < receiveBufSize; decide)
    exact ⟨rest.bound room, fun _ => rest.answerLen.trans first.answerLen⟩

theorem complete_consistent {s : ModbusMaster κ} (ok : Consistent s) (busy : s.busy = true)
    (call : Option (CallbackCall κ)) (answer : Option (List UInt8))
    (inCallback : List (Option (ModbusMasterRequest κ))) :
    Ends (s.complete call answer inCallback) Consistent fun _ => True := by
  unfold complete
  cases call with
  | none => exact ⟨ok.counter, fun idle => by cases idle⟩
  | some call =>
    have logged : (s.log (.called call answer)).busy = true := busy
    apply ((sendAll_ends logged inCallback).any).bind
    intro s' ⟨_, counter, _⟩
    refine ⟨?_, fun idle => by cases idle⟩
    show s'.receiveCounter < receiveBufSize
    rw [counter]
    exact ok.counter

theorem routine_consistent {s : ModbusMaster κ} (ok : Consistent s) (now : Nat) (bytes : RoutineRx)
    (inCallback : List (Option (ModbusMasterRequest κ))) :
    Ends (s.routine now bytes inCallback) (fun r => Consistent r.2) fun _ => True := by
  unfold routine
  cases busy : s.busy with
  | false => exact ok
  | true =>
    apply ((rx_ends s bytes.betweenReads).any).bind
    intro s₁ first
    apply ((rx_ends s₁ bytes.beforeDecode).any).bind
    intro s₂ second
    have ok₂ := (ok.receives first).receives second
    have busy₂ := (second.busy.trans first.busy).trans busy
    split
    · apply ((rx_ends s₂ bytes.decoding).any).bind
      intro s₃ third
      apply (complete_consistent (ok₂.receives third) (third.busy.trans busy₂) _ _ inCallback).bind
      exact fun done ok' => ok'
    split
    · apply (complete_consistent ok₂ busy₂ _ _ inCallback).bind
      exact fun done ok' => ok'
    · exact ok₂

theorem step_consistent {s : ModbusMaster κ} (ok : Consistent s) (e : Event κ) :
    Ends (s.step e) Consistent fun _ => True := by
  cases e with
  | send request bytes now => exact sendCall_consistent ok request bytes now
  | byte b => exact ((uartRxIrq_ends s b).any).mono fun s' received => ok.receives received
  | routine now bytes inCallback =>
    apply (routine_consistent ok now bytes inCallback).bind
    exact fun r ok' => ok'

/-- **Every run is consistent.** -/
theorem run_consistent {events : List (Event κ)} {s : ModbusMaster κ} (reached : run boot events = .ok s) :
    Consistent s := by
  have ends : Ends (run boot events) Consistent fun _ => True := by
    unfold run
    refine Ends.foldlM (fun e _ s ok => step_consistent ok e) ⟨?_, fun busy => by cases busy⟩
    show 0 < receiveBufSize
    decide
  exact ends.of_ok reached

/-! ## The loop of the interrupt -/

theorem receiveBuf_stored (s : ModbusMaster κ) (b : UInt8) :
    (store s.receiveBuf s.receiveCounter [b]).length = receiveBufSize :=
  (length_store _ _ _).trans s.sized

/-- One pass of `while (uart_is_readable(..))`, with the bytes that are pending. -/
def irqPass : ModbusMaster κ × List UInt8 → Option (ModbusMaster κ × List UInt8)
  | (_, []) => none
  | (s, b :: pending) =>
    if s.receiveCounter < receiveBufSize - 1 then
      some ({ s with
        receiveBuf := store s.receiveBuf s.receiveCounter [b]
        receiveCounter := s.receiveCounter + 1
        history := .received b :: s.history
        sized := receiveBuf_stored s b }, pending)
    else some (s, b :: pending)

/-- A call of the handler ends with nothing pending: what there was room for is in the buffer, in order,
and nothing behind it was touched. -/
structure Drains (s : ModbusMaster κ) (pending : List UInt8) (s' : ModbusMaster κ) : Prop where
  exits : Exits irqPass (s, pending) (s', [])
  appended : s'.receiveBuf.take s'.receiveCounter = s.receiveBuf.take s.receiveCounter ++
    pending.take (receiveBufSize - 1 - s.receiveCounter)
  inside : s'.receiveCounter ≤ receiveBufSize - 1
  behind : s'.receiveBuf.drop s'.receiveCounter = s.receiveBuf.drop s'.receiveCounter

/-- `uartRxIrq` is a pass that reads its byte. -/
theorem irqPass_of_ok {s s' : ModbusMaster κ} {b : UInt8} (read : s.uartRxIrq b = .ok s')
    (pending : List UInt8) : irqPass (s, b :: pending) = some (s', pending) := by
  unfold uartRxIrq at read
  split at read
  · rename_i room
    cases read
    rw [irqPass, if_pos room]
  · cases read

/-- With a full buffer the loop does not end. -/
theorem irqPass_full {s : ModbusMaster κ} (full : ¬ s.receiveCounter < receiveBufSize - 1) (b : UInt8)
    (pending : List UInt8) : irqPass (s, b :: pending) = some (s, b :: pending) := by
  rw [irqPass, if_neg full]

/-- Bytes that the model receives in a row are those of one call of the handler. -/
theorem exits_of_rx {s s' : ModbusMaster κ} {bytes : List UInt8} (read : s.rx bytes = .ok s') :
    Exits irqPass (s, bytes) (s', []) := by
  induction bytes generalizing s with
  | nil =>
    cases read
    exact .stop rfl
  | cons b bytes ih =>
    rw [rx, List.foldlM_cons] at read
    cases first : s.uartRxIrq b with
    | error stuck =>
      rw [first] at read
      cases read
    | ok t =>
      rw [first] at read
      exact .next (irqPass_of_ok first bytes) (ih read)

/-- The bytes that fit are received. -/
theorem rx_fits {s : ModbusMaster κ} {bytes : List UInt8}
    (room : s.receiveCounter + bytes.length ≤ receiveBufSize - 1) : ∃ s', s.rx bytes = .ok s' := by
  induction bytes generalizing s with
  | nil => exact ⟨s, rfl⟩
  | cons b bytes ih =>
    rw [List.length_cons] at room
    have one : s.receiveCounter < receiveBufSize - 1 := by omega
    rw [rx, List.foldlM_cons, uartRxIrq, if_pos one]
    exact ih (by show s.receiveCounter + 1 + bytes.length ≤ _; omega)

/-- The bytes behind the counter stand. -/
theorem rx_behind {s s' : ModbusMaster κ} {bytes : List UInt8} (read : s.rx bytes = .ok s') :
    s'.receiveBuf.drop s'.receiveCounter = s.receiveBuf.drop s'.receiveCounter := by
  induction bytes generalizing s with
  | nil =>
    cases read
    rfl
  | cons b bytes ih =>
    have counted := ((rx_ends s (b :: bytes)).of_ok read).counter
    rw [rx, List.foldlM_cons] at read
    unfold uartRxIrq at read
    split at read
    · refine (ih read).trans ?_
      rw [List.length_cons] at counted
      show (store s.receiveBuf s.receiveCounter [b]).drop s'.receiveCounter = _
      rw [store_singleton, List.drop_set_of_lt (by omega)]
    · cases read

/-- A loop that has more bytes than there is room for does not end. -/
theorem not_exits_of_long {s t : ModbusMaster κ} {bytes rest : List UInt8}
    (bound : s.receiveCounter ≤ receiveBufSize - 1)
    (long : receiveBufSize - 1 < s.receiveCounter + bytes.length) :
    ¬ Exits irqPass (s, bytes) (t, rest) := by
  intro exits
  induction bytes generalizing s with
  | nil =>
    rw [List.length_nil] at long
    omega
  | cons b bytes ih =>
    by_cases room : s.receiveCounter < receiveBufSize - 1
    · cases exits with
      | stop done =>
        rw [irqPass, if_pos room] at done
        cases done
      | next more remaining =>
        rw [irqPass, if_pos room] at more
        cases more
        rw [List.length_cons] at long
        refine ih ?_ ?_ remaining
        · show s.receiveCounter + 1 ≤ _
          omega
        · show _ < s.receiveCounter + 1 + bytes.length
          omega
    · exact Exits.not_of_fixed (irqPass_full room b bytes) exits

/-- **The interrupt ends in a reachable state** exactly if the buffer has room for what is pending. -/
theorem interrupt_ends_iff {events : List (Event κ)} {s : ModbusMaster κ}
    (reached : run boot events = .ok s) (pending : List UInt8) :
    (∃ s', Drains s pending s') ↔ s.receiveCounter + pending.length ≤ receiveBufSize - 1 := by
  have bound := (run_consistent reached).counter
  have size : receiveBufSize = 256 := rfl
  constructor
  · rintro ⟨s', drains⟩
    apply Decidable.byContradiction
    intro long
    exact not_exits_of_long (by omega) (by omega) drains.exits
  · intro room
    obtain ⟨s', read⟩ := rx_fits room
    have received := (rx_ends s pending).of_ok read
    refine ⟨s', exits_of_rx read, ?_, ?_, rx_behind read⟩
    · rw [received.stored, List.take_of_length_le (l := pending) (by omega)]
    · have after := received.bound bound
      omega

/-- `n` bytes of noise, with nothing sent. -/
def noise (n : Nat) : List (Event Unit) := List.replicate n (.byte 0)

theorem run_noise (n : Nat) (s : ModbusMaster Unit) : s.run (noise n) = s.rx (List.replicate n 0) := by
  induction n generalizing s with
  | zero => rfl
  | succ n ih =>
    show (s.uartRxIrq 0 >>= fun s => s.run (noise n)) = _
    simp only [ih]
    rfl

/-- Noise that fits the buffer is counted. -/
theorem noise_counted {n : Nat} (fits : n ≤ receiveBufSize - 1) :
    ∃ s, run boot (noise n) = .ok s ∧ s.receiveCounter = n := by
  have start : (boot : ModbusMaster Unit).receiveCounter = 0 := rfl
  have length : (List.replicate n (0 : UInt8)).length = n := List.length_replicate
  obtain ⟨s, read⟩ := @rx_fits Unit boot (List.replicate n 0) (by omega)
  refine ⟨s, (run_noise n boot).trans read, ?_⟩
  rw [((rx_ends _ _).of_ok read).counter, start, length, Nat.zero_add]

/-- After 252 bytes of noise there is room for three more. -/
theorem interrupt_ends_iff_noise :
    ∃ s, run boot (noise 252) = .ok s ∧ s.receiveCounter = 252 ∧ ∃ s', Drains s [1, 2, 3] s' := by
  obtain ⟨s, reached, counter⟩ := noise_counted (show 252 ≤ receiveBufSize - 1 by decide)
  refine ⟨s, reached, counter, (interrupt_ends_iff reached [1, 2, 3]).mpr ?_⟩
  rw [counter]
  decide

/-- After 255 bytes of noise the next one is never read. -/
theorem interrupt_ends_fail :
    ∃ s, run boot (noise 255) = .ok s ∧ s.receiveCounter = 255 ∧
      ∀ r, ¬ Exits irqPass (s, [0]) r := by
  obtain ⟨s, reached, full⟩ := noise_counted (show 255 ≤ receiveBufSize - 1 by decide)
  refine ⟨s, reached, full, fun r => Exits.not_of_fixed (irqPass_full ?_ 0 [])⟩
  rw [full]
  decide

end ModbusMaster

end Stairway
