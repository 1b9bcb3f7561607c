import Stairway.Sensors.StairwaySensors
import Stairway.Modbus.Completion
import Stairway.Settings.Validate

/-!
# What the sensors report is fresh

The answer of the last completed poll decides what is reported (`Fresh`). A step keeps that for the
device that is not polled, and the callback sets it for the other; the exception is an answer with a
payload that is too short, which leaves the error flag as it was (`ShortAnswer`).
-/

namespace Stairway
open Firmware

/-! ## Frames -/

/-- The frame answers a poll of the device with six registers. -/
def GoodFrame (d : DevId) (frame : List UInt8) : Prop :=
  ModbusMaster.AnswerFrame d.request frame ∧ sensorPayloadLen ≤ (frame.getD 2 0).toNat

/-- The register with number `k` of a frame. -/
def frameRegister (frame : List UInt8) (k : Nat) : Nat :=
  be16 (frame.getD (3 + 2 * k) 0) (frame.getD (4 + 2 * k) 0)

/-- The distances are registers 1 and 2, the signals 3 and 4, the error bits are in register 5. -/
def frameDist (frame : List UInt8) (second : Bool) : Nat := frameRegister frame (1 + second.toNat)
def frameSignal (frame : List UInt8) (second : Bool) : Nat := frameRegister frame (3 + second.toNat)
def frameError (frame : List UInt8) (second : Bool) : Bool :=
  frameRegister frame 5 &&& 2 ^ second.toNat == 2 ^ second.toNat

/-- The answer of the last completed poll of a device; none if it timed out. -/
def lastPoll (d : DevId) (h : List (HistoryEntry DevId)) : Option (Option (List UInt8)) :=
  ((ModbusMaster.calls h).find? fun call => call.1.cb = d).map (·.2)

/-- The last completed poll changes with a call of a callback only. -/
theorem lastPoll_congr {h h' : List (HistoryEntry DevId)}
    (same : ModbusMaster.calls h' = ModbusMaster.calls h) (d : DevId) : lastPoll d h' = lastPoll d h := by
  rw [lastPoll, lastPoll, same]

/-! ## Reports -/

/-- The setting that swaps the sensors of a device. -/
def DevId.swap : DevId → SettingsField
  | .up => .sensorUpSwap
  | .down => .sensorDownSwap

/-- Both sensors of the device are reported to be in error, with nobody there. -/
def ReportsError (d : DevId) (v : StairwaySensorsGet) : Prop :=
  ∀ i, v.error.get (d.sensor i) = true ∧ v.state.get (d.sensor i) = false

/-- The sensors of the device are reported as the frame says; `i` is the logical sensor. -/
structure ReportsFrame (cfg : Settings) (d : DevId) (frame : List UInt8) (v : StairwaySensorsGet) :
    Prop where
  error : ∀ i, v.error.get (d.sensor i) = frameError frame (i ^^ cfg.flag d.swap)
  signal : ∀ i, v.signal.get (d.sensor i) = frameSignal frame (i ^^ cfg.flag d.swap)
  dist : ∀ i, v.dist.get (d.sensor i) =
    if frameSignal frame (i ^^ cfg.flag d.swap) < signalThreshold then maxRange
    else frameDist frame (i ^^ cfg.flag d.swap)
  state : ∀ i, v.state.get (d.sensor i) =
    decide (v.dist.get (d.sensor i) < cfg.num (.distTrigger (d.sensor i)))

/-- After a completed poll an error is reported, unless it received a good frame: then that is. -/
def Fresh (s : StairwaySensors) : Prop :=
  ∀ d answer, lastPoll d s.modbus.history = some answer → ∀ cfg value,
    (∀ frame, answer = some frame → GoodFrame d frame →
      ReportsFrame cfg d frame (s.stairwaySensorsGet cfg value)) ∧
    ((∀ frame, answer = some frame → ¬ GoodFrame d frame) →
      ReportsError d (s.stairwaySensorsGet cfg value))

/-! ### Reading a report -/

/-- What is reported of one sensor. -/
structure Reading where
  dist : Nat
  signal : Nat
  state : Bool
  error : Bool

def StairwaySensorsGet.reading (v : StairwaySensorsGet) (i : StairwaySensorType) : Reading :=
  ⟨v.dist.get i, v.signal.get i, v.state.get i, v.error.get i⟩

namespace StairwaySensors

variable (s : StairwaySensors) (cfg : Settings)

/-- The reading of a logical sensor whose device is not in error. -/
def shown (d : DevId) (swap i : Bool) : Reading :=
  let src := d.sensor (i ^^ swap)
  let dist := if s.values.signal.get src ≥ signalThreshold then s.values.dist.get src else maxRange
  ⟨dist, s.values.signal.get src, dist < cfg.num (.distTrigger (d.sensor i)), s.values.error.get src⟩

/-- The reading of a logical sensor. -/
def reading (d : DevId) (swap i : Bool) : Reading :=
  if s.devError d then ⟨0, 0, false, true⟩ else s.shown cfg d swap i

theorem fillValue_reading (d : DevId) (swap i : Bool) (value : StairwaySensorsGet)
    (j : StairwaySensorType) :
    (s.fillValue cfg d swap value i).reading j =
      if j = d.sensor i then s.reading cfg d swap i else value.reading j := by
  have source : (if swap then d.sensor !i else d.sensor i) = d.sensor (i ^^ swap) := by
    cases swap <;> cases i <;> rfl
  unfold fillValue reading shown
  dsimp only
  rw [source]
  by_cases here : j = d.sensor i
  · subst here
    by_cases error : s.devError d = true
    · simp [error, StairwaySensorsGet.reading]
    · simp [error, StairwaySensorsGet.reading]
  · by_cases error : s.devError d = true
    · simp [error, here, StairwaySensorsGet.reading, PerSensor.get_set_other _ _ here]
    · simp [error, here, StairwaySensorsGet.reading, PerSensor.get_set_other _ _ here]

theorem sensor_inj {d e : DevId} {i j : Bool} : d.sensor i = e.sensor j ↔ d = e ∧ i = j := by
  cases d <;> cases e <;> cases i <;> cases j <;> decide

/-- Each logical sensor is filled in with its reading. -/
theorem stairwaySensorsGet_reading (value : StairwaySensorsGet) (d : DevId) (i : Bool) :
    (s.stairwaySensorsGet cfg value).reading (d.sensor i) =
      s.reading cfg d (cfg.flag d.swap) i := by
  simp only [stairwaySensorsGet, fillDeviceValues, List.foldl_cons, List.foldl_nil, fillValue_reading,
    sensor_inj]
  cases d <;> cases i <;> simp [DevId.swap]

/-! ## What a poll leaves -/

/-- The variables after the last poll of a device: the values of a good frame, or the error flag. -/
inductive Holds (s : StairwaySensors) (d : DevId) (answer : Option (List UInt8)) : Prop
  | frame {frame : List UInt8} (received : answer = some frame) (good : GoodFrame d frame)
      (fine : s.devError d = false)
      (values : ∀ j, s.values.dist.get (d.sensor j) = frameDist frame j ∧
        s.values.signal.get (d.sensor j) = frameSignal frame j ∧
        s.values.error.get (d.sensor j) = frameError frame j)
  | error (bad : ∀ frame, answer = some frame → ¬ GoodFrame d frame) (error : s.devError d = true)

variable {s cfg}

theorem Holds.reports {d : DevId} {answer : Option (List UInt8)} (holds : Holds s d answer)
    (value : StairwaySensorsGet) :
    (∀ frame, answer = some frame → GoodFrame d frame →
      ReportsFrame cfg d frame (s.stairwaySensorsGet cfg value)) ∧
    ((∀ frame, answer = some frame → ¬ GoodFrame d frame) →
      ReportsError d (s.stairwaySensorsGet cfg value)) := by
  have read := s.stairwaySensorsGet_reading cfg value d
  cases holds with
  | error bad error =>
    refine ⟨fun frame received good => absurd good (bad frame received), fun _ i => ?_⟩
    have reading := read i
    rw [StairwaySensors.reading, if_pos error] at reading
    exact ⟨congrArg Reading.error reading, congrArg Reading.state reading⟩
  | @frame frame received good fine values =>
    refine ⟨?_, fun bad => absurd good (bad _ received)⟩
    intro frame' received' _
    have same : frame = frame' := Option.some.inj (received.symm.trans received')
    subst same
    have reading : ∀ i, (s.stairwaySensorsGet cfg value).reading (d.sensor i) =
        s.shown cfg d (cfg.flag d.swap) i := by
      intro i
      rw [read i, StairwaySensors.reading, if_neg (by simp [fine])]
    have dist := fun i => congrArg Reading.dist (reading i)
    constructor
    · exact fun i => (congrArg Reading.error (reading i)).trans (values _).2.2
    · exact fun i => (congrArg Reading.signal (reading i)).trans (values _).2.1
    · intro i
      apply (dist i).trans
      show (if s.values.signal.get _ ≥ signalThreshold then s.values.dist.get _ else maxRange) = _
      rw [(values _).1, (values _).2.1]
      by_cases weak : frameSignal frame (i ^^ cfg.flag d.swap) < signalThreshold
      · rw [if_pos weak, if_neg (by omega)]
      · rw [if_neg weak, if_pos (by omega)]
    · intro i
      have state := congrArg Reading.state (reading i)
      have same : (s.stairwaySensorsGet cfg value).dist.get (d.sensor i) = _ := dist i
      rw [same]
      exact state

/-! ## The callback -/

section
variable {d : DevId} {answer : List UInt8} {call : CallbackCall DevId}

/-- The callback leaves the other device alone. -/
theorem Holds.callback_other {e : DevId} {answer : Option (List UInt8)} (holds : Holds s e answer)
    (other : e ≠ call.cb) : Holds (s.callback call) e answer := by
  have apart : ∀ i j, e.sensor i ≠ call.cb.sensor j := fun i j same => other (sensor_inj.mp same).1
  have devError : (s.callback call).devError e = s.devError e := by
    unfold callback sensorParse
    split
    · exact if_neg other
    dsimp only
    split
    · split
      · rfl
      · exact if_neg other
    · rfl
  have values : ∀ j, (s.callback call).values.dist.get (e.sensor j) = s.values.dist.get (e.sensor j) ∧
      (s.callback call).values.signal.get (e.sensor j) = s.values.signal.get (e.sensor j) ∧
      (s.callback call).values.error.get (e.sensor j) = s.values.error.get (e.sensor j) := by
    intro j
    have keep : ∀ {α : Type} (a : PerSensor α) (x y : α),
        ((a.set (call.cb.sensor false) x).set (call.cb.sensor true) y).get (e.sensor j) =
          a.get (e.sensor j) := by
      intro α a x y
      rw [PerSensor.get_set_other _ _ (apart j true), PerSensor.get_set_other _ _ (apart j false)]
    unfold callback sensorParse
    split
    · exact ⟨rfl, rfl, rfl⟩
    dsimp only
    split
    · split
      · exact ⟨rfl, rfl, rfl⟩
      · exact ⟨keep _ _ _, keep _ _ _, keep _ _ _⟩
    · exact ⟨rfl, rfl, rfl⟩
  cases holds with
  | error bad error => exact .error bad (devError.trans error)
  | frame received good fine stored =>
    refine .frame received good (devError.trans fine) fun j => ?_
    obtain ⟨dist, signal, error⟩ := values j
    rw [dist, signal, error]
    exact stored j

/-- A failed poll sets the error flag. -/
theorem holds_failed (failed : call.status ≠ .success) {answer : Option (List UInt8)}
    (bad : ∀ frame, answer = some frame → ¬ GoodFrame call.cb frame) :
    Holds (s.callback call) call.cb answer := by
  apply Holds.error bad
  unfold callback sensorParse
  rw [if_pos failed]
  exact if_pos rfl

/-- The values of a device after those of a payload are stored. -/
theorem setValues_get (s : StairwaySensors) (d : DevId) (payload : List UInt8) (j : Bool) :
    (s.setValues d payload).values.dist.get (d.sensor j) =
        be16 (payload.getD (2 + 2 * j.toNat) 0) (payload.getD (3 + 2 * j.toNat) 0) ∧
      (s.setValues d payload).values.signal.get (d.sensor j) =
        be16 (payload.getD (6 + 2 * j.toNat) 0) (payload.getD (7 + 2 * j.toNat) 0) ∧
      (s.setValues d payload).values.error.get (d.sensor j) =
        (be16 (payload.getD 10 0) (payload.getD 11 0) &&& 2 ^ j.toNat == 2 ^ j.toNat) := by
  have apart : d.sensor false ≠ d.sensor true := fun same => by cases (sensor_inj.mp same).2
  cases j with
  | false =>
    refine ⟨?_, ?_, ?_⟩
    all_goals
      apply (PerSensor.get_set_other _ _ apart).trans
      exact PerSensor.get_set_same _ _ _
  | true => exact ⟨PerSensor.get_set_same _ _ _, PerSensor.get_set_same _ _ _, PerSensor.get_set_same _ _ _⟩

/-- A decoded answer is stored, or counted as an error; when its payload is too short the flag stays,
and has to be set already. -/
theorem holds_decoded (decodes : ModbusMaster.Decodes d.request answer call)
    (flagged : ModbusMaster.AnswerFrame d.request answer →
      (answer.getD 2 0).toNat < sensorPayloadLen → s.devError d = true) :
    Holds (s.callback call) d (some answer) := by
  have same : d = call.cb := Option.some.inj decodes.own
  by_cases status : call.status = .success
  · have answers := decodes.success.mp status
    obtain ⟨raw, rawAnswer, rawSame⟩ := decodes.raw status
    obtain ⟨payload, given, payloadLen, payloadSame⟩ := decodes.payload status (Or.inl rfl)
    have long : d.request.answerLen = 17 := rfl
    have func : raw.getD 1 0 = 3 := (rawSame 1 (by omega)).trans answers.2.2.1
    unfold callback sensorParse
    rw [if_neg (by simp [status]), rawAnswer, given]
    dsimp only [Option.getD_some]
    rw [if_pos (Or.inl func), payloadLen]
    split
    case isTrue short =>
      apply Holds.error _ (flagged answers short)
      intro frame received good
      cases received
      have enough := good.2
      omega
    case isFalse enough =>
      refine .frame rfl ⟨answers, by omega⟩ ?_ ?_
      · show (if d = call.cb then false else s.devError d) = false
        exact if_pos same
      · intro j
        have register : ∀ k, k < 6 → be16 (payload.getD (2 * k) 0) (payload.getD (2 * k + 1) 0) =
            frameRegister answer k := by
          intro k inside
          rw [payloadSame _ (by omega), payloadSame _ (by omega), frameRegister]
          congr 2
          · omega
          · omega
        obtain ⟨dist, signal, error⟩ := setValues_get (s.setError call.cb false) call.cb payload j
        have bits : (be16 (payload.getD 10 0) (payload.getD 11 0) &&& 2 ^ j.toNat == 2 ^ j.toNat) =
            frameError answer j := by
          unfold frameError
          rw [← register 5 (by omega)]
        rw [same, dist, signal, error]
        cases j with
        | false => exact ⟨register 1 (by omega), register 3 (by omega), bits⟩
        | true => exact ⟨register 2 (by omega), register 4 (by omega), bits⟩
  · rw [same]
    apply holds_failed status
    intro frame received good
    cases received
    rw [← same] at good
    exact status (decodes.success.mpr good.1)

end

/-! ## Runs -/

/-- The outstanding poll of the device is answered with a payload that is too short: a frame with its
id, its function and a matching CRC. -/
structure ShortAnswer (s : StairwaySensors) (inp : PollInput) (d : DevId) : Prop where
  busy : s.modbus.busy = true
  polled : s.modbus.lastRequest = d.request
  full : s.modbus.Full inp.routineRx
  answers : ModbusMaster.AnswerFrame d.request (s.modbus.stored ++ inp.routineRx.all)
  short : ((s.modbus.stored ++ inp.routineRx.all).getD 2 0).toNat < sensorPayloadLen

/-- A step does not leave old values behind: a device that gives a short answer is in error already. -/
def KeepsFresh (s : StairwaySensors) : Event → Prop
  | .poll inp => ∀ d, ShortAnswer s inp d → s.devError d = true
  | .byte _ => True

/-- The invariant of runs. -/
structure Inv (s : StairwaySensors) : Prop where
  modbus : s.modbus.Inv
  polled : s.modbus.busy = true → ∃ d : DevId, s.modbus.lastRequest = d.request
  holds : ∀ d answer, lastPoll d s.modbus.history = some answer → Holds s d answer

theorem boot_inv : Inv boot where
  modbus := ModbusMaster.boot_inv
  polled := fun busy => by cases busy
  holds := fun d answer last => by cases last

/-- What holds of a device is about the variables of this module. -/
theorem Holds.congr {s s' : StairwaySensors} {d : DevId} {answer : Option (List UInt8)}
    (holds : Holds s d answer) (values : s'.values = s.values) (devError : s'.devError = s.devError) :
    Holds s' d answer := by
  cases holds with
  | error bad error => exact .error bad (by rw [devError]; exact error)
  | frame received good fine stored => exact .frame received good (by rw [devError]; exact fine) (by
      rw [values]
      exact stored)

theorem request_supported (d : DevId) : ModbusMaster.Supported d.request := by
  refine ⟨by cases d <;> decide, ?_, by cases d <;> decide⟩
  intro frame sent
  cases d <;> cases sent <;> decide

/-- A poll that is completed. -/
theorem Inv.called {s : StairwaySensors} (inv : Inv s) {call : CallbackCall DevId}
    {answer : Option (List UInt8)} {modbus : ModbusMaster DevId} (modbusInv : modbus.Inv)
    (idle : modbus.busy = false)
    (pushed : ModbusMaster.calls modbus.history = (call, answer) :: ModbusMaster.calls s.modbus.history)
    (holds : Holds (s.callback call) call.cb answer) : Inv { s.callback call with modbus := modbus } := by
  refine ⟨modbusInv, fun busy => ?_, ?_⟩
  · cases idle.symm.trans busy
  · intro e answer' last
    have found : lastPoll e modbus.history = some answer' := last
    unfold lastPoll at found
    rw [pushed] at found
    refine Holds.congr (s := s.callback call) ?_ rfl rfl
    by_cases same : call.cb = e
    · rw [List.find?_cons_of_pos (by simpa using same)] at found
      cases found
      rw [← same]
      exact holds
    · rw [List.find?_cons_of_neg (by simpa using same)] at found
      exact (inv.holds e answer' found).callback_other fun other => same other.symm

/-- The first half of `stairway_sensors_routine`: the callback of a poll that is completed. -/
theorem Inv.polls {s : StairwaySensors} (inv : Inv s) {inp : PollInput} (keeps : KeepsFresh s (.poll inp))
    {call : Option (CallbackCall DevId)} {modbus : ModbusMaster DevId} (modbusInv : modbus.Inv)
    (polls : s.modbus.Polls inp.routineRx call modbus) :
    Inv { s.afterPoll call with modbus := modbus } := by
  cases polls with
  | waiting same busy lastRequest =>
    refine ⟨modbusInv, fun busy' => ?_, fun d answer last => ?_⟩
    · obtain ⟨d, polled⟩ := inv.polled (busy.symm.trans busy')
      exact ⟨d, lastRequest.trans polled⟩
    · have last' := (lastPoll_congr same d).symm.trans last
      exact (inv.holds d answer last').congr rfl rfl
  | timeout busy idle request own status pushed =>
    apply inv.called modbusInv idle pushed
    apply holds_failed (by simp [status])
    intro frame received
    cases received
  | decoded busy idle full decodes pushed =>
    apply inv.called modbusInv idle pushed
    obtain ⟨d, polled⟩ := inv.polled busy
    have answerLen : s.modbus.answerLen = d.request.answerLen := by
      rw [(inv.modbus.outstanding busy).answerLen, polled]
    rw [polled, answerLen] at decodes
    have same : d = _ := Option.some.inj decodes.own
    rw [answerLen, ← same]
    apply holds_decoded decodes
    intro answers short
    have whole := (ModbusMaster.answerFrame_take (Nat.le_refl _) _).mp answers
    have long : 2 < d.request.answerLen := by cases d <;> decide
    rw [ModbusMaster.getD_take long] at short
    exact keeps d ⟨busy, polled, full, whole, short⟩

theorem step_ends {s : StairwaySensors} (inv : Inv s) {e : Event} (keeps : KeepsFresh s e) :
    Ends (s.step e) Inv ModbusMaster.Waits := by
  cases e with
  | byte b =>
    apply (ModbusMaster.uartRxIrq_ends s.modbus b).bind
    intro modbus received
    refine ⟨inv.modbus.receives received, fun busy => ?_, fun d answer last => ?_⟩
    · obtain ⟨d, polled⟩ := inv.polled (received.busy.symm.trans busy)
      exact ⟨d, received.lastRequest.trans polled⟩
    · have last' := (lastPoll_congr received.history.calls d).symm.trans last
      exact (inv.holds d answer last').congr rfl rfl
  | poll inp =>
    apply (ModbusMaster.routine_ends inv.modbus inp.routineNow inp.routineRx []).bind
    intro (call, modbus) ⟨modbusInv, polls⟩
    have after := inv.polls keeps modbusInv polls
    dsimp only
    generalize s.afterPoll call = t at after
    split
    case isTrue sending =>
      have idle : modbus.busy = false := by simpa using sending.1
      have sends : ∀ r, some t.nextDev.request = some r →
          ModbusMaster.Supported r ∧ ¬ ModbusMaster.LosesByte r inp.sendRx.beforeClear := by
        intro r same
        cases same
        refine ⟨request_supported t.nextDev, fun loses => ?_⟩
        have id := loses.1
        cases dev : t.nextDev <;> rw [dev] at id <;> cases id
      apply (ModbusMaster.sendCall_ends modbusInv inp.sendNow sends).bind
      intro modbus' ⟨modbusInv', sent⟩
      refine ⟨modbusInv', fun busy => ?_, fun d answer last => ?_⟩
      · cases sent.last busy with
        | inl accepted => exact ⟨t.nextDev, Option.some.inj accepted⟩
        | inr before => cases idle.symm.trans before.1
      · have last' := (lastPoll_congr sent.calls d).symm.trans last
        exact (after.holds d answer last').congr rfl rfl
    case isFalse waiting => exact after

/-- In a run whose steps leave no old values behind, what is reported is fresh. -/
theorem fresh_or_error {events : List Event}
    (keeps : ∀ before e after, events = before ++ e :: after →
      ∀ s, run boot before = .ok s → KeepsFresh s e) :
    ∀ s, run boot events = .ok s → Fresh s := by
  intro s returned
  have ends : Ends (run boot events) Inv ModbusMaster.Waits :=
    Ends.foldlM_along (fun s e inv keeps => step_ends inv keeps) boot_inv keeps
  have inv := ends.of_ok returned
  intro d answer last cfg value
  exact (inv.holds d answer last).reports value

/-- A call of `stairway_sensors_routine` while no byte arrives. -/
def quietPoll (now : Nat) : Event := .poll ⟨now, ⟨[], [], []⟩, now, ⟨[], []⟩, now⟩

/-- Without a byte there is no short answer. -/
theorem keepsFresh_quiet {s : StairwaySensors} (empty : s.modbus.receiveCounter = 0) (now : Nat) :
    KeepsFresh s (quietPoll now) := by
  intro d short
  have nothing : s.modbus.stored ++ ModbusMaster.RoutineRx.all ⟨[], [], []⟩ = [] := by
    rw [ModbusMaster.stored, empty]
    rfl
  have long : d.request.answerLen ≤
      (s.modbus.stored ++ ModbusMaster.RoutineRx.all ⟨[], [], []⟩).length := short.answers.1
  rw [nothing] at long
  cases d <;> cases long

/-- A device that does not answer: an error is reported. -/
theorem fresh_or_error_silent :
    ∃ s, run boot [quietPoll 40, quietPoll 200] = .ok s ∧ Fresh s := by
  have ends : (run boot [quietPoll 40, quietPoll 200]).isOk = true := by decide +kernel
  cases returned : run boot [quietPoll 40, quietPoll 200] with
  | error stuck =>
    rw [returned] at ends
    cases ends
  | ok s =>
    refine ⟨s, rfl, fresh_or_error ?_ s returned⟩
    intro before e after split s returned
    match before, split with
    | [], split =>
      cases split
      cases returned
      exact keepsFresh_quiet rfl 40
    | [_], split =>
      cases split
      have empty : (run boot [quietPoll 40]).toOption.all (fun s => s.modbus.receiveCounter == 0) = true := by
        decide +kernel
      rw [returned] at empty
      exact keepsFresh_quiet (beq_iff_eq.mp empty) 200
    | _ :: _ :: before, split =>
      have length := congrArg List.length split
      simp only [List.length_cons, List.length_append, List.length_nil] at length
      omega

/-! A stale reading: the second answer of a device has a payload of no bytes. -/

def presentFrame : List UInt8 := [2, 3, 12, 0, 0, 0, 100, 0, 100, 0, 20, 0, 20, 0, 0, 31, 114]
def shortFrame : List UInt8 := [2, 3, 0, 0, 0, 0, 0, 0, 0, 0, 0, 0, 0, 0, 0, 193, 189]

def staleRun : List Event :=
  quietPoll 40 :: presentFrame.map .byte ++ quietPoll 80 :: quietPoll 200 ::
    shortFrame.map .byte ++ [quietPoll 300]

/-- Somebody is reported after the short answer. -/
def reportsPresence (s : StairwaySensors) : Bool :=
  lastPoll .up s.modbus.history == some (some shortFrame) &&
    (s.stairwaySensorsGet defaultSettings boot.values).state.get .upFirst

theorem fresh_or_error_fail : ∃ s, run boot staleRun = .ok s ∧ ¬ Fresh s := by
  have stale : (run boot staleRun).toOption.any reportsPresence = true := by decide +kernel
  cases returned : run boot staleRun with
  | error stuck =>
    rw [returned] at stale
    cases stale
  | ok s =>
    rw [returned] at stale
    refine ⟨s, rfl, fun fresh => ?_⟩
    have present : reportsPresence s = true := stale
    simp only [reportsPresence, Bool.and_eq_true, beq_iff_eq] at present
    have bad : ∀ frame, some shortFrame = some frame → ¬ GoodFrame .up frame := by
      intro frame same good
      cases same
      exact absurd good.2 (by decide)
    have error := (fresh .up _ present.1 defaultSettings boot.values).2 bad false
    have absent : (s.stairwaySensorsGet defaultSettings boot.values).state.get .upFirst = false := error.2
    rw [present.2] at absent
    cases absent

end StairwaySensors

end Stairway
