import Stairway.Network.HttpRequest

/-!
# Requests cut into segments

The header of a stream has an end for every separator that it contains. A request is read with
the end that shows in the first segment boundary at or after one of them (`Reads`), and from
then on the outcome depends on the stream only (`verdict`). So segmentation matters exactly when
the stream has two ends with different verdicts (`segmentation_independent_iff`).
-/

namespace Stairway
open Firmware

/-! ## Outcomes -/

/-- What becomes of a stream, with what `handle_request` sees of it. -/
inductive Outcome
  | waiting
  | tooLarge
  | processed (header : List UInt8) (bodyOffset contentLen : Nat) (body : List UInt8)
  deriving DecidableEq

def Reception.outcome : Reception → Outcome
  | .waiting _ => .waiting
  | .tooLarge => .tooLarge
  | .ready request => .processed (cString request.data) request.bodyOffset request.contentLen
      (load request.data request.bodyOffset request.contentLen)

/-- A way of cutting a stream into non-empty segments. -/
structure Cutting (stream : List UInt8) where
  segments : List (List UInt8)
  nonempty : ∀ p ∈ segments, p ≠ []
  joined : segments.flatten = stream

section
variable (stream : List UInt8) (pos sepLen : Nat)

/-- The content length that a header ending at `pos` announces. -/
def announced : Nat := getContentLength ((cString stream).take pos)

/-- The announced body does not fit the buffer. -/
def TooLarge : Prop := announced stream pos > httpRequestMaxSize - (pos + sepLen)

/-- The announced body fits, and has not arrived. -/
def Incomplete : Prop :=
  ¬ TooLarge stream pos sepLen ∧ stream.length - (pos + sepLen) < announced stream pos

instance : Decidable (TooLarge stream pos sepLen) := inferInstanceAs (Decidable (_ > _))

/-- The outcome for a stream that is read with the end of the header at `pos`. -/
def verdict : Outcome :=
  if TooLarge stream pos sepLen then .tooLarge
  else if stream.length - (pos + sepLen) < announced stream pos then .waiting
  else .processed ((cString stream).take pos) (pos + sepLen) (announced stream pos)
    ((stream.drop (pos + sepLen)).take (announced stream pos))

end

/-! ## The ends of a header -/

/-- The header of `stream` is read up to `pos` when that shows at some segment boundary. -/
def Reads (stream : List UInt8) (pos sepLen : Nat) : Prop :=
  ∃ k, headerEnd ((cString stream).take k) = some (pos, sepLen)

section
variable {s : List UInt8} {k pos sepLen : Nat}

theorem headerEnd_eq_none : headerEnd s = none ↔
    offsetOf crlfcrlf s = none ∧ offsetOf lflf s = none := by
  unfold headerEnd
  cases offsetOf crlfcrlf s with
  | some q => simp
  | none =>
    cases offsetOf lflf s with
    | some p => simp
    | none => simp

theorem headerEnd_eq_some : headerEnd s = some (pos, sepLen) ↔
    (offsetOf crlfcrlf s = some pos ∧ sepLen = 4) ∨
      (offsetOf crlfcrlf s = none ∧ offsetOf lflf s = some pos ∧ sepLen = 2) := by
  unfold headerEnd
  cases offsetOf crlfcrlf s with
  | some q =>
    simp only [Option.some.injEq, Prod.mk.injEq, reduceCtorEq, false_and, or_false]
    exact and_congr_right (fun _ => eq_comm)
  | none =>
    cases offsetOf lflf s with
    | some p =>
      simp only [Option.some.injEq, Prod.mk.injEq, reduceCtorEq, false_and, false_or, true_and]
      exact and_congr_right (fun _ => eq_comm)
    | none => simp

theorem headerEnd_inside (found : headerEnd s = some (pos, sepLen)) :
    0 < sepLen ∧ pos + sepLen ≤ s.length := by
  have long : crlfcrlf.length = 4 := rfl
  have long' : lflf.length = 2 := rfl
  rcases headerEnd_eq_some.mp found with ⟨crlf, four⟩ | ⟨-, lf, two⟩
  · have inside := offsetOf_le crlf
    omega
  · have inside := offsetOf_le lf
    omega

/-- An end that shows in a prefix of the text. -/
theorem headerEnd_take (found : headerEnd (s.take k) = some (pos, sepLen)) :
    pos + sepLen ≤ k ∧ ((offsetOf crlfcrlf s = some pos ∧ sepLen = 4) ∨
      (offsetOf lflf s = some pos ∧ sepLen = 2 ∧
        ∀ q, offsetOf crlfcrlf s = some q → pos + 2 < q + 4)) := by
  rcases headerEnd_eq_some.mp found with ⟨crlf, four⟩ | ⟨hidden, lf, two⟩
  · obtain ⟨crlf, fits⟩ := (offsetOf_take_iff (by decide)).mp crlf
    have length : crlfcrlf.length = 4 := rfl
    exact ⟨by omega, Or.inl ⟨crlf, four⟩⟩
  · obtain ⟨lf, fits⟩ := (offsetOf_take_iff (by decide)).mp lf
    have length : lflf.length = 2 := rfl
    refine ⟨by omega, Or.inr ⟨lf, two, fun q crlf => ?_⟩⟩
    by_contra early
    have long : crlfcrlf.length = 4 := rfl
    have shown := (offsetOf_take_iff (by decide)).mpr ⟨crlf, (by omega : q + crlfcrlf.length ≤ k)⟩
    rw [hidden] at shown
    cases shown

/-- A text without an end has none in a prefix. -/
theorem headerEnd_take_none (absent : headerEnd s = none) : headerEnd (s.take k) = none := by
  obtain ⟨crlf, lf⟩ := headerEnd_eq_none.mp absent
  cases found : headerEnd (s.take k) with
  | none => rfl
  | some place =>
    rcases (headerEnd_take found).2 with ⟨here, -⟩ | ⟨here, -⟩
    · rw [crlf] at here
      cases here
    · rw [lf] at here
      cases here

end

/-! ## The buffer of a request -/

namespace HttpRequest

/-- The buffer holds `bytes`, and nothing but zeros after them. -/
structure Holds (request : HttpRequest) (bytes : List UInt8) : Prop where
  data : request.data = bytes ++ List.replicate (httpRequestMaxSize + 1 - bytes.length) 0
  dataLen : request.dataLen = bytes.length
  fits : bytes.length ≤ httpRequestMaxSize

/-- Before the end of the header has shown. -/
structure Fresh (request : HttpRequest) (received : List UInt8) : Prop where
  holds : request.Holds received
  waits : request.headerComplete = false

/-- After the header has been read up to `pos`. -/
structure Split (request : HttpRequest) (received : List UInt8) (pos sepLen : Nat) : Prop where
  holds : request.Holds (received.set pos 0)
  inside : pos < (cString received).length
  past : pos + sepLen ≤ received.length
  separated : 0 < sepLen
  complete : request.headerComplete = true
  bodyOffset : request.bodyOffset = pos + sepLen
  contentLen : request.contentLen = getContentLength ((cString received).take pos)
  small : ¬ request.contentLen > httpRequestMaxSize - request.bodyOffset

theorem init_fresh : Fresh .init [] where
  holds := ⟨rfl, rfl, Nat.zero_le _⟩
  waits := rfl

section
variable {request : HttpRequest} {bytes received p : List UInt8} {pos sepLen : Nat}

/-- The buffer ends with a terminator. -/
theorem Holds.terminated (holds : request.Holds bytes) : request.data =
    bytes ++ 0 :: List.replicate (httpRequestMaxSize - bytes.length) 0 := by
  have fits := holds.fits
  rw [holds.data, ← List.replicate_succ]
  congr 2
  omega

/-- The string in the buffer is that of the bytes it holds. -/
theorem Holds.string (holds : request.Holds bytes) : cString request.data = cString bytes := by
  rw [holds.terminated, cString_append_zero]

/-- A segment is appended. -/
theorem Holds.append (holds : request.Holds bytes) (room : (bytes ++ p).length ≤ httpRequestMaxSize) :
    (request.append p).Holds (bytes ++ p) := by
  rw [List.length_append] at room
  constructor
  · change store request.data request.dataLen (p ++ [0]) = _
    rw [holds.data, holds.dataLen, store_append, store_zero]
    · have rest : httpRequestMaxSize + 1 - bytes.length - (p ++ [0]).length + 1 =
          httpRequestMaxSize + 1 - (bytes ++ p).length := by
        rw [List.length_append, List.length_append, List.length_singleton]
        omega
      rw [List.drop_replicate, List.append_assoc, List.append_assoc, List.singleton_append,
        ← List.replicate_succ, rest]
    · rw [List.length_append, List.length_replicate, List.length_singleton]
      omega
  · change request.dataLen + p.length = (bytes ++ p).length
    rw [holds.dataLen, List.length_append]
  · rw [List.length_append]
    exact room

/-- A byte of the buffer is overwritten with a terminator. -/
theorem Holds.cut (holds : request.Holds bytes) (inside : pos < bytes.length) :
    (request.write pos [0]).Holds (bytes.set pos 0) := by
  constructor
  · change store request.data pos [0] = _
    rw [store_singleton, holds.data, List.set_append_left _ _ inside, List.length_set]
  · rw [List.length_set]
    exact holds.dataLen
  · rw [List.length_set]
    exact holds.fits

/-- A segment that arrives after the header. -/
theorem Split.append (split : request.Split received pos sepLen)
    (room : (received ++ p).length ≤ httpRequestMaxSize) :
    (request.append p).Split (received ++ p) pos sepLen := by
  have short : pos < received.length := Nat.lt_of_lt_of_le split.inside (length_cString_le received)
  have longer : (cString received).take (pos + 1) = (cString (received ++ p)).take (pos + 1) :=
    (cString_append_take split.inside p).symm
  have inside' : pos < (cString (received ++ p)).length := by
    have inside := split.inside
    have lengths := congrArg List.length longer
    rw [List.length_take, List.length_take] at lengths
    omega
  refine ⟨?_, inside', ?_, split.separated, split.complete, split.bodyOffset, ?_, split.small⟩
  · rw [List.set_append_left _ _ short]
    apply split.holds.append
    rw [List.length_append, List.length_set]
    rw [List.length_append] at room
    exact room
  · have past := split.past
    rw [List.length_append]
    omega
  · rw [cString_append_take (Nat.le_of_lt split.inside)]
    exact split.contentLen

/-- What the handler sees once the body has arrived. -/
theorem Split.awaitBody (split : request.Split received pos sepLen) :
    (received.length - (pos + sepLen) < request.contentLen ∧
        request.awaitBody = .waiting request) ∨
      (¬ received.length - (pos + sepLen) < request.contentLen ∧
        ∃ done, request.awaitBody = .ready done ∧
          (Reception.ready done).outcome = .processed ((cString received).take pos) (pos + sepLen)
            request.contentLen ((received.drop (pos + sepLen)).take request.contentLen)) := by
  have length : request.dataLen = received.length := by
    rw [split.holds.dataLen, List.length_set]
  have separated := split.separated
  rw [HttpRequest.awaitBody, length, split.bodyOffset]
  by_cases short : received.length - (pos + sepLen) < request.contentLen
  · rw [if_pos short]
    exact Or.inl ⟨short, rfl⟩
  · rw [if_neg short]
    refine Or.inr ⟨short, _, rfl, ?_⟩
    change Outcome.processed
      (cString (store request.data (pos + sepLen + request.contentLen) [0])) request.bodyOffset
      request.contentLen (load (store request.data (pos + sepLen + request.contentLen) [0])
        request.bodyOffset request.contentLen) = _
    have header : cString (store request.data (pos + sepLen + request.contentLen) [0]) =
        (cString received).take pos := by
      have cut : cString request.data = (cString received).take pos := by
        rw [split.holds.data, cString_set split.inside]
      rw [← cut]
      refine cString_congr (k := pos + 1) ?_ ?_
      · rw [cut, List.length_take]
        omega
      · rw [store_singleton, List.take_set_of_le (by omega)]
    have body : load (store request.data (pos + sepLen + request.contentLen) [0])
        request.bodyOffset request.contentLen =
        (received.drop (pos + sepLen)).take request.contentLen := by
      rw [load_store_apart (by rw [split.bodyOffset]; exact Or.inl (Nat.le_refl _)), load,
        split.bodyOffset, split.holds.data,
        List.drop_append_of_le_length (by rw [List.length_set]; exact split.past),
        List.drop_set_of_lt (by omega),
        List.take_append_of_le_length (by rw [List.length_drop]; omega)]
    rw [header, body, split.bodyOffset]

theorem Split.receive (split : request.Split received pos sepLen)
    (room : (received ++ p).length ≤ httpRequestMaxSize) :
    request.receive p = (request.append p).awaitBody := by
  have length : request.dataLen = received.length := by
    rw [split.holds.dataLen, List.length_set]
  rw [List.length_append] at room
  have fits : ¬ p.length > httpRequestMaxSize - request.dataLen := by omega
  rw [HttpRequest.receive, if_neg fits, if_pos split.complete]

/-- A handled request ignores what follows. -/
theorem foldl_ready (done : HttpRequest) (segments : List (List UInt8)) :
    segments.foldl Reception.receive (.ready done) = .ready done := by
  induction segments with
  | nil => rfl
  | cons p segments ih => exact ih

theorem foldl_tooLarge (segments : List (List UInt8)) :
    segments.foldl Reception.receive .tooLarge = .tooLarge := by
  induction segments with
  | nil => rfl
  | cons p segments ih => exact ih

/-- Once the header is read, the outcome is that of the stream. -/
theorem Split.run {w : List UInt8} (split : request.Split received pos sepLen)
    (segments : List (List UInt8)) (whole : received ++ segments.flatten = w)
    (room : w.length ≤ httpRequestMaxSize) :
    (segments.foldl Reception.receive request.awaitBody).outcome = verdict w pos sepLen := by
  have header : (cString w).take pos = (cString received).take pos := by
    rw [← whole]
    exact cString_append_take (Nat.le_of_lt split.inside) _
  have length : announced w pos = request.contentLen := by
    rw [announced, header, split.contentLen]
  have small : ¬ TooLarge w pos sepLen := by
    rw [TooLarge, length, ← split.bodyOffset]
    exact split.small
  induction segments generalizing request received with
  | nil =>
    rw [List.flatten_nil, List.append_nil] at whole
    subst whole
    rw [verdict, if_neg small, length]
    rcases split.awaitBody with ⟨short, waits⟩ | ⟨arrived, done, ready, outcome⟩
    · rw [if_pos short, waits]
      rfl
    · rw [if_neg arrived, ready]
      exact outcome
  | cons p segments ih =>
    have past := split.past
    have longer := congrArg List.length whole
    rw [List.flatten_cons, List.length_append, List.length_append] at longer
    rcases split.awaitBody with ⟨short, waits⟩ | ⟨arrived, done, ready, outcome⟩
    · have room' : (received ++ p).length ≤ httpRequestMaxSize := by
        rw [List.length_append]
        omega
      have next := split.append room'
      rw [List.flatten_cons, ← List.append_assoc] at whole
      rw [waits, List.foldl_cons, Reception.receive, split.receive room']
      refine ih next whole ?_ (length.trans rfl)
      rw [← whole]
      exact cString_append_take (Nat.le_of_lt next.inside) _
    · have body : (w.drop (pos + sepLen)).take request.contentLen =
          (received.drop (pos + sepLen)).take request.contentLen := by
        rw [← whole, List.drop_append_of_le_length past,
          List.take_append_of_le_length (by rw [List.length_drop]; omega)]
      rw [ready, foldl_ready, outcome, verdict, if_neg small, length, if_neg (by omega), header, body]

theorem Fresh.append (fresh : request.Fresh received)
    (room : (received ++ p).length ≤ httpRequestMaxSize) :
    (request.append p).Fresh (received ++ p) ∧ request.receive p = (request.append p).awaitHeader := by
  have length := fresh.holds.dataLen
  refine ⟨⟨fresh.holds.append room, fresh.waits⟩, ?_⟩
  rw [List.length_append] at room
  have fits : ¬ p.length > httpRequestMaxSize - request.dataLen := by omega
  rw [HttpRequest.receive, if_neg fits, if_neg (by rw [fresh.waits]; decide)]

/-- The end of the header shows. -/
theorem Fresh.split (fresh : request.Fresh received)
    (found : headerEnd (cString received) = some (pos, sepLen)) :
    (TooLarge received pos sepLen ∧ request.awaitHeader = .tooLarge) ∨
      ∃ next : HttpRequest, next.Split received pos sepLen ∧ request.awaitHeader = next.awaitBody := by
  have short := length_cString_le received
  obtain ⟨separated, inString⟩ := headerEnd_inside found
  have inside : pos < (cString received).length := by omega
  have past : pos + sepLen ≤ received.length := by omega
  have held : pos < received.length := by omega
  have cut := fresh.holds.cut held
  have header : cString (request.write pos [0]).data = (cString received).take pos := by
    rw [cut.data, cString_set inside]
  rw [HttpRequest.awaitHeader, fresh.holds.string, found]
  dsimp only
  rw [header]
  split
  · rename_i large
    exact Or.inl ⟨large, rfl⟩
  · rename_i small
    refine Or.inr ⟨_, ?_, rfl⟩
    exact ⟨⟨cut.data, cut.dataLen, cut.fits⟩, inside, past, separated, rfl, rfl, rfl, small⟩

/-- The header shows: the stream is read with this end. -/
theorem Fresh.found {w : List UInt8} (fresh : request.Fresh received) (segments : List (List UInt8))
    (whole : received ++ segments.flatten = w) (room : w.length ≤ httpRequestMaxSize)
    (found : headerEnd (cString received) = some (pos, sepLen)) : Reads w pos sepLen ∧
      (segments.foldl Reception.receive request.awaitHeader).outcome = verdict w pos sepLen := by
  constructor
  · refine ⟨received.length, ?_⟩
    rw [← cString_take, ← whole, List.take_left, found]
  · rcases fresh.split found with ⟨large, closed⟩ | ⟨next, split, goes⟩
    · obtain ⟨-, inside⟩ := headerEnd_inside found
      have header : (cString w).take pos = (cString received).take pos := by
        rw [← whole]
        exact cString_append_take (by omega) _
      have large' : TooLarge w pos sepLen := by
        rw [TooLarge, announced, header]
        exact large
      rw [closed, foldl_tooLarge, verdict, if_pos large']
      rfl
    · rw [goes]
      exact split.run segments whole room

/-- What becomes of a stream whose header has not shown yet. -/
theorem Fresh.run {w : List UInt8} (fresh : request.Fresh received) (segments : List (List UInt8))
    (whole : received ++ segments.flatten = w) (room : w.length ≤ httpRequestMaxSize) :
    ((segments.foldl Reception.receive request.awaitHeader).outcome = .waiting ∧
        headerEnd (cString w) = none) ∨
      ∃ pos sepLen, Reads w pos sepLen ∧
        (segments.foldl Reception.receive request.awaitHeader).outcome = verdict w pos sepLen := by
  induction segments generalizing request received with
  | nil =>
    cases shown : headerEnd (cString received) with
    | some place => exact Or.inr ⟨place.1, place.2, fresh.found [] whole room shown⟩
    | none =>
      rw [List.flatten_nil, List.append_nil] at whole
      subst whole
      refine Or.inl ⟨?_, shown⟩
      rw [HttpRequest.awaitHeader, fresh.holds.string, shown]
      rfl
  | cons p segments ih =>
    cases shown : headerEnd (cString received) with
    | some place => exact Or.inr ⟨place.1, place.2, fresh.found (p :: segments) whole room shown⟩
    | none =>
      have waits : request.awaitHeader = .waiting request := by
        rw [HttpRequest.awaitHeader, fresh.holds.string, shown]
      have longer := congrArg List.length whole
      rw [List.flatten_cons, List.length_append, List.length_append] at longer
      have room' : (received ++ p).length ≤ httpRequestMaxSize := by
        rw [List.length_append]
        omega
      obtain ⟨fresh', goes⟩ := fresh.append room'
      rw [waits, List.foldl_cons, Reception.receive, goes]
      apply ih fresh'
      rw [List.append_assoc]
      exact whole

end

end HttpRequest

/-! ## Independence of segmentation -/

/-- **The outcome of a stream, however it is cut**: it waits for the end of its header, or is read
with one of them. -/
theorem receiveAll_outcome {w : List UInt8} (c : Cutting w) (room : w.length ≤ httpRequestMaxSize) :
    ((receiveAll c.segments).outcome = .waiting ∧ headerEnd (cString w) = none) ∨
      ∃ pos sepLen, Reads w pos sepLen ∧ (receiveAll c.segments).outcome = verdict w pos sepLen := by
  have start : (HttpRequest.init).awaitHeader = .waiting .init := by
    rw [HttpRequest.awaitHeader, HttpRequest.init_fresh.holds.string]
    rfl
  rw [receiveAll, ← start]
  exact HttpRequest.init_fresh.run c.segments c.joined room

/-- The stream contains a `"\n\n"` that ends before the first `"\r\n\r\n"` does, and neither end
makes it too large, or incomplete, together with the other. -/
def Ambiguous (stream : List UInt8) : Prop :=
  ∃ lf crlf, offsetOf lflf (cString stream) = some lf ∧ offsetOf crlfcrlf (cString stream) = some crlf ∧
    lf + 2 < crlf + 4 ∧
    ¬ (TooLarge stream lf 2 ∧ TooLarge stream crlf 4) ∧
    ¬ (Incomplete stream lf 2 ∧ Incomplete stream crlf 4)

theorem verdict_cases (stream : List UInt8) (pos sepLen : Nat) :
    (TooLarge stream pos sepLen ∧ ¬ Incomplete stream pos sepLen ∧
        verdict stream pos sepLen = .tooLarge) ∨
      (¬ TooLarge stream pos sepLen ∧ Incomplete stream pos sepLen ∧
        verdict stream pos sepLen = .waiting) ∨
      (¬ TooLarge stream pos sepLen ∧ ¬ Incomplete stream pos sepLen ∧
        ∃ header contentLen body,
          verdict stream pos sepLen = .processed header (pos + sepLen) contentLen body) := by
  unfold verdict Incomplete
  by_cases large : TooLarge stream pos sepLen
  · rw [if_pos large]
    exact Or.inl ⟨large, fun both => both.1 large, rfl⟩
  · rw [if_neg large]
    by_cases short : stream.length - (pos + sepLen) < announced stream pos
    · rw [if_pos short]
      exact Or.inr (Or.inl ⟨large, ⟨large, short⟩, rfl⟩)
    · rw [if_neg short]
      exact Or.inr (Or.inr ⟨large, fun both => short both.2, _, _, _, rfl⟩)

/-- Two ends have the same verdict only if it says nothing about the request. -/
theorem verdict_eq_iff {w : List UInt8} {lf crlf : Nat} (order : lf + 2 < crlf + 4) :
    verdict w lf 2 = verdict w crlf 4 ↔
      (TooLarge w lf 2 ∧ TooLarge w crlf 4) ∨ (Incomplete w lf 2 ∧ Incomplete w crlf 4) := by
  rcases verdict_cases w lf 2 with ⟨large, late, same⟩ | ⟨large, late, same⟩ | ⟨large, late, _, _, _, same⟩
  · rcases verdict_cases w crlf 4 with
      ⟨large', late', same'⟩ | ⟨large', late', same'⟩ | ⟨large', late', _, _, _, same'⟩ <;>
      simp [same, same', large, large', late, late']
  · rcases verdict_cases w crlf 4 with
      ⟨large', late', same'⟩ | ⟨large', late', same'⟩ | ⟨large', late', _, _, _, same'⟩ <;>
      simp [same, same', large, large', late, late']
  · rcases verdict_cases w crlf 4 with
      ⟨large', late', same'⟩ | ⟨large', late', same'⟩ | ⟨large', late', _, _, _, same'⟩
    · simp [same, same', large, late]
    · simp [same, same', large, late]
    · -- the body begins at different places
      refine iff_of_false (fun equal => ?_) (by simp [large, late])
      rw [same, same'] at equal
      injection equal with _ offset
      omega

/-- Ambiguous streams are those with two ends of different verdicts. -/
theorem ambiguous_iff {stream : List UInt8} : Ambiguous stream ↔ ∃ lf crlf,
    offsetOf lflf (cString stream) = some lf ∧ offsetOf crlfcrlf (cString stream) = some crlf ∧
      lf + 2 < crlf + 4 ∧ verdict stream lf 2 ≠ verdict stream crlf 4 := by
  unfold Ambiguous
  constructor
  · rintro ⟨lf, crlf, found, found', order, large, late⟩
    refine ⟨lf, crlf, found, found', order, fun same => ?_⟩
    rcases (verdict_eq_iff order).mp same with both | both
    · exact large both
    · exact late both
  · rintro ⟨lf, crlf, found, found', order, differs⟩
    refine ⟨lf, crlf, found, found', order, fun both => ?_, fun both => ?_⟩
    · exact differs ((verdict_eq_iff order).mpr (Or.inl both))
    · exact differs ((verdict_eq_iff order).mpr (Or.inr both))

/-- A stream is read with the end that its first segment shows. -/
theorem receiveAll_found {p : List UInt8} {segments : List (List UInt8)} {pos sepLen : Nat}
    (room : (p ++ segments.flatten).length ≤ httpRequestMaxSize)
    (found : headerEnd (cString p) = some (pos, sepLen)) :
    (receiveAll (p :: segments)).outcome = verdict (p ++ segments.flatten) pos sepLen := by
  have short : ([] ++ p).length ≤ httpRequestMaxSize := by
    rw [List.length_append] at room
    rw [List.nil_append]
    omega
  obtain ⟨fresh, goes⟩ := HttpRequest.init_fresh.append short
  rw [receiveAll, List.foldl_cons, Reception.receive, goes]
  exact (fresh.found segments rfl room found).2

/-- The whole stream as one segment. -/
def Cutting.whole (stream : List UInt8) (some : stream ≠ []) : Cutting stream where
  segments := [stream]
  nonempty := by simpa using some
  joined := by simp

/-- Two segments. -/
def Cutting.after (stream : List UInt8) (k : Nat) (front : stream.take k ≠ []) (back : stream.drop k ≠ []) :
    Cutting stream where
  segments := [stream.take k, stream.drop k]
  nonempty p member := by
    rcases List.mem_cons.mp member with same | member
    · rw [same]
      exact front
    · rw [List.mem_singleton.mp member]
      exact back
  joined := by simp

/-- **The handling of a request does not depend on its segmentation**, unless the stream is
ambiguous. -/
theorem segmentation_independent_iff (stream : List UInt8)
    (fits : stream.length ≤ httpRequestMaxSize) :
    (∀ c c' : Cutting stream,
        (receiveAll c.segments).outcome = (receiveAll c'.segments).outcome) ↔ ¬ Ambiguous stream := by
  rw [ambiguous_iff]
  constructor
  · rintro independent ⟨lf, crlf, found, found', order, differs⟩
    have inside := offsetOf_le found
    have inside' := offsetOf_le found'
    have short := length_cString_le stream
    have two : lflf.length = 2 := rfl
    have four : crlfcrlf.length = 4 := rfl
    have nonempty : stream ≠ [] := List.ne_nil_of_length_pos (by omega)
    have front : stream.take (lf + 2) ≠ [] :=
      List.ne_nil_of_length_pos (by rw [List.length_take]; omega)
    have back : stream.drop (lf + 2) ≠ [] :=
      List.ne_nil_of_length_pos (by rw [List.length_drop]; omega)
    have split : stream.take (lf + 2) ++ [stream.drop (lf + 2)].flatten = stream := by simp
    have whole : stream ++ [].flatten = stream := by simp
    -- the second end has not arrived with the first segment
    have hidden : offsetOf crlfcrlf ((cString stream).take (lf + 2)) = none := by
      cases shown : offsetOf crlfcrlf ((cString stream).take (lf + 2)) with
      | none => rfl
      | some q =>
        obtain ⟨same, early⟩ := (offsetOf_take_iff (by decide)).mp shown
        rw [found'] at same
        cases same
        omega
    have first : headerEnd (cString (stream.take (lf + 2))) = some (lf, 2) := by
      rw [cString_take, headerEnd_eq_some]
      exact Or.inr ⟨hidden, (offsetOf_take_iff (by decide)).mpr ⟨found, Nat.le_refl _⟩, rfl⟩
    have second : headerEnd (cString stream) = some (crlf, 4) :=
      headerEnd_eq_some.mpr (Or.inl ⟨found', rfl⟩)
    have fits' : (stream.take (lf + 2) ++ [stream.drop (lf + 2)].flatten).length ≤ httpRequestMaxSize := by
      rw [split]
      exact fits
    have fits'' : (stream ++ ([] : List (List UInt8)).flatten).length ≤ httpRequestMaxSize := by
      rw [whole]
      exact fits
    have early := receiveAll_found fits' first
    have late := receiveAll_found fits'' second
    rw [split] at early
    rw [whole] at late
    apply differs
    rw [← early, ← late]
    exact independent (.after stream (lf + 2) front back) (.whole stream nonempty)
  · intro clear c c'
    have same : ∀ {pos sepLen pos' sepLen'}, Reads stream pos sepLen → Reads stream pos' sepLen' →
        verdict stream pos sepLen = verdict stream pos' sepLen' := by
      rintro pos sepLen pos' sepLen' ⟨k, reads⟩ ⟨k', reads'⟩
      rcases (headerEnd_take reads).2 with ⟨found, four⟩ | ⟨found, two, early⟩
      · rcases (headerEnd_take reads').2 with ⟨found', four'⟩ | ⟨found', two', early'⟩
        · rw [found] at found'
          cases found'
          rw [four, four']
        · subst four two'
          by_contra differs
          exact clear ⟨pos', pos, found', found, early' pos found, Ne.symm differs⟩
      · rcases (headerEnd_take reads').2 with ⟨found', four'⟩ | ⟨found', two', early'⟩
        · subst two four'
          by_contra differs
          exact clear ⟨pos, pos', found, found', early pos' found', differs⟩
        · rw [found] at found'
          cases found'
          rw [two, two']
    rcases receiveAll_outcome c fits with ⟨waits, hidden⟩ | ⟨pos, sepLen, reads, outcome⟩
    · rcases receiveAll_outcome c' fits with ⟨waits', -⟩ | ⟨pos, sepLen, ⟨k, reads⟩, -⟩
      · rw [waits, waits']
      · rw [headerEnd_take_none hidden] at reads
        cases reads
    · rcases receiveAll_outcome c' fits with ⟨-, hidden⟩ | ⟨pos', sepLen', reads', outcome'⟩
      · obtain ⟨k, reads⟩ := reads
        rw [headerEnd_take_none hidden] at reads
        cases reads
      · rw [outcome, outcome', same reads reads']

/-- A request for the index page. -/
def indexRequest : List UInt8 := ascii "GET / HTTP/1.1\r\n\r\n"

theorem segmentation_independent_iff_index :
    (∀ c c' : Cutting indexRequest,
        (receiveAll c.segments).outcome = (receiveAll c'.segments).outcome) ↔ ¬ Ambiguous indexRequest :=
  segmentation_independent_iff indexRequest (by decide +kernel)

/-- A request whose lines end in `"\n"`, with a body of four bytes. -/
def lineFeedRequest : List UInt8 := ascii "POST /api/settings HTTP/1.1\nContent-Length: 4\n\n\r\n\r\n"

/-- The header, then the body. -/
def headerFirst : Cutting lineFeedRequest :=
  .after lineFeedRequest 47 (by decide +kernel) (by decide +kernel)

/-- In two segments the request is processed; in one, the body is taken for the end of the header,
and four more bytes are waited for. -/
theorem segmentation_independent_fail :
    lineFeedRequest.length ≤ httpRequestMaxSize ∧
      (receiveAll headerFirst.segments).outcome = .processed
        (ascii "POST /api/settings HTTP/1.1\nContent-Length: 4") 47 4 [13, 10, 13, 10] ∧
      (receiveAll (Cutting.whole lineFeedRequest (by decide +kernel)).segments).outcome = .waiting :=
  ⟨by decide +kernel, by decide +kernel, by decide +kernel⟩

end Stairway
