import Mathlib.Algebra.BigOperators.Ring.Finset
import Mathlib.Algebra.Field.ZMod
import Stairway.Firmware.Crc
import Stairway.Firmware.Memory

/-!
# Error detection of reflected cyclic redundancy checks

A bit of the message is added to the register at its low end and shifted through, so the register is
linear in the message and the start value. A codeword leaves it zero, and a corrupted one leaves it
as the error alone does from a zero start. Where the polynomial has its top bit a shift loses nothing,
and a burst that fits the register is detected. Where it has an odd number of bits a shift keeps
the parity of the register, and an odd number of errors is detected.
-/

namespace Firmware.Crc

variable {w : Nat} {poly : BitVec w}

/-! ## One bit -/

theorem getLsbD_bitStep (poly r : BitVec w) {i : Nat} (inside : i < w) :
    (bitStep poly r).getLsbD i = (r.getLsbD (i + 1) ^^ (poly.getLsbD i && r.getLsbD 0)) := by
  have mask : (0 - (r &&& 1) : BitVec w).getLsbD i = r.getLsbD 0 := by
    have low : (r &&& 1) = BitVec.setWidth w (BitVec.ofBool (r.getLsbD 0)) :=
      BitVec.and_one_eq_setWidth_ofBool_getLsbD
    rw [low]
    cases r.getLsbD 0 with
    | false => simp
    | true =>
      have ones : (0 - BitVec.setWidth w (BitVec.ofBool true)) = BitVec.allOnes w := by
        apply BitVec.eq_of_toNat_eq
        have big : 1 < 2 ^ w := Nat.one_lt_two_pow (by omega)
        simp [Nat.mod_eq_of_lt big]
      rw [ones, BitVec.getLsbD_allOnes]
      exact decide_eq_true inside
  rw [bitStep, BitVec.getLsbD_xor, BitVec.getLsbD_and, mask, BitVec.getLsbD_ushiftRight, Nat.add_comm 1 i]

theorem bitStep_xor (r r' : BitVec w) : bitStep poly (r ^^^ r') = bitStep poly r ^^^ bitStep poly r' := by
  apply BitVec.eq_of_getLsbD_eq
  intro i inside
  simp only [BitVec.getLsbD_xor, getLsbD_bitStep poly _ inside]
  grind

@[simp] theorem bitStep_zero : bitStep poly 0 = 0 := by
  apply BitVec.eq_of_getLsbD_eq
  intro i inside
  rw [getLsbD_bitStep poly 0 inside]
  simp

/-- A shift loses nothing where the polynomial has its top bit. -/
theorem eq_zero_of_bitStep (top : poly.getLsbD (w - 1) = true) {r : BitVec w} (gone : bitStep poly r = 0) :
    r = 0 := by
  have bit : ∀ i < w, (r.getLsbD (i + 1) ^^ (poly.getLsbD i && r.getLsbD 0)) = false := by
    intro i inside
    rw [← getLsbD_bitStep poly r inside, gone]
    exact BitVec.getLsbD_zero
  apply BitVec.eq_of_getLsbD_eq
  intro i inside
  have low : r.getLsbD 0 = false := by
    have last := bit (w - 1) (by omega)
    rw [BitVec.getLsbD_of_ge r _ (by omega), top] at last
    simpa using last
  refine Eq.trans ?_ BitVec.getLsbD_zero.symm
  cases i with
  | zero => exact low
  | succ i =>
    have here := bit i (by omega)
    rw [low] at here
    simpa using here

theorem bits_xor (n : Nat) (r r' : BitVec w) : bits poly n (r ^^^ r') = bits poly n r ^^^ bits poly n r' := by
  induction n generalizing r r' with
  | zero => rfl
  | succ n ih => rw [bits, bitStep_xor, ih, bits, bits]

theorem bits_zero (n : Nat) : bits poly n 0 = 0 := by
  induction n with
  | zero => rfl
  | succ n ih => rw [bits, bitStep_zero, ih]

theorem eq_zero_of_bits (top : poly.getLsbD (w - 1) = true) {n : Nat} {r : BitVec w}
    (gone : bits poly n r = 0) : r = 0 := by
  induction n generalizing r with
  | zero => exact gone
  | succ n ih => exact eq_zero_of_bitStep top (ih gone)

theorem bits_inj (top : poly.getLsbD (w - 1) = true) {n : Nat} {r r' : BitVec w} :
    bits poly n r = bits poly n r' ↔ r = r' := by
  refine ⟨fun same => ?_, fun same => same ▸ rfl⟩
  have gone : bits poly n (r ^^^ r') = 0 := by rw [bits_xor, same, BitVec.xor_self]; rfl
  exact BitVec.xor_eq_zero_iff.mp (eq_zero_of_bits top gone)

/-! ## A message -/

/-- The register with its low end changed by a bit of the message. -/
def addBit (r : BitVec w) (b : Bool) : BitVec w := r ^^^ BitVec.setWidth w (BitVec.ofBool b)

/-- The register after the bits of a message. -/
def feed (poly r : BitVec w) (message : List Bool) : BitVec w :=
  message.foldl (fun r b => bitStep poly (addBit r b)) r

/-- The bits of a message as a word, the first at its low end. -/
def word (w : Nat) (message : List Bool) : BitVec w := (BitVec.ofBoolListLE message).setWidth w

theorem getLsbD_word (message : List Bool) {i : Nat} (inside : i < w) :
    (word w message).getLsbD i = message.getD i false := by
  simp [word, inside]

theorem feed_append (r : BitVec w) (message message' : List Bool) :
    feed poly r (message ++ message') = feed poly (feed poly r message) message' := List.foldl_append

/-- **The register is linear** in its start value and the message. -/
theorem feed_xor (poly r r' : BitVec w) {message message' : List Bool} (same : message.length = message'.length) :
    feed poly (r ^^^ r') (List.zipWith xor message message') =
      feed poly r message ^^^ feed poly r' message' := by
  induction message generalizing r r' message' with
  | nil =>
    cases message' with
    | nil => rfl
    | cons b' message' => cases same
  | cons b message ih =>
    cases message' with
    | nil => cases same
    | cons b' message' =>
      have first : addBit (r ^^^ r') (b ^^ b') = addBit r b ^^^ addBit r' b' := by
        apply BitVec.eq_of_getLsbD_eq
        intro i _
        simp only [addBit, BitVec.getLsbD_xor, BitVec.getLsbD_setWidth, BitVec.getLsbD_ofBool]
        grind
      show feed poly (bitStep poly (addBit (r ^^^ r') (b ^^ b'))) (List.zipWith xor message message') = _
      rw [first, bitStep_xor]
      exact ih _ _ (Nat.succ.inj same)

/-- A message that fits the register, added at once. -/
theorem feed_eq_bits (r : BitVec w) {message : List Bool} (fits : message.length ≤ w) :
    feed poly r message = bits poly message.length (r ^^^ word w message) := by
  induction message generalizing r with
  | nil =>
    have none : word w [] = 0 := by
      apply BitVec.eq_of_getLsbD_eq
      intro i inside
      rw [getLsbD_word _ inside]
      simp
    rw [none]
    simp [feed, bits]
  | cons b message ih =>
    rw [List.length_cons] at fits
    have parts : r ^^^ word w (b :: message) = addBit r b ^^^ word w (false :: message) := by
      apply BitVec.eq_of_getLsbD_eq
      intro i inside
      simp only [addBit, BitVec.getLsbD_xor, getLsbD_word _ inside, BitVec.getLsbD_setWidth,
        BitVec.getLsbD_ofBool]
      cases i <;> simp [inside]
    have shifted : bitStep poly (word w (false :: message)) = word w message := by
      apply BitVec.eq_of_getLsbD_eq
      intro i inside
      have low : (word w (false :: message)).getLsbD 0 = false := getLsbD_word _ (by omega)
      rw [getLsbD_bitStep poly _ inside, getLsbD_word message inside, low, Bool.and_false, Bool.xor_false]
      by_cases next : i + 1 < w
      · exact getLsbD_word _ next
      · have past : message.getD i false = false := by
          rw [List.getD_eq_getElem?_getD, List.getElem?_eq_none (by omega), Option.getD_none]
        rw [BitVec.getLsbD_of_ge _ _ (by omega), past]
    rw [List.length_cons, bits, parts, bitStep_xor, shifted, ← ih _ (by omega)]
    rfl

/-- Zeros only shift. -/
theorem feed_zeros (r : BitVec w) (n : Nat) : feed poly r (List.replicate n false) = bits poly n r := by
  induction n generalizing r with
  | zero => rfl
  | succ n ih =>
    have same : addBit r false = r := by simp [addBit]
    rw [bits, ← ih (bitStep poly r), List.replicate_succ]
    show feed poly (bitStep poly (addBit r false)) _ = _
    rw [same]

/-- What leaves the register zero at the end of a message. -/
theorem feed_eq_zero_iff (top : poly.getLsbD (w - 1) = true) (r : BitVec w) {message : List Bool}
    (fits : message.length ≤ w) : feed poly r message = 0 ↔ r = word w message := by
  rw [feed_eq_bits r fits]
  constructor
  · intro gone
    exact BitVec.xor_eq_zero_iff.mp (eq_zero_of_bits top gone)
  · intro same
    rw [same, BitVec.xor_self]
    exact bits_zero _

/-! ## Bursts -/

/-- The set bits are within `w` consecutive ones. -/
def Burst (w : Nat) (error : List Bool) : Prop :=
  ∃ start, ∀ i, error.getD i false = true → start ≤ i ∧ i < start + w

theorem burst_parts {error : List Bool} (burst : Burst w error) :
    ∃ before middle after, error = List.replicate before false ++ (middle ++ List.replicate after false) ∧
      middle.length ≤ w := by
  obtain ⟨start, inside⟩ := burst
  have clear : ∀ {part : List Bool} (_ : ∀ i, part.getD i false = false),
      part = List.replicate part.length false := by
    intro part off
    refine List.eq_replicate_iff.mpr ⟨rfl, fun b member => ?_⟩
    obtain ⟨i, bound, here⟩ := List.mem_iff_getElem.mp member
    rw [← here, ← off i, List.getD_eq_getElem?_getD, List.getElem?_eq_getElem bound, Option.getD_some]
  have front : error.take start = List.replicate (error.take start).length false := by
    refine clear fun i => ?_
    by_contra on
    rw [Bool.not_eq_false, List.getD_eq_getElem?_getD, List.getElem?_take] at on
    split at on
    · have := (inside i on).1
      omega
    · cases on
  have back : error.drop (start + w) = List.replicate (error.drop (start + w)).length false := by
    refine clear fun i => ?_
    by_contra on
    rw [Bool.not_eq_false, List.getD_eq_getElem?_getD, List.getElem?_drop] at on
    have := (inside _ on).2
    omega
  refine ⟨(error.take start).length, (error.drop start).take w, (error.drop (start + w)).length, ?_,
    List.length_take_le w _⟩
  rw [← front, ← back, ← List.drop_drop, List.take_append_drop, List.take_append_drop]

/-- Consecutive bits, whatever they are, are a burst. -/
theorem Burst.of_parts {before after : Nat} {middle : List Bool} (fits : middle.length ≤ w) :
    Burst w (List.replicate before false ++ (middle ++ List.replicate after false)) := by
  refine ⟨before, fun i on => ?_⟩
  rw [List.getD_eq_getElem?_getD] at on
  constructor
  · by_contra front
    rw [List.getElem?_append_left (by simp; omega), List.getElem?_replicate] at on
    split at on <;> cases on
  · by_contra back
    rw [List.getElem?_append_right (by simp; omega), List.getElem?_append_right (by simp; omega),
      List.getElem?_replicate] at on
    split at on <;> cases on

/-- **A burst that fits the register is detected.** -/
theorem burst_detected (top : poly.getLsbD (w - 1) = true) {error : List Bool} (burst : Burst w error)
    (nonzero : true ∈ error) : feed poly 0 error ≠ 0 := by
  obtain ⟨before, middle, after, parts, fits⟩ := burst_parts burst
  have set : true ∈ middle := by
    rw [parts] at nonzero
    simpa using nonzero
  intro gone
  rw [parts, feed_append, feed_zeros, bits_zero, feed_append, feed_zeros] at gone
  have empty := (feed_eq_zero_iff top 0 fits).mp (eq_zero_of_bits top gone)
  obtain ⟨i, bound, here⟩ := List.mem_iff_getElem.mp set
  have bit := getLsbD_word (w := w) middle (Nat.lt_of_lt_of_le bound fits)
  rw [← empty, List.getD_eq_getElem?_getD, List.getElem?_eq_getElem bound, here, Option.getD_some] at bit
  have clear : (0 : BitVec w).getLsbD i = false := BitVec.getLsbD_zero
  rw [clear] at bit
  cases bit

/-! ## Odd errors -/

/-- The number of set bits, modulo two. -/
def parity (r : BitVec w) : ZMod 2 := ∑ i ∈ Finset.range w, ((r.getLsbD i).toNat : ZMod 2)

theorem toNat_xor (a b : Bool) : ((a ^^ b).toNat : ZMod 2) = a.toNat + b.toNat := by
  cases a <;> cases b <;> rfl

theorem parity_xor (r r' : BitVec w) : parity (r ^^^ r') = parity r + parity r' := by
  unfold parity
  rw [← Finset.sum_add_distrib]
  refine Finset.sum_congr rfl fun i _ => ?_
  rw [BitVec.getLsbD_xor, toNat_xor]

/-- A shift keeps the parity where the polynomial's is odd. -/
theorem parity_bitStep (odd : parity poly = 1) (r : BitVec w) : parity (bitStep poly r) = parity r := by
  have terms : ∀ i ∈ Finset.range w, ((bitStep poly r).getLsbD i).toNat =
      ((r.getLsbD (i + 1)).toNat : ZMod 2) + (poly.getLsbD i).toNat * (r.getLsbD 0).toNat := by
    intro i member
    rw [getLsbD_bitStep poly r (Finset.mem_range.mp member), toNat_xor]
    cases poly.getLsbD i <;> cases r.getLsbD 0 <;> rfl
  have shifted : ∑ i ∈ Finset.range w, ((r.getLsbD (i + 1)).toNat : ZMod 2) + (r.getLsbD 0).toNat = parity r := by
    rw [← Finset.sum_range_succ' (fun i => ((r.getLsbD i).toNat : ZMod 2)), Finset.sum_range_succ,
      BitVec.getLsbD_of_ge r w (Nat.le_refl w)]
    simp [parity]
  rw [parity, Finset.sum_congr rfl terms, Finset.sum_add_distrib, ← Finset.sum_mul, ← parity, odd, one_mul,
    shifted]

theorem parity_addBit (wide : 0 < w) (r : BitVec w) (b : Bool) : parity (addBit r b) = parity r + b.toNat := by
  have single : parity (BitVec.setWidth w (BitVec.ofBool b)) = b.toNat := by
    obtain ⟨n, rfl⟩ : ∃ n, w = n + 1 := ⟨w - 1, by omega⟩
    rw [parity, Finset.sum_range_succ', Finset.sum_eq_zero]
    · simp
    · intro i _
      simp
  rw [addBit, parity_xor, single]

theorem parity_feed (odd : parity poly = 1) (r : BitVec w) (message : List Bool) :
    parity (feed poly r message) = parity r + message.count true := by
  have wide : 0 < w := by
    apply Nat.pos_of_ne_zero
    rintro rfl
    cases odd
  induction message generalizing r with
  | nil => simp [feed]
  | cons b message ih =>
    refine (ih (bitStep poly (addBit r b))).trans ?_
    rw [parity_bitStep odd, parity_addBit wide, add_assoc]
    cases b <;> simp [add_comm]

/-- **An odd number of errors is detected.** -/
theorem odd_detected (odd : parity poly = 1) {error : List Bool} (count : Odd (error.count true)) :
    feed poly 0 error ≠ 0 := by
  intro gone
  have even := parity_feed odd 0 error
  have none : parity (0 : BitVec w) = 0 := by simp [parity]
  rw [gone, none, zero_add, count.natCast_zmod_two] at even
  cases even

/-! ## Byte strings -/

def byteBits (b : UInt8) : List Bool := (List.range 8).map b.toNat.testBit

/-- The bits of a byte string in the order of the wire, the least significant of a byte first. -/
def wireBits (data : List UInt8) : List Bool := data.flatMap byteBits

@[simp] theorem length_byteBits (b : UInt8) : (byteBits b).length = 8 := rfl

@[simp] theorem length_wireBits (data : List UInt8) : (wireBits data).length = 8 * data.length := by
  induction data with
  | nil => rfl
  | cons b data ih =>
    rw [wireBits, List.flatMap_cons, List.length_append, ← wireBits, ih, length_byteBits, List.length_cons]
    omega

theorem wireBits_append (data data' : List UInt8) : wireBits (data ++ data') = wireBits data ++ wireBits data' :=
  List.flatMap_append

theorem getD_byteBits (b : UInt8) (i : Nat) : (byteBits b).getD i false = b.toNat.testBit i := by
  by_cases inside : i < 8
  · simp [byteBits, inside]
  · have small : b.toNat < 2 ^ i := Nat.lt_of_lt_of_le b.toNat_lt (Nat.pow_le_pow_right (by decide) (by omega))
    rw [Nat.testBit_lt_two_pow small, List.getD_eq_getElem?_getD,
      List.getElem?_eq_none (by rw [length_byteBits]; omega), Option.getD_none]

theorem byteBits_xor (b b' : UInt8) : byteBits (b ^^^ b') = List.zipWith xor (byteBits b) (byteBits b') := by
  simp [byteBits, List.zipWith_map, Nat.testBit_xor]

theorem wireBits_xor {data data' : List UInt8} (same : data.length = data'.length) :
    wireBits (List.zipWith (· ^^^ ·) data data') = List.zipWith xor (wireBits data) (wireBits data') := by
  induction data generalizing data' with
  | nil => rfl
  | cons b data ih =>
    cases data' with
    | nil => cases same
    | cons b' data' =>
      simp only [wireBits, List.zipWith_cons_cons, List.flatMap_cons, byteBits_xor]
      rw [← wireBits, ih (Nat.succ.inj same), ← List.zipWith_append]
      · rfl
      · rfl

/-- The register of the bytes is that of their bits. -/
theorem run_eq_feed (wide : 8 ≤ w) (init : BitVec w) (data : List UInt8) :
    run poly init data = feed poly init (wireBits data) := by
  induction data generalizing init with
  | nil => rfl
  | cons b data ih =>
    have asWord : BitVec.ofNat w b.toNat = word w (byteBits b) := by
      apply BitVec.eq_of_getLsbD_eq
      intro i inside
      rw [getLsbD_word _ inside, getD_byteBits, BitVec.getLsbD_ofNat, decide_eq_true inside, Bool.true_and]
    have one : byteStep poly init b = feed poly init (byteBits b) := by
      have fits : (byteBits b).length ≤ w := wide
      rw [feed_eq_bits init fits, ← asWord]
      rfl
    show run poly (byteStep poly init b) data = _
    rw [ih, one, ← feed_append]
    rfl

/-- Some bit of a byte string is set. -/
theorem mem_wireBits {error : List UInt8} (nonzero : ∃ b ∈ error, b ≠ 0) : true ∈ wireBits error := by
  obtain ⟨b, member, set⟩ := nonzero
  obtain ⟨i, bit⟩ : ∃ i, b.toNat.testBit i = true := by
    apply Nat.exists_testBit_of_ne_zero
    intro zero
    exact set (UInt8.toNat_inj.mp zero)
  have inside : i < 8 := by
    by_contra past
    have small : b.toNat < 2 ^ i := Nat.lt_of_lt_of_le b.toNat_lt (Nat.pow_le_pow_right (by decide) (by omega))
    rw [Nat.testBit_lt_two_pow small] at bit
    cases bit
  exact List.mem_flatMap.mpr ⟨b, member, List.mem_map.mpr ⟨i, List.mem_range.mpr inside, bit⟩⟩

/-! ## Stored checks -/

/-- The bits of a little-endian number are those of its bytes on the wire. -/
theorem testBit_leNat (data : List UInt8) (i : Nat) :
    (leNat data).testBit i = (wireBits data).getD i false := by
  induction data generalizing i with
  | nil => simp [leNat, wireBits]
  | cons b data ih =>
    have number : leNat (b :: data) = 2 ^ 8 * leNat data + b.toNat := by rw [leNat]; omega
    have parts : wireBits (b :: data) = byteBits b ++ wireBits data := by simp [wireBits]
    rw [number, parts, Nat.testBit_two_pow_mul_add _ b.toNat_lt, List.getD_eq_getElem?_getD]
    split
    · rename_i first
      rw [List.getElem?_append_left first, ← List.getD_eq_getElem?_getD, getD_byteBits]
    · rename_i rest
      rw [List.getElem?_append_right (by simpa using rest), ← List.getD_eq_getElem?_getD, ih,
        length_byteBits]

theorem word_wireBits (data : List UInt8) : word w (wireBits data) = BitVec.ofNat w (leNat data) := by
  apply BitVec.eq_of_getLsbD_eq
  intro i inside
  rw [getLsbD_word _ inside, BitVec.getLsbD_ofNat, testBit_leNat]
  simp [inside]

/-- The first `n` bytes are followed by the complement of their register, little-endian. -/
def Sealed (poly init : BitVec w) (n : Nat) (data : List UInt8) : Prop :=
  leNat (data.drop n) = (~~~ run poly init (data.take n)).toNat

/-- A sealed string leaves the register that complemented zeros leave. -/
theorem sealed_iff_feed (wide : 8 ≤ w) (top : poly.getLsbD (w - 1) = true) {init : BitVec w} {n : Nat}
    {data : List UInt8} (fits : 8 * (data.length - n) = w) :
    Sealed poly init n data ↔ feed poly init (wireBits data) = bits poly w (BitVec.allOnes w) := by
  have length : (wireBits (data.drop n)).length = w := by rw [length_wireBits, List.length_drop, fits]
  have bound : leNat (data.drop n) < 2 ^ w := by
    have := leNat_lt (data.drop n)
    rwa [List.length_drop, show (256 : Nat) = 2 ^ 8 from rfl, ← Nat.pow_mul, fits] at this
  have parts : feed poly init (wireBits data) =
      bits poly w (run poly init (data.take n) ^^^ word w (wireBits (data.drop n))) := by
    conv => lhs; rw [← List.take_append_drop n data]
    rw [wireBits_append, feed_append, feed_eq_bits _ (Nat.le_of_eq length), length, run_eq_feed wide]
  have number : leNat (data.drop n) = (word w (wireBits (data.drop n))).toNat := by
    rw [word_wireBits, BitVec.toNat_ofNat, Nat.mod_eq_of_lt bound]
  rw [parts, bits_inj top, Sealed, number, BitVec.toNat_inj, ← BitVec.xor_allOnes]
  constructor
  · intro complement
    rw [complement, ← BitVec.xor_assoc, BitVec.xor_self, BitVec.zero_xor]
  · intro ones
    rw [← ones, ← BitVec.xor_assoc, BitVec.xor_self, BitVec.zero_xor]

/-- **A burst over a sealed string breaks the seal**, the seal's own bits included. -/
theorem Sealed.burst (wide : 8 ≤ w) (top : poly.getLsbD (w - 1) = true) {init : BitVec w} {n : Nat}
    {data error : List UInt8} (fits : 8 * (data.length - n) = w) (same : data.length = error.length)
    (burst : Burst w (wireBits error)) (nonzero : ∃ b ∈ error, b ≠ 0) (intact : Sealed poly init n data) :
    ¬ Sealed poly init n (List.zipWith (· ^^^ ·) data error) := by
  intro broken
  have sized : (List.zipWith (· ^^^ ·) data error).length = data.length := by
    rw [List.length_zipWith, same, Nat.min_self]
  rw [sealed_iff_feed wide top fits] at intact
  rw [sealed_iff_feed wide top (by rw [sized]; exact fits), wireBits_xor same] at broken
  have lengths : (wireBits data).length = (wireBits error).length := by simp [same]
  have alone : feed poly 0 (wireBits error) = 0 := by
    have linear := feed_xor poly init 0 lengths
    have start : init ^^^ 0 = init := BitVec.xor_zero
    rw [start, broken, intact] at linear
    refine (BitVec.xor_left_inj (bits poly w (BitVec.allOnes w))).mp ?_
    rw [BitVec.xor_comm, ← linear]
    exact BitVec.zero_xor.symm
  exact burst_detected top burst (mem_wireBits nonzero) alone

end Firmware.Crc
