import Mathlib.Algebra.Group.Nat.Defs

/-!
# Byte images

A C object is the list of its bytes. `load` reads a range of it, `store` writes one, and
little-endian words are read and written through `leNat` and `leBytes`. A store never changes
the size of the object; bytes past its end are dropped.
-/

namespace Firmware

/-- The `len` bytes from offset `off`. -/
def load (m : List UInt8) (off len : Nat) : List UInt8 := (m.drop off).take len

/-- Write `data` at offset `off`. -/
def store : List UInt8 → Nat → List UInt8 → List UInt8
  | [], _, _ => []
  | b :: m, off + 1, data => b :: store m off data
  | b :: m, 0, [] => b :: m
  | _ :: m, 0, d :: data => d :: store m 0 data

@[simp] theorem length_store (m : List UInt8) (off : Nat) (data : List UInt8) :
    (store m off data).length = m.length := by
  induction m generalizing off data with
  | nil => rfl
  | cons b m ih =>
    cases off with
    | succ off => simp only [store, List.length_cons, ih]
    | zero =>
      cases data with
      | nil => rfl
      | cons d data => simp only [store, List.length_cons, ih]

/-- A byte past the stored range, or before it, is unchanged. -/
theorem getElem?_store_out {m data : List UInt8} {off i : Nat}
    (outside : i < off ∨ off + data.length ≤ i) : (store m off data)[i]? = m[i]? := by
  induction m generalizing off data i with
  | nil => rfl
  | cons b m ih =>
    cases off with
    | succ off =>
      cases i with
      | zero => rfl
      | succ i =>
        simp only [store, List.getElem?_cons_succ]
        exact ih (by omega)
    | zero =>
      cases data with
      | nil => rfl
      | cons d data =>
        cases i with
        | zero => simp only [List.length_cons] at outside; omega
        | succ i =>
          simp only [store, List.getElem?_cons_succ]
          simp only [List.length_cons] at outside
          exact ih (by omega)

/-- A byte of the stored range reads back. -/
theorem getElem?_store_in {m data : List UInt8} {off i : Nat} (inside : i < data.length)
    (fits : off + i < m.length) : (store m off data)[off + i]? = data[i]? := by
  induction m generalizing off data i with
  | nil => simp only [List.length_nil] at fits; omega
  | cons b m ih =>
    simp only [List.length_cons] at fits
    cases off with
    | succ off =>
      rw [show off + 1 + i = (off + i) + 1 by omega]
      simp only [store, List.getElem?_cons_succ]
      exact ih inside (by omega)
    | zero =>
      cases data with
      | nil => simp only [List.length_nil] at inside; omega
      | cons d data =>
        cases i with
        | zero => rfl
        | succ i =>
          simp only [List.length_cons] at inside
          rw [show 0 + (i + 1) = (0 + i) + 1 by omega]
          simp only [store, List.getElem?_cons_succ]
          exact ih (by omega) (by omega)

theorem length_load {m : List UInt8} {off len : Nat} (fits : off + len ≤ m.length) :
    (load m off len).length = len := by
  simp only [load, List.length_take, List.length_drop]
  omega

theorem getElem?_load {m : List UInt8} {off len i : Nat} (inside : i < len) :
    (load m off len)[i]? = m[off + i]? := by
  simp only [load, List.getElem?_take, List.getElem?_drop, if_pos inside]

/-- What was stored is loaded back. -/
theorem load_store_same {m data : List UInt8} {off : Nat} (fits : off + data.length ≤ m.length) :
    load (store m off data) off data.length = data := by
  apply List.ext_getElem?
  intro i
  by_cases inside : i < data.length
  · rw [getElem?_load inside, getElem?_store_in inside (by omega)]
  · have short : (load (store m off data) off data.length).length ≤ i := by
      rw [length_load (by rw [length_store]; exact fits)]; omega
    rw [List.getElem?_eq_none short, List.getElem?_eq_none (by omega)]

/-- A range that does not meet the stored one is unchanged. -/
theorem load_store_apart {m data : List UInt8} {off at' len : Nat}
    (apart : at' + len ≤ off ∨ off + data.length ≤ at') :
    load (store m off data) at' len = load m at' len := by
  apply List.ext_getElem?
  intro i
  by_cases inside : i < len
  · rw [getElem?_load inside, getElem?_load inside]
    exact getElem?_store_out (by omega)
  · simp only [load, List.getElem?_take, if_neg inside]

/-- A store at the beginning of a range leaves the rest of the range. -/
theorem load_store_front {m data : List UInt8} {off len : Nat} (short : data.length ≤ len)
    (fits : off + len ≤ m.length) :
    load (store m off data) off len = data ++ (load m off len).drop data.length := by
  apply List.ext_getElem?
  intro i
  by_cases inside : i < len
  · rw [getElem?_load inside]
    by_cases front : i < data.length
    · rw [getElem?_store_in front (by omega), List.getElem?_append_left front]
    · rw [getElem?_store_out (by omega), List.getElem?_append_right (by omega), List.getElem?_drop,
        getElem?_load (by omega)]
      congr 1
      omega
  · have left : (load (store m off data) off len).length ≤ i := by
      rw [length_load (by rw [length_store]; exact fits)]
      omega
    have right : (data ++ (load m off len).drop data.length).length ≤ i := by
      rw [List.length_append, List.length_drop, length_load fits]
      omega
    rw [List.getElem?_eq_none left, List.getElem?_eq_none right]

/-- A store past a front part leaves that part. -/
theorem store_append (front rest data : List UInt8) :
    store (front ++ rest) front.length data = front ++ store rest 0 data := by
  induction front with
  | nil => rfl
  | cons b front ih =>
    change b :: store (front ++ rest) front.length data = _
    rw [ih]
    rfl

theorem store_zero {m data : List UInt8} (fits : data.length ≤ m.length) :
    store m 0 data = data ++ m.drop data.length := by
  induction data generalizing m with
  | nil => cases m <;> rfl
  | cons d data ih =>
    cases m with
    | nil => cases fits
    | cons b m =>
      rw [List.length_cons, List.length_cons] at fits
      rw [store, ih (by omega)]
      rfl

/-- Storing what is already there changes nothing. -/
theorem store_load {m : List UInt8} {off len : Nat} (fits : off + len ≤ m.length) :
    store m off (load m off len) = m := by
  apply List.ext_getElem?
  intro i
  by_cases inside : off ≤ i ∧ i < off + len
  · obtain ⟨low, high⟩ := inside
    have here : i = off + (i - off) := by omega
    rw [here, getElem?_store_in (by rw [length_load fits]; omega) (by omega),
      getElem?_load (by omega)]
  · exact getElem?_store_out (by rw [length_load fits]; omega)

/-- Storing one byte. -/
theorem store_singleton (m : List UInt8) (off : Nat) (b : UInt8) : store m off [b] = m.set off b := by
  induction m generalizing off with
  | nil => rfl
  | cons c m ih =>
    cases off with
    | zero => cases m <;> rfl
    | succ off => rw [store, ih, List.set_cons_succ]

/-- Little-endian value of a byte string. -/
def leNat : List UInt8 → Nat
  | [] => 0
  | b :: bs => b.toNat + 256 * leNat bs

/-- The `w` low bytes of `v`, little-endian. -/
def leBytes : Nat → Nat → List UInt8
  | 0, _ => []
  | w + 1, v => UInt8.ofNat v :: leBytes w (v / 256)

@[simp] theorem length_leBytes (w v : Nat) : (leBytes w v).length = w := by
  induction w generalizing v with
  | zero => rfl
  | succ w ih => simp only [leBytes, List.length_cons, ih]

theorem leNat_lt (bs : List UInt8) : leNat bs < 256 ^ bs.length := by
  induction bs with
  | nil => simp [leNat]
  | cons b bs ih =>
    have low : b.toNat < 256 := b.toNat_lt
    simp only [leNat, List.length_cons, Nat.pow_succ]
    omega

/-- A word keeps the bytes it is wide. -/
theorem leNat_leBytes (w v : Nat) : leNat (leBytes w v) = v % 256 ^ w := by
  induction w generalizing v with
  | zero => simp [leBytes, leNat, Nat.mod_one]
  | succ w ih =>
    simp only [leBytes, leNat, ih]
    have low : (UInt8.ofNat v).toNat = v % 256 := by simp
    rw [low, Nat.pow_succ, Nat.mul_comm (256 ^ w) 256, Nat.mod_mul]

theorem leNat_leBytes_of_lt {w v : Nat} (fits : v < 256 ^ w) : leNat (leBytes w v) = v := by
  rw [leNat_leBytes, Nat.mod_eq_of_lt fits]

/-- A byte string is the encoding of its value. -/
theorem leBytes_leNat (bs : List UInt8) : leBytes bs.length (leNat bs) = bs := by
  induction bs with
  | nil => rfl
  | cons b bs ih =>
    have low : b.toNat < 256 := b.toNat_lt
    have head : UInt8.ofNat (b.toNat + 256 * leNat bs) = b := by
      apply UInt8.toNat_inj.mp
      simp only [UInt8.toNat_ofNat']
      omega
    have tail : (b.toNat + 256 * leNat bs) / 256 = leNat bs := by omega
    simp only [List.length_cons, leNat, leBytes, head, tail, ih]

end Firmware
