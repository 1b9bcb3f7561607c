import Mathlib.Algebra.Group.Nat.Defs
import Mathlib.Data.List.TakeWhile

/-!
# C strings

A C string is the list of its bytes before the terminating NUL. The functions below are the
`string.h` and `stdlib.h` functions that the firmware calls, in the C locale and with a 32-bit
`unsigned long`; a pointer into a string is the list of the bytes that follow it.
-/

namespace Firmware

/-- The bytes of an ASCII literal. -/
def ascii (s : String) : List UInt8 := s.toList.map Char.toUInt8

/-- The string held by a buffer: its bytes before the first NUL. -/
def cString (m : List UInt8) : List UInt8 := m.takeWhile (· != 0)

/-- `strnlen(m, sizeof(m))`. -/
def strnlen (m : List UInt8) : Nat := (cString m).length

/-- `strstr`: the part of `hay` that starts with the first occurrence of `needle`. -/
def strstr (hay needle : List UInt8) : Option (List UInt8) :=
  if needle.isPrefixOf hay then some hay
  else match hay with
    | [] => none
    | _ :: rest => strstr rest needle

/-- `strncmp(s, lit, strlen(lit)) == 0`. -/
def startsWith (s lit : List UInt8) : Bool := lit.isPrefixOf s

def isDigit (c : UInt8) : Bool := 48 ≤ c && c ≤ 57

/-- The first byte of a string is a digit; the terminating NUL is none. -/
def digitFirst (s : List UInt8) : Bool :=
  match s with
  | c :: _ => isDigit c
  | [] => false

/-- `isspace` in the C locale. -/
def isSpace (c : UInt8) : Bool := c == 32 || (9 ≤ c && c ≤ 13)

/-- The number written by a string of decimal digits. -/
def digitsValue (ds : List UInt8) : Nat := ds.foldl (fun v d => 10 * v + (d.toNat - 48)) 0

/-- What `strtoul` leaves behind: its value, whether it set `errno` to `ERANGE`, and `*end`. -/
structure Strtoul where
  value : Nat
  erange : Bool
  rest : List UInt8
  deriving DecidableEq, Repr

/-- `strtoul(s, &end, 10)`: optional white space and sign, then the longest run of digits. A
value that does not fit saturates to `ULONG_MAX` with `errno = ERANGE`; without a digit nothing
is converted and `*end` is `s`. -/
def strtoul (s : List UInt8) : Strtoul :=
  let t := s.dropWhile isSpace
  let negative := startsWith t [45]
  let digits := if negative || startsWith t [43] then t.tail else t
  let ds := digits.takeWhile isDigit
  let v := digitsValue ds
  if ds.isEmpty then ⟨0, false, s⟩
  else if v ≥ 2 ^ 32 then ⟨2 ^ 32 - 1, true, digits.dropWhile isDigit⟩
  else ⟨if negative then (2 ^ 32 - v) % 2 ^ 32 else v, false, digits.dropWhile isDigit⟩

/-- `printf` of an unsigned integer with `%u`. -/
def decimal (n : Nat) : List UInt8 := (Nat.toDigits 10 n).map Char.toUInt8

/-- Bytes without a NUL are a whole string. -/
theorem cString_of_nonzero {m : List UInt8} (nonzero : 0 ∉ m) : cString m = m := by
  refine List.takeWhile_eq_self_iff.mpr (fun b member => ?_)
  exact bne_iff_ne.mpr (fun zero => nonzero (zero ▸ member))

/-- The string of a buffer ends at its first NUL. -/
theorem cString_append_nul {str : List UInt8} (nonzero : 0 ∉ str) (rest : List UInt8) :
    cString (str ++ 0 :: rest) = str := by
  have inside : ∀ b ∈ str, (b != 0) = true :=
    fun b member => bne_iff_ne.mpr (fun zero => nonzero (zero ▸ member))
  rw [cString, List.takeWhile_append_of_pos inside, List.takeWhile_cons_of_neg (by decide),
    List.append_nil]

/-- A buffer that is longer than its string holds the terminator after it. -/
theorem append_nul_of_short {m : List UInt8} (short : (cString m).length < m.length) :
    cString m ++ 0 :: m.drop ((cString m).length + 1) = m := by
  induction m with
  | nil => cases short
  | cons b m ih =>
    by_cases zero : b = 0
    · subst zero
      rfl
    · have string : cString (b :: m) = b :: cString m :=
        List.takeWhile_cons_of_pos (bne_iff_ne.mpr zero)
      rw [string, List.length_cons, List.length_cons] at short
      rw [string, List.length_cons, List.drop_succ_cons, List.cons_append, ih (by omega)]

/-- The string of a prefix is a prefix of the string. -/
theorem cString_take (m : List UInt8) (n : Nat) : cString (m.take n) = (cString m).take n := by
  induction m generalizing n with
  | nil => simp [cString]
  | cons b m ih =>
    cases n with
    | zero => rfl
    | succ n =>
      have rest := ih n
      unfold cString at rest ⊢
      rw [List.take_succ_cons, List.takeWhile_cons, List.takeWhile_cons]
      split
      · rw [rest, List.take_succ_cons]
      · rfl

/-- A terminator after the bytes of a buffer does not change its string. -/
theorem cString_append_zero (m rest : List UInt8) : cString (m ++ 0 :: rest) = cString m := by
  induction m with
  | nil => rfl
  | cons b m ih =>
    unfold cString at ih ⊢
    rw [List.cons_append, List.takeWhile_cons, List.takeWhile_cons, ih]

theorem cString_nonzero (m : List UInt8) : 0 ∉ cString m := by
  intro member
  have inside := List.mem_takeWhile_imp member
  simp at inside

theorem cString_isPrefixOf (m : List UInt8) : cString m <+: m := List.takeWhile_prefix _

theorem length_cString_le (m : List UInt8) : (cString m).length ≤ m.length := (cString_isPrefixOf m).length_le

/-- The bytes up to the terminator are the string. -/
theorem take_of_le_cString {m : List UInt8} {k : Nat} (inside : k ≤ (cString m).length) :
    m.take k = (cString m).take k := by
  obtain ⟨tail, split⟩ := cString_isPrefixOf m
  have front := congrArg (List.take k) split
  rw [List.take_append_of_le_length inside] at front
  exact front.symm

/-- A string whose terminator is among the first bytes ends there. -/
theorem length_cString_lt {m : List UInt8} {k : Nat} (terminated : 0 ∈ m.take k) : (cString m).length < k := by
  by_contra long
  rw [take_of_le_cString (by omega)] at terminated
  exact cString_nonzero m (List.mem_of_mem_take terminated)

/-- More bytes do not change the string before its end. -/
theorem cString_append_take {r : List UInt8} {pos : Nat} (inside : pos ≤ (cString r).length)
    (p : List UInt8) : (cString (r ++ p)).take pos = (cString r).take pos := by
  have short : pos ≤ r.length := Nat.le_trans inside (length_cString_le r)
  rw [← cString_take, ← cString_take, List.take_append_of_le_length short]

/-- The bytes up to the terminator determine the string. -/
theorem cString_congr {m m' : List UInt8} {k : Nat} (terminated : (cString m).length < k)
    (same : m'.take k = m.take k) : cString m' = cString m := by
  have front := congrArg cString same
  rw [cString_take, cString_take, List.take_of_length_le (Nat.le_of_lt terminated)] at front
  have length := congrArg List.length front
  rw [List.length_take] at length
  rw [← front, List.take_of_length_le (by omega)]

/-- A string is cut by a terminator inside it. -/
theorem cString_set {r : List UInt8} {pos : Nat} (inside : pos < (cString r).length)
    (rest : List UInt8) : cString (r.set pos 0 ++ rest) = (cString r).take pos := by
  have short : pos < r.length := Nat.lt_of_lt_of_le inside (length_cString_le r)
  have front : r.take pos = (cString r).take pos := take_of_le_cString (Nat.le_of_lt inside)
  have clean : 0 ∉ (cString r).take pos := fun zero => cString_nonzero r (List.mem_of_mem_take zero)
  rw [List.set_eq_take_append_cons_drop, if_pos short, front, List.append_assoc, List.cons_append]
  exact cString_append_nul clean _

/-! ## Decimal numbers -/

/-- A decimal digit as a character and as a byte. -/
theorem toNat_digit {c : Char} (digit : c.isDigit = true) :
    c.toUInt8.toNat = c.toNat ∧ 48 ≤ c.toNat ∧ c.toNat ≤ 57 := by
  have range : 48 ≤ c.toNat ∧ c.toNat ≤ 57 := by
    simp only [Char.isDigit, ge_iff_le, Bool.and_eq_true, decide_eq_true_eq, UInt32.le_iff_toNat_le] at digit
    exact digit
  refine ⟨?_, range⟩
  have low : c.toUInt8.toNat = c.toNat % 256 := UInt32.toNat_toUInt8 c.val
  rw [low, Nat.mod_eq_of_lt (by omega)]

theorem isDigit_decimal {n : Nat} : ∀ c ∈ decimal n, isDigit c = true := by
  intro c member
  obtain ⟨d, digit, same⟩ := List.mem_map.mp member
  obtain ⟨value, low, high⟩ := toNat_digit (Nat.isDigit_of_mem_toDigits (by decide) (by decide) digit)
  rw [← same, isDigit, Bool.and_eq_true, decide_eq_true_eq, decide_eq_true_eq,
    UInt8.le_iff_toNat_le, UInt8.le_iff_toNat_le, value]
  exact ⟨low, high⟩

/-- The decimal digits of a number denote it. -/
theorem digitsValue_decimal (n : Nat) : digitsValue (decimal n) = n := by
  have fold : ∀ (ds : List Char) (v : Nat), (∀ d ∈ ds, d.isDigit = true) →
      (ds.map Char.toUInt8).foldl (fun v d => 10 * v + (d.toNat - 48)) v = Nat.ofDigitChars 10 ds v := by
    intro ds
    induction ds with
    | nil => intro v _; exact Nat.ofDigitChars_nil.symm
    | cons d ds ih =>
      intro v digits
      rw [List.map_cons, List.foldl_cons, Nat.ofDigitChars_cons,
        (toNat_digit (digits d List.mem_cons_self)).1]
      exact ih _ (fun e member => digits e (List.mem_cons_of_mem _ member))
  rw [digitsValue, decimal, fold _ 0 (fun d => Nat.isDigit_of_mem_toDigits (by decide) (by decide)),
    Nat.ofDigitChars_ten_toDigits]

theorem decimal_ne_nil (n : Nat) : decimal n ≠ [] := by
  rw [decimal, ne_eq, List.map_eq_nil_iff]
  exact Nat.toDigits_ne_nil

/-- A number below `10 ^ k` takes at most `k` digits. -/
theorem length_decimal_le {n k : Nat} (positive : 0 < k) (fits : n < 10 ^ k) :
    (decimal n).length ≤ k := by
  rw [decimal, List.length_map]
  exact (Nat.length_toDigits_le_iff (by decide) positive).mpr fits

/-- A digit is none of the bytes below `'0'`. -/
theorem digit_ne {c d : UInt8} (digit : isDigit c = true) (below : d.toNat < 48) : c ≠ d := by
  intro same
  subst same
  simp only [isDigit, Bool.and_eq_true, decide_eq_true_eq, UInt8.le_iff_toNat_le] at digit
  have low : 48 ≤ c.toNat := digit.1
  omega

/-- A digit is not white space. -/
theorem isSpace_of_digit {c : UInt8} (digit : isDigit c = true) : isSpace c = false := by
  have space : ¬ c ≤ 13 := by
    simp only [isDigit, Bool.and_eq_true, decide_eq_true_eq, UInt8.le_iff_toNat_le] at digit
    have low : 48 ≤ c.toNat := digit.1
    rw [UInt8.le_iff_toNat_le]
    have bound : (13 : UInt8).toNat = 13 := rfl
    omega
  simp [isSpace, digit_ne digit (d := 32) (by decide), space]

/-- What `strtoul` makes of a string of digits: the number it denotes, or `ULONG_MAX` if that does
not fit. It stops at the first byte that is no digit. -/
theorem strtoul_digits {ds rest : List UInt8} (some : ds ≠ []) (digits : ∀ c ∈ ds, isDigit c = true)
    (stops : digitFirst rest = false) : strtoul (ds ++ rest) =
      if digitsValue ds ≥ 2 ^ 32 then ⟨2 ^ 32 - 1, true, rest⟩ else ⟨digitsValue ds, false, rest⟩ := by
  have run : (ds ++ rest).takeWhile isDigit = ds ∧ (ds ++ rest).dropWhile isDigit = rest := by
    rw [List.takeWhile_append_of_pos digits, List.dropWhile_append_of_pos digits]
    cases rest with
    | nil => exact ⟨List.append_nil _, rfl⟩
    | cons r rest =>
      have no : ¬ isDigit r = true := fun digit => by rw [digitFirst, digit] at stops; cases stops
      rw [List.takeWhile_cons_of_neg no, List.dropWhile_cons_of_neg no]
      exact ⟨List.append_nil _, rfl⟩
  have front : (ds ++ rest).dropWhile isSpace = ds ++ rest ∧
      startsWith (ds ++ rest) [45] = false ∧ startsWith (ds ++ rest) [43] = false := by
    obtain ⟨c, cs, first⟩ := List.exists_cons_of_ne_nil some
    have digit : isDigit c = true := digits c (by rw [first]; exact List.mem_cons_self)
    have minus := digit_ne digit (d := 45) (by decide)
    have plus := digit_ne digit (d := 43) (by decide)
    rw [first, List.cons_append, List.dropWhile_cons_of_neg (by rw [isSpace_of_digit digit]; decide)]
    simp [startsWith, List.isPrefixOf, minus.symm, plus.symm]
  obtain ⟨space, minus, plus⟩ := front
  unfold strtoul
  simp only [space, minus, plus, Bool.or_false, Bool.false_eq_true, if_false, run.1, run.2]
  rw [if_neg (by simpa using some)]

/-- `strtoul` reads a decimal number back. -/
theorem strtoul_decimal {n : Nat} (fits : n < 2 ^ 32) {rest : List UInt8}
    (stops : digitFirst rest = false) : strtoul (decimal n ++ rest) = ⟨n, false, rest⟩ := by
  rw [strtoul_digits (decimal_ne_nil n) isDigit_decimal stops, digitsValue_decimal, if_neg (by omega)]

end Firmware
