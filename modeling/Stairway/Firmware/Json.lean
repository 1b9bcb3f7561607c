import Mathlib.Algebra.Field.Rat
import Stairway.Firmware.CString

/-!
# JSON texts

The grammar of RFC 8259 over the bytes of a text in UTF-8. A number is a token with its value. A
string stands for its UTF-16 code units, as the escapes `\uXXXX` are units, not characters.
`Derives` relates a text to the value it stands for; a scanner that only follows the quotes shows
where a text cannot be derived.
-/

namespace Firmware.Json

/-! ## Numbers -/

/-- The exponent of a number. -/
structure Exponent where
  letter : UInt8
  sign : List UInt8
  digits : List UInt8
  isLetter : letter = 101 ∨ letter = 69
  isSign : sign = [] ∨ sign = [43] ∨ sign = [45]
  nonempty : digits ≠ []
  areDigits : ∀ c ∈ digits, isDigit c = true

/-- A number; without a fraction there are no digits behind the point. -/
structure Number where
  negative : Bool
  int : List UInt8
  fraction : List UInt8
  exponent : Option Exponent
  nonempty : int ≠ []
  unpadded : int.head? = some 48 → int = [48]
  areDigits : ∀ c ∈ int ++ fraction, isDigit c = true

namespace Exponent

def text (e : Exponent) : List UInt8 := e.letter :: (e.sign ++ e.digits)

/-- The power of ten. -/
def factor (e : Exponent) : ℚ :=
  if e.sign = [45] then 1 / 10 ^ digitsValue e.digits else 10 ^ digitsValue e.digits

end Exponent

namespace Number

/-- What follows the integer part. -/
def tail (v : Number) : List UInt8 :=
  (if v.fraction = [] then [] else 46 :: v.fraction) ++ (v.exponent.map Exponent.text).getD []

def text (v : Number) : List UInt8 := (if v.negative then [45] else []) ++ (v.int ++ v.tail)

/-- The number that the integer part denotes. -/
def whole (v : Number) : Nat := digitsValue v.int

def value (v : Number) : ℚ :=
  (if v.negative then -1 else 1) * (v.whole + digitsValue v.fraction / 10 ^ v.fraction.length) *
    (v.exponent.map Exponent.factor).getD 1

/-- The digits of the integer part end with it. -/
theorem tail_stops (v : Number) {rest : List UInt8} (stops : digitFirst rest = false) :
    digitFirst (v.tail ++ rest) = false := by
  unfold tail
  by_cases fraction : v.fraction = []
  · rw [if_pos fraction]
    cases exponent : v.exponent with
    | none => exact stops
    | some e =>
      show isDigit e.letter = false
      rcases e.isLetter with same | same <;> rw [same] <;> decide
  · rw [if_neg fraction]
    rfl

theorem no_quote (v : Number) : 34 ∉ v.text := by
  have digit : ∀ ds : List UInt8, (∀ c ∈ ds, isDigit c = true) → 34 ∉ ds := by
    intro ds digits member
    have quote := digits 34 member
    revert quote
    decide
  have int := digit v.int fun c member => v.areDigits c (List.mem_append_left _ member)
  have fraction := digit v.fraction fun c member => v.areDigits c (List.mem_append_right _ member)
  have exponent : 34 ∉ (v.exponent.map Exponent.text).getD [] := by
    cases v.exponent with
    | none => exact List.not_mem_nil
    | some e =>
      have digits := digit e.digits e.areDigits
      have letter : 34 ≠ e.letter := by
        rcases e.isLetter with same | same <;> rw [same] <;> decide
      have sign : 34 ∉ e.sign := by
        rcases e.isSign with same | same | same <;> rw [same] <;> decide
      simp [Exponent.text, digits, letter, sign]
  intro member
  unfold text tail at member
  rcases List.mem_append.mp member with sign | rest
  · revert sign
    cases v.negative <;> decide
  rcases List.mem_append.mp rest with inside | rest
  · exact int inside
  rcases List.mem_append.mp rest with inside | inside
  · revert inside
    split
    · exact List.not_mem_nil
    · simp [fraction]
  · exact exponent inside

end Number

/-! ## Strings -/

/-- The UTF-16 code units of a character. -/
def units (c : Char) : List Nat :=
  if c.toNat < 0x10000 then [c.toNat]
  else [0xD800 + (c.toNat - 0x10000) / 0x400, 0xDC00 + (c.toNat - 0x10000) % 0x400]

/-- What a backslash and one more byte stand for. -/
def escape (c : UInt8) : Option Nat :=
  if c = 34 ∨ c = 92 ∨ c = 47 then some c.toNat
  else if c = 98 then some 8
  else if c = 102 then some 12
  else if c = 110 then some 10
  else if c = 114 then some 13
  else if c = 116 then some 9
  else none

def hexDigit (c : UInt8) : Option Nat :=
  if isDigit c then some (c.toNat - 48)
  else if 97 ≤ c ∧ c ≤ 102 then some (c.toNat - 87)
  else if 65 ≤ c ∧ c ≤ 70 then some (c.toNat - 55)
  else none

/-- The text between the quotes of a string, with its code units. -/
inductive Chars : List UInt8 → List Nat → Prop
  | nil : Chars [] []
  | unescaped {c : Char} {t : List UInt8} {s : List Nat}
      (ordinary : 0x20 ≤ c.toNat ∧ c.toNat ≠ 34 ∧ c.toNat ≠ 92) (rest : Chars t s) :
      Chars (String.utf8EncodeChar c ++ t) (units c ++ s)
  | escaped {c : UInt8} {u : Nat} {t : List UInt8} {s : List Nat} (known : escape c = some u)
      (rest : Chars t s) : Chars (92 :: c :: t) (u :: s)
  | unicode {a b c d : UInt8} {h i j k : Nat} {t : List UInt8} {s : List Nat}
      (hex : hexDigit a = some h ∧ hexDigit b = some i ∧ hexDigit c = some j ∧ hexDigit d = some k)
      (rest : Chars t s) :
      Chars (92 :: 117 :: a :: b :: c :: d :: t) ((((h * 16 + i) * 16 + j) * 16 + k) :: s)

/-! ## Values -/

inductive Value
  | null
  | bool (b : Bool)
  | num (v : Number)
  | str (s : List Nat)
  | arr (xs : List Value)
  | obj (ms : List (List Nat × Value))

/-- White space. -/
def Blank (w : List UInt8) : Prop := ∀ c ∈ w, c = 32 ∨ c = 9 ∨ c = 10 ∨ c = 13

/-- The parts of a text: a value, one with white space around it, the elements of an array, a member
of an object and the members of one. -/
inductive Part
  | value (x : Value)
  | padded (x : Value)
  | elements (xs : List Value)
  | member (name : List Nat) (x : Value)
  | members (ms : List (List Nat × Value))

/-- The text of a part. -/
inductive Derives : Part → List UInt8 → Prop
  | null : Derives (.value .null) (ascii "null")
  | bool (b : Bool) : Derives (.value (.bool b)) (ascii (if b then "true" else "false"))
  | num (v : Number) : Derives (.value (.num v)) v.text
  | str {t : List UInt8} {s : List Nat} (chars : Chars t s) : Derives (.value (.str s)) (34 :: (t ++ [34]))
  | arrNil {w : List UInt8} (blank : Blank w) : Derives (.value (.arr [])) (91 :: (w ++ [93]))
  | arr {xs : List Value} {t : List UInt8} (inside : Derives (.elements xs) t) :
      Derives (.value (.arr xs)) (91 :: (t ++ [93]))
  | objNil {w : List UInt8} (blank : Blank w) : Derives (.value (.obj [])) (123 :: (w ++ [125]))
  | obj {ms : List (List Nat × Value)} {t : List UInt8} (inside : Derives (.members ms) t) :
      Derives (.value (.obj ms)) (123 :: (t ++ [125]))
  | padded {x : Value} {a t b : List UInt8} (before : Blank a) (value : Derives (.value x) t)
      (after : Blank b) : Derives (.padded x) (a ++ (t ++ b))
  | element {x : Value} {t : List UInt8} (only : Derives (.padded x) t) : Derives (.elements [x]) t
  | elements {x : Value} {xs : List Value} {t u : List UInt8} (first : Derives (.padded x) t)
      (rest : Derives (.elements xs) u) : Derives (.elements (x :: xs)) (t ++ 44 :: u)
  | member {name : List Nat} {x : Value} {a n b t : List UInt8} (before : Blank a) (chars : Chars n name)
      (after : Blank b) (value : Derives (.padded x) t) :
      Derives (.member name x) (a ++ 34 :: (n ++ 34 :: (b ++ 58 :: t)))
  | one {name : List Nat} {x : Value} {t : List UInt8} (only : Derives (.member name x) t) :
      Derives (.members [(name, x)]) t
  | members {name : List Nat} {x : Value} {ms : List (List Nat × Value)} {t u : List UInt8}
      (first : Derives (.member name x) t) (rest : Derives (.members ms) u) :
      Derives (.members ((name, x) :: ms)) (t ++ 44 :: u)

/-- A JSON text. -/
def Text (x : Value) (t : List UInt8) : Prop := Derives (.padded x) t

/-! ## Following the quotes -/

inductive Place
  | outside
  | inside
  | escaped

/-- One byte; a string has no control characters. -/
def scanByte (place : Place) (c : UInt8) : Option Place :=
  match place with
  | .outside => some (if c = 34 then .inside else .outside)
  | .inside =>
    if c = 34 then some .outside
    else if c = 92 then some .escaped
    else if c < 0x20 then none
    else some .inside
  | .escaped => some .inside

def scan (place : Place) (t : List UInt8) : Option Place := t.foldlM scanByte place

theorem scan_append (place : Place) (t u : List UInt8) :
    scan place (t ++ u) = (scan place t).bind fun place => scan place u := List.foldlM_append

theorem scan_cons (place : Place) (c : UInt8) (t : List UInt8) :
    scan place (c :: t) = (scanByte place c).bind fun place => scan place t := rfl

theorem scan_after {place place' : Place} {t : List UInt8} (ends : scan place t = some place') (u : List UInt8) :
    scan place (t ++ u) = scan place' u := by
  rw [scan_append, ends]
  rfl

/-- Brackets are not followed. -/
theorem scan_enclosed {first last : UInt8} {t : List UInt8} (opens : first ≠ 34) (closes : last ≠ 34)
    (inside : scan .outside t = some .outside) : scan .outside (first :: (t ++ [last])) = some .outside := by
  rw [scan_cons, scanByte, if_neg opens]
  show scan .outside (t ++ [last]) = _
  rw [scan_after inside, scan_cons, scanByte, if_neg closes]
  rfl

/-- Without a quote nothing is opened. -/
theorem scan_outside {t : List UInt8} (clean : 34 ∉ t) : scan .outside t = some .outside := by
  induction t with
  | nil => rfl
  | cons c t ih =>
    have other : c ≠ 34 := fun same => clean (same ▸ List.mem_cons_self)
    rw [scan_cons, scanByte, if_neg other]
    exact ih fun member => clean (List.mem_cons_of_mem _ member)

theorem scan_inside {t : List UInt8} (plain : ∀ c ∈ t, c ≠ 34 ∧ c ≠ 92 ∧ ¬ c < 0x20) :
    scan .inside t = some .inside := by
  induction t with
  | nil => rfl
  | cons c t ih =>
    obtain ⟨quote, slash, printable⟩ := plain c List.mem_cons_self
    rw [scan_cons, scanByte, if_neg quote, if_neg slash, if_neg printable]
    exact ih fun d member => plain d (List.mem_cons_of_mem _ member)

/-- The bytes of a character are not those of an earlier one. -/
theorem utf8_plain {c : Char} (ordinary : 0x20 ≤ c.toNat ∧ c.toNat ≠ 34 ∧ c.toNat ≠ 92) :
    ∀ b ∈ String.utf8EncodeChar c, b ≠ 34 ∧ b ≠ 92 ∧ ¬ b < 0x20 := by
  have byte : ∀ n : Nat, n < 256 → 0x20 ≤ n → n ≠ 34 → n ≠ 92 →
      UInt8.ofNat n ≠ 34 ∧ UInt8.ofNat n ≠ 92 ∧ ¬ UInt8.ofNat n < 0x20 := by
    intro n small low quote slash
    have value : (UInt8.ofNat n).toNat = n := by
      rw [UInt8.toNat_ofNat', Nat.mod_eq_of_lt small]
    refine ⟨fun same => quote ?_, fun same => slash ?_, ?_⟩
    · rw [← value, same]
      rfl
    · rw [← value, same]
      rfl
    · rw [UInt8.lt_iff_toNat_lt, value]
      show ¬ n < 32
      omega
  intro b member
  have valid : c.val.toNat < 0x110000 := by
    have scalar : c.val.toNat < 0xd800 ∨ 0xdfff < c.val.toNat ∧ c.val.toNat < 0x110000 := c.valid
    omega
  unfold String.utf8EncodeChar at member
  dsimp only at member
  change 0x20 ≤ c.val.toNat ∧ c.val.toNat ≠ 34 ∧ c.val.toNat ≠ 92 at ordinary
  generalize c.val.toNat = v at ordinary valid member
  split at member
  · rw [List.mem_singleton.mp member]
    exact byte v (by omega) (by omega) (by omega) (by omega)
  split at member
  · simp only [List.mem_cons, List.not_mem_nil, or_false] at member
    rcases member with same | same <;> rw [same] <;> exact byte _ (by omega) (by omega) (by omega) (by omega)
  split at member
  · simp only [List.mem_cons, List.not_mem_nil, or_false] at member
    rcases member with same | same | same <;> rw [same] <;>
      exact byte _ (by omega) (by omega) (by omega) (by omega)
  · simp only [List.mem_cons, List.not_mem_nil, or_false] at member
    rcases member with same | same | same | same <;> rw [same] <;>
      exact byte _ (by omega) (by omega) (by omega) (by omega)

/-- The text of a string stays inside its quotes. -/
theorem scan_chars {t : List UInt8} {s : List Nat} (chars : Chars t s) : scan .inside t = some .inside := by
  induction chars with
  | nil => rfl
  | unescaped ordinary rest ih =>
    rw [scan_after (scan_inside (utf8_plain ordinary))]
    exact ih
  | escaped known rest ih => exact ih
  | @unicode a b c d h i j k t s hex rest ih =>
    have digit : ∀ {c : UInt8} {n : Nat}, hexDigit c = some n → c ≠ 34 ∧ c ≠ 92 ∧ ¬ c < 0x20 := by
      intro c n known
      refine ⟨fun same => ?_, fun same => ?_, fun control => ?_⟩
      · subst same
        cases known
      · subst same
        cases known
      · rw [UInt8.lt_iff_toNat_lt] at control
        have low : c.toNat < 32 := control
        have below : ∀ d : UInt8, 32 ≤ d.toNat → ¬ d ≤ c := by
          intro d above le
          rw [UInt8.le_iff_toNat_le] at le
          omega
        simp [hexDigit, isDigit, below 48 (by decide), below 97 (by decide), below 65 (by decide)] at known
    obtain ⟨first, second, third, fourth⟩ := hex
    have digits : scan .inside [a, b, c, d] = some .inside := by
      apply scan_inside
      intro e member
      simp only [List.mem_cons, List.not_mem_nil, or_false] at member
      rcases member with same | same | same | same <;> rw [same]
      · exact digit first
      · exact digit second
      · exact digit third
      · exact digit fourth
    show scan .inside ([a, b, c, d] ++ t) = _
    rw [scan_after digits]
    exact ih

/-- **A derived text ends outside its strings.** -/
theorem scan_derives {part : Part} {t : List UInt8} (derives : Derives part t) :
    scan .outside t = some .outside := by
  have blank : ∀ {w : List UInt8}, Blank w → scan .outside w = some .outside := by
    intro w white
    apply scan_outside
    intro member
    have := white 34 member
    revert this
    decide
  induction derives with
  | null => rfl
  | bool b => cases b <;> rfl
  | num v => exact scan_outside v.no_quote
  | str chars =>
    rw [scan_cons]
    show scan .inside (_ ++ [34]) = _
    rw [scan_after (scan_chars chars)]
    rfl
  | arrNil white => exact scan_enclosed (by decide) (by decide) (blank white)
  | arr inside ih => exact scan_enclosed (by decide) (by decide) ih
  | objNil white => exact scan_enclosed (by decide) (by decide) (blank white)
  | obj inside ih => exact scan_enclosed (by decide) (by decide) ih
  | padded before value after ih =>
    rw [scan_after (blank before), scan_after ih]
    exact blank after
  | element only ih => exact ih
  | elements first rest ih ih' =>
    rw [scan_after ih]
    exact ih'
  | member before chars after value ih =>
    rw [scan_after (blank before)]
    show scan .inside (_ ++ 34 :: _) = _
    rw [scan_after (scan_chars chars)]
    show scan .outside (_ ++ 58 :: _) = _
    rw [scan_after (blank after)]
    exact ih
  | one only ih => exact ih
  | members first rest ih ih' =>
    rw [scan_after ih]
    exact ih'

/-! ## Plain texts -/

/-- An ASCII character that is as it is in a string. -/
def Plain (c : UInt8) : Prop := 0x20 ≤ c ∧ c < 0x80 ∧ c ≠ 34 ∧ c ≠ 92

/-- A plain byte is a character of its own. -/
theorem Chars.plain {c : UInt8} (plain : Plain c) {t : List UInt8} {s : List Nat} (rest : Chars t s) :
    Chars (c :: t) (c.toNat :: s) := by
  obtain ⟨low, high, quote, slash⟩ := plain
  rw [UInt8.le_iff_toNat_le] at low
  rw [UInt8.lt_iff_toNat_lt] at high
  have low : 32 ≤ c.toNat := low
  have high : c.toNat < 128 := high
  have value : (Char.ofUInt8 c).toNat = c.toNat := UInt8.toNat_toUInt32 c
  have alone : String.utf8EncodeChar (Char.ofUInt8 c) = [c] := by
    unfold String.utf8EncodeChar
    dsimp only
    rw [Char.toNat_val, value, if_pos (by omega), UInt8.ofNat_toNat]
  have unit : units (Char.ofUInt8 c) = [c.toNat] := by
    rw [units, value, if_pos (by omega)]
  have ordinary : 0x20 ≤ (Char.ofUInt8 c).toNat ∧ (Char.ofUInt8 c).toNat ≠ 34 ∧ (Char.ofUInt8 c).toNat ≠ 92 := by
    rw [value]
    exact ⟨low, fun same => quote (UInt8.toNat_inj.mp same), fun same => slash (UInt8.toNat_inj.mp same)⟩
  have chars := Chars.unescaped ordinary rest
  rw [alone, unit] at chars
  exact chars

theorem chars_plain {t : List UInt8} (plain : ∀ c ∈ t, Plain c) : Chars t (t.map UInt8.toNat) := by
  induction t with
  | nil => exact .nil
  | cons c t ih =>
    exact .plain (plain c List.mem_cons_self) (ih fun d member => plain d (List.mem_cons_of_mem _ member))

theorem digitsValue_lt {ds : List UInt8} (digits : ∀ c ∈ ds, isDigit c = true) :
    digitsValue ds < 10 ^ ds.length := by
  have fold : ∀ (ds : List UInt8) (v : Nat), (∀ c ∈ ds, isDigit c = true) →
      ds.foldl (fun v d => 10 * v + (d.toNat - 48)) v < (v + 1) * 10 ^ ds.length := by
    intro ds
    induction ds with
    | nil => intro v _; simp
    | cons d ds ih =>
      intro v digits
      have digit := digits d List.mem_cons_self
      simp only [isDigit, Bool.and_eq_true, decide_eq_true_eq, UInt8.le_iff_toNat_le] at digit
      have high : d.toNat ≤ 57 := digit.2
      have step := ih (10 * v + (d.toNat - 48)) fun c member => digits c (List.mem_cons_of_mem _ member)
      have grows : 10 * v + (d.toNat - 48) + 1 ≤ (v + 1) * 10 := by omega
      calc (d :: ds).foldl (fun v d => 10 * v + (d.toNat - 48)) v
          < (10 * v + (d.toNat - 48) + 1) * 10 ^ ds.length := step
        _ ≤ (v + 1) * 10 * 10 ^ ds.length := Nat.mul_le_mul_right _ grows
        _ = (v + 1) * 10 ^ (d :: ds).length := by
          rw [List.length_cons, Nat.pow_succ', Nat.mul_assoc]
  have bound := fold ds 0 digits
  rw [Nat.zero_add, Nat.one_mul] at bound
  exact bound

/-- Decimal numbers have no leading zeros. -/
theorem decimal_unpadded (n : Nat) (zero : (decimal n).head? = some 48) : decimal n = [48] := by
  have digits : ∀ c ∈ decimal n, isDigit c = true := isDigit_decimal
  have value := digitsValue_decimal n
  have short := fun k => @length_decimal_le n k
  cases text : decimal n with
  | nil => exact absurd text (decimal_ne_nil n)
  | cons c ds =>
    rw [text] at zero digits value
    cases zero
    cases ds with
    | nil => rfl
    | cons d ds =>
      have rest := digitsValue_lt fun c member => digits c (List.mem_cons_of_mem (a := c) 48 member)
      have same : digitsValue (48 :: d :: ds) = digitsValue (d :: ds) := rfl
      rw [← same, value] at rest
      have length := short _ (by simp) rest
      rw [text, List.length_cons] at length
      omega

/-- A decimal number as a token. -/
def natural (n : Nat) : Number where
  negative := false
  int := decimal n
  fraction := []
  exponent := none
  nonempty := decimal_ne_nil n
  unpadded := decimal_unpadded n
  areDigits := by
    rw [List.append_nil]
    exact isDigit_decimal

end Firmware.Json
