import Mathlib.Algebra.Group.Int.Defs
import Mathlib.Algebra.Group.Nat.Defs

/-!
# Fixed-width machine arithmetic on `Nat` and `Int`

Unsigned words are naturals below `2 ^ w`; the one operation whose wrap-around matters is the
subtraction of timestamps and counters. `int32_t` values are integers, brought back into range
by `wrapInt32` after an increment or decrement.
-/

namespace Firmware

/-- `a - b` on unsigned words of `w` bits. -/
def wordSub (w a b : Nat) : Nat := (a + 2 ^ w - b) % 2 ^ w

/-- No wrap when the subtrahend does not exceed the minuend. -/
theorem wordSub_of_le {w a b : Nat} (le : b ≤ a) (fits : a < 2 ^ w) : wordSub w a b = a - b := by
  have shift : a + 2 ^ w - b = (a - b) + 2 ^ w := by omega
  rw [wordSub, shift, Nat.add_mod_right, Nat.mod_eq_of_lt (by omega)]

@[simp] theorem wordSub_self {w a : Nat} (fits : a < 2 ^ w) : wordSub w a a = 0 := by
  rw [wordSub_of_le (Nat.le_refl a) fits, Nat.sub_self]

/-- The difference of two counters is right whatever they have wrapped, if it fits a word. -/
theorem wordSub_mod {w a b : Nat} (le : a ≤ b) (near : b - a < 2 ^ w) :
    wordSub w (b % 2 ^ w) (a % 2 ^ w) = b - a := by
  have low : a % 2 ^ w < 2 ^ w := Nat.mod_lt a (Nat.two_pow_pos w)
  have sum : b % 2 ^ w = (a % 2 ^ w + (b - a)) % 2 ^ w := by
    rw [Nat.mod_add_mod, Nat.add_sub_cancel' le]
  rw [sum, wordSub]
  by_cases wraps : a % 2 ^ w + (b - a) < 2 ^ w
  · have shift : a % 2 ^ w + (b - a) + 2 ^ w - a % 2 ^ w = (b - a) + 2 ^ w := by omega
    rw [Nat.mod_eq_of_lt wraps, shift, Nat.add_mod_right, Nat.mod_eq_of_lt near]
  · have once : (a % 2 ^ w + (b - a)) % 2 ^ w = a % 2 ^ w + (b - a) - 2 ^ w := by
      rw [Nat.mod_eq_sub_mod (by omega), Nat.mod_eq_of_lt (by omega)]
    have shift : a % 2 ^ w + (b - a) - 2 ^ w + 2 ^ w - a % 2 ^ w = b - a := by omega
    rw [once, shift, Nat.mod_eq_of_lt near]

/-- The `int32_t` value of `x`, two's complement. -/
def wrapInt32 (x : Int) : Int := (x + 2 ^ 31) % 2 ^ 32 - 2 ^ 31

theorem wrapInt32_of_range {x : Int} (low : -2 ^ 31 ≤ x) (high : x < 2 ^ 31) : wrapInt32 x = x := by
  unfold wrapInt32
  omega

end Firmware
