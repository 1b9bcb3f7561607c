import Mathlib.Algebra.Group.Nat.Defs

/-!
# Reflected cyclic redundancy checks, bit by bit

The register is shifted right; a bit that falls out adds the polynomial. Parameters are the
width, the polynomial and the start value; the caller complements the result where its format
asks for it.
-/

namespace Firmware.Crc

/-- One bit: `(crc >> 1) ^ (poly & (0 - (crc & 1)))`. -/
def bitStep {w : Nat} (poly crc : BitVec w) : BitVec w := (crc >>> 1) ^^^ (poly &&& (0 - (crc &&& 1)))

/-- `n` bits. -/
def bits {w : Nat} (poly : BitVec w) : Nat → BitVec w → BitVec w
  | 0, crc => crc
  | n + 1, crc => bits poly n (bitStep poly crc)

/-- One byte is added to the low end of the register and shifted through. -/
def byteStep {w : Nat} (poly crc : BitVec w) (b : UInt8) : BitVec w :=
  bits poly 8 (crc ^^^ BitVec.ofNat w b.toNat)

/-- The register after a byte string. -/
def run {w : Nat} (poly init : BitVec w) (data : List UInt8) : BitVec w :=
  data.foldl (byteStep poly) init

end Firmware.Crc
