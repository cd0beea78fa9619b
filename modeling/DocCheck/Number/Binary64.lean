/-!
# Numbers of the binary64 format

A `Binary64` is its 64-bit encoding: a sign bit, eleven exponent bits and fifty-two fraction bits.
Everything here is exact arithmetic on natural numbers and integers. An operation first names the
exact result, as a quotient of naturals with a sign, and `Binary64.ofRatio` rounds it once to the
nearest encoding, a tie going to the even significand; so each operation is correctly rounded
because the one rounding step is.

* `Binary64.significand`, `Binary64.exponent` — a finite number is `significand * 2 ^ exponent`;
* `Binary64.ofRatio`, `Binary64.ofInt`, `Binary64.ofDecimal` — the nearest number;
* `Binary64.mul`, `Binary64.div`, `Binary64.sub`, `Binary64.rem` — rounded arithmetic;
* `Binary64.compare` — exact order of finite numbers against integers and each other.
-/

namespace DocCheck

/-- A number of the binary64 format, held as its 64-bit encoding. -/
structure Binary64 where
  /-- Sign bit, biased exponent and fraction, most significant first. -/
  bits : UInt64
  deriving DecidableEq

namespace Binary64

/-! ### The parts of an encoding -/

/-- The sign bit. A negative zero has it set. -/
def isNegative (x : Binary64) : Bool := decide (Nat.pow 2 63 ≤ x.bits.toNat)

/-- The encoding without its sign bit. -/
def magnitudeBits (x : Binary64) : Nat := x.bits.toNat % Nat.pow 2 63

/-- The biased exponent, `0` for zeros and subnormal numbers and `2047` for the special values. -/
def biasedExponent (x : Binary64) : Nat := x.magnitudeBits / Nat.pow 2 52

/-- The fraction field. -/
def fraction (x : Binary64) : Nat := x.magnitudeBits % Nat.pow 2 52

/-- Neither an infinity nor a NaN. -/
def isFinite (x : Binary64) : Bool := x.biasedExponent != 2047

/-- The special value that is no number. -/
def isNaN (x : Binary64) : Bool := x.biasedExponent == 2047 && x.fraction != 0

def isZero (x : Binary64) : Bool := x.magnitudeBits == 0

/-- The integer significand of a finite number, the hidden bit included. -/
def significand (x : Binary64) : Nat :=
  if x.biasedExponent = 0 then x.fraction else x.fraction + Nat.pow 2 52

/-- The power of two that scales the significand. -/
def exponent (x : Binary64) : Int :=
  if x.biasedExponent = 0 then -1074 else (x.biasedExponent : Int) - 1075

/-! ### Rounding -/

/-- The encoding of infinity, without sign. -/
def infinityBits : Nat := 2047 * Nat.pow 2 52

/-- The number with the given sign and magnitude bits. -/
def ofMagnitude (negative : Bool) (magnitude : Nat) : Binary64 :=
  ⟨UInt64.ofNat (if negative then magnitude + Nat.pow 2 63 else magnitude)⟩

def infinity (negative : Bool) : Binary64 := ofMagnitude negative infinityBits

/-- The NaN that reading `.nan` gives. -/
def nan : Binary64 := ofMagnitude false (infinityBits + Nat.pow 2 51)

/-- `⌊log₂ (num / den)⌋` of a positive quotient. -/
def floorLog2 (num den : Nat) : Int :=
  let guess : Int := (Nat.log2 num : Int) - (Nat.log2 den : Int)
  let reached :=
    if 0 ≤ guess then den * Nat.pow 2 guess.toNat ≤ num else den ≤ num * Nat.pow 2 (-guess).toNat
  if reached then guess else guess - 1

/-- The quotient rounded to the nearest integer, a half going to the even neighbour. -/
def roundHalfEven (num den : Nat) : Nat :=
  let q := num / den
  let r := num % den
  if 2 * r > den || (2 * r == den && q % 2 == 1) then q + 1 else q

/-- Magnitude bits of the binary64 number nearest to `num / den`. The significand is rounded on the
grid of the quotient's own binade, never finer than the subnormal grid; a carry out of the
significand moves into the exponent field by itself. -/
def roundMagnitude (num den : Nat) : Nat :=
  if num = 0 then 0
  else
    let scale : Int := max (floorLog2 num den - 52) (-1074)
    let q :=
      if 0 ≤ scale then roundHalfEven num (den * Nat.pow 2 scale.toNat)
      else roundHalfEven (num * Nat.pow 2 (-scale).toNat) den
    min infinityBits ((scale + 1074).toNat * Nat.pow 2 52 + q)

/-- The binary64 number nearest to `± num / den`. -/
def ofRatio (negative : Bool) (num den : Nat) : Binary64 :=
  ofMagnitude negative (roundMagnitude num den)

/-- The binary64 number nearest to an integer. -/
def ofInt (n : Int) : Binary64 := ofRatio (decide (n < 0)) n.natAbs 1

/-- The binary64 number nearest to `± digits * 10 ^ e`. Exponents so large or small that the answer
is an infinity or a zero whatever the digits are decided without computing the power. -/
def ofDecimal (negative : Bool) (digits : Nat) (e : Int) : Binary64 :=
  if digits = 0 then ofMagnitude negative 0
  else if 310 < e then infinity negative
  else if e + (Nat.log2 digits : Int) < -1100 then ofMagnitude negative 0
  else if 0 ≤ e then ofRatio negative (digits * Nat.pow 10 e.toNat) 1
  else ofRatio negative digits (Nat.pow 10 (-e).toNat)

/-! ### Exact values -/

/-- The numerator of the magnitude as a quotient of naturals. -/
def numerator (x : Binary64) : Nat :=
  if 0 ≤ x.exponent then x.significand * Nat.pow 2 x.exponent.toNat else x.significand

/-- The denominator of the magnitude as a quotient of naturals, a power of two. -/
def denominator (x : Binary64) : Nat :=
  if 0 ≤ x.exponent then 1 else Nat.pow 2 (-x.exponent).toNat

/-- The signed numerator of a finite number over `denominator`. -/
def signedNumerator (x : Binary64) : Int :=
  if x.isNegative then -(x.numerator : Int) else x.numerator

/-- A finite number without a fractional part. -/
def isIntegral (x : Binary64) : Bool := x.isFinite && x.numerator % x.denominator == 0

/-- The integer part of a finite number, cut toward zero. -/
def truncate (x : Binary64) : Int :=
  let whole : Int := ((x.numerator / x.denominator : Nat) : Int)
  if x.isNegative then -whole else whole

/-- Exact order of two finite numbers. -/
def compare (x y : Binary64) : Ordering :=
  Ord.compare (x.signedNumerator * y.denominator) (y.signedNumerator * x.denominator)

/-- Exact order of a finite number against an integer. -/
def compareInt (x : Binary64) (n : Int) : Ordering :=
  Ord.compare x.signedNumerator (n * x.denominator)

/-! ### Rounded arithmetic -/

/-- The magnitude with a positive sign. -/
def abs (x : Binary64) : Binary64 := ofMagnitude false x.magnitudeBits

def mul (x y : Binary64) : Binary64 :=
  ofRatio (x.isNegative != y.isNegative) (x.numerator * y.numerator) (x.denominator * y.denominator)

/-- Quotient of two finite numbers: an infinity when a number that is not zero is divided by zero,
a NaN for zero by zero. -/
def div (x y : Binary64) : Binary64 :=
  if y.isZero then
    if x.isZero then nan else infinity (x.isNegative != y.isNegative)
  else
    ofRatio (x.isNegative != y.isNegative) (x.numerator * y.denominator)
      (x.denominator * y.numerator)

def sub (x y : Binary64) : Binary64 :=
  let d := x.signedNumerator * y.denominator - y.signedNumerator * x.denominator
  ofRatio (decide (d < 0)) d.natAbs (x.denominator * y.denominator)

/-- Remainder of the division of finite numbers that is cut toward zero; it has the sign of the
dividend and is always exact. -/
def rem (x y : Binary64) : Binary64 :=
  if y.isZero then nan
  else
    ofRatio x.isNegative ((x.numerator * y.denominator) % (y.numerator * x.denominator))
      (x.denominator * y.denominator)

end Binary64

end DocCheck
