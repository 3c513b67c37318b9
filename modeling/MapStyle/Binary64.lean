/-!
# Doubles as exact numbers

A finite double is a sign, a natural mantissa and a power of two. Tests for whole numbers,
truncation and remainders are computed on these exactly, so each of them is a statement about
integers and no rounding enters.
-/

namespace MapStyle.Binary64

/-- The bits below the exponent. -/
def fraction (x : Float) : Nat := x.toBits.toNat % Nat.pow 2 52

/-- The eleven exponent bits. -/
def biasedExponent (x : Float) : Nat := x.toBits.toNat / Nat.pow 2 52 % Nat.pow 2 11

/-- Whether the sign bit is set. -/
def isNegative (x : Float) : Bool := x.toBits.toNat / Nat.pow 2 63 = 1

/-- The mantissa of a finite double: its absolute value is `mantissa x * 2 ^ exponent x`. -/
def mantissa (x : Float) : Nat :=
  if biasedExponent x = 0 then fraction x else Nat.pow 2 52 + fraction x

/-- The power of two that scales the mantissa of a finite double. -/
def exponent (x : Float) : Int :=
  if biasedExponent x = 0 then -1074 else (biasedExponent x : Int) - 1075

/-- The absolute value of a finite double with the places after the point dropped. -/
def wholePart (x : Float) : Nat :=
  if 0 ≤ exponent x then mantissa x * Nat.pow 2 (exponent x).toNat
  else mantissa x / Nat.pow 2 (-exponent x).toNat

/-- A finite double rounded towards zero. -/
def truncate (x : Float) : Int :=
  if isNegative x then -(wholePart x : Int) else wholePart x

/-- Whether a double is finite and has no places after the point. -/
def isWhole (x : Float) : Bool :=
  x.isFinite && (0 ≤ exponent x || mantissa x % Nat.pow 2 (-exponent x).toNat = 0)

/-- The least and the greatest signed 64-bit integer. -/
def minInt64 : Int := -0x8000000000000000

@[inherit_doc minInt64]
def maxInt64 : Int := 0x7FFFFFFFFFFFFFFF

/-- The integer moved into the range of the signed 64-bit integers. -/
def clampInt64 (n : Int) : Int := max minInt64 (min n maxInt64)

/-- A finite double rounded towards zero and held within the signed 64-bit integers. -/
def toInt64 (x : Float) : Int := clampInt64 (truncate x)

/-- The double `± m * 2 ^ e`, for a value that a double can hold: `m < 2 ^ 53` and `-1074 ≤ e`. -/
def ofScaled (negative : Bool) (m : Nat) (e : Int) : Float :=
  let magnitude := if e < 0 then Float.ofScientific (m * Nat.pow 5 (-e).toNat) true (-e).toNat
    else Float.ofScientific (m * Nat.pow 2 e.toNat) false 0
  if negative then -magnitude else magnitude

/-- The remainder of a division truncated to a whole quotient: it has the sign of the dividend, and
is exact. There is none for an infinite dividend or a zero divisor. -/
def remainder (x y : Float) : Float :=
  if x.isNaN || y.isNaN || x.isInf || y == 0 then 0.0 / 0.0
  else if y.isInf then x
  else
    let e := min (exponent x) (exponent y)
    let dividend := mantissa x * Nat.pow 2 (exponent x - e).toNat
    let divisor := mantissa y * Nat.pow 2 (exponent y - e).toNat
    ofScaled (isNegative x) (dividend % divisor) e

/-- The remainder that is never negative. -/
def euclideanRemainder (x y : Float) : Float :=
  let r := remainder x y
  if r < 0 then r + y.abs else r

/-- The value moved into the closed interval from `lo` to `hi`; a NaN stays as it is. -/
def clamp (lo hi x : Float) : Float := if x < lo then lo else if hi < x then hi else x

/-- The value rounded down to a whole byte: below zero it is 0, from 255 on it is 255. -/
def toByte (x : Float) : Nat :=
  if x.isNaN || x ≤ 0 then 0 else if 255 ≤ x then 255 else wholePart x

def nan : Float := 0.0 / 0.0

def infinity : Float := 1.0 / 0.0

end MapStyle.Binary64
