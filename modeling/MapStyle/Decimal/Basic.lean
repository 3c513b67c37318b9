import MapStyle.Binary64
/-!
# Decimals

A decimal is a natural number of units of a power of ten. Texts are read into decimals, and decimals
are rounded once, to the nearest double with ties to even.
-/

namespace MapStyle

/-- The number `digits * 10 ^ exponent`. -/
structure Decimal where
  /-- The digits read as one natural number. -/
  digits : Nat
  /-- The power of ten they are units of. -/
  exponent : Int
  deriving Repr, DecidableEq

namespace Decimal

def digitValue (c : Char) : Nat := c.toNat - '0'.toNat

def ofDigits (cs : List Char) : Nat := cs.foldl (fun n c ↦ n * 10 + digitValue c) 0

/-- The decimal written by digits before and after a point, scaled by a power of ten. -/
def ofParts (whole fraction : List Char) (scale : Int) : Decimal where
  digits := ofDigits (whole ++ fraction)
  exponent := scale - fraction.length

/-- The number of decimal digits, at most one more than needed. -/
def digitCount (n : Nat) : Nat := n.log2 * 30103 / 100000 + 1

/-- The double nearest to the decimal. Decimals beyond every double become infinity, and those
below half the least double become zero, without their power of ten being computed. -/
def toFloat (d : Decimal) : Float :=
  if d.digits = 0 then 0
  else if 400 < d.exponent + digitCount d.digits then Binary64.infinity
  else if d.exponent + digitCount d.digits < -400 then 0
  else Float.ofScientific d.digits (d.exponent < 0) d.exponent.natAbs

end Decimal

end MapStyle
