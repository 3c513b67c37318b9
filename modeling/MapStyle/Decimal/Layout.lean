import MapStyle.Decimal.Shortest
/-!
# Laying digits out

The digits of a decimal are written positionally, with the point behind, inside or in front of them,
or with an exponent. What distinguishes one number format from another is held in one record.
-/

namespace MapStyle.Decimal

def digitText (d : Decimal) : List Char := Nat.toDigits 10 d.digits

/-- The exponent of the leading digit. -/
def leading (d : Decimal) : Int := d.exponent + (d.digitText.length : Int) - 1

/-- The decimal written positionally; a whole number gets the given tail. -/
def positional (wholeTail : List Char) (d : Decimal) : List Char :=
  let ds := d.digitText
  if 0 ≤ d.exponent then ds ++ List.replicate d.exponent.toNat '0' ++ wholeTail
  else
    let places := (-d.exponent).toNat
    if ds.length ≤ places then "0.".toList ++ List.replicate (places - ds.length) '0' ++ ds
    else ds.take (ds.length - places) ++ '.' :: ds.drop (ds.length - places)

/-- An exponent: its mark, its sign, and at least two digits. -/
def exponentText (n : Int) : List Char :=
  let ds := Nat.toDigits 10 n.natAbs
  'e' :: (if n < 0 then '-' else '+') :: (if ds.length < 2 then '0' :: ds else ds)

/-- The decimal with one digit before the point and an exponent. -/
def scientific (d : Decimal) : List Char :=
  match d.digitText with
  | [] => []
  | c :: rest => c :: (if rest.isEmpty then [] else '.' :: rest) ++ exponentText d.leading

end MapStyle.Decimal
