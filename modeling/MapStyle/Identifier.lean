/-!
# Identifiers

Features without an identifier are given one: 32 hexadecimal digits in five groups, laid out as a
random identifier of version 4. A supply hands identifiers out one after the other; it multiplies
a counter by an odd number, so that the first `2 ^ 122` identifiers of a supply differ from each
other.
-/

namespace MapStyle

/-- A supply of identifiers. -/
structure Identifiers where
  /-- The number of the next identifier. -/
  next : Nat
  deriving Repr, DecidableEq

namespace Identifiers

/-- The digits of a number in base 16, the lowest of them first. -/
def hexDigits : (count n : Nat) → List Char
  | 0, _ => []
  | count + 1, n => Nat.digitChar (n % 16) :: hexDigits count (n / 16)

/-- The free bits of the identifier with a given number. -/
def bitsOf (n : Nat) : Nat := (n * 0x2545F4914F6CDD1D9E3779B97F4A7C15 + 0x1F83D9AB) % Nat.pow 2 122

/-- The identifier made from 122 free bits: the thirteenth digit is the version, and the
seventeenth is one of four. -/
def format (bits : Nat) : String :=
  let digits := hexDigits 30 bits
  let mark := Nat.digitChar (8 + bits / Nat.pow 2 120 % 4)
  String.ofList (digits.take 8 ++ '-' :: (digits.drop 8).take 4 ++ '-' :: '4' ::
    (digits.drop 12).take 3 ++ '-' :: mark :: (digits.drop 15).take 3 ++ '-' :: digits.drop 18)

/-- The next identifier, and the supply without it. -/
def fresh (supply : Identifiers) : String × Identifiers :=
  (format (bitsOf supply.next), ⟨supply.next + 1⟩)

end Identifiers

end MapStyle
