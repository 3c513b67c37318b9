import MapStyle.Decimal.Basic
import MapStyle.Text.Blank
/-!
# Reading numbers from free text

The texts that denote a number wherever a text is converted to one: an optional sign, then digits
with an optional point and an optional exponent, or a word for infinity or NaN in any case. Digits
may be missing on one side of the point, not on both.
-/

namespace MapStyle.Decimal

/-- Removes a leading sign; the flag says whether it was a minus. -/
def splitSign : List Char → Bool × List Char
  | '-' :: rest => (true, rest)
  | '+' :: rest => (false, rest)
  | s => (false, s)

/-- The exponent written after its mark: an optional sign and at least one digit, and nothing
else. -/
def readExponent (s : List Char) : Option Int :=
  let (negative, digits) := splitSign s
  if digits.isEmpty || !digits.all Char.isDigit then none
  else some (if negative then -(ofDigits digits : Int) else ofDigits digits)

/-- The decimal denoted by an unsigned numeral. -/
def readUnsigned (s : List Char) : Option Decimal :=
  let whole := s.takeWhile Char.isDigit
  let rest := s.dropWhile Char.isDigit
  let fraction := match rest with
    | '.' :: t => t.takeWhile Char.isDigit
    | _ => []
  let rest := match rest with
    | '.' :: t => t.dropWhile Char.isDigit
    | _ => rest
  if whole.isEmpty && fraction.isEmpty then none
  else match rest with
    | [] => some (ofParts whole fraction 0)
    | c :: t =>
      if c = 'e' || c = 'E' then (readExponent t).map (ofParts whole fraction) else none

/-- The double denoted by a text, if the text denotes one. -/
def read? (s : List Char) : Option Float :=
  let (negative, body) := splitSign s
  let word := body.map Char.toLower
  let signed (x : Float) : Float := if negative then -x else x
  if word = "inf".toList || word = "infinity".toList then some (signed Binary64.infinity)
  else if word = "nan".toList then some Binary64.nan
  else (readUnsigned body).map fun d ↦ signed d.toFloat

end MapStyle.Decimal
