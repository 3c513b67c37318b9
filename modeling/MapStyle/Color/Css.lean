import MapStyle.Color.Keyword
import MapStyle.Decimal.Reader
import MapStyle.Json.Reader
/-!
# Reading colours

A colour is written as `#` and hexadecimal digits, as a keyword, or as a call of `rgb`, `rgba`,
`hsl` or `hsla`. The arguments of a call are separated by commas, slashes and blanks in any mixture,
and a fourth one is the opacity; what follows it is ignored.
-/

namespace MapStyle.Color

/-- The colour of three or four digits, each doubled, or of six or eight digits in pairs. -/
def ofHexDigits? (digits : List Char) : Option Color := do
  let values ← digits.mapM Json.hexValue?
  let single (n : Nat) : Float := (n * 17).toFloat
  let pair (n m : Nat) : Float := (n * 16 + m).toFloat
  match values with
  | [r, g, b] => some (ofBytes (single r) (single g) (single b) 255)
  | [r, g, b, a] => some (ofBytes (single r) (single g) (single b) (single a))
  | [r, r', g, g', b, b'] => some (ofBytes (pair r r') (pair g g') (pair b b') 255)
  | [r, r', g, g', b, b', a, a'] =>
    some (ofBytes (pair r r') (pair g g') (pair b b') (pair a a'))
  | _ => none

/-- The text without a final character, if it ends in that character. -/
def dropFinal? (c : Char) (s : List Char) : Option (List Char) :=
  if s.getLast? = some c then some s.dropLast else none

/-- An amount out of 255, or a percentage of it. -/
def byteAmount? (s : List Char) : Option Float :=
  match dropFinal? '%' s with
  | some percent => (Decimal.read? percent).map (· * 2.55)
  | none => Decimal.read? s

/-- A fraction, or a percentage. -/
def fraction? (s : List Char) : Option Float :=
  match dropFinal? '%' s with
  | some percent => (Decimal.read? percent).map (· / 100)
  | none => Decimal.read? s

/-- The digits of a hue in degrees without their unit, given and returned in reverse. -/
def dropDegrees : List Char → List Char
  | 'g' :: 'e' :: 'd' :: rest => dropDegrees rest
  | s => s

/-- A hue in degrees as a fraction of the circle. -/
def hue? (s : List Char) : Option Float :=
  (Decimal.read? (dropDegrees s.reverse).reverse).map (· / 360)

def isSeparator (c : Char) : Bool := c = ',' || c = '/' || Text.isBlank c

def arguments (s : List Char) : List (List Char) :=
  (s.splitOnP isSeparator).filter fun part ↦ !part.isEmpty

/-- The opacity given by the arguments after the third, one if there is none. -/
def opacity? : List (List Char) → Option Float
  | [] => some 1
  | a :: _ => fraction? a

/-- The colour that a call of a colour function denotes. -/
def ofCall? (function : List Char) (args : List (List Char)) : Option Color :=
  match args with
  | x :: y :: z :: rest =>
    if function = "rgb".toList || function = "rgba".toList then do
      let alpha ← opacity? rest
      pure (ofBytes (← byteAmount? x) (← byteAmount? y) (← byteAmount? z) (alpha * 255))
    else if function = "hsl".toList || function = "hsla".toList then do
      let alpha ← opacity? rest
      pure (ofHsl (← hue? x) (← fraction? y) (← fraction? z) alpha)
    else none
  | _ => none

/-- The colour that a text denotes. Keywords and names of functions may be written in any case. -/
def ofCss? (text : String) : Option Color :=
  match Text.trim text.toList with
  | '#' :: digits => ofHexDigits? digits
  | s =>
    let lower := s.map Char.toLower
    match lower.dropWhile (· != '(') with
    | [] => ofKeyword? (String.ofList lower)
    | _ :: rest => do
      let body ← dropFinal? ')' rest
      ofCall? (Text.trim (lower.takeWhile (· != '('))) (arguments body)

end MapStyle.Color
