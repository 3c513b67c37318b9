import MapStyle.Text.Reader
import MapStyle.Text.Blank
import MapStyle.Text.Letter
import MapStyle.Decimal.Basic
/-!
# Tokens

The small readers that the grammars of expressions and of paths are built from: blanks between
tokens, single symbols, runs of digits, and names.
-/

namespace MapStyle.Text.Reader

variable {α : Type}

/-- Reads a value with any blanks around it. -/
def token (p : Reader α) : Reader α := fun s ↦
  match p (s.dropWhile isTokenBlank) with
  | .ok a rest => .ok a (rest.dropWhile isTokenBlank)
  | .miss => .miss
  | .abort => .abort

/-- Reads one symbol with any blanks around it. -/
def symbol (c : Char) : Reader Char := token (char c)

/-- Reads the longest run of decimal digits, at least one. -/
def digits : Reader (List Char) := run1 Char.isDigit

/-- Reads an integer that fits 64 bits with its sign; only a minus may stand in front. -/
def integer : Reader Int := do
  let sign ← optional (char '-')
  let ds ← digits
  let magnitude : Int := Decimal.ofDigits ds
  let n := if sign.isSome then -magnitude else magnitude
  if Binary64.minInt64 ≤ n ∧ n ≤ Binary64.maxInt64 then yield n else fail

/-- The characters a name may begin with. -/
def isNameStart (c : Char) : Bool := isLetter c || c = '_'

/-- The characters a name may go on with. -/
def isNamePart (c : Char) : Bool := isLetterOrNumber c || c = '_'

/-- Reads a name: a letter or an underscore, then letters, numbers and underscores. -/
def name : Reader String := do
  let c ← satisfy isNameStart
  let cs ← run isNamePart
  yield (String.ofList (c :: cs))

end MapStyle.Text.Reader
