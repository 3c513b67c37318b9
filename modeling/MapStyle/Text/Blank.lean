/-!
# Blanks and trimming

Two notions of white space occur. The grammars of expressions and paths skip the four ASCII blanks
between tokens; the bodies of placeholders, and texts read as numbers or colours, are trimmed of the
25 characters with the Unicode property White_Space.
-/

namespace MapStyle.Text

/-- The blanks that may stand between tokens: space, tab, carriage return and line feed. -/
def isTokenBlank (c : Char) : Bool := c = ' ' || c = '\t' || c = '\r' || c = '\n'

/-- The characters with the Unicode property White_Space. -/
def isBlank (c : Char) : Bool :=
  let n := c.toNat
  (0x09 ≤ n && n ≤ 0x0D) || n = 0x20 || n = 0x85 || n = 0xA0 || n = 0x1680 ||
    (0x2000 ≤ n && n ≤ 0x200A) || n = 0x2028 || n = 0x2029 || n = 0x202F || n = 0x205F || n = 0x3000

/-- The text without the blanks at its two ends. -/
def trim (s : List Char) : List Char :=
  ((s.dropWhile isBlank).reverse.dropWhile isBlank).reverse

end MapStyle.Text
