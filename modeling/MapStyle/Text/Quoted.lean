import MapStyle.Text.Category
import MapStyle.Text.CharSet
/-!
# Quoted text

A text in double quotes that shows every character: quotes, backslashes and the common control
characters are escaped by a letter, and characters that leave no mark of their own by their number.
-/

namespace MapStyle.Text

/-- Boundaries of the characters outside the categories of marks that attach to the character before
them. -/
def attachingSigns : CharSet := [
  0x9BE, 0x9BF, 0x9D7, 0x9D8, 0xB3E, 0xB3F, 0xB57, 0xB58, 0xBBE, 0xBBF, 0xBD7, 0xBD8, 0xCC2, 0xCC3,
  0xCD5, 0xCD7, 0xD3E, 0xD3F, 0xD57, 0xD58, 0xDCF, 0xDD0, 0xDDF, 0xDE0, 0x1B35, 0x1B36,
  0x200C, 0x200D, 0x302E, 0x3030, 0xFF9E, 0xFFA0, 0x1133E, 0x1133F, 0x11357, 0x11358,
  0x114B0, 0x114B1, 0x114BD, 0x114BE, 0x115AF, 0x115B0, 0x11930, 0x11931, 0x1D165, 0x1D166,
  0x1D16E, 0x1D173, 0xE0020, 0xE0080]

/-- The characters that are shown by their number: those that attach to the one before them, control
and format characters, separators but the space, and code points without a character. -/
def hidden : CharSet :=
  CharSet.diff
    (.unions [categoryMn, categoryMe, attachingSigns, categoryC, categoryZ])
    (.single ' ')

/-- The letter that escapes a character, for those that have one. -/
def quotedLetter? : Char → Option Char
  | '\x00' => some '0'
  | '\t' => some 't'
  | '\r' => some 'r'
  | '\n' => some 'n'
  | '"' => some '"'
  | '\\' => some '\\'
  | _ => none

/-- A character as it stands inside quotes. -/
def quotedChar (c : Char) : List Char :=
  match quotedLetter? c with
  | some l => ['\\', l]
  | none =>
    if 0x20 ≤ c.toNat && c.toNat < 0x7F then [c]
    else if hidden.contains c then ['\\', 'u', '{'] ++ Nat.toDigits 16 c.toNat ++ ['}']
    else [c]

/-- The text in double quotes. -/
def quoted (s : String) : String := String.ofList ('"' :: (s.toList.flatMap quotedChar ++ ['"']))

end MapStyle.Text
