import MapStyle.Json.Basic
import MapStyle.Decimal.Layout
/-!
# Writing JSON

Values are written either compactly or indented by two blanks a level, with an empty container kept
on one line. Members stand in the order in which the value lists them. Doubles are written with the
fewest digits that read back and always show a point or an exponent; quotes, backslashes and control
characters are escaped, and every other character stands for itself.
-/

namespace MapStyle.Json

/-- Doubles are positional while the leading digit stands between `10 ^ -5` and `10 ^ 15`. -/
def floatText (x : Float) : List Char :=
  let d := Decimal.shortest .toEven x
  let body :=
    if -5 ≤ d.leading && d.leading ≤ 15 then d.positional ".0".toList else d.scientific
  if Binary64.isNegative x then '-' :: body else body

def Number.text : Number → List Char
  | .int n => (toString n).toList
  | .float x => floatText x

/-- The letter that escapes a character, for those that have one. -/
def escapeLetter? : Char → Option Char
  | '"' => some '"'
  | '\\' => some '\\'
  | '\x08' => some 'b'
  | '\x0c' => some 'f'
  | '\n' => some 'n'
  | '\r' => some 'r'
  | '\t' => some 't'
  | _ => none

/-- A character as it stands inside a written string. -/
def escapeChar (c : Char) : List Char :=
  match escapeLetter? c with
  | some l => ['\\', l]
  | none =>
    if c.toNat < 0x20 then
      "\\u00".toList ++ [Nat.digitChar (c.toNat / 16), Nat.digitChar (c.toNat % 16)]
    else [c]

def quote (s : String) : List Char := '"' :: (s.toList.flatMap escapeChar ++ ['"'])

/-- Joins texts with a separator between each two. -/
def joinWith (separator : List Char) : List (List Char) → List Char
  | [] => []
  | [t] => t
  | t :: rest => t ++ separator ++ joinWith separator rest

mutual

def compactChars : Json → List Char
  | null => "null".toList
  | bool true => "true".toList
  | bool false => "false".toList
  | number n => n.text
  | string s => quote s
  | array items => '[' :: (joinWith [','] (compactItems items) ++ [']'])
  | object members => '{' :: (joinWith [','] (compactMembers members) ++ ['}'])

def compactItems : List Json → List (List Char)
  | [] => []
  | v :: rest => compactChars v :: compactItems rest

def compactMembers : List (String × Json) → List (List Char)
  | [] => []
  | (k, v) :: rest => (quote k ++ ':' :: compactChars v) :: compactMembers rest

end

def compact (v : Json) : String := String.ofList (compactChars v)

/-- The lines of a container: its marks, and its items one level in. -/
def block (opening closing : Char) (indent : Nat) (items : List (List Char)) : List Char :=
  let pad (n : Nat) : List Char := '\n' :: List.replicate n ' '
  if items.isEmpty then [opening, closing]
  else
    opening :: (pad (indent + 2) ++ joinWith (',' :: pad (indent + 2)) items ++ pad indent ++
      [closing])

mutual

/-- The indented text of a value whose container is indented by `indent`. -/
def prettyChars (indent : Nat) : Json → List Char
  | null => "null".toList
  | bool true => "true".toList
  | bool false => "false".toList
  | number n => n.text
  | string s => quote s
  | array items => block '[' ']' indent (prettyItems indent items)
  | object members => block '{' '}' indent (prettyMembers indent members)

/-- The indented texts of the items of a container. -/
def prettyItems (indent : Nat) : List Json → List (List Char)
  | [] => []
  | v :: rest => prettyChars (indent + 2) v :: prettyItems indent rest

/-- The indented texts of the members of a container. -/
def prettyMembers (indent : Nat) : List (String × Json) → List (List Char)
  | [] => []
  | (k, v) :: rest =>
    (quote k ++ ": ".toList ++ prettyChars (indent + 2) v) :: prettyMembers indent rest

end

def pretty (v : Json) : String := String.ofList (prettyChars 0 v)

end MapStyle.Json
