import MapStyle.Json.Reader
import MapStyle.Text.Reader
import MapStyle.Toml.Basic
/-!
# Reading TOML

A document is a sequence of lines, each of them blank, a comment, a header, or a key with a value.
Values nest at most 79 deep, and the depth is what the recursion is on; keys have fewer than 80
parts.
-/

namespace MapStyle.Toml.Parser

open Text

variable {α β : Type}

/-! ## Blanks and lines -/

/-- The blanks within a line. -/
def isSpace (c : Char) : Bool := c = ' ' || c = '\t'

/-- The characters that a comment may hold. -/
def isCommentChar (c : Char) : Bool := c = '\t' || (0x20 ≤ c.toNat && c.toNat != 0x7F)

/-- Skips blanks within a line. -/
def spaces : Reader Unit := fun s ↦ .ok () (s.dropWhile isSpace)

/-- Reads a value with blanks around it. -/
def spaced (p : Reader α) : Reader α := do
  spaces
  let a ← p
  spaces
  Reader.yield a

/-- Reads the end of a line: a line feed, with or without a carriage return in front. -/
def newline : Reader Unit := fun
  | '\n' :: rest => .ok () rest
  | '\r' :: '\n' :: rest => .ok () rest
  | _ => .miss

/-- Reads a comment up to the end of its line. -/
def comment : Reader Unit := do
  let _ ← Reader.char '#'
  let _ ← Reader.run isCommentChar
  Reader.yield ()

/-- Accepts the end of the text. -/
def textEnd : Reader Unit := fun
  | [] => .ok () []
  | _ => .miss

/-- Reads what may stand behind the content of a line, and the end of the line. -/
def lineEnd : Reader Unit := do
  spaces
  let _ ← Reader.optional comment
  Reader.orElse newline textEnd

/-- Skips blanks, comments and line ends, as between the items of an array. -/
def gaps : Reader Unit := do
  let _ ← Reader.many (Reader.choice
    [do let _ ← Reader.run1 isSpace; Reader.yield (), newline, comment])
  Reader.yield ()

/-! ## Strings -/

/-- The characters that stand for themselves in a string with escapes. -/
def isBasicChar (c : Char) : Bool :=
  c = '\t' || (0x20 ≤ c.toNat && c != '"' && c != '\\' && c.toNat != 0x7F)

/-- The characters that stand for themselves in a string without escapes. -/
def isLiteralChar (c : Char) : Bool :=
  c = '\t' || (0x20 ≤ c.toNat && c != '\'' && c.toNat != 0x7F)

def hexChar (digits : Nat) : Reader Char := fun s ↦
  match (s.take digits).mapM Json.hexValue? with
  | none => .miss
  | some values =>
    let n := values.foldl (fun n d ↦ n * 16 + d) 0
    if values.length = digits && (n < 0xD800 || (0xDFFF < n && n < 0x110000)) then
      .ok (Char.ofNat n) (s.drop digits)
    else .miss

def escaped : Reader Char := do
  let _ ← Reader.char '\\'
  let letter ← Reader.satisfy fun _ ↦ true
  match letter with
  | 'b' => Reader.yield '\x08'
  | 'f' => Reader.yield '\x0c'
  | 'n' => Reader.yield '\n'
  | 'r' => Reader.yield '\r'
  | 't' => Reader.yield '\t'
  | '"' => Reader.yield '"'
  | '\\' => Reader.yield '\\'
  | 'u' => hexChar 4
  | 'U' => hexChar 8
  | _ => Reader.fail

/-- Reads a string with escapes on one line. -/
def basicString : Reader String := do
  let _ ← Reader.char '"'
  let cs ← Reader.many (Reader.orElse (Reader.satisfy isBasicChar) escaped)
  let _ ← Reader.char '"'
  Reader.yield (String.ofList cs)

/-- Reads a string without escapes on one line. -/
def literalString : Reader String := do
  let _ ← Reader.char '\''
  let cs ← Reader.run isLiteralChar
  let _ ← Reader.char '\''
  Reader.yield (String.ofList cs)

/-- Reads a line end as a line feed. -/
def lineFeed : Reader (List Char) := do
  newline
  Reader.yield ['\n']

/-- Reads a line end behind a backslash, with all blanks and line ends that follow it. -/
def joinedLine : Reader (List Char) := do
  let _ ← Reader.char '\\'
  spaces
  newline
  let _ ← Reader.many (Reader.orElse newline do let _ ← Reader.run1 isSpace; Reader.yield ())
  Reader.yield []

/-- Reads one or two quotes that a quote does not follow. -/
def innerQuotes (quote : Char) : Reader (List Char) := fun s ↦
  let quotes := s.takeWhile (· == quote)
  if quotes.length = 1 || quotes.length = 2 then .ok quotes (s.drop quotes.length) else .miss

/-- Reads the closing quotes of a string of several lines. Up to two more quotes in front of them
belong to the string. -/
def closingQuotes (quote : Char) : Reader (List Char) := fun s ↦
  let n := (s.takeWhile (· == quote)).length
  if n < 3 then .miss else .ok (List.replicate (min n 5 - 3) quote) (s.drop (min n 5))

/-- Reads a string of several lines. A line end right behind the opening quotes is left out. -/
def multiLineString (quote : Char) (piece : Reader (List Char)) : Reader String := do
  Reader.text [quote, quote, quote]
  let _ ← Reader.optional newline
  let pieces ← Reader.many (Reader.choice [piece, lineFeed, innerQuotes quote])
  let last ← closingQuotes quote
  Reader.yield (String.ofList (pieces.flatten ++ last))

/-- Reads one character as a piece of a string. -/
def single (p : Reader Char) : Reader (List Char) := do
  let c ← p
  Reader.yield [c]

def string : Reader String := Reader.choice [
  multiLineString '"' (Reader.choice
    [single (Reader.satisfy isBasicChar), joinedLine, single escaped]),
  basicString,
  multiLineString '\'' (single (Reader.satisfy isLiteralChar)),
  literalString]

/-! ## Numbers -/

/-- Reads digits of a kind, with single underscores between them. -/
def digitsOf (isDigit : Char → Bool) : Reader (List Char) := do
  let c ← Reader.satisfy isDigit
  let cs ← Reader.many (Reader.orElse (Reader.satisfy isDigit) do
    let _ ← Reader.char '_'
    Reader.satisfy isDigit)
  Reader.yield (c :: cs)

def sign : Reader (Option Char) :=
  Reader.optional (Reader.satisfy fun c ↦ c = '+' || c = '-')

/-- Reads the digits of a whole number without zeros in front. -/
def plainDigits : Reader (List Char) := fun
  | '0' :: rest => .ok ['0'] rest
  | s => digitsOf Char.isDigit s

/-- Accepts a number that fits 64 bits with its sign. -/
def bounded (n : Int) : Reader Int :=
  if Binary64.minInt64 ≤ n ∧ n ≤ Binary64.maxInt64 then Reader.yield n else Reader.fail

/-- Reads a whole number in another base behind its mark. -/
def inBase (base : Nat) (mark : Char) : Reader Int := do
  Reader.text ['0', mark]
  let ds ← digitsOf fun c ↦ (Json.hexValue? c).any (· < base)
  bounded (ds.foldl (fun n c ↦ n * base + ((Json.hexValue? c).getD 0 : Int)) 0)

def integer : Reader Int := Reader.choice [
  inBase 16 'x', inBase 8 'o', inBase 2 'b',
  do
    let s ← sign
    let ds ← plainDigits
    let n : Int := Decimal.ofDigits ds
    bounded (if s = some '-' then -n else n)]

/-- Reads a power of ten. -/
def scale : Reader Int := do
  let _ ← Reader.satisfy fun c ↦ c = 'e' || c = 'E'
  let s ← sign
  let ds ← digitsOf Char.isDigit
  let n : Int := Decimal.ofDigits ds
  Reader.yield (if s = some '-' then -n else n)

/-- Reads the places behind a point. -/
def places : Reader (List Char) := do
  let _ ← Reader.char '.'
  digitsOf Char.isDigit

/-- Reads a number with a point or a power of ten, which must not exceed every double. -/
def decimal : Reader Float := do
  let s ← sign
  let whole ← plainDigits
  let fraction ← Reader.optional places
  let power ← Reader.optional scale
  if fraction.isNone && power.isNone then Reader.fail
  else
    let x := (Decimal.ofParts whole (fraction.getD []) (power.getD 0)).toFloat
    if s != some '-' && x.isInf then Reader.fail
    else Reader.yield (if s = some '-' then -x else x)

def specialFloat : Reader Float := do
  let s ← sign
  let x ← Reader.orElse
    (do Reader.text "inf".toList; Reader.yield Binary64.infinity)
    (do Reader.text "nan".toList; Reader.yield Binary64.nan)
  Reader.yield (if s = some '-' then -x else x)

/-! ## Dates and times -/

/-- Reads a number of a fixed count of digits between two bounds. -/
def numeral (count least most : Nat) : Reader Nat := fun s ↦
  let ds := s.take count
  let n := Decimal.ofDigits ds
  if ds.length = count && ds.all Char.isDigit && least ≤ n && n ≤ most then .ok n (s.drop count)
  else .miss

def daysOf (year month : Nat) : Nat :=
  if month = 2 then
    if year % 4 = 0 && (year % 100 != 0 || year % 400 = 0) then 29 else 28
  else if month = 4 || month = 6 || month = 9 || month = 11 then 30 else 31

def date : Reader Unit := do
  let year ← numeral 4 0 9999
  let _ ← Reader.char '-'
  let month ← numeral 2 1 12
  let _ ← Reader.char '-'
  let day ← numeral 2 1 31
  if day ≤ daysOf year month then Reader.yield () else Reader.fail

def time : Reader Unit := do
  let _ ← numeral 2 0 23
  let _ ← Reader.char ':'
  let _ ← numeral 2 0 59
  let _ ← Reader.char ':'
  let _ ← numeral 2 0 60
  let _ ← Reader.optional do
    let _ ← Reader.char '.'
    Reader.run1 Char.isDigit
  Reader.yield ()

/-- Reads the distance of a time from universal time. -/
def offset : Reader Unit := Reader.orElse
  (do let _ ← Reader.satisfy fun c ↦ c = 'Z' || c = 'z'; Reader.yield ())
  (do
    let _ ← Reader.satisfy fun c ↦ c = '+' || c = '-'
    let _ ← numeral 2 0 23
    let _ ← Reader.char ':'
    let _ ← numeral 2 0 59
    Reader.yield ())

/-- Reads a date, a time, or both. -/
def dateTime : Reader Unit := Reader.orElse
  (do
    date
    let _ ← Reader.optional do
      let _ ← Reader.satisfy fun c ↦ c = 'T' || c = 't' || c = ' '
      time
      Reader.optional offset
    Reader.yield ())
  time

/-- Reads a date, a time, or both as the text that spells it. -/
def moment : Reader String := fun s ↦
  match dateTime s with
  | .ok _ rest => .ok (String.ofList (s.take (s.length - rest.length))) rest
  | .miss => .miss
  | .abort => .abort

/-! ## Keys and values -/

/-- The characters of a key without quotes. -/
def isBareKey (c : Char) : Bool :=
  c.isDigit || ('a' ≤ c && c ≤ 'z') || ('A' ≤ c && c ≤ 'Z') || c = '-' || c = '_'

def keyPart : Reader String := Reader.choice [
  basicString,
  literalString,
  do let cs ← Reader.run1 isBareKey; Reader.yield (String.ofList cs)]

/-- Reads a dotted key: the parts in front of the last, and the last. -/
def key : Reader (List String × String) := do
  let parts ← Reader.separated (spaced keyPart) (Reader.char '.')
  match parts.getLast? with
  | none => Reader.fail
  | some last => if parts.length < 80 then Reader.yield (parts.dropLast, last) else Reader.fail

/-- Reads the items of an array; a comma may follow the last. -/
def items (value : Reader Toml) : Reader (List Toml) := do
  let between (p : Reader Toml) : Reader Toml := do
    gaps
    let v ← p
    gaps
    Reader.yield v
  let vs ← Reader.separated (between value) (Reader.char ',')
  if !vs.isEmpty then
    let _ ← Reader.optional (Reader.char ',')
  gaps
  Reader.yield vs

/-- Reads a key, an equals sign and a value. -/
def pair (value : Reader Toml) : Reader ((List String × String) × Toml) := do
  let k ← key
  let _ ← Reader.char '='
  spaces
  let v ← value
  Reader.yield (k, v)

/-- The entries of a table in braces, if no key is given twice. -/
def inlineEntries? (pairs : List ((List String × String) × Toml)) : Option Entries :=
  pairs.foldlM (fun entries ((path, key), v) ↦ assign? path key v .header entries) []

/-- Reads a table in braces. -/
def inlineTable (value : Reader Toml) : Reader Toml := do
  let _ ← Reader.char '{'
  let pairs ← Reader.separated (do let p ← pair value; spaces; Reader.yield p) (Reader.char ',')
  spaces
  let _ ← Reader.char '}'
  match inlineEntries? pairs with
  | some entries => Reader.yield (.inline entries)
  | none => Reader.fail

/-- Reads a value without values inside it. -/
def scalar : Reader Toml := Reader.choice [
  do let s ← string; Reader.yield (.string s),
  do let t ← moment; Reader.yield (.moment t),
  do let x ← decimal; Reader.yield (.float x),
  do let x ← specialFloat; Reader.yield (.float x),
  do let n ← integer; Reader.yield (.integer n),
  do Reader.text "true".toList; Reader.yield (.bool true),
  do Reader.text "false".toList; Reader.yield (.bool false)]

/-- Reads a value in which values nest up to the given depth. -/
def value : Nat → Reader Toml
  | 0 => scalar
  | depth + 1 => Reader.choice [
      scalar,
      do
        let _ ← Reader.char '['
        let vs ← items (value depth)
        let _ ← Reader.char ']'
        Reader.yield (.array vs),
      inlineTable (value depth)]

/-! ## Lines -/

/-- A line of a document. -/
inductive Line where
  /-- Nothing but blanks and a comment. -/
  | empty
  | table (path : List String) (key : String)
  /-- The header of the next table of an array. -/
  | next (path : List String) (key : String)
  /-- A value under a dotted key. -/
  | value (path : List String) (key : String) (v : Toml)

def content : Reader Line := Reader.choice [
  do
    Reader.text ['[', '[']
    let (path, name) ← key
    Reader.text [']', ']']
    Reader.yield (.next path name),
  do
    let _ ← Reader.char '['
    let (path, name) ← key
    let _ ← Reader.char ']'
    Reader.yield (.table path name),
  do
    let ((path, name), v) ← pair (value 79)
    Reader.yield (.value path name v)]

/-- Reads a line with its end. -/
def line : Reader Line := do
  spaces
  let found ← Reader.optional content
  lineEnd
  Reader.yield (found.getD .empty)

/-- Reads lines up to the end of the text. -/
def lines (s : List Char) : Option (List Line) :=
  if s.isEmpty then some []
  else
    match line s with
    | .ok l rest =>
      if rest.length < s.length then (lines rest).map (l :: ·) else none
    | _ => none
termination_by s.length

/-- A document that is read line by line: its entries, and the header that is open. -/
structure Draft where
  entries : Entries := []
  header : List String := []

/-- The document with one more line. -/
def Draft.add? (d : Draft) : Line → Option Draft
  | .empty => some d
  | .table path key =>
    (openTable? path key d.entries).map fun entries ↦ { entries, header := path ++ [key] }
  | .next path key =>
    (openNext? path key d.entries).map fun entries ↦ { entries, header := path ++ [key] }
  | .value path key v =>
    (assignBelow? d.header path key v d.entries).map fun entries ↦ { d with entries }

/-- The text without a byte order mark in front. -/
def withoutMark : List Char → List Char
  | '\ufeff' :: rest => rest
  | s => s

end MapStyle.Toml.Parser

namespace MapStyle.Toml

/-- The entries of the document that a text spells. -/
def read? (text : String) : Option Entries := do
  let lines ← Parser.lines (Parser.withoutMark text.toList)
  let draft ← lines.foldlM Parser.Draft.add? {}
  pure draft.entries

end MapStyle.Toml
