import MapStyle.Json.Basic
/-!
# Reading JSON

The grammar of JSON over a list of characters. Containers nest at most 127 deep, and the depth is
what the recursion is on. A number without point and exponent is an integer if it fits 64 bits and
a double otherwise, which is scaled from its digits in steps that round each; a number beyond every
double is refused. Escapes must spell whole characters, so a surrogate is accepted only as the first
half of a pair. Of members with one key the last is kept.
-/

namespace MapStyle.Json

def skipBlank (s : List Char) : List Char :=
  s.dropWhile fun c ↦ c = ' ' || c = '\t' || c = '\r' || c = '\n'

def hexValue? (c : Char) : Option Nat :=
  if c.isDigit then some (c.toNat - 48)
  else if 'a' ≤ c && c ≤ 'f' then some (c.toNat - 87)
  else if 'A' ≤ c && c ≤ 'F' then some (c.toNat - 55)
  else none

/-- The 16-bit unit spelled by four hexadecimal digits. -/
def readUnit : List Char → Option (Nat × List Char)
  | a :: b :: c :: d :: rest => do
    let a ← hexValue? a
    let b ← hexValue? b
    let c ← hexValue? c
    let d ← hexValue? d
    pure (((a * 16 + b) * 16 + c) * 16 + d, rest)
  | _ => none

/-- The character spelled after a backslash and `u`: one unit, or a pair of surrogates. -/
def readCodePoint (s : List Char) : Option (Char × List Char) := do
  let (high, rest) ← readUnit s
  if 0xDC00 ≤ high && high ≤ 0xDFFF then none
  else if 0xD800 ≤ high && high ≤ 0xDBFF then
    match rest with
    | '\\' :: 'u' :: rest =>
      let (low, rest) ← readUnit rest
      if 0xDC00 ≤ low && low ≤ 0xDFFF then
        some (Char.ofNat (0x10000 + (high - 0xD800) * 0x400 + (low - 0xDC00)), rest)
      else none
    | _ => none
  else some (Char.ofNat high, rest)

/-- The character that a backslash and one letter stand for. -/
def simpleEscape? : Char → Option Char
  | '"' => some '"'
  | '\\' => some '\\'
  | '/' => some '/'
  | 'b' => some '\x08'
  | 'f' => some '\x0c'
  | 'n' => some '\n'
  | 'r' => some '\r'
  | 't' => some '\t'
  | _ => none

/-- Reads the rest of a string up to its closing quote. Control characters must be escaped. -/
def readString : List Char → Option (List Char × List Char)
  | [] => none
  | '"' :: rest => some ([], rest)
  | '\\' :: 'u' :: rest =>
    match readCodePoint rest with
    | none => none
    | some (c, left) =>
      if left.length < rest.length then (readString left).map fun (cs, left) ↦ (c :: cs, left)
      else none
  | '\\' :: c :: rest => do
    let c ← simpleEscape? c
    (readString rest).map fun (cs, left) ↦ (c :: cs, left)
  | c :: rest =>
    if c = '\\' || c.toNat < 0x20 then none
    else (readString rest).map fun (cs, left) ↦ (c :: cs, left)
termination_by s => s.length

/-- Reads at least one digit. -/
def readDigits (s : List Char) : Option (List Char × List Char) :=
  match s.takeWhile Char.isDigit with
  | [] => none
  | ds => some (ds, s.dropWhile Char.isDigit)

/-- The digits before the point: a zero that stands alone, or no leading zero. -/
def readWhole : List Char → Option (List Char × List Char)
  | '0' :: rest => match rest with
    | c :: _ => if c.isDigit then none else some (['0'], rest)
    | [] => some (['0'], [])
  | s => readDigits s

/-- The digits after a point, if there is a point. -/
def readFraction : List Char → Option (Option (List Char) × List Char)
  | '.' :: rest => (readDigits rest).map fun (ds, left) ↦ (some ds, left)
  | s => some (none, s)

/-- The exponent after its mark, if there is a mark. -/
def readScale : List Char → Option (Option Int × List Char)
  | [] => some (none, [])
  | c :: rest =>
    if c = 'e' || c = 'E' then
      let (negative, digits) := match rest with
        | '-' :: t => (true, t)
        | '+' :: t => (false, t)
        | t => (false, t)
      (readDigits digits).map fun (ds, left) ↦
        (some (if negative then -(Decimal.ofDigits ds : Int) else Decimal.ofDigits ds), left)
    else some (none, c :: rest)

/-- Takes digits into a significand while it fits 64 bits. What is left are the other digits. -/
def takeDigits (significand : Nat) : List Char → Nat × List Char
  | [] => (significand, [])
  | c :: rest =>
    let next := significand * 10 + Decimal.digitValue c
    if next < 0x10000000000000000 then takeDigits next rest else (significand, c :: rest)

/-- The double nearest to a power of ten. -/
def powerOfTen (exponent : Nat) : Float := Float.ofScientific 1 false exponent

/-- A double times a power of ten. Each step rounds, and only a result that is too large is none. -/
def scaled (x : Float) (exponent : Int) : Option Float :=
  if exponent.natAbs ≤ 308 then
    if 0 ≤ exponent then
      let y := x * powerOfTen exponent.natAbs
      if y.isInf then none else some y
    else some (x / powerOfTen exponent.natAbs)
  else if x == 0 then some x
  else if 0 ≤ exponent then none
  else scaled (x / powerOfTen 308) (exponent + 308)
termination_by (-exponent).toNat

/-- The number written by the parts of a numeral. An integer within 64 bits is kept. Any other
number is scaled from the double nearest to its significand, so that it may miss the double nearest
to the number itself. Digits before the point that do not fit the significand count for the
exponent, and such digits behind the point are ignored. -/
def numberOfParts (negative : Bool) (whole : List Char) (fraction : Option (List Char))
    (scale : Option Int) : Option Number :=
  let n := Decimal.ofDigits whole
  let integral := fraction.isNone && scale.isNone
  if integral && !negative && n < 0x10000000000000000 then some (.int n)
  else if integral && negative && 0 < n && n ≤ 0x8000000000000000 then some (.int (-n))
  else
    let decimals := fraction.getD []
    let (significand, large) := takeDigits 0 whole
    let (significand, ignored) := takeDigits significand decimals
    let exponent : Int := large.length + ignored.length - decimals.length + scale.getD 0
    (scaled (Float.ofScientific significand false 0) exponent).map fun x ↦
      .float (if negative then -x else x)

def readNumber (s : List Char) : Option (Number × List Char) := do
  let (negative, s) := match s with
    | '-' :: rest => (true, rest)
    | s => (false, s)
  let (whole, s) ← readWhole s
  let (fraction, s) ← readFraction s
  let (scale, s) ← readScale s
  let n ← numberOfParts negative whole fraction scale
  pure (n, s)

def readWord (word : List Char) (value : Json) (s : List Char) : Option (Json × List Char) :=
  if word.isPrefixOf s then some (value, s.drop word.length) else none

/-- Reads the items after the first up to the closing mark; each is introduced by a comma. -/
def readMore {α : Type} (item : List Char → Option (α × List Char)) (close : Char) (s : List Char) :
    Option (List α × List Char) :=
  match skipBlank s with
  | [] => none
  | c :: rest =>
    if c = close then some ([], rest)
    else if c = ',' then
      match item (skipBlank rest) with
      | none => none
      | some (a, left) =>
        if left.length < s.length then
          (readMore item close left).map fun (as, left) ↦ (a :: as, left)
        else none
    else none
termination_by s.length

/-- Reads the items of a container up to the closing mark. -/
def readItems {α : Type} (item : List Char → Option (α × List Char)) (close : Char)
    (s : List Char) : Option (List α × List Char) :=
  match skipBlank s with
  | [] => none
  | c :: rest =>
    if c = close then some ([], rest)
    else do
      let (a, left) ← item (c :: rest)
      let (as, left) ← readMore item close left
      pure (a :: as, left)

/-- Reads a member of an object. -/
def readMember (value : List Char → Option (Json × List Char)) :
    List Char → Option ((String × Json) × List Char)
  | '"' :: s => do
    let (key, s) ← readString s
    match skipBlank s with
    | ':' :: s =>
      let (v, s) ← value (skipBlank s)
      pure ((String.ofList key, v), s)
    | _ => none
  | _ => none

/-- Reads a value; containers may nest `depth` deep. -/
def readValue (depth : Nat) (s : List Char) : Option (Json × List Char) :=
  match s with
  | [] => none
  | 'n' :: _ => readWord "null".toList null s
  | 't' :: _ => readWord "true".toList (bool true) s
  | 'f' :: _ => readWord "false".toList (bool false) s
  | '"' :: rest => (readString rest).map fun (cs, left) ↦ (string (String.ofList cs), left)
  | '[' :: rest =>
    match depth with
    | 0 => none
    | depth + 1 =>
      (readItems (readValue depth) ']' rest).map fun (items, left) ↦ (array items, left)
  | '{' :: rest =>
    match depth with
    | 0 => none
    | depth + 1 => (readItems (readMember (readValue depth)) '}' rest).map fun (members, left) ↦
      (object (Table.ofEntries members), left)
  | _ => (readNumber s).map fun (n, left) ↦ (number n, left)

/-- How deep containers may nest. -/
def maxDepth : Nat := 127

/-- The value written by a text, if the text is one JSON value with blanks around it. -/
def read? (text : String) : Option Json :=
  match readValue maxDepth (skipBlank text.toList) with
  | some (v, rest) => if (skipBlank rest).isEmpty then some v else none
  | none => none

end MapStyle.Json
