import MapStyle.Regex.Basic
import MapStyle.Text.Fold
import MapStyle.Json.Reader
/-!
# Reading patterns

A pattern is read in one pass from left to right. Flags are part of what is known at a point of the
pattern: they are set from outside, changed by `(?flags)` up to the end of the group around it, and
by `(?flags:…)` for that group, and each class and assertion is resolved under the flags at its
place. There are no back references and nothing that looks around; a pattern that asks for them is
refused, as is every escape and every bracket without a meaning.
-/

namespace MapStyle.Regex

open Text (CharSet)

/-- The flags in force at a point of a pattern. -/
structure Flags where
  /-- Letters stand for both cases. -/
  ignoreCase : Bool := false
  /-- Anchors hold at lines and not only at the ends of the text. -/
  multiLine : Bool := false
  /-- The dot matches line ends too. -/
  dotAll : Bool := false
  /-- Blanks and comments in the pattern are skipped. -/
  spaced : Bool := false
  /-- Repetitions are lazy unless marked. -/
  swapGreed : Bool := false
  /-- Classes are those of Unicode and not of ASCII. -/
  unicode : Bool := true
  /-- A carriage return ends a line as well. -/
  crlf : Bool := false
  deriving Repr, DecidableEq

namespace Flags

/-- The flags with the one named by a letter switched. -/
def set? (f : Flags) (letter : Char) (value : Bool) : Option Flags :=
  match letter with
  | 'i' => some { f with ignoreCase := value }
  | 'm' => some { f with multiLine := value }
  | 's' => some { f with dotAll := value }
  | 'x' => some { f with spaced := value }
  | 'U' => some { f with swapGreed := value }
  | 'u' => some { f with unicode := value }
  | 'R' => some { f with crlf := value }
  | _ => none

/-- The characters of words under the flags. -/
def words (f : Flags) : CharSet :=
  if f.unicode then Text.wordCharacters else [0x30, 0x3A, 0x41, 0x5B, 0x5F, 0x60, 0x61, 0x7B]

/-- The set with the variants of its letters, if case is ignored. -/
def fold (f : Flags) (set : CharSet) : CharSet :=
  if !f.ignoreCase then set else if f.unicode then set.foldClosure else set.asciiFoldClosure

/-- A set of characters as an expression. Without Unicode a set must stay within ASCII. -/
def charOf? (f : Flags) (set : CharSet) : Option Regex :=
  if f.unicode || (set.inter (.complement (.interval 0 0x7F))).isEmpty then some (.char set)
  else none

end Flags

/-! ## Escapes -/

/-- What an escape stands for. -/
inductive Escape where
  | literal (c : Char)
  | set (s : CharSet)
  | assertion (a : Assertion)

/-- In spaced patterns, the text after blanks and comments. -/
def skipSpace (f : Flags) (s : List Char) : List Char :=
  if f.spaced then go s.length s else s
where
  /-- Skips at most `n` runs of blanks with the comment after each. -/
  go : Nat → List Char → List Char
    | 0, s => s
    | n + 1, s =>
      match s.dropWhile Text.isBlank with
      | '#' :: rest => go n (rest.dropWhile (· != '\n'))
      | rest => rest

/-- Whether a code point is that of a character. -/
def charAt? (n : Nat) : Option Char :=
  if n < 0xD800 || (0xDFFF < n && n < 0x110000) then some (Char.ofNat n) else none

/-- Reads a given number of hexadecimal digits. -/
def readHex (f : Flags) : Nat → Nat → List Char → Option (Nat × List Char)
  | 0, n, s => some (n, s)
  | k + 1, n, s =>
    match skipSpace f s with
    | [] => none
    | c :: rest => (Json.hexValue? c).bind fun d ↦ readHex f k (n * 16 + d) rest

/-- In spaced patterns, the text without its blanks. -/
def withoutSpace (f : Flags) (s : List Char) : List Char :=
  if f.spaced then s.filter fun c ↦ !Text.isBlank c else s

/-- Reads hexadecimal digits up to a closing brace. -/
def readBracedHex (f : Flags) (s : List Char) : Option (Nat × List Char) :=
  match s.dropWhile (· != '}') with
  | [] => none
  | _ :: rest =>
    match (withoutSpace f (s.takeWhile (· != '}'))).mapM Json.hexValue? with
    | some (d :: ds) => some ((d :: ds).foldl (fun n d ↦ n * 16 + d) 0, rest)
    | _ => none

/-- Reads the character given by its code point after `x`, `u` or `U`. Without Unicode, two digits
without braces stand for a byte, which must be one of ASCII. -/
def readHexEscape (f : Flags) (digits : Nat) (s : List Char) : Option (Char × List Char) := do
  let (n, rest) ← match skipSpace f s with
    | '{' :: rest => readBracedHex f rest
    | s =>
      (readHex f digits 0 s).filter fun (n, _) ↦ f.unicode || digits != 2 || n < 0x80
  let c ← charAt? n
  pure (c, rest)

/-- Reads the name of a property after `p` or `P`, and gives its set. -/
def readProperty (f : Flags) (negated : Bool) (s : List Char) : Option (CharSet × List Char) := do
  let (found, flip, rest) ← match skipSpace f s with
    | [] => none
    | '{' :: rest =>
      let name := rest.takeWhile (· != '}')
      match rest.dropWhile (· != '}') with
      | [] => none
      | _ :: rest =>
        let key := name.takeWhile fun c ↦ c != '=' && c != ':'
        match name.drop key.length with
        | [] => (Text.property? name).map fun set ↦ (set, false, rest)
        | _ :: value =>
          if key.getLast? = some '!' then
            (Text.propertyWithValue? key.dropLast value).map fun set ↦ (set, true, rest)
          else (Text.propertyWithValue? key value).map fun set ↦ (set, false, rest)
    | '\\' :: _ => none
    | c :: rest => (Text.property? [c]).map fun set ↦ (set, false, rest)
  if f.unicode then
    let set := f.fold found
    pure (if negated != flip then set.complement else set, rest)
  else none

/-- The set of a class with a single letter. -/
def letterClass (f : Flags) : Char → Option CharSet
  | 'd' => some (if f.unicode then Text.categoryNd else [0x30, 0x3A])
  | 's' => some (if f.unicode then Text.whiteSpace else [0x09, 0x0E, 0x20, 0x21])
  | 'w' => some f.words
  | _ => none

/-- The assertion named between braces after `b`. -/
def namedBoundary? (word : CharSet) (name : List Char) : Option Assertion :=
  match String.ofList name with
  | "start" => some (.wordStart word)
  | "end" => some (.wordEnd word)
  | "start-half" => some (.wordStartHalf word)
  | "end-half" => some (.wordEndHalf word)
  | _ => none

/-- Reads what follows `b`: a plain boundary, or a boundary named between braces. A brace that does
not start with a name is left for a counted repetition. -/
def readBoundary (f : Flags) (s : List Char) : Option (Escape × List Char) :=
  let nameChar (c : Char) : Bool := c.isAlpha || c = '-'
  match s with
  | '{' :: rest =>
    match skipSpace f rest with
    | [] => none
    | c :: _ =>
      if nameChar c then
        match rest.dropWhile (· != '}') with
        | [] => none
        | _ :: left =>
          (namedBoundary? f.words (withoutSpace f (rest.takeWhile (· != '}')))).map fun a ↦
            (.assertion a, left)
      else some (.assertion (.boundary f.words), s)
  | _ => some (.assertion (.boundary f.words), s)

/-- The characters that a backslash turns into themselves: all of ASCII that is no letter, no digit
and no angle bracket. -/
def escapesItself (c : Char) : Bool :=
  c.toNat < 0x80 && !c.isAlphanum && c != '<' && c != '>'

/-- The characters with a letter of their own after a backslash. -/
def controlEscape? : Char → Option Char
  | 'a' => some '\x07'
  | 'f' => some '\x0c'
  | 't' => some '\t'
  | 'n' => some '\n'
  | 'r' => some '\r'
  | 'v' => some '\x0b'
  | _ => none

/-- Reads what follows a backslash. -/
def readEscape (f : Flags) : List Char → Option (Escape × List Char)
  | [] => none
  | c :: rest =>
    match c with
    | 'x' => (readHexEscape f 2 rest).map fun (c, left) ↦ (.literal c, left)
    | 'u' => (readHexEscape f 4 rest).map fun (c, left) ↦ (.literal c, left)
    | 'U' => (readHexEscape f 8 rest).map fun (c, left) ↦ (.literal c, left)
    | 'p' => (readProperty f false rest).map fun (s, left) ↦ (.set s, left)
    | 'P' => (readProperty f true rest).map fun (s, left) ↦ (.set s, left)
    | 'A' => some (.assertion .textStart, rest)
    | 'z' => some (.assertion .textEnd, rest)
    | 'b' => readBoundary f rest
    | 'B' => some (.assertion (.notBoundary f.words), rest)
    | '<' => some (.assertion (.wordStart f.words), rest)
    | '>' => some (.assertion (.wordEnd f.words), rest)
    | 'D' => (letterClass f 'd').map fun s ↦ (.set s.complement, rest)
    | 'S' => (letterClass f 's').map fun s ↦ (.set s.complement, rest)
    | 'W' => (letterClass f 'w').map fun s ↦ (.set s.complement, rest)
    | c =>
      match letterClass f c, controlEscape? c with
      | some s, _ => some (.set s, rest)
      | none, some c => some (.literal c, rest)
      | none, none => if escapesItself c then some (.literal c, rest) else none

/-! ## Bracketed classes -/

inductive SetOp where
  | inter
  | diff
  | symmDiff

def SetOp.apply : SetOp → CharSet → CharSet → CharSet
  | inter, a, b => a.inter b
  | diff, a, b => a.diff b
  | symmDiff, a, b => a.symmDiff b

/-- The set of a class of ASCII named between colons. -/
def asciiClass? (name : List Char) : Option CharSet :=
  match String.ofList name with
  | "alnum" => some [0x30, 0x3A, 0x41, 0x5B, 0x61, 0x7B]
  | "alpha" => some [0x41, 0x5B, 0x61, 0x7B]
  | "ascii" => some [0x00, 0x80]
  | "blank" => some [0x09, 0x0A, 0x20, 0x21]
  | "cntrl" => some [0x00, 0x20, 0x7F, 0x80]
  | "digit" => some [0x30, 0x3A]
  | "graph" => some [0x21, 0x7F]
  | "lower" => some [0x61, 0x7B]
  | "print" => some [0x20, 0x7F]
  | "punct" => some [0x21, 0x30, 0x3A, 0x41, 0x5B, 0x61, 0x7B, 0x7F]
  | "space" => some [0x09, 0x0E, 0x20, 0x21]
  | "upper" => some [0x41, 0x5B]
  | "word" => some [0x30, 0x3A, 0x41, 0x5B, 0x5F, 0x60, 0x61, 0x7B]
  | "xdigit" => some [0x30, 0x3A, 0x41, 0x47, 0x61, 0x67]
  | _ => none

/-- Reads a named class of ASCII after its opening bracket, if there is one. -/
def readAsciiClass : List Char → Option (CharSet × List Char)
  | ':' :: s =>
    let (negated, s) := match s with
      | '^' :: t => (true, t)
      | t => (false, t)
    match s.dropWhile (· != ':') with
    | ':' :: ']' :: rest => (asciiClass? (s.takeWhile (· != ':'))).map fun set ↦
      (if negated then set.complement else set, rest)
    | _ => none
  | _ => none

/-- Reads a single member of a class: a character or an escape that is no assertion. Without Unicode
a character must be one of ASCII. -/
def readClassItem (f : Flags) : List Char → Option (Escape × List Char)
  | [] => none
  | '\\' :: rest =>
    match readEscape f rest with
    | some (.assertion _, _) => none
    | some (.literal c, left) =>
      if f.unicode || c.toNat < 0x80 then some (.literal c, left) else none
    | r => r
  | c :: rest => if f.unicode || c.toNat < 0x80 then some (.literal c, rest) else none

/-- Whether a hyphen at the front of the text makes a range with what follows. -/
def startsRange (f : Flags) : List Char → Bool
  | '-' :: rest => match skipSpace f rest with
    | c :: _ => c != ']' && c != '-'
    | [] => true
  | _ => false

/-- Reads a member of a class, or a range between two characters. -/
def readClassRange (f : Flags) (s : List Char) : Option (CharSet × List Char) := do
  let (first, rest) ← readClassItem f s
  let rest := skipSpace f rest
  if startsRange f rest then
    let (second, left) ← readClassItem f (skipSpace f rest.tail)
    match first, second with
    | .literal a, .literal b =>
      if a.toNat ≤ b.toNat then pure (CharSet.interval a.toNat b.toNat, left) else none
    | _, _ => none
  else match first with
    | .literal a => pure (CharSet.single a, rest)
    | .set set => pure (set, rest)
    | .assertion _ => none

/-- Hyphens at the start of a class stand for themselves. -/
def leadingHyphens (f : Flags) : Nat → List Char → Bool × List Char
  | 0, s => (false, s)
  | n + 1, s => match s with
    | '-' :: rest => (true, (leadingHyphens f n (skipSpace f rest)).2)
    | _ => (false, s)

/-- What stands at the start of a class: whether it is negated, and the hyphens or the closing
bracket that stand for themselves there. -/
def classStart (f : Flags) (s : List Char) : Bool × CharSet × List Char :=
  let s := skipSpace f s
  let (negated, s) := match s with
    | '^' :: rest => (true, skipSpace f rest)
    | _ => (false, s)
  let (hyphen, s) := leadingHyphens f s.length s
  match s with
  | ']' :: rest => if hyphen then (negated, .single '-', s) else (negated, .single ']', rest)
  | _ => (negated, if hyphen then .single '-' else .empty, s)

/-- Reads the rest of a class up to its closing bracket. `pending` is the left side of an operation
whose right side is being read, `members` what was read of that side; `n` bounds the length of the
text. -/
def readClass (f : Flags) : Nat → (negated : Bool) → Option (SetOp × CharSet) → CharSet →
    List Char → Option (CharSet × List Char)
  | 0, _, _, _, _ => none
  | n + 1, negated, pending, members, s =>
    let joined : CharSet := match pending with
      | none => members
      | some (op, left) => op.apply (f.fold left) (f.fold members)
    match skipSpace f s with
    | [] => none
    | ']' :: rest => some (if negated then (f.fold joined).complement else f.fold joined, rest)
    | '[' :: rest =>
      match readAsciiClass rest with
      | some (set, left) => readClass f n negated pending (members.union set) left
      | none =>
        let (innerNegated, start, inner) := classStart f rest
        match readClass f n innerNegated none start inner with
        | some (set, left) => readClass f n negated pending (members.union set) left
        | none => none
    | '&' :: '&' :: rest => readClass f n negated (some (.inter, joined)) .empty rest
    | '-' :: '-' :: rest => readClass f n negated (some (.diff, joined)) .empty rest
    | '~' :: '~' :: rest => readClass f n negated (some (.symmDiff, joined)) .empty rest
    | s =>
      match readClassRange f s with
      | some (set, left) => readClass f n negated pending (members.union set) left
      | none => none

/-! ## Repetition -/

/-- Reads a decimal number with blanks around it. -/
def readCount (s : List Char) : Option (Nat × List Char) :=
  let s := s.dropWhile Text.isBlank
  let digits := s.takeWhile Char.isDigit
  let n := Decimal.ofDigits digits
  if digits.isEmpty || 0x100000000 ≤ n then none
  else some (n, (s.dropWhile Char.isDigit).dropWhile Text.isBlank)

/-- Reads the bounds of a counted repetition after its opening brace. -/
def readBounds (f : Flags) (s : List Char) : Option ((Nat × Option Nat) × List Char) := do
  let (least, rest) ← readCount (skipSpace f s)
  match rest with
  | '}' :: left => pure ((least, some least), left)
  | ',' :: rest =>
    match skipSpace f rest with
    | '}' :: left => pure ((least, none), left)
    | rest =>
      let (most, rest) ← readCount rest
      match rest with
      | '}' :: left => if least ≤ most then pure ((least, some most), left) else none
      | _ => none
  | _ => none

/-- A mark for laziness after a repetition. -/
def readLazy : List Char → Bool × List Char
  | '?' :: rest => (true, rest)
  | s => (false, s)

/-! ## Groups -/

/-- Reads flags up to a colon or a closing parenthesis. `seen` are the letters read before, `off`
says whether a hyphen was read, `dangling` whether it was read last. -/
def readFlags (f : Flags) (seen : List Char) (off dangling : Bool) :
    List Char → Option (Flags × Bool × List Char)
  | [] => none
  | ':' :: rest => if dangling then none else some (f, seen.isEmpty, ':' :: rest)
  | ')' :: rest => if dangling then none else some (f, seen.isEmpty, ')' :: rest)
  | '-' :: rest => if off then none else readFlags f seen true true rest
  | c :: rest =>
    if seen.contains c then none
    else match f.set? c (!off) with
      | none => none
      | some f => readFlags f (c :: seen) off false rest

/-- What the parenthesis at a place opens. -/
inductive Opening where
  /-- A group that captures, perhaps under a name. -/
  | capture (name : Option (List Char))
  | plain (flags : Flags)
  /-- No group: flags for the rest of the group around it. -/
  | flags (flags : Flags)

/-- Reads the name of a group up to its closing angle bracket. -/
def readGroupName (s : List Char) : Option (List Char × List Char) :=
  let name := s.takeWhile (· != '>')
  match name, s.dropWhile (· != '>') with
  | c :: cs, _ :: rest =>
    let inner (c : Char) : Bool :=
      c = '_' || c = '.' || c = '[' || c = ']' || Text.isLetterOrNumber c
    if (c = '_' || Text.isLetter c) && cs.all inner then some (name, rest) else none
  | _, _ => none

/-- Reads what follows an opening parenthesis. -/
def readOpening (f : Flags) (s : List Char) : Option (Opening × List Char) :=
  let s := skipSpace f s
  match s with
  | '?' :: '=' :: _ => none
  | '?' :: '!' :: _ => none
  | '?' :: '<' :: '=' :: _ => none
  | '?' :: '<' :: '!' :: _ => none
  | '?' :: 'P' :: '<' :: rest => (readGroupName rest).map fun (n, left) ↦ (.capture (some n), left)
  | '?' :: '<' :: rest => (readGroupName rest).map fun (n, left) ↦ (.capture (some n), left)
  | '?' :: rest =>
    match readFlags f [] false false rest with
    | some (g, _, ':' :: left) => some (.plain g, left)
    | some (g, isEmpty, ')' :: left) => if isEmpty then none else some (.flags g, left)
    | _ => none
  | s => some (.capture none, s)

/-! ## Patterns -/

/-- What reading has gathered up to a point: the groups opened and their names. -/
structure Groups where
  count : Nat := 0
  names : List (List Char) := []

/-- The sequence of the pieces read so far, which stand in reverse; a flag setting is no piece. -/
def sequence (pieces : List (Option Regex)) : Regex := seqs (pieces.reverse.filterMap id)

/-- A single character outside of brackets as an expression. -/
def literal? (f : Flags) (c : Char) : Option Regex :=
  if f.ignoreCase && !f.unicode && 0x80 ≤ c.toNat then none
  else some (.char (f.fold (.single c)))

/-- Reads one primitive: a dot, an anchor, an escape or a character. -/
def readPrimitive (f : Flags) : List Char → Option (Regex × List Char)
  | [] => none
  | '.' :: rest =>
    let set : CharSet :=
      if f.dotAll then .full
      else if f.crlf then .complement [0x0A, 0x0B, 0x0D, 0x0E] else .complement [0x0A, 0x0B]
    (f.charOf? set).map (·, rest)
  | '^' :: rest => some (.assert (if f.multiLine then .lineStart f.crlf else .textStart), rest)
  | '$' :: rest => some (.assert (if f.multiLine then .lineEnd f.crlf else .textEnd), rest)
  | '\\' :: rest =>
    match readEscape f rest with
    | some (.literal c, left) => (literal? f c).map (·, left)
    | some (.set s, left) => (f.charOf? s).map (·, left)
    | some (.assertion a, left) => some (.assert a, left)
    | none => none
  | c :: rest => (literal? f c).map (·, rest)

/-- Reads alternatives up to the closing parenthesis around them or the end of the pattern. `done`
holds the branches before the current one and `pieces` the current branch, both in reverse; `n`
bounds the length of the text and `depth` the groups that may still be opened inside each other. -/
def readAlternatives : Nat → (depth : Nat) → Flags → Groups → List Regex → List (Option Regex) →
    List Char → Option (Regex × Groups × List Char)
  | 0, _, _, _, _, _, _ => none
  | n + 1, depth, f, groups, done, pieces, s =>
    let finish : Regex := alts (sequence pieces :: done).reverse
    let repeated (least : Nat) (most : Option Nat) (rest : List Char) :
        Option (Regex × Groups × List Char) :=
      match pieces with
      | some r :: before =>
        let (isLazy, left) := readLazy rest
        readAlternatives n depth f groups done
          (some (.repeats r least most (isLazy == f.swapGreed)) :: before) left
      | _ => none
    match skipSpace f s with
    | [] => some (finish, groups, [])
    | ')' :: rest => some (finish, groups, ')' :: rest)
    | '|' :: rest => readAlternatives n depth f groups (sequence pieces :: done) [] rest
    | '?' :: rest => repeated 0 (some 1) rest
    | '*' :: rest => repeated 0 none rest
    | '+' :: rest => repeated 1 none rest
    | '{' :: rest =>
      match readBounds f rest with
      | some ((least, most), left) => repeated least most (skipSpace f left)
      | none => none
    | '[' :: rest =>
      let (negated, start, inner) := classStart f rest
      match readClass f inner.length.succ negated none start inner with
      | none => none
      | some (set, left) =>
        match f.charOf? set with
        | none => none
        | some r => readAlternatives n depth f groups done (some r :: pieces) left
    | '(' :: rest =>
      match readOpening f rest with
      | none => none
      | some (.flags g, left) => readAlternatives n depth g groups done (none :: pieces) left
      | some (.plain g, left) =>
        match depth with
        | 0 => none
        | depth + 1 =>
          match readAlternatives n depth g groups [] [] left with
          | some (r, groups, ')' :: left) =>
            readAlternatives n (depth + 1) f groups done (some r :: pieces) left
          | _ => none
      | some (.capture name, left) =>
        match depth with
        | 0 => none
        | depth + 1 =>
          if name.any groups.names.contains then none
          else
            let index := groups.count + 1
            let opened : Groups := ⟨index, name.toList ++ groups.names⟩
            match readAlternatives n depth f opened [] [] left with
            | some (r, groups, ')' :: left) =>
              readAlternatives n (depth + 1) f groups done (some (.group index r) :: pieces) left
            | _ => none
    | s =>
      match readPrimitive f s with
      | some (r, left) => readAlternatives n depth f groups done (some r :: pieces) left
      | none => none

/-- How deep groups may nest. -/
def maxNesting : Nat := 250

/-- The flags named by letters outside the pattern; letters without a meaning are ignored. -/
def Flags.ofLetters (letters : List Char) : Flags where
  ignoreCase := letters.contains 'i'
  multiLine := letters.contains 'm'
  dotAll := letters.contains 's'

/-- The expression that a pattern denotes, if it denotes one of bounded weight. -/
def parse? (pattern : List Char) (flags : Flags) : Option Regex :=
  match readAlternatives (pattern.length + 1) maxNesting flags {} [] [] pattern with
  | some (r, _, []) => if r.weight ≤ maxWeight then some r else none
  | _ => none

end MapStyle.Regex
