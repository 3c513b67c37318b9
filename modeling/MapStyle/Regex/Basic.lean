import MapStyle.Text.Property
/-!
# Regular expressions

The expressions that a pattern denotes. Every class of characters is resolved to a set, every flag
to its effect, and every group that captures has a number, counted from 1 by its opening
parenthesis.
Alternatives are tried from left to right, and a repetition prefers more rounds if it is greedy and
fewer if it is not.
-/

namespace MapStyle

/-- A condition on a position between characters. -/
inductive Regex.Assertion where
  | textStart
  | textEnd
  /-- The start of a line; with `crlf`, a carriage return ends lines too. -/
  | lineStart (crlf : Bool)
  /-- The end of a line; with `crlf`, a carriage return ends lines too. -/
  | lineEnd (crlf : Bool)
  /-- Between a character of the class of words and one that is not. -/
  | boundary (word : Text.CharSet)
  /-- Between two characters of which both or neither belong to words. -/
  | notBoundary (word : Text.CharSet)
  /-- Before the first character of a word. -/
  | wordStart (word : Text.CharSet)
  /-- After the last character of a word. -/
  | wordEnd (word : Text.CharSet)
  /-- Not after a character of a word. -/
  | wordStartHalf (word : Text.CharSet)
  /-- Not before a character of a word. -/
  | wordEndHalf (word : Text.CharSet)
  deriving Repr, DecidableEq

inductive Regex where
  | empty
  | char (set : Text.CharSet)
  /-- A position at which the condition holds. -/
  | assert (a : Regex.Assertion)
  /-- The expression, with what it matched kept under a number. -/
  | group (index : Nat) (body : Regex)
  /-- One expression after the other. -/
  | seq (first second : Regex)
  | alt (first second : Regex)
  /-- The expression `least` times or more, up to `most` times if there is such a bound. -/
  | repeats (body : Regex) (least : Nat) (most : Option Nat) (greedy : Bool)
  deriving Repr, DecidableEq

namespace Regex

def nullable : Regex → Bool
  | empty => true
  | char _ => false
  | assert _ => true
  | group _ body => body.nullable
  | seq a b => a.nullable && b.nullable
  | alt a b => a.nullable || b.nullable
  | repeats body least most _ => least = 0 || most = some 0 || body.nullable

/-- The expressions one after the other. -/
def seqs : List Regex → Regex
  | [] => empty
  | [r] => r
  | r :: rest => seq r (seqs rest)

/-- The first of the expressions that matches. -/
def alts : List Regex → Regex
  | [] => empty
  | [r] => r
  | r :: rest => alt r (alts rest)

/-- The bytes that a set of characters takes in a machine that reads UTF-8: one state for a range of
ASCII, and about sixty bytes for every further range. -/
def setWeight (set : Text.CharSet) : Nat :=
  let beyond := (set.filter (0x80 ≤ ·)).length
  if beyond = 0 then 32 + 8 * (set.length / 2)
  else if set.length = 2 && set.head? = set.getLast?.map (· - 1) then 96
  else 32 + 60 * ((beyond + 1) / 2)

/-- The bytes that the expression takes in a machine with every counted repetition written out. -/
def weight : Regex → Nat
  | empty => 32
  | char set => setWeight set
  | assert _ => 32
  | group _ body => body.weight + 64
  | seq a b => a.weight + b.weight
  | alt a b => a.weight + b.weight + 36
  | repeats body least most _ =>
    match most with
    | none => max least 1 * body.weight + 40
    | some most => max least most * body.weight + (most - least) * 40 + 32

/-- The greatest weight an expression may have. -/
def maxWeight : Nat := 10 * 0x100000

end Regex

end MapStyle
