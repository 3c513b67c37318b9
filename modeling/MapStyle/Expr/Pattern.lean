import MapStyle.Regex.Parser
import MapStyle.Regex.Search
/-!
# Compiled patterns

A pattern is made while an expression is evaluated. It keeps its text, its flags and the regular
expression they denote. Two patterns of the same text and flags are equal but not identical: each
carries the place in the evaluation where it was made.
-/

namespace MapStyle

/-- A compiled pattern. -/
structure Pattern where
  source : String
  flags : String
  /-- The regular expression that text and flags denote. -/
  regex : Regex
  /-- Where in the evaluation the pattern was made: the turns from the place to the root. -/
  site : List Nat
  deriving Repr, DecidableEq

namespace Pattern

/-- Compiles a text under flags. The letters `i`, `m` and `s` have an effect, others have none. -/
def compile? (site : List Nat) (source flags : String) : Option Pattern :=
  (Regex.parse? source.toList (Regex.Flags.ofLetters flags.toList)).map fun regex ↦
    { source, flags, regex, site }

/-- The pattern between slashes, followed by its flags. -/
def text (p : Pattern) : String := "/" ++ p.source ++ "/" ++ p.flags

def test (p : Pattern) (s : String) : Bool :=
  ((Regex.Program.ofRegex p.regex).search s.toList.toArray).isSome

/-- What the first match makes of the first group: nothing where there is no match, and an absent
text where the match leaves the group out. -/
def firstGroup? (p : Pattern) (s : String) : Option (Option String) :=
  let chars := s.toList.toArray
  ((Regex.Program.ofRegex p.regex).search chars).map fun slots ↦
    (Regex.Program.groupText chars slots 1).map String.ofList

/-- Equality of patterns by text and flags. -/
def same (p q : Pattern) : Bool := p.source == q.source && p.flags == q.flags

/-- Identity of patterns: the same pattern made at the same place. -/
def identical (p q : Pattern) : Bool := p.same q && p.site == q.site

end Pattern

end MapStyle
