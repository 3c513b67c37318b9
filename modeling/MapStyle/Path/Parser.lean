import MapStyle.Path.Basic
import MapStyle.Text.Token
/-!
# Reading paths

A path is a dollar sign and steps: `.name`, `['name']`, `["name"]`, `[n]`, `[start:stop:step]`,
`.*`, `[*]` and `..name`. A point may stand in front of a bracket. Blanks are allowed around the
whole path and inside brackets next to them, nowhere else.
-/

namespace MapStyle.Path

open Text

/-- The characters of a name that stands without quotes. -/
def isBareName (c : Char) : Bool := isLetterOrNumber c || c = '_' || c = '-' || c = '$'

/-- Reads a name without quotes. -/
def bareName : Reader String := do
  let cs ← Reader.run1 isBareName
  Reader.yield (String.ofList cs)

/-- Reads a text between two quotes of one kind; there are no escapes. -/
def quotedBy (quote : Char) : Reader String := do
  let _ ← Reader.char quote
  let cs ← Reader.run (· != quote)
  let _ ← Reader.char quote
  Reader.yield (String.ofList cs)

/-- Reads the range of a slice. -/
def range : Reader Segment := do
  let start ← Reader.optional Reader.integer
  let _ ← Reader.char ':'
  let stop ← Reader.optional Reader.integer
  let step ← Reader.optional do
    let _ ← Reader.char ':'
    Reader.optional Reader.integer
  Reader.yield (.slice start stop step.join)

/-- Reads what stands between brackets. -/
def selector : Reader Segment := Reader.choice [
  do let _ ← Reader.char '*'; Reader.yield .wildcard,
  do let s ← quotedBy '\''; Reader.yield (.child s),
  do let s ← quotedBy '"'; Reader.yield (.child s),
  range,
  do let i ← Reader.integer; Reader.yield (.index i)]

/-- Reads a step in brackets. -/
def bracket : Reader Segment := do
  let _ ← Reader.char '['
  let s ← Reader.token selector
  let _ ← Reader.char ']'
  Reader.yield s

/-- Reads one step. -/
def segment : Reader Segment := Reader.choice [
  do Reader.text ['.', '.']; let n ← bareName; Reader.yield (.descendant n),
  do let _ ← Reader.char '.'; bracket,
  do Reader.text ['.', '*']; Reader.yield .wildcard,
  do let _ ← Reader.char '.'; let n ← bareName; Reader.yield (.child n),
  bracket]

/-- Reads the steps of a path after its dollar sign. -/
def steps : Reader (List Segment) := do
  let _ ← Reader.char '$'
  Reader.many segment

/-- The path that a text spells. The text is kept as it is given, blanks included. -/
def parse (source : String) : Except Fault Path :=
  match Reader.whole steps (trim source.toList) with
  | some segments => .ok { source, segments }
  | none => .error (.unreadable source)

end MapStyle.Path
