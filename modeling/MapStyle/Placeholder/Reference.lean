import MapStyle.Text.Blank
/-!
# References

The references of an expression are what its placeholders name. They are found by a scan of the
text, which skips quoted strings and needs no parser, so that texts that are no expressions have
references too. A placeholder that reads the identifier, or a path, stands for the whole list: what
else the expression refers to is then not listed.
-/

namespace MapStyle.Placeholder

open Text

/-- The mark that stands for the references of a text that reads the identifier. -/
def identifierMark : String := "REEARTH_ID"

/-- The mark that stands for the references of a text that reads a path. -/
def pathMark : String := "REEARTH_JSONPATH"

/-- The text behind the closing quote of a string. Behind a backslash no character closes it. -/
def afterQuote (quote : Char) : List Char → List Char
  | [] => []
  | [_] => []
  | c :: d :: rest =>
    if c = quote then d :: rest
    else if c = '\\' then afterQuote quote rest
    else afterQuote quote (d :: rest)

theorem length_afterQuote_le (quote : Char) (s : List Char) :
    (afterQuote quote s).length ≤ s.length := by
  fun_induction afterQuote quote s <;> simp_all <;> omega

/-- The body of a placeholder up to its closing brace, and the text behind it. -/
def splitBody? (s : List Char) : Option (List Char × List Char) :=
  match s.dropWhile (· != '}') with
  | [] => none
  | _ :: after => some (s.takeWhile (· != '}'), after)

/-- What is left behind a placeholder is shorter, so the scan comes to an end. -/
theorem length_of_splitBody? {s body after : List Char} (h : splitBody? s = some (body, after)) :
    after.length < s.length := by
  have hle := (List.dropWhile_suffix (l := s) (· != '}')).length_le
  unfold splitBody? at h
  split at h
  · simp at h
  · rename_i heq
    simp only [Option.some.injEq, Prod.mk.injEq] at h
    rw [heq, List.length_cons, h.2] at hle
    omega

/-- The trimmed bodies of the placeholders outside quotes, up to one that is not closed. -/
def bodies : List Char → List (List Char)
  | [] => []
  | '$' :: '{' :: rest =>
    match h : splitBody? rest with
    | none => []
    | some (body, after) =>
      have := length_of_splitBody? h
      trim body :: bodies after
  | c :: rest =>
    have := length_afterQuote_le c rest
    if c = '\'' || c = '"' then bodies (afterQuote c rest) else bodies rest
termination_by s => s.length

/-- Whether a body is a path and not the dollar sign alone. -/
def isPath : List Char → Bool
  | '$' :: c :: _ => !(c = '\n' || c = '\r' || c = '\u2028' || c = '\u2029')
  | _ => false

/-- The mark that stands for the whole list if the body occurs. -/
def markOf? (body : List Char) : Option String :=
  if body = ['i', 'd'] then some identifierMark
  else if isPath body then some pathMark
  else none

/-- What a list of bodies refers to: the mark of the first body that has one, or all their names. -/
def ofBodies (bodies : List (List Char)) : List String :=
  match bodies.findSome? markOf? with
  | some mark => [mark]
  | none => bodies.map String.ofList

/-- The references of a text, in order and with repetitions. -/
def references (source : String) : List String := ofBodies (bodies source.toList)

end MapStyle.Placeholder
