import MapStyle.Table
import MapStyle.Placeholder.Reference
/-!
# Defines

A layer may define names. A placeholder of such a name is replaced by the defined text in
parentheses before an expression is read. The name has to stand alone between the braces, and quotes
do not protect a placeholder.
-/

namespace MapStyle.Placeholder

/-- The text that a placeholder with the given body is replaced by. -/
def expansion (defines : Table String) (body : List Char) : List Char :=
  match Table.get? defines (String.ofList body) with
  | some text => '(' :: text.toList ++ [')']
  | none => '$' :: '{' :: body ++ ['}']

/-- The text with every placeholder of a defined name replaced. What follows a placeholder that is
not closed stays as it is. -/
def expand (defines : Table String) : List Char → List Char
  | [] => []
  | '$' :: '{' :: rest =>
    match h : splitBody? rest with
    | none => '$' :: '{' :: rest
    | some (body, after) =>
      have := length_of_splitBody? h
      expansion defines body ++ expand defines after
  | c :: rest => c :: expand defines rest
termination_by s => s.length

/-- The text with the defines replaced, if there are any. -/
def replaceDefines (defines : Option (Table String)) (source : String) : String :=
  match defines with
  | none => source
  | some table => String.ofList (expand table source.toList)

end MapStyle.Placeholder
