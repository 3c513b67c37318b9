import MapStyle.Json.Basic
import MapStyle.Placeholder.Reference
/-!
# Narrowing

The properties that a list of references can read: the smallest part of a table of properties that
determines the value of an expression with these references.
-/

namespace MapStyle.Placeholder

/-- The name before the first point, of a name with points. -/
def head? (name : String) : Option String :=
  match name.toList.dropWhile (· != '.') with
  | [] => none
  | _ => some (String.ofList (name.toList.takeWhile (· != '.')))

/-- Adds what one reference reads: the identifier under `id`, the property of that name, or else the
property that a name with points begins with. -/
def keep (id : String) (properties kept : Table Json) (reference : String) : Table Json :=
  if reference = identifierMark then kept.insert "id" (.string id)
  else
    match Table.get? properties reference with
    | some v => kept.insert reference v
    | none =>
      match head? reference with
      | none => kept
      | some head =>
        match Table.get? properties head with
        | some v => kept.insert head v
        | none => kept

/-- The part of the properties that references read. A path may read all of them. -/
def narrow (references : List String) (id : String) (properties : Table Json) : Table Json :=
  if references.contains pathMark then properties
  else references.foldl (keep id properties) []

end MapStyle.Placeholder
