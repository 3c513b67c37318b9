import MapStyle.Json.Basic
/-!
# Stepping into JSON values

One step leads from an object to the member of that name, and from an array to the item whose
position the name spells in digits.
-/

namespace MapStyle.Json

/-- The position spelled by a text: decimal digits, at least one, after an optional plus. -/
def position? (s : String) : Option Nat :=
  let ds := match s.toList with
    | '+' :: rest => rest
    | ds => ds
  if ds.isEmpty || !ds.all Char.isDigit then none else some (Decimal.ofDigits ds)

/-- The value one step below: the member of an object, or the item of an array at a spelled
position. -/
def child? (key : String) : Json → Option Json
  | object members => Table.get? members key
  | array items => (position? key).bind fun i ↦ items[i]?
  | _ => none

/-- The values one step below: the values of the members in the order of their keys, or the
items. -/
def children : Json → List Json
  | object members => members.map (·.2)
  | array items => items
  | _ => []

end MapStyle.Json
