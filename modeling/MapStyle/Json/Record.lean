import MapStyle.Json.Basic
/-!
# Reading records

A record is given as an object with a member for each field, in any order and with members of other
names ignored, or as an array of the values of its fields in order, of which the last may be left
out.
A field that may be missing may also be null.
-/

namespace MapStyle.Json

/-- The values given for the fields of a record. -/
def fields? (names : List String) : Json → Option (List (String × Json))
  | object members => some members
  | array items => if items.length ≤ names.length then some (names.zip items) else none
  | _ => none

/-- The value of a field that has to be given. -/
def required {α : Type} (fields : List (String × Json)) (name : String) (decode : Json → Option α) :
    Option α :=
  (Table.get? fields name).bind decode

/-- The value of a field that may be missing or null. -/
def optional {α : Type} (fields : List (String × Json)) (name : String) (decode : Json → Option α) :
    Option (Option α) :=
  match Table.get? fields name with
  | none => some none
  | some null => some none
  | some v => (decode v).map some

/-- An array of values of one kind. -/
def listOf {α : Type} (decode : Json → Option α) : Json → Option (List α)
  | array items => items.mapM decode
  | _ => none

/-- An object whose members are all of one kind. -/
def tableOf {α : Type} (decode : Json → Option α) : Json → Option (Table α)
  | object members => members.mapM fun (k, v) ↦ (decode v).map (k, ·)
  | _ => none

def int64? : Json → Option Int
  | number (.int n) => if Binary64.minInt64 ≤ n ∧ n ≤ Binary64.maxInt64 then some n else none
  | _ => none

end MapStyle.Json
