import MapStyle.Table
import MapStyle.Decimal.Basic
/-!
# JSON values

Numbers keep the form in which they came: an integer within 64 bits is an integer, and every other
number is a double, so that `1` and `1.0` are different values. The members of an object that was
read from text form a table; a record is written with its members in the order of its fields.
-/

namespace MapStyle

inductive Json.Number where
  /-- An integer between the least signed and the greatest unsigned 64-bit integer. -/
  | int (n : Int)
  | float (x : Float)
  deriving Repr

inductive Json where
  | null
  | bool (b : Bool)
  | number (n : Json.Number)
  | string (s : String)
  | array (items : List Json)
  | object (members : List (String × Json))
  deriving Repr

namespace Json

instance : Inhabited Json := ⟨null⟩

namespace Number

/-- The double that a number denotes. -/
def toFloat : Number → Float
  | .int n =>
    if n < 0 then -Float.ofScientific n.natAbs false 0 else Float.ofScientific n.natAbs false 0
  | .float x => x

/-- Equality of numbers: an integer never equals a double, and the two zeros are equal. -/
def same : Number → Number → Bool
  | .int m, .int n => m == n
  | .float x, .float y => x == y
  | _, _ => false

/-- The number that stands for a finite double in a result: an integer for every whole double of
absolute value at most `2 ^ 63`, held within the signed 64-bit integers. -/
def ofFloat (x : Float) : Number :=
  if Binary64.isWhole x && x.abs ≤ 9223372036854775808.0 then .int (Binary64.toInt64 x)
  else .float x

end Number

def int (n : Int) : Json := number (.int n)

/-- The value that stands for a double: there is no number for NaN and the infinities. -/
def ofFloat (x : Float) : Json := if x.isFinite then number (.ofFloat x) else null

mutual

/-- Equality of values. Objects are compared member by member, so both sides must list their
members in the order of a table. -/
def same : Json → Json → Bool
  | null, null => true
  | bool a, bool b => a == b
  | number m, number n => m.same n
  | string s, string t => s == t
  | array as, array bs => sameItems as bs
  | object as, object bs => sameMembers as bs
  | _, _ => false

@[inherit_doc same]
def sameItems : List Json → List Json → Bool
  | [], [] => true
  | a :: as, b :: bs => same a b && sameItems as bs
  | _, _ => false

@[inherit_doc same]
def sameMembers : List (String × Json) → List (String × Json) → Bool
  | [], [] => true
  | (k, a) :: as, (l, b) :: bs => k == l && same a b && sameMembers as bs
  | _, _ => false

end

def member? (key : String) : Json → Option Json
  | object members => Table.get? members key
  | _ => none

def string? : Json → Option String
  | string s => some s
  | _ => none

def object? : Json → Option (Table Json)
  | object members => some members
  | _ => none

def array? : Json → Option (List Json)
  | array items => some items
  | _ => none

def strings (l : List String) : Json := array (l.map string)

/-- The members that are present, in their order: how a record with optional fields is written. -/
def record (fields : List (String × Option Json)) : Json :=
  object (fields.filterMap fun f ↦ f.2.map (f.1, ·))

end Json

end MapStyle
