import MapStyle.Expr.Pattern
import MapStyle.Decimal.Layout
import MapStyle.Decimal.Reader
import MapStyle.Json.Basic
/-!
# Values of expressions

What an expression evaluates to. Values are converted to texts, to numbers and to truth values by
fixed rules, and every value but `undefined` has a form in JSON. There are two notions of equality:
strict equality, under which NaN differs from itself and a pattern equals only itself, and
structural equality, which at the top of a value takes NaN as one number and compares patterns by
what they say.
-/

namespace MapStyle

inductive Value where
  | undefined
  | null
  | bool (b : Bool)
  | number (x : Float)
  | string (s : String)
  | array (items : List Value)
  | object (members : Table Json)
  | pattern (p : Pattern)
  deriving Repr

namespace Value

instance : Inhabited Value := ⟨undefined⟩

/-! ## Conversions -/

/-- The text of a number. Numbers are written without an exponent; a whole number below `10 ^ 21` is
held within the signed 64-bit integers, others have the fewest digits that read back. -/
def numberText (x : Float) : String :=
  if x.isNaN then "NaN"
  else if x.isInf then (if x < 0 then "-Infinity" else "Infinity")
  else if Binary64.isWhole x && x.abs < 1e21 then toString (Binary64.toInt64 x)
  else
    let digits := Decimal.positional [] (Decimal.shortest .awayFromZero x.abs)
    String.ofList (if Binary64.isNegative x then '-' :: digits else digits)

mutual

/-- The value as a text. The items of an array stand side by side, with commas between them. -/
def text : Value → String
  | undefined => "undefined"
  | null => "null"
  | bool b => if b then "true" else "false"
  | number x => numberText x
  | string s => s
  | array items => String.intercalate "," (texts items)
  | object _ => "[object Object]"
  | pattern p => p.text

@[inherit_doc text]
def texts : List Value → List String
  | [] => []
  | v :: rest => text v :: texts rest

end

/-- The number that a text denotes: zero for blanks, NaN for what is no number. -/
def numberOfText (s : String) : Float :=
  match Text.trim s.toList with
  | [] => 0
  | cs => (Decimal.read? cs).getD Binary64.nan

/-- The value as a number. An array counts as its only item, and as zero if it has none. -/
def toNumber : Value → Float
  | undefined => Binary64.nan
  | null => 0
  | bool b => if b then 1 else 0
  | number x => x
  | string s => numberOfText s
  | array [] => 0
  | array [v] => v.toNumber
  | _ => Binary64.nan

def truthy : Value → Bool
  | undefined => false
  | null => false
  | bool b => b
  | number x => x != 0 && !x.isNaN
  | string s => !s.isEmpty
  | _ => true

mutual

/-- The value that stands for a JSON value. Objects stay as they are. -/
def ofJson : Json → Value
  | .null => null
  | .bool b => bool b
  | .number n => number n.toFloat
  | .string s => string s
  | .array items => array (ofItems items)
  | .object members => object members

@[inherit_doc ofJson]
def ofItems : List Json → List Value
  | [] => []
  | v :: rest => ofJson v :: ofItems rest

end

mutual

/-- The JSON form of a value. There is none for `undefined`, which inside an array becomes null; a
pattern becomes its text, and a number that is not finite becomes null. -/
def toJson? : Value → Option Json
  | undefined => none
  | null => some .null
  | bool b => some (.bool b)
  | number x => some (Json.ofFloat x)
  | string s => some (.string s)
  | array items => some (.array (itemsToJson items))
  | object members => some (.object members)
  | pattern p => some (.string p.text)

@[inherit_doc toJson?]
def itemsToJson : List Value → List Json
  | [] => []
  | v :: rest => (toJson? v).getD .null :: itemsToJson rest

end

def number? : Value → Option Float
  | number x => some x
  | _ => none

def bool? : Value → Option Bool
  | bool b => some b
  | _ => none

def string? : Value → Option String
  | string s => some s
  | _ => none

/-! ## Equality -/

mutual

/-- Strict equality: nothing is converted, NaN differs from itself, and patterns are compared by
identity. -/
def strictEquals : Value → Value → Bool
  | undefined, undefined => true
  | null, null => true
  | bool a, bool b => a == b
  | number x, number y => x == y
  | string s, string t => s == t
  | array vs, array ws => strictEqualItems vs ws
  | object as, object bs => Json.sameMembers as bs
  | pattern p, pattern q => p.identical q
  | _, _ => false

@[inherit_doc strictEquals]
def strictEqualItems : List Value → List Value → Bool
  | [], [] => true
  | v :: vs, w :: ws => strictEquals v w && strictEqualItems vs ws
  | _, _ => false

end

/-- Structural equality: of two numbers NaN equals NaN, patterns are compared by what they say, and
all else is compared strictly. -/
def same : Value → Value → Bool
  | number x, number y => x == y || (x.isNaN && y.isNaN)
  | pattern p, pattern q => p.same q
  | v, w => strictEquals v w

end Value

end MapStyle
