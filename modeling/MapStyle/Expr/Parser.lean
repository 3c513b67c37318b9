import MapStyle.Expr.Basic
import MapStyle.Path.Parser
/-!
# Reading expressions

The grammar, loosest first: the conditional `? :`, the binary operators in six levels, the operators
in front of an operand, and operands with members, indices and calls behind them. Binary operators
of one level group to the left.

Every reader of this module takes the reader of nested expressions as an argument. It is asked only
for texts that are shorter than the one at hand, so the knot is tied by recursion on the length of
the text.
-/

namespace MapStyle.Expr.Parser

open Text

/-! ## Literals -/

/-- Reads the digits of a number: on both sides of a point, or on one. -/
def mantissa : Reader (List Char × List Char) :=
  Reader.orElse
    (do
      let whole ← Reader.digits
      let fraction ← Reader.optional do
        let _ ← Reader.char '.'
        Reader.run Char.isDigit
      Reader.yield (whole, fraction.getD []))
    (do
      let _ ← Reader.char '.'
      let fraction ← Reader.digits
      Reader.yield ([], fraction))

/-- Reads the power of ten of a number. -/
def scale : Reader Int := do
  let _ ← Reader.satisfy fun c ↦ c = 'e' || c = 'E'
  let sign ← Reader.optional (Reader.satisfy fun c ↦ c = '+' || c = '-')
  let ds ← Reader.digits
  let n : Int := Decimal.ofDigits ds
  Reader.yield (if sign = some '-' then -n else n)

def number : Reader Float := do
  let (whole, fraction) ← mantissa
  let power ← Reader.optional scale
  Reader.yield (Decimal.ofParts whole fraction (power.getD 0)).toFloat

/-- The character that a backslash and the given one stand for. -/
def unescape : Char → Char
  | 'n' => '\n'
  | 't' => '\t'
  | 'r' => '\r'
  | c => c

/-- Reads the rest of a string up to its closing quote. A string without one is beyond repair. -/
def stringRest (quote : Char) : List Char → Reply (List Char)
  | [] => .abort
  | [c] => if c = quote then .ok [] [] else .abort
  | c :: d :: rest =>
    if c = quote then .ok [] (d :: rest)
    else if c = '\\' then (stringRest quote rest).map (unescape d :: ·)
    else (stringRest quote (d :: rest)).map (c :: ·)

/-- Reads a string in single or double quotes. -/
def string : Reader String := do
  let quote ← Reader.satisfy fun c ↦ c = '\'' || c = '"'
  let cs ← stringRest quote
  Reader.yield (String.ofList cs)

/-- What a placeholder with the given body denotes. A body that begins with a dollar sign has to be
a path. -/
def placeholderOf? (body : List Char) : Option Expr :=
  match trim body with
  | '$' :: rest =>
    match Path.parse (String.ofList ('$' :: rest)) with
    | .ok p => some (.path p)
    | .error _ => none
  | name => some (.placeholder (String.ofList name))

/-- Reads a placeholder. One whose body is a malformed path is beyond repair. -/
def placeholder : Reader Expr := do
  Reader.text ['$', '{']
  let body ← Reader.run (· != '}')
  let _ ← Reader.char '}'
  fun rest ↦
    match placeholderOf? body with
    | some e => .ok e rest
    | none => .abort

/-! ## Lists and names -/

/-- Reads a value between two symbols. -/
def enclosed {α : Type} (opening closing : Char) (p : Reader α) : Reader α := do
  let _ ← Reader.symbol opening
  let a ← p
  let _ ← Reader.symbol closing
  Reader.yield a

def list (nested : Reader Expr) : Reader (List Expr) :=
  Reader.separated nested (Reader.symbol ',')

def arguments (nested : Reader Expr) : Reader (List Expr) := enclosed '(' ')' (list nested)

/-- The values that have names of their own. -/
def keyword? : String → Option Expr
  | "true" => some (.literal (.bool true))
  | "false" => some (.literal (.bool false))
  | "null" => some (.literal .null)
  | "undefined" => some (.literal .undefined)
  | "NaN" => some (.literal (.number Binary64.nan))
  | "Infinity" => some (.literal (.number Binary64.infinity))
  | "feature" => some .feature
  | _ => none

/-- The numbers that are members of `Math` and `Number`. -/
def constant? : (space name : String) → Option Float
  | "Math", "PI" => some 3.141592653589793
  | "Math", "E" => some 2.718281828459045
  | "Number", "POSITIVE_INFINITY" => some Binary64.infinity
  | "Number", "NEGATIVE_INFINITY" => some (-Binary64.infinity)
  | "Number", "MAX_VALUE" => some 1.7976931348623157e308
  | "Number", "EPSILON" => some 2.220446049250313e-16
  | "Number", "NaN" => some Binary64.nan
  | _, _ => none

/-- Reads a member of `Math` or `Number` behind that name. The functions of `Math` are those that
are called without it; `Number` has none. -/
def spaceMember (nested : Reader Expr) (space : String) : Reader Expr := do
  let _ ← Reader.symbol '.'
  let name ← Reader.name
  match ← Reader.attempt (arguments nested) with
  | some args => if space = "Math" then Reader.yield (.call name args) else Reader.fail
  | none =>
    match constant? space name with
    | some x => Reader.yield (.literal (.number x))
    | none => Reader.fail

/-- Reads a call, or one of the values with a name. -/
def named (nested : Reader Expr) : Reader Expr := do
  let name ← Reader.name
  match ← Reader.attempt (arguments nested) with
  | some args => Reader.yield (.call name args)
  | none =>
    if name = "Math" || name = "Number" then spaceMember nested name
    else
      match keyword? name with
      | some e => Reader.yield e
      | none => Reader.fail

/-! ## Operands -/

/-- Reads an operand without anything behind it. -/
def primary (nested : Reader Expr) : Reader Expr := Reader.choice [
  do let x ← number; Reader.yield (.literal (.number x)),
  do let s ← string; Reader.yield (.literal (.string s)),
  placeholder,
  do let items ← enclosed '[' ']' (list nested); Reader.yield (.array items),
  enclosed '(' ')' nested,
  named nested]

/-- What stands behind an operand. -/
inductive Suffix where
  | member (name : String)
  | index (key : Expr)
  | method (name : String) (args : List Expr)
  deriving Repr

def Suffix.attach (object : Expr) : Suffix → Expr
  | member name => .member object (.literal (.string name))
  | index key => .member object key
  | method name args => .method object name args

def suffix (nested : Reader Expr) : Reader Suffix :=
  Reader.orElse
    (do
      let _ ← Reader.symbol '.'
      let name ← Reader.name
      match ← Reader.optional (arguments nested) with
      | some args => Reader.yield (.method name args)
      | none => Reader.yield (.member name))
    (do
      let key ← enclosed '[' ']' nested
      Reader.yield (.index key))

/-- Reads an operand with all that stands behind it. -/
def operand (nested : Reader Expr) : Reader Expr := do
  let e ← Reader.token (primary nested)
  let suffixes ← Reader.many (suffix nested)
  Reader.yield (suffixes.foldl Suffix.attach e)

/-! ## Operators -/

/-- Reads an operator that stands in front of its operand. -/
def leadingOp : Reader UnaryOp := Reader.choice [
  do let _ ← Reader.symbol '!'; Reader.yield .not,
  do let _ ← Reader.symbol '-'; Reader.yield .negate,
  do let _ ← Reader.symbol '+'; Reader.yield .plus]

/-- Reads an operand with the operators in front of it. -/
def signed (nested : Reader Expr) (s : List Char) : Reply Expr :=
  match leadingOp s with
  | .ok op rest =>
    if rest.length < s.length then (signed nested rest).map (.unary op) else .miss
  | .miss => operand nested s
  | .abort => .abort
termination_by s.length

/-- The binary operators level by level, the loosest first. Of two operators on one level of which
one begins like the other, the longer is listed first. -/
def levels : List (List BinaryOp) :=
  [[.or], [.and], [.strictEq, .strictNe, .matching, .notMatching], [.le, .ge, .lt, .gt],
    [.add, .sub], [.mul, .div, .mod]]

/-- Reads one of the operators of a level. -/
def operatorOf (ops : List BinaryOp) : Reader BinaryOp :=
  Reader.token (Reader.choice (ops.map fun op ↦ do
    Reader.text op.symbol.toList
    Reader.yield op))

/-- Reads the rest of a row of operands, grouping to the left. -/
def rowRest (operator : Reader BinaryOp) (tighter : Reader Expr) (lhs : Expr) (s : List Char) :
    Reply Expr :=
  match operator s with
  | .miss => .ok lhs s
  | .abort => .abort
  | .ok op rest =>
    match tighter rest with
    | .miss => .miss
    | .abort => .abort
    | .ok rhs left =>
      if left.length < s.length then rowRest operator tighter (.binary op lhs rhs) left else .miss
termination_by s.length

/-- Reads a row of operands with operators of the given levels between them. -/
def row (nested : Reader Expr) : List (List BinaryOp) → Reader Expr
  | [] => signed nested
  | ops :: tighter => do
    let lhs ← row nested tighter
    rowRest (operatorOf ops) (row nested tighter) lhs

def branches (nested : Reader Expr) : Reader (Expr × Expr) := do
  let _ ← Reader.symbol '?'
  let consequent ← nested
  let _ ← Reader.symbol ':'
  let alternate ← nested
  Reader.yield (consequent, alternate)

/-- Reads an expression, given the reader of the expressions inside it. -/
def conditional (nested : Reader Expr) : Reader Expr := do
  let test ← row nested levels
  match ← Reader.optional (branches nested) with
  | some (consequent, alternate) => Reader.yield (.conditional test consequent alternate)
  | none => Reader.yield test

def expression (s : List Char) : Reply Expr :=
  conditional (fun rest ↦ if rest.length < s.length then expression rest else .miss) s
termination_by s.length

end MapStyle.Expr.Parser

namespace MapStyle.Expr

/-- The expression that a text denotes. The whole text has to be read. -/
def parse? (source : String) : Option Expr :=
  Text.Reader.whole (Text.Reader.token Parser.expression) source.toList

end MapStyle.Expr
