import MapStyle.Expr.Function
import MapStyle.Expr.Scope
/-!
# Evaluation

The value of an expression in a scope. Operands are evaluated from left to right; a key is evaluated
before the value it is looked up in; a conditional evaluates one branch, and a logical operator its
second operand only where the first leaves the answer open. A comparison or logical operator on
values of the wrong kind gives false instead of a fault.
-/

namespace MapStyle.Expr

/-! ## Operators -/

def applyUnary : UnaryOp → Value → Except Fault Value
  | .not, .bool b => .ok (.bool !b)
  | .negate, .number x => .ok (.number (-x))
  | .plus, .number x => .ok (.number x)
  | op, v => .error (.unaryOperand op v)

/-- The sum of two numbers, or two texts joined if one of the values is a text. -/
def add (v w : Value) : Except Fault Value :=
  match v, w with
  | .number x, .number y => .ok (.number (x + y))
  | .string _, _ => .ok (.string (v.text ++ w.text))
  | _, .string _ => .ok (.string (v.text ++ w.text))
  | _, _ => .error (.addends v w)

/-- The result of an arithmetic operator on two values, which have to be numbers. -/
def arithmetic (op : BinaryOp) (f : Float → Float → Float) (v w : Value) : Except Fault Value :=
  match v, w with
  | .number x, .number y => .ok (.number (f x y))
  | _, _ => .error (.numberOperands op v w)

/-- Whether two numbers compare in a given way; other values do not compare. -/
def comparison (holds : Float → Float → Bool) (v w : Value) : Value :=
  match v, w with
  | .number x, .number y => .bool (holds x y)
  | _, _ => .bool false

/-- Whether the pattern among two values matches the text among them. -/
def applyMatch (op : BinaryOp) (v w : Value) : Except Fault Bool :=
  match v, w with
  | .pattern p, .string s => .ok (p.test s)
  | .string s, .pattern p => .ok (p.test s)
  | _, _ => .error (.matchOperands op v w)

/-- Whether both values are true, where neither is anything but a truth value. -/
def both (v w : Value) : Value := .bool (v.bool? == some true && w.bool? == some true)

/-- Whether one of two truth values is true; other values do not count. -/
def either (v w : Value) : Value :=
  .bool (match v.bool?, w.bool? with
    | some a, some b => a || b
    | _, _ => false)

def applyBinary (op : BinaryOp) (v w : Value) : Except Fault Value :=
  match op with
  | .strictEq => .ok (.bool (v.strictEquals w))
  | .strictNe => .ok (.bool !(v.strictEquals w))
  | .add => add v w
  | .sub => arithmetic op (· - ·) v w
  | .mul => arithmetic op (· * ·) v w
  | .div => arithmetic op (· / ·) v w
  | .mod => arithmetic op Binary64.remainder v w
  | .lt => .ok (comparison (· < ·) v w)
  | .le => .ok (comparison (· ≤ ·) v w)
  | .gt => .ok (comparison (· > ·) v w)
  | .ge => .ok (comparison (· ≥ ·) v w)
  | .matching => (applyMatch op v w).map .bool
  | .notMatching => (applyMatch op v w).map fun matched ↦ .bool !matched
  | .and => .ok (both v w)
  | .or => .ok (either v w)

/-- The answer that the first operand of a logical operator gives alone: `false` for a value that is
no truth value, and otherwise the value that decides the operator. -/
def decided? (op : BinaryOp) (v : Value) : Option Value :=
  match op with
  | .or =>
    match v with
    | .bool false => none
    | .bool true => some (.bool true)
    | _ => some (.bool false)
  | .and =>
    match v with
    | .bool true => none
    | _ => some (.bool false)
  | _ => none

/-! ## Members -/

/-- The position that a number denotes, if it is a whole number from zero on. -/
def position? (x : Float) : Option Nat :=
  if 0 ≤ x && Binary64.isWhole x then some (Binary64.truncate x).toNat else none

/-- The property of a given key; the key is turned into a text. -/
def property (members : Table Json) (key : Value) : Value :=
  ((Table.get? members key.text).map .ofJson).getD .undefined

/-- The item of a list by position, or the length of the list. -/
def itemOf (length : Nat) (item : Nat → Option Value) : Value → Value
  | .number x => ((position? x).bind item).getD .undefined
  | .string s => if s = "length" then .number length.toFloat else .undefined
  | _ => .undefined

/-- The member of a value. Arrays and texts have items by position and a length. -/
def memberOf (target key : Value) : Value :=
  match target with
  | .object members => property members key
  | .array items => itemOf items.length (fun i ↦ items[i]?) key
  | .string s =>
    itemOf s.length (fun i ↦ (s.toList[i]?).map fun c ↦ .string (String.singleton c)) key
  | _ => .undefined

/-! ## Expressions -/

mutual

/-- The value of an expression. The site is the way from the expression back to the root, and marks
the patterns that are made there. -/
def evalAt (scope : Scope) (site : List Nat) : Expr → Except Fault Value
  | .literal value => .ok value.value
  | .placeholder name => .ok (scope.resolve name)
  | .path p =>
    match p.selectOne (.object scope.properties) with
    | .ok v => .ok (.ofJson v)
    | .error fault => .error (.path fault)
  | .feature => .ok (.object scope.properties)
  | .array items => (evalItems scope site 0 items).map .array
  | .unary op operand => do applyUnary op (← evalAt scope (0 :: site) operand)
  | .binary op lhs rhs => do
    let v ← evalAt scope (0 :: site) lhs
    match decided? op v with
    | some answer => pure answer
    | none => applyBinary op v (← evalAt scope (1 :: site) rhs)
  | .conditional test consequent alternate => do
    match ← evalAt scope (0 :: site) test with
    | .bool true => evalAt scope (1 :: site) consequent
    | .bool false => evalAt scope (2 :: site) alternate
    | v => .error (.test v)
  | .member object key => do
    let key ← evalAt scope (0 :: site) key
    let target ← evalAt scope (1 :: site) object
    pure (memberOf target key)
  | .call name args => do callFunction site name (← evalItems scope site 0 args)
  | .method object name args => do
    let target ← evalAt scope (0 :: site) object
    callMethod target name (← evalItems scope site 1 args)

/-- The values of expressions from left to right; their places are numbered from `n` on. -/
def evalItems (scope : Scope) (site : List Nat) (n : Nat) :
    List Expr → Except Fault (List Value)
  | [] => .ok []
  | e :: rest => do
    let v ← evalAt scope (n :: site) e
    let rest ← evalItems scope site (n + 1) rest
    pure (v :: rest)

end

def eval (scope : Scope) (e : Expr) : Except Fault Value := evalAt scope [] e

end MapStyle.Expr
